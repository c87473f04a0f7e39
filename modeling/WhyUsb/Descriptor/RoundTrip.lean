import WhyUsb.Descriptor.Body

/-!
# What the encoder sends is what the decoder reads

A block is its header and its records: the extra descriptors of the
configuration, then for each interface its own record, its extra descriptors
and its endpoints. Read back, a block gives the configuration without report
descriptors, which the sidecars restore. Both hold when no extra descriptor
passes for an interface or an endpoint and a report descriptor stands on the
first interface with its key (`Representable`).
-/

namespace WhyUsb

open Endian

def IsExtra (bytes : List UInt8) : Prop := byteAt bytes 1 ≠ usbDescInterface ∧ byteAt bytes 1 ≠ usbDescEndpoint

/-- An interface with a report descriptor is the first with its key. -/
def FirstReports (is : List UsbInterface) : Prop :=
  is.Pairwise fun a b =>
    b.reportDescriptor.isSome → a.hasKey b.descriptor.interfaceNumber b.descriptor.alternateSetting = false

structure UsbConfiguration.Representable (c : UsbConfiguration) : Prop where
  extras : ∀ e ∈ c.extraDescriptors, IsExtra e
  interfaceExtras : ∀ i ∈ c.interfaces, ∀ e ∈ i.extraDescriptors, IsExtra e
  reports : FirstReports c.interfaces

def UsbDescriptorSet.Representable (d : UsbDescriptorSet) : Prop := ∀ c ∈ d.configurations, c.Representable

/-! ## Folding over the records of an interface -/

theorem except_bind_assoc {α β γ : Type} (x : DecodeM α) (f : α → DecodeM β) (g : β → DecodeM γ) :
    ((x >>= f) >>= g) = (x >>= fun a => f a >>= g) := by
  cases x <;> rfl

/-- The records of an interface that announces `count` endpoints. -/
def UsbInterface.records (i : UsbInterface) (count : UInt8) : List (List UInt8) :=
  i.descriptor.toUsbBytes count :: (i.extraDescriptors ++ i.endpoints.map (·.toUsbBytes))

/-- What is left of an interface in the configuration block. -/
def UsbInterface.strip (i : UsbInterface) : UsbInterface := { i with reportDescriptor := none }

namespace Body

theorem step_extra_open {st : Body} {o : OpenInterface} {e : List UInt8} (ho : st.current = some o)
    (hr : IsRecord e) (he : IsExtra e) :
    st.step e = .ok { st with current := some { o with extraDescriptors := o.extraDescriptors ++ [e] } } := by
  rw [step, bodyStep, if_neg he.1, if_neg he.2, ho]
  dsimp only
  rw [validateExtraDescriptor_ok.mpr hr, ok_bind]

theorem step_extra_closed {st : Body} {e : List UInt8} (ho : st.current = none) (hr : IsRecord e) (he : IsExtra e) :
    st.step e = .ok { st with extraDescriptors := st.extraDescriptors ++ [e] } := by
  rw [step, bodyStep, if_neg he.1, if_neg he.2, ho]
  dsimp only
  rw [validateExtraDescriptor_ok.mpr hr, ok_bind]

theorem step_endpoint {st : Body} {o : OpenInterface} (ho : st.current = some o) (e : UsbEndpointDescriptor) :
    st.step e.toUsbBytes = .ok { st with current := some { o with endpoints := o.endpoints ++ [e] } } := by
  have htype : byteAt e.toUsbBytes 1 = usbDescEndpoint := rfl
  rw [step, htype, bodyStep, if_neg (by decide), if_pos rfl, ho]
  dsimp only
  rw [UsbEndpointDescriptor.fromUsbBytes_toUsbBytes, ok_bind]

theorem step_interface (st : Body) (d : UsbInterfaceDescriptor) (count : UInt8) :
    st.step (d.toUsbBytes count) = st.close >>= fun st => .ok { st with
      current := some { descriptor := d, expectedEndpoints := count, extraDescriptors := [], endpoints := [] } } := by
  have htype : byteAt (d.toUsbBytes count) 1 = usbDescInterface := rfl
  simp only [step, htype, bodyStep, if_true, UsbInterfaceDescriptor.fromUsbBytes_toUsbBytes, ok_bind]

theorem steps_extras_open : ∀ (es : List (List UInt8)) {st : Body} {o : OpenInterface}, st.current = some o →
    (∀ e ∈ es, IsRecord e ∧ IsExtra e) →
      es.foldlM step st = .ok { st with current := some { o with extraDescriptors := o.extraDescriptors ++ es } }
  | [], st, o, ho, _ => by
    rw [List.foldlM_nil, List.append_nil, ← ho]
    rfl
  | e :: es, st, o, ho, h => by
    obtain ⟨hr, he⟩ := h e List.mem_cons_self
    rw [List.foldlM_cons, step_extra_open ho hr he, ok_bind,
      steps_extras_open es rfl fun e he => h e (List.mem_cons_of_mem _ he), List.append_assoc, List.singleton_append]

theorem steps_extras_closed : ∀ (es : List (List UInt8)) {st : Body}, st.current = none →
    (∀ e ∈ es, IsRecord e ∧ IsExtra e) →
      es.foldlM step st = .ok { st with extraDescriptors := st.extraDescriptors ++ es }
  | [], st, _, _ => by
    rw [List.foldlM_nil, List.append_nil]
    rfl
  | e :: es, st, ho, h => by
    obtain ⟨hr, he⟩ := h e List.mem_cons_self
    rw [List.foldlM_cons, step_extra_closed ho hr he, ok_bind,
      @steps_extras_closed es { st with extraDescriptors := st.extraDescriptors ++ [e] } ho
        fun e he => h e (List.mem_cons_of_mem _ he), List.append_assoc, List.singleton_append]

theorem steps_endpoints : ∀ (es : List UsbEndpointDescriptor) {st : Body} {o : OpenInterface}, st.current = some o →
    (es.map (·.toUsbBytes)).foldlM step st = .ok { st with current := some { o with endpoints := o.endpoints ++ es } }
  | [], st, o, ho => by
    rw [List.map_nil, List.foldlM_nil, List.append_nil, ← ho]
    rfl
  | e :: es, st, o, ho => by
    rw [List.map_cons, List.foldlM_cons, step_endpoint ho, ok_bind, steps_endpoints es rfl, List.append_assoc,
      List.singleton_append]

theorem steps_interface {i : UsbInterface} (hi : ∀ e ∈ i.extraDescriptors, IsRecord e ∧ IsExtra e) (count : UInt8)
    (st : Body) :
    (i.records count).foldlM step st = st.close >>= fun st => .ok { st with
      current := some { descriptor := i.descriptor, expectedEndpoints := count,
                        extraDescriptors := i.extraDescriptors, endpoints := i.endpoints } } := by
  rw [UsbInterface.records, List.foldlM_cons, step_interface, except_bind_assoc]
  congr 1
  funext st'
  rw [ok_bind, List.foldlM_append, steps_extras_open i.extraDescriptors rfl hi, ok_bind,
    steps_endpoints i.endpoints rfl]
  rfl

theorem close_open {st : Body} {i : UsbInterface} {count : UInt8} (hc : count.toNat = i.endpoints.length)
    (ho : st.current = some { descriptor := i.descriptor, expectedEndpoints := count,
                              extraDescriptors := i.extraDescriptors, endpoints := i.endpoints }) :
    st.close = .ok { st with interfaces := st.interfaces ++ [i.strip], current := none } := by
  rw [close, ho]
  dsimp only
  rw [OpenInterface.finish, if_neg (by rw [hc]; exact fun h => h rfl), ok_bind]
  rfl

theorem close_closed {st : Body} (h : st.current = none) : st.close = .ok st := by
  rw [close, h]

theorem close_ok_current {st st' : Body} (h : st.close = .ok st') : st'.current = none := by
  unfold close at h
  split at h
  · rename_i hc
    cases h
    exact hc
  · obtain ⟨i, -, h⟩ := bind_eq_ok.mp h
    cases h
    rfl

def endpointCount (i : UsbInterface) : UInt8 := UInt8.ofNat i.endpoints.length

theorem steps_interfaces : ∀ {is : List UsbInterface}, (∀ i ∈ is, i.endpoints.length < 2 ^ 8 ∧
    ∀ e ∈ i.extraDescriptors, IsRecord e ∧ IsExtra e) → ∀ st : Body,
    ((is.flatMap fun i => i.records (endpointCount i)).foldlM step st >>= close) =
      st.close >>= fun st => .ok { st with interfaces := st.interfaces ++ is.map UsbInterface.strip, current := none }
  | [], _, st => by
    rw [List.flatMap_nil, List.foldlM_nil]
    cases hc : st.close with
    | error e => exact hc
    | ok st' =>
      have hn := close_ok_current hc
      rw [ok_bind, List.map_nil, List.append_nil, ← hn]
      exact hc
  | i :: is, h, st => by
    obtain ⟨hlen, hextras⟩ := h i List.mem_cons_self
    have hcount : (endpointCount i).toNat = i.endpoints.length := by
      rw [endpointCount, UInt8.toNat_ofNat', Nat.mod_eq_of_lt hlen]
    rw [List.flatMap_cons, List.foldlM_append, except_bind_assoc, steps_interface hextras, except_bind_assoc]
    congr 1
    funext st'
    rw [ok_bind, steps_interfaces fun i hi => h i (List.mem_cons_of_mem _ hi), close_open hcount rfl, ok_bind,
      List.map_cons, List.append_assoc, List.singleton_append]

end Body

/-! ## What the encoder accepts and writes -/

theorem concatM_ok {α : Type} {f : α → DecodeM (List UInt8)} {P : α → Prop} {g : α → List UInt8}
    (hf : ∀ a bytes, f a = .ok bytes ↔ P a ∧ bytes = g a) :
    ∀ (as : List α) (bytes : List UInt8), concatM f as = .ok bytes ↔ (∀ a ∈ as, P a) ∧ bytes = as.flatMap g
  | [], bytes => by simp [concatM, eq_comm]
  | a :: as, bytes => by
    rw [concatM, bind_eq_ok, List.flatMap_cons, List.forall_mem_cons]
    constructor
    · rintro ⟨b, hb, h⟩
      obtain ⟨bs, hbs, h⟩ := bind_eq_ok.mp h
      cases h
      obtain ⟨ha, rfl⟩ := (hf a b).mp hb
      obtain ⟨has, rfl⟩ := (concatM_ok hf as bs).mp hbs
      exact ⟨⟨ha, has⟩, rfl⟩
    · rintro ⟨⟨ha, has⟩, rfl⟩
      exact ⟨g a, (hf a _).mpr ⟨ha, rfl⟩, bind_eq_ok.mpr ⟨_, (concatM_ok hf as _).mpr ⟨has, rfl⟩, rfl⟩⟩

theorem extrasBytes_ok (es : List (List UInt8)) (bytes : List UInt8) :
    extrasBytes es = .ok bytes ↔ (∀ e ∈ es, IsRecord e) ∧ bytes = es.flatten := by
  have hf : ∀ e bytes : List UInt8, (do validateExtraDescriptor e; .ok e : DecodeM (List UInt8)) = .ok bytes ↔
      IsRecord e ∧ bytes = e := by
    intro e bytes
    rw [bind_eq_ok]
    constructor
    · rintro ⟨_, hv, h⟩
      cases h
      exact ⟨validateExtraDescriptor_ok.mp hv, rfl⟩
    · rintro ⟨hr, rfl⟩
      exact ⟨(), validateExtraDescriptor_ok.mpr hr, rfl⟩
  rw [extrasBytes, concatM_ok hf, List.flatMap_id']

theorem u8TryFrom_iff {n : Nat} {x : UInt8} : u8TryFrom n = some x ↔ n < 2 ^ 8 ∧ x = UInt8.ofNat n := by
  rw [u8TryFrom, Option.ite_none_right_eq_some, Option.some.injEq, eq_comm (a := UInt8.ofNat n)]

theorem u16TryFrom_iff {n : Nat} {x : UInt16} : u16TryFrom n = some x ↔ n < 2 ^ 16 ∧ x = UInt16.ofNat n := by
  rw [u16TryFrom, Option.ite_none_right_eq_some, Option.some.injEq, eq_comm (a := UInt16.ofNat n)]

namespace UsbInterface

/-- The records of the interface as the encoder writes them. -/
def encoded (i : UsbInterface) : List (List UInt8) := i.records (Body.endpointCount i)

structure Encodable (i : UsbInterface) : Prop where
  endpoints : i.endpoints.length < 2 ^ 8
  extras : ∀ e ∈ i.extraDescriptors, IsRecord e

theorem toUsbBytes_ok (i : UsbInterface) (bytes : List UInt8) :
    i.toUsbBytes = .ok bytes ↔ i.Encodable ∧ bytes = i.encoded.flatten := by
  have hflat : i.encoded.flatten = i.descriptor.toUsbBytes (Body.endpointCount i) ++
      (i.extraDescriptors.flatten ++ i.endpoints.flatMap (·.toUsbBytes)) := by
    rw [encoded, records, List.flatten_cons, List.flatten_append, List.flatMap_def]
  rw [toUsbBytes, bind_eq_ok, hflat]
  constructor
  · rintro ⟨count, hcount, h⟩
    obtain ⟨hlen, rfl⟩ := u8TryFrom_iff.mp (orTooMany_ok.mp hcount)
    obtain ⟨extras, hextras, h⟩ := bind_eq_ok.mp h
    obtain ⟨hrecords, rfl⟩ := (extrasBytes_ok _ _).mp hextras
    cases h
    exact ⟨⟨hlen, hrecords⟩, rfl⟩
  · rintro ⟨h, rfl⟩
    exact ⟨_, orTooMany_ok.mpr (u8TryFrom_iff.mpr ⟨h.endpoints, rfl⟩),
      bind_eq_ok.mpr ⟨_, (extrasBytes_ok _ _).mpr ⟨h.extras, rfl⟩, rfl⟩⟩

end UsbInterface

namespace UsbConfiguration

def encoded (c : UsbConfiguration) : List (List UInt8) :=
  c.extraDescriptors ++ c.interfaces.flatMap UsbInterface.encoded

def totalLength (c : UsbConfiguration) : Nat := UsbConfigurationDescriptor.len + c.encoded.flatten.length

structure Encodable (c : UsbConfiguration) : Prop where
  count : c.interfaces.length < 2 ^ 8
  extras : ∀ e ∈ c.extraDescriptors, IsRecord e
  interfaces : ∀ i ∈ c.interfaces, i.Encodable
  total : c.totalLength < 2 ^ 16

def block (c : UsbConfiguration) : List UInt8 :=
  c.descriptor.toUsbBytes (UInt16.ofNat c.totalLength) (UInt8.ofNat c.interfaces.length) ++ c.encoded.flatten

theorem block_length (c : UsbConfiguration) : c.block.length = c.totalLength := by
  rw [block, List.length_append, UsbConfigurationDescriptor.toUsbBytes_length, totalLength]

theorem toUsbBytes_ok (c : UsbConfiguration) (bytes : List UInt8) :
    c.toUsbBytes = .ok bytes ↔ c.Encodable ∧ bytes = c.block := by
  have hflat : c.encoded.flatten =
      c.extraDescriptors.flatten ++ c.interfaces.flatMap fun i => i.encoded.flatten := by
    rw [encoded, List.flatten_append, List.flatMap_def, List.flatMap_def, List.flatten_flatten, List.map_map]
    rfl
  have hinterfaces := concatM_ok UsbInterface.toUsbBytes_ok c.interfaces
  rw [toUsbBytes, bind_eq_ok, block, totalLength, hflat]
  constructor
  · rintro ⟨count, hcount, h⟩
    obtain ⟨hlen, rfl⟩ := u8TryFrom_iff.mp (orTooMany_ok.mp hcount)
    obtain ⟨extras, hextras, h⟩ := bind_eq_ok.mp h
    obtain ⟨hrecords, rfl⟩ := (extrasBytes_ok _ _).mp hextras
    obtain ⟨interfaces, his, h⟩ := bind_eq_ok.mp h
    obtain ⟨hencodable, rfl⟩ := (hinterfaces _).mp his
    obtain ⟨total, htotal, h⟩ := bind_eq_ok.mp h
    obtain ⟨hfits, rfl⟩ := u16TryFrom_iff.mp (orTooMany_ok.mp htotal)
    cases h
    exact ⟨⟨hlen, hrecords, hencodable, by rw [totalLength, hflat]; exact hfits⟩, rfl⟩
  · rintro ⟨h, rfl⟩
    have hfits := h.total
    rw [totalLength, hflat] at hfits
    exact ⟨_, orTooMany_ok.mpr (u8TryFrom_iff.mpr ⟨h.count, rfl⟩),
      bind_eq_ok.mpr ⟨_, (extrasBytes_ok _ _).mpr ⟨h.extras, rfl⟩,
      bind_eq_ok.mpr ⟨_, (hinterfaces _).mpr ⟨h.interfaces, rfl⟩,
      bind_eq_ok.mpr ⟨_, orTooMany_ok.mpr (u16TryFrom_iff.mpr ⟨hfits, rfl⟩), rfl⟩⟩⟩⟩

def strip (c : UsbConfiguration) : UsbConfiguration := { c with interfaces := c.interfaces.map UsbInterface.strip }

theorem encoded_isRecord {c : UsbConfiguration} (h : c.Encodable) : ∀ r ∈ c.encoded, IsRecord r := by
  intro r hr
  rcases List.mem_append.mp hr with hr | hr
  · exact h.extras r hr
  · obtain ⟨i, hi, hr⟩ := List.mem_flatMap.mp hr
    rcases List.mem_cons.mp hr with rfl | hr
    · exact ⟨by rw [UsbInterfaceDescriptor.toUsbBytes_length]; decide, rfl⟩
    · rcases List.mem_append.mp hr with hr | hr
      · exact (h.interfaces i hi).extras r hr
      · obtain ⟨e, -, rfl⟩ := List.mem_map.mp hr
        exact ⟨by rw [UsbEndpointDescriptor.toUsbBytes_length]; decide,
          by rw [UsbEndpointDescriptor.toUsbBytes_length]; rfl⟩

theorem foldlM_encoded {c : UsbConfiguration} (h : c.Encodable) (hr : c.Representable) :
    (c.encoded.foldlM Body.step .empty >>= Body.close) =
      .ok { extraDescriptors := c.extraDescriptors, interfaces := c.strip.interfaces, current := none } := by
  have his : ∀ i ∈ c.interfaces, i.endpoints.length < 2 ^ 8 ∧ ∀ e ∈ i.extraDescriptors, IsRecord e ∧ IsExtra e :=
    fun i hi => ⟨(h.interfaces i hi).endpoints,
      fun e he => ⟨(h.interfaces i hi).extras e he, hr.interfaceExtras i hi e he⟩⟩
  have hes : ∀ e ∈ c.extraDescriptors, IsRecord e ∧ IsExtra e := fun e he => ⟨h.extras e he, hr.extras e he⟩
  have hfold := Body.steps_interfaces his
    { extraDescriptors := c.extraDescriptors, interfaces := [], current := none }
  rw [Body.close_closed rfl, ok_bind] at hfold
  rw [encoded, List.foldlM_append, Body.steps_extras_closed c.extraDescriptors rfl hes, ok_bind]
  exact hfold

theorem decodeFrom_block {c : UsbConfiguration} (h : c.Encodable) (hr : c.Representable) (rest : List UInt8) :
    decodeFrom (c.block ++ rest) = .ok (c.strip, rest) := by
  have htotal : (UInt16.ofNat c.totalLength).toNat = c.totalLength := by
    rw [UInt16.toNat_ofNat', Nat.mod_eq_of_lt h.total]
  have hcount : (UInt8.ofNat c.interfaces.length).toNat = c.interfaces.length := by
    rw [UInt8.toNat_ofNat', Nat.mod_eq_of_lt h.count]
  have hbody : c.encoded.flatten.length = c.totalLength - UsbConfigurationDescriptor.len := by
    rw [totalLength]
    omega
  have hfold := foldlM_encoded h hr
  rw [decodeFrom, block, List.append_assoc, take_append (UsbConfigurationDescriptor.toUsbBytes_length _ _ _), ok_bind]
  dsimp only
  rw [UsbConfigurationDescriptor.fromUsbBytes_toUsbBytes, ok_bind]
  dsimp only
  rw [htotal, if_neg (by rw [totalLength]; omega), take_append hbody, ok_bind]
  dsimp only
  rw [Body.loop_records (encoded_isRecord h) (Nat.le_refl _), ← except_bind_assoc, hfold, ok_bind]
  dsimp only
  rw [hcount, if_neg (by simp [strip])]
  rfl

end UsbConfiguration

theorem decodeConfigurations_blocks : ∀ {cs : List UsbConfiguration}, (∀ c ∈ cs, c.Encodable ∧ c.Representable) →
    ∀ rest : List UInt8, UsbDescriptorSet.decodeConfigurations cs.length (cs.flatMap UsbConfiguration.block ++ rest) =
      .ok (cs.map UsbConfiguration.strip, rest)
  | [], _, _ => rfl
  | c :: cs, h, rest => by
    obtain ⟨he, hr⟩ := h c List.mem_cons_self
    rw [List.length_cons, List.flatMap_cons, List.append_assoc, UsbDescriptorSet.decodeConfigurations,
      UsbConfiguration.decodeFrom_block he hr, ok_bind]
    dsimp only
    rw [decodeConfigurations_blocks fun c hc => h c (List.mem_cons_of_mem _ hc)]
    rfl

end WhyUsb
