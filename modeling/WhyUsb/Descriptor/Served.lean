import Mathlib.Data.List.Chain
import WhyUsb.Descriptor.Blocks

/-!
# Received configurations, served again

A decoded configuration keeps the extra descriptors of an interface apart from
its endpoints, and encoding puts them in front. `ExtrasFirst` says where this
restores the order of the records; elsewhere another block is served than the
one received.
-/

namespace WhyUsb

/-- No endpoint record is directly followed by a record that is neither an endpoint nor an interface. -/
def ExtrasFirst (rs : List (List UInt8)) : Prop :=
  rs.IsChain fun r next => isEndpoint r = true → isEndpoint next = true ∨ isInterface next = true

/-! ## What is encoded is ordered -/

section
variable {xs ys : List (List UInt8)}

theorem extrasFirst_cons {r : List UInt8} (hr : isEndpoint r = false) : ExtrasFirst (r :: xs) ↔ ExtrasFirst xs := by
  rw [ExtrasFirst, List.isChain_cons, ExtrasFirst]
  simp [hr]

theorem extrasFirst_append (hxs : ∀ r ∈ xs, isEndpoint r = false) : ExtrasFirst (xs ++ ys) ↔ ExtrasFirst ys := by
  induction xs with
  | nil => rfl
  | cons r xs ih =>
    obtain ⟨hr, hxs⟩ := List.forall_mem_cons.mp hxs
    rw [List.cons_append, extrasFirst_cons hr, ih hxs]

/-- Endpoints in a row, and then an interface or nothing. -/
theorem extrasFirst_endpoints (hxs : ∀ r ∈ xs, isEndpoint r = true) (hys : ExtrasFirst ys)
    (hhead : ∀ r ∈ ys.head?, isInterface r = true) : ExtrasFirst (xs ++ ys) := by
  induction xs with
  | nil => exact hys
  | cons r xs ih =>
    obtain ⟨-, hxs⟩ := List.forall_mem_cons.mp hxs
    refine List.isChain_cons.mpr ⟨fun next hnext _ => ?_, ih hxs⟩
    cases xs with
    | nil => exact Or.inr (hhead next hnext)
    | cons x xs =>
      cases hnext
      exact Or.inl (hxs next List.mem_cons_self)

end

theorem encoded_head (is : List UsbInterface) :
    ∀ r ∈ (is.flatMap UsbInterface.encoded).head?, isInterface r = true := by
  intro r hr
  cases is with
  | nil => cases hr
  | cons i is =>
    rw [List.flatMap_cons, UsbInterface.encoded, UsbInterface.records, List.cons_append, List.head?_cons] at hr
    cases hr
    rfl

theorem extrasFirst_encoded {is : List UsbInterface} (h : ∀ i ∈ is, ∀ e ∈ i.extraDescriptors, IsExtra e) :
    ExtrasFirst (is.flatMap UsbInterface.encoded) := by
  induction is with
  | nil => exact List.isChain_nil
  | cons i is ih =>
    obtain ⟨hi, his⟩ := List.forall_mem_cons.mp h
    rw [List.flatMap_cons, UsbInterface.encoded, UsbInterface.records, List.cons_append, extrasFirst_cons rfl,
      List.append_assoc, extrasFirst_append fun e he => (isExtra_iff.mp (hi e he)).2]
    refine extrasFirst_endpoints ?_ (ih his) (encoded_head is)
    intro r hr
    obtain ⟨e, -, rfl⟩ := List.mem_map.mp hr
    rfl

theorem UsbConfiguration.Representable.extrasFirst {c : UsbConfiguration} (h : c.Representable) :
    ExtrasFirst c.encoded := by
  rw [UsbConfiguration.encoded, extrasFirst_append fun e he => (isExtra_iff.mp (h.extras e he)).2]
  exact extrasFirst_encoded h.interfaceExtras

/-! ## What is read in order is encoded in order -/

def OpenInterface.records (o : OpenInterface) : List (List UInt8) :=
  o.descriptor.toUsbBytes o.expectedEndpoints :: (o.extraDescriptors ++ o.endpoints.map (·.toUsbBytes))

namespace Body

/-- The records that what has been read so far is encoded to. -/
def emitted (st : Body) : List (List UInt8) :=
  st.extraDescriptors ++ (st.interfaces.flatMap UsbInterface.encoded ++ st.current.elim [] OpenInterface.records)

/-- Nothing read so far is moved by what comes next. -/
structure Ready (st : Body) (rs : List (List UInt8)) : Prop where
  opened : st.current = none → st.interfaces = []
  next : ∀ o, st.current = some o → o.endpoints ≠ [] → ∀ r ∈ rs.head?, isEndpoint r = true ∨ isInterface r = true
  rest : ExtrasFirst rs

theorem close_emitted {st st' : Body} (h : st.close = .ok st') : st'.emitted = st.emitted ∧ st'.current = none := by
  refine ⟨?_, close_ok_current h⟩
  rw [close] at h
  cases ho : st.current with
  | none =>
    rw [ho] at h
    cases h
    rfl
  | some o =>
    rw [ho] at h
    obtain ⟨i, hi, h⟩ := bind_eq_ok.mp h
    rw [OpenInterface.finish, ite_error_eq_ok, Decidable.not_not] at hi
    obtain ⟨hcount, hi⟩ := hi
    cases hi
    cases h
    have hexpected : UInt8.ofNat o.endpoints.length = o.expectedEndpoints := by rw [hcount, UInt8.ofNat_toNat]
    rw [emitted, emitted, ho, List.flatMap_append, List.flatMap_singleton, UsbInterface.encoded, endpointCount,
      UsbInterface.records, hexpected, Option.elim_none, List.append_nil, Option.elim_some, OpenInterface.records]

section
variable {st st' : Body} {r : List UInt8} {rs : List (List UInt8)}

theorem step_emitted (hr : IsRecord r) (hready : st.Ready (r :: rs)) (h : st.step r = .ok st') :
    st'.emitted = st.emitted ++ [r] ∧ st'.Ready rs := by
  obtain ⟨hnext, hrest⟩ := List.isChain_cons.mp hready.rest
  by_cases hi : isInterface r = true
  · obtain ⟨d, hd, -⟩ := interfaceRecord hr hi (step_interface_length hi h)
    rw [hd, step_interface] at h
    obtain ⟨closed, hclose, h⟩ := bind_eq_ok.mp h
    cases h
    obtain ⟨hemitted, hcurrent⟩ := close_emitted hclose
    refine ⟨?_, ⟨nofun, ?_, hrest⟩⟩
    · rw [← hemitted, emitted, emitted, hcurrent, Option.elim_none, List.append_nil, Option.elim_some,
        OpenInterface.records, List.append_assoc, ← hd, List.map_nil, List.append_nil]
    · rintro o ⟨⟩ hne
      exact absurd rfl hne
  · by_cases he : isEndpoint r = true
    · obtain ⟨hlen, o, ho⟩ := step_endpoint_ok he h
      obtain ⟨d, rfl⟩ := endpointRecord hr he hlen
      rw [step_endpoint ho] at h
      cases h
      refine ⟨?_, ⟨nofun, fun _ _ _ next hmem => hnext next hmem he, hrest⟩⟩
      rw [emitted, emitted, ho, Option.elim_some, Option.elim_some, OpenInterface.records, OpenInterface.records,
        List.map_append]
      simp
    · have hextra : IsExtra r := isExtra_iff.mpr ⟨Bool.eq_false_iff.mpr hi, Bool.eq_false_iff.mpr he⟩
      cases ho : st.current with
      | none =>
        rw [step_extra_closed ho hr hextra] at h
        cases h
        refine ⟨?_, ⟨hready.opened, fun o ho' => ?_, hrest⟩⟩
        · rw [emitted, emitted, ho, hready.opened ho]
          simp
        · rw [ho] at ho'
          cases ho'
      | some o =>
        rw [step_extra_open ho hr hextra] at h
        cases h
        have hnil : o.endpoints = [] := by
          by_cases hnil : o.endpoints = []
          · exact hnil
          · rcases hready.next o ho hnil r rfl with he' | hi'
            · exact absurd he' he
            · exact absurd hi' hi
        refine ⟨?_, ⟨nofun, ?_, hrest⟩⟩
        · rw [emitted, emitted, ho, Option.elim_some, Option.elim_some, OpenInterface.records, OpenInterface.records,
            hnil]
          simp
        · rintro o' ⟨⟩ hne
          exact absurd hnil hne

end

theorem foldlM_emitted : ∀ {rs : List (List UInt8)} {st st' : Body}, (∀ r ∈ rs, IsRecord r) → st.Ready rs →
    rs.foldlM step st = .ok st' → st'.emitted = st.emitted ++ rs
  | [], _, _, _, _, h => by
    cases h
    exact (List.append_nil _).symm
  | r :: rs, st, st', hrs, hready, h => by
    obtain ⟨hr, hrs⟩ := List.forall_mem_cons.mp hrs
    rw [List.foldlM_cons] at h
    obtain ⟨st₁, hstep, h⟩ := bind_eq_ok.mp h
    obtain ⟨hemitted, hready⟩ := step_emitted hr hready hstep
    rw [foldlM_emitted hrs hready h, hemitted, List.append_assoc, List.singleton_append]

end Body

/-! ## Blocks -/

namespace UsbConfiguration

theorem BlockOf.encoded_of_extrasFirst {c : UsbConfiguration} {rs : List (List UInt8)} {block : List UInt8}
    (h : c.BlockOf rs block) (horder : ExtrasFirst rs) : c.encoded = rs := by
  obtain ⟨st, hfold, hclose⟩ := bind_eq_ok.mp h.read
  have hready : Body.Ready .empty rs := ⟨fun _ => rfl, nofun, horder⟩
  have hemitted := (Body.close_emitted hclose).1.trans (Body.foldlM_emitted h.records hready hfold)
  rw [Body.emitted, Option.elim_none, List.append_nil] at hemitted
  exact hemitted

theorem encoded_strip (c : UsbConfiguration) : c.strip.encoded = c.encoded := by
  rw [encoded, encoded, strip, List.flatMap_map]
  rfl

theorem block_strip (c : UsbConfiguration) : c.strip.block = c.block := by
  rw [block, block, totalLength, totalLength, encoded_strip, strip, List.length_map]

theorem BlockOf.block_eq_iff {c : UsbConfiguration} {rs : List (List UInt8)} {b : List UInt8} (h : c.BlockOf rs b) :
    c.block = b ↔ c.encoded.flatten = rs.flatten := by
  obtain ⟨total, count, hb, htotal, hcount⟩ := h.header
  have hlen : ∀ t n, (c.descriptor.toUsbBytes t n).length = UsbConfigurationDescriptor.len :=
    UsbConfigurationDescriptor.toUsbBytes_length _
  constructor
  · intro heq
    rw [hb, block] at heq
    exact (List.append_inj heq (by rw [hlen, hlen])).2
  · intro heq
    have htotal' : UInt16.ofNat c.totalLength = total := by
      rw [totalLength, heq, ← hlen total count, ← List.length_append, ← hb, ← htotal, UInt16.ofNat_toNat]
    rw [block, htotal', ← hcount, UInt8.ofNat_toNat, heq, ← hb]

end UsbConfiguration

namespace UsbDescriptorSet

theorem verbatim_iff {c c' : UsbConfiguration} {block : List UInt8} (hencodable : c.Encodable)
    (hrepresentable : c.Representable) (hstrip : c'.strip = c.strip) (h : c'.BlockOf (recordsOf block) block) :
    c.toUsbBytes = .ok block ↔ ExtrasFirst (recordsOf block) := by
  have hencoded : c'.encoded = c.encoded := by rw [← c.encoded_strip, ← hstrip, c'.encoded_strip]
  have hblock : c'.block = c.block := by rw [← c.block_strip, ← hstrip, c'.block_strip]
  rw [c.toUsbBytes_ok, and_iff_right hencodable, eq_comm, ← hblock, h.block_eq_iff]
  constructor
  · intro heq
    rw [hencoded] at heq
    rw [← records_unique (UsbConfiguration.encoded_isRecord hencodable) h.records heq]
    exact hrepresentable.extrasFirst
  · intro horder
    rw [h.encoded_of_extrasFirst horder]

/-- A received configuration is served as it was received exactly when no extra descriptor follows an endpoint. -/
theorem served_iff {bytes : List UInt8} {d : UsbDescriptorSet} (h : decode bytes = .ok d) (i : UInt8) :
    (d.configurationDescriptorBytes i).toOption = (configurationBlocks bytes)[i.toNat]? ↔
      ∀ block ∈ (configurationBlocks bytes)[i.toNat]?, ExtrasFirst (recordsOf block) := by
  obtain ⟨hencodable, hrepresentable, -⟩ := decode_ok h
  rw [configurationDescriptorBytes]
  rcases forall₂_getElem? (decode_blocks h) i.toNat with ⟨hc, hb⟩ | ⟨c, block, hc, hb, c', hstrip, hblock⟩
  · rw [hc, hb]
    exact iff_of_true rfl nofun
  · have hmem := List.mem_of_getElem? hc
    have honly : (∀ found ∈ some block, ExtrasFirst (recordsOf found)) ↔ ExtrasFirst (recordsOf block) := by simp
    rw [hc, hb, honly,
      ← verbatim_iff (hencodable.configurations c hmem) (hrepresentable c hmem) hstrip hblock]
    dsimp only
    cases c.toUsbBytes with
    | error e => exact iff_of_false nofun nofun
    | ok served => rw [Except.toOption, Option.some.injEq, Except.ok.injEq]

theorem served_iff_mockHidKeyboard :
    let keyboard := mockHidKeyboard 0x1209 1
    (keyboard.configurationDescriptorBytes 0).toOption = (configurationBlocks keyboard.bytes)[0]? ↔
      ∀ block ∈ (configurationBlocks keyboard.bytes)[0]?, ExtrasFirst (recordsOf block) := by
  obtain ⟨hencodable, hrepresentable⟩ := mockHidKeyboard_wellFormed 0x1209 1
  exact served_iff (decode_bytes hencodable hrepresentable) 0

/-- An audio interface with a class-specific endpoint descriptor, behind the endpoint it is about. -/
def audioSet : List UInt8 :=
  descriptorSetMagic ++ [1, 1, 0, 0] ++
    [18, 1, 0, 2, 0, 0, 0, 64, 9, 0x12, 1, 0, 0, 1, 1, 2, 3, 1] ++
    [9, 2, 32, 0, 1, 1, 0, 0x80, 50] ++ [9, 4, 0, 0, 1, 1, 2, 0, 0] ++
    [7, 5, 0x81, 1, 0xc0, 0, 1] ++ [7, 0x25, 1, 1, 0, 0, 0]

theorem audioSet_not_served :
    ¬ ∀ (bytes : List UInt8) (d : UsbDescriptorSet), decode bytes = .ok d → ∀ i : UInt8,
      (d.configurationDescriptorBytes i).toOption = (configurationBlocks bytes)[i.toNat]? := by
  intro h
  have hdecode : decode audioSet = .ok {
      device := ⟨0x0200, 0, 0, 0, 64, 0x1209, 1, 0x0100, 1, 2, 3⟩
      configurations := [⟨⟨1, 0, 0x80, 50⟩, [], [⟨⟨0, 0, 1, 2, 0, 0⟩, [[7, 0x25, 1, 1, 0, 0, 0]], none,
        [⟨0x81, 1, 192, 1⟩]⟩]⟩] } := by decide +kernel
  have hserved := h _ _ hdecode 0
  revert hserved
  decide +kernel

end UsbDescriptorSet

end WhyUsb
