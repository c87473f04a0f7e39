import WhyUsb.Descriptor.Checked
import WhyUsb.Descriptor.Image
import WhyUsb.Descriptor.Records

/-!
# The grammar of descriptor sets

`UsbDescriptorSet.Grammar` says which byte strings are descriptor sets, without
a word about how they are read: a header, the device record, configuration
blocks made of records and sidecars for interfaces that exist. The decoder
accepts these and no others.
-/

namespace WhyUsb

open Endian

/-! ## The grammar -/

/-- The records behind a configuration header. -/
structure BodyGrammar (rs : List (List UInt8)) : Prop where
  records : ∀ r ∈ rs, IsRecord r
  interfaceLength : ∀ r ∈ rs, isInterface r = true → r.length = 9
  endpointLength : ∀ r ∈ rs, isEndpoint r = true → r.length = 7
  endpointAfter : ∀ before r after, rs = before ++ r :: after → isEndpoint r = true →
    ∃ i ∈ before, isInterface i = true
  endpointCount : ∀ before r after, rs = before ++ r :: after → isInterface r = true →
    (after.takeWhile fun r => !isInterface r).countP isEndpoint = (byteAt r 4).toNat

/-- `bNumInterfaces` as this program counts: every interface record. -/
def interfaceRecords (rs : List (List UInt8)) : Nat := rs.countP isInterface

/-- A configuration block whose `bNumInterfaces` is what `count` makes of its records. -/
structure IsBlock (count : List (List UInt8) → Nat) (block : List UInt8) : Prop where
  header : 9 ≤ block.length ∧ byteAt block 0 = 9 ∧ byteAt block 1 = usbDescConfiguration
  total : (readU16Le block 2).toNat = block.length
  body : ∃ rs : List (List UInt8), block.drop 9 = rs.flatten ∧ BodyGrammar rs ∧ count rs = (byteAt block 4).toNat

/-- A sidecar for an interface of one of the blocks. -/
structure IsSidecar (blocks : List (List UInt8)) (sidecar : List UInt8) : Prop where
  length : sidecar.length = 8 + (readU16Le sidecar 6).toNat
  type : byteAt sidecar 3 = usbDescHidReport
  index : byteAt sidecar 4 = 0
  interface : ∃ block, blocks[(byteAt sidecar 0).toNat]? = some block ∧ ∃ rs : List (List UInt8),
    block.drop 9 = rs.flatten ∧ (∀ r ∈ rs, IsRecord r) ∧ ∃ r ∈ rs, isInterface r = true ∧
      byteAt r 2 = byteAt sidecar 1 ∧ byteAt r 3 = byteAt sidecar 2

namespace UsbDescriptorSet

def image (c : UInt8) (s : UInt16) (device : List UInt8) (blocks sidecars : List (List UInt8)) : List UInt8 :=
  descriptorSetMagic ++ descriptorSetVersion :: c :: (u16Le s ++ (device ++ (blocks.flatten ++ sidecars.flatten)))

def GrammarBy (count : List (List UInt8) → Nat) (bytes : List UInt8) : Prop :=
  ∃ (c : UInt8) (s : UInt16) (device : List UInt8) (blocks sidecars : List (List UInt8)),
    bytes = image c s device blocks sidecars ∧
    (device.length = 18 ∧ byteAt device 0 = 18 ∧ byteAt device 1 = usbDescDevice ∧ byteAt device 17 = c) ∧
    (blocks.length = c.toNat ∧ ∀ block ∈ blocks, IsBlock count block) ∧
    (sidecars.length = s.toNat ∧ ∀ sidecar ∈ sidecars, IsSidecar blocks sidecar)

def Grammar : List UInt8 → Prop := GrammarBy interfaceRecords

end UsbDescriptorSet

/-! ## Interfaces by their key -/

def UsbInterfaceDescriptor.key (d : UsbInterfaceDescriptor) : UInt8 × UInt8 := (d.interfaceNumber, d.alternateSetting)

def recordKey (r : List UInt8) : UInt8 × UInt8 := (byteAt r 2, byteAt r 3)

theorem UsbInterface.hasKey_iff {i : UsbInterface} {n a : UInt8} : i.hasKey n a = true ↔ i.descriptor.key = (n, a) := by
  rw [hasKey, Bool.and_eq_true, beq_iff_eq, beq_iff_eq, UsbInterfaceDescriptor.key, Prod.mk.injEq]

namespace Body

def keys (st : Body) : List (UInt8 × UInt8) :=
  st.interfaces.map (·.descriptor.key) ++ (st.current.map (·.descriptor.key)).toList

theorem close_keys {st st' : Body} (h : st.close = .ok st') :
    st'.keys = st.keys ∧ st'.interfaces.map (·.descriptor.key) = st.keys := by
  rw [close] at h
  cases ho : st.current with
  | none =>
    rw [ho] at h
    cases h
    rw [keys, ho]
    exact ⟨rfl, (List.append_nil _).symm⟩
  | some o =>
    rw [ho] at h
    obtain ⟨i, hi, h⟩ := bind_eq_ok.mp h
    rw [OpenInterface.finish, ite_error_eq_ok] at hi
    obtain ⟨-, hi⟩ := hi
    cases hi
    cases h
    rw [keys, keys, ho]
    simp

theorem step_keys {st st' : Body} {r : List UInt8} (hr : IsRecord r) (h : st.step r = .ok st') :
    st'.keys = st.keys ++ ([r].filter isInterface).map recordKey := by
  by_cases hi : isInterface r = true
  · obtain ⟨d, hd, hnumber, halternate⟩ := interfaceRecord hr hi (step_interface_length hi h)
    rw [hd, step_interface] at h
    obtain ⟨closed, hclose, h⟩ := bind_eq_ok.mp h
    cases h
    rw [List.filter_cons_of_pos hi, keys]
    dsimp only
    rw [(close_keys hclose).2, Option.map_some, Option.toList_some, UsbInterfaceDescriptor.key, hnumber, halternate]
    rfl
  · rw [List.filter_cons_of_neg hi, List.filter_nil, List.map_nil, List.append_nil]
    by_cases he : isEndpoint r = true
    · obtain ⟨hlen, o, ho⟩ := step_endpoint_ok he h
      obtain ⟨d, rfl⟩ := endpointRecord hr he hlen
      rw [step_endpoint ho] at h
      cases h
      rw [keys, keys, ho]
      rfl
    · have hextra : IsExtra r := isExtra_iff.mpr ⟨Bool.eq_false_iff.mpr hi, Bool.eq_false_iff.mpr he⟩
      cases ho : st.current with
      | none =>
        rw [step_extra_closed ho hr hextra] at h
        cases h
        rfl
      | some o =>
        rw [step_extra_open ho hr hextra] at h
        cases h
        rw [keys, keys, ho]
        rfl

theorem foldlM_keys : ∀ {rs : List (List UInt8)} {st st' : Body}, (∀ r ∈ rs, IsRecord r) →
    rs.foldlM step st = .ok st' → st'.keys = st.keys ++ (rs.filter isInterface).map recordKey
  | [], _, _, _, h => by
    cases h
    exact (List.append_nil _).symm
  | r :: rs, st, st', hrs, h => by
    obtain ⟨hr, hrs⟩ := List.forall_mem_cons.mp hrs
    rw [List.foldlM_cons] at h
    obtain ⟨st₁, hstep, h⟩ := bind_eq_ok.mp h
    rw [foldlM_keys hrs h, step_keys hr hstep, List.append_assoc, ← List.map_append, ← List.filter_append]
    rfl

end Body

theorem read_keys {rs : List (List UInt8)} {st : Body} (hrs : ∀ r ∈ rs, IsRecord r)
    (h : (rs.foldlM Body.step .empty >>= Body.close) = .ok st) :
    st.interfaces.map (·.descriptor.key) = (rs.filter isInterface).map recordKey := by
  obtain ⟨st₁, hfold, hclose⟩ := bind_eq_ok.mp h
  rw [(Body.close_keys hclose).2, Body.foldlM_keys hrs hfold]
  rfl

theorem read_count {rs : List (List UInt8)} {st : Body} (hrs : ∀ r ∈ rs, IsRecord r)
    (h : (rs.foldlM Body.step .empty >>= Body.close) = .ok st) : st.interfaces.length = rs.countP isInterface := by
  have hlen := congrArg List.length (read_keys hrs h)
  rwa [List.length_map, List.length_map, ← List.countP_eq_length_filter] at hlen

/-! ## Blocks -/

/-- The configuration that a block is read as, record by record. -/
structure UsbConfiguration.BlockOf (c : UsbConfiguration) (rs : List (List UInt8)) (block : List UInt8) : Prop where
  header : ∃ total count, block = c.descriptor.toUsbBytes total count ++ rs.flatten ∧
    total.toNat = block.length ∧ count.toNat = c.interfaces.length
  records : ∀ r ∈ rs, IsRecord r
  read : (rs.foldlM Body.step .empty >>= Body.close) =
    .ok { extraDescriptors := c.extraDescriptors, interfaces := c.interfaces, current := none }

theorem decodeFrom_iff {rest rest' : List UInt8} {c : UsbConfiguration} :
    UsbConfiguration.decodeFrom rest = .ok (c, rest') ↔ ∃ rs block, rest = block ++ rest' ∧ c.BlockOf rs block := by
  constructor
  · intro h
    rw [UsbConfiguration.decodeFrom] at h
    obtain ⟨⟨header, rest₁⟩, hheader, h⟩ := bind_eq_ok.mp h
    obtain ⟨hrest, hheaderLen⟩ := take_ok hheader
    dsimp only at h
    obtain ⟨⟨d, total, count⟩, hd, h⟩ := bind_eq_ok.mp h
    have hbytes := UsbConfigurationDescriptor.fromUsbBytes_ok.mp hd
    dsimp only at h
    rw [ite_error_eq_ok] at h
    obtain ⟨htotal, h⟩ := h
    obtain ⟨⟨body, rest₂⟩, hbody, h⟩ := bind_eq_ok.mp h
    obtain ⟨hrest₁, hbodyLen⟩ := take_ok hbody
    dsimp only at h
    obtain ⟨st₁, hloop, h⟩ := bind_eq_ok.mp h
    obtain ⟨st, hclose, h⟩ := bind_eq_ok.mp h
    rw [ite_error_eq_ok, Decidable.not_not] at h
    obtain ⟨hcount, h⟩ := h
    cases h
    obtain ⟨rs, rfl, hrecords, hfold⟩ := Body.loop_ok hloop (Nat.le_refl _)
    refine ⟨rs, header ++ rs.flatten, ?_, ⟨total, count, ?_, ?_, hcount.symm⟩, hrecords, ?_⟩
    · rw [hrest, hrest₁, List.append_assoc]
    · rw [hbytes]
    · rw [List.length_append, hheaderLen, hbodyLen]
      omega
    · rw [hfold, ok_bind, hclose, ← Body.close_ok_current hclose]
  · intro hblock
    obtain ⟨rs, block, rfl, ⟨total, count, rfl, htotal, hcount⟩, hrecords, hread⟩ := hblock
    rw [List.length_append, UsbConfigurationDescriptor.toUsbBytes_length] at htotal
    rw [UsbConfiguration.decodeFrom, List.append_assoc,
      take_append (UsbConfigurationDescriptor.toUsbBytes_length _ _ _), ok_bind]
    dsimp only
    rw [UsbConfigurationDescriptor.fromUsbBytes_toUsbBytes, ok_bind]
    dsimp only
    rw [if_neg (by omega), take_append (by omega), ok_bind]
    dsimp only
    rw [Body.loop_records hrecords (Nat.le_refl _), ← except_bind_assoc, hread, ok_bind]
    dsimp only
    rw [if_neg (not_not_intro hcount.symm)]

theorem BodyGrammar.bodyFrom {rs : List (List UInt8)} (h : BodyGrammar rs) : BodyFrom none rs where
  interfaceLength := h.interfaceLength
  endpointLength := h.endpointLength
  endpointAfter := fun before r after hrs he => Or.inr (h.endpointAfter before r after hrs he)
  announced := fun p hp => by cases hp
  endpointCount := h.endpointCount

theorem BodyFrom.grammar {rs : List (List UInt8)} (h : BodyFrom none rs) (hrs : ∀ r ∈ rs, IsRecord r) :
    BodyGrammar rs where
  records := hrs
  interfaceLength := h.interfaceLength
  endpointLength := h.endpointLength
  endpointAfter := fun before r after hsplit he => (h.endpointAfter before r after hsplit he).resolve_left (by simp)
  endpointCount := h.endpointCount

theorem isBlock_iff {block : List UInt8} :
    IsBlock interfaceRecords block ↔ ∃ (c : UsbConfiguration) (rs : List (List UInt8)), c.BlockOf rs block := by
  constructor
  · intro hgrammar
    obtain ⟨⟨hmin, hfirst, htype⟩, htotal, rs, hrs, hbody, hcount⟩ := hgrammar
    obtain ⟨st, hst⟩ := (Body.foldlM_accepts rs .empty hbody.records).mpr hbody.bodyFrom
    have hcurrent : st.current = none := by
      obtain ⟨st₁, -, hclose⟩ := bind_eq_ok.mp hst
      exact Body.close_ok_current hclose
    have hsplit : block.take 9 ++ rs.flatten = block := by rw [← hrs, List.take_append_drop]
    have hlen : (block.take 9).length = 9 := by
      rw [List.length_take]
      omega
    have hbyte : ∀ i, i < 9 → byteAt (block.take 9) i = byteAt block i := by
      intro i hi
      conv_rhs => rw [← hsplit, byteAt_append_left (by omega)]
    have hread : readU16Le (block.take 9) 2 = readU16Le block 2 := by
      conv_rhs => rw [← hsplit, readU16Le_append_left (by omega)]
    obtain ⟨d, hd⟩ := configurationRecord hlen ((hbyte 0 (by decide)).trans hfirst) ((hbyte 1 (by decide)).trans htype)
    rw [hread, hbyte 4 (by decide)] at hd
    refine ⟨⟨d, st.extraDescriptors, st.interfaces⟩, rs, ⟨readU16Le block 2, byteAt block 4, ?_, htotal, ?_⟩,
      hbody.records, ?_⟩
    · rw [← hd, hsplit]
    · rw [← hcount, interfaceRecords, read_count hbody.records hst]
    · rw [hst, ← hcurrent]
  · intro hblock
    obtain ⟨c, rs, ⟨total, count, rfl, htotal, hcount⟩, hrecords, hread⟩ := hblock
    have hlen : (c.descriptor.toUsbBytes total count).length = 9 := UsbConfigurationDescriptor.toUsbBytes_length _ _ _
    obtain ⟨hfirst, htype, hthird, hfour⟩ := configurationRecord_fields c.descriptor total count
    have hgrammar := ((Body.foldlM_accepts rs .empty hrecords).mp ⟨_, hread⟩ : BodyFrom none rs).grammar hrecords
    refine ⟨⟨?_, ?_, ?_⟩, ?_, rs, ?_, hgrammar, ?_⟩
    · rw [List.length_append]
      omega
    · rw [byteAt_append_left (by omega), hfirst]
    · rw [byteAt_append_left (by omega), htype]
    · rw [readU16Le_append_left (by omega), hthird, htotal]
    · rw [List.drop_left' hlen]
    · rw [byteAt_append_left (by omega), hfour, hcount]
      have hn := read_count hrecords hread
      dsimp only at hn
      rw [hn, interfaceRecords]

theorem forall_isBlock_iff {blocks : List (List UInt8)} : (∀ block ∈ blocks, IsBlock interfaceRecords block) ↔
    ∃ cs, List.Forall₂ (fun c block => ∃ rs, UsbConfiguration.BlockOf c rs block) cs blocks := by
  constructor
  · intro h
    induction blocks with
    | nil => exact ⟨[], List.Forall₂.nil⟩
    | cons block blocks ih =>
      obtain ⟨hblock, hblocks⟩ := List.forall_mem_cons.mp h
      obtain ⟨c, hc⟩ := isBlock_iff.mp hblock
      obtain ⟨cs, hcs⟩ := ih hblocks
      exact ⟨c :: cs, List.Forall₂.cons hc hcs⟩
  · intro hall
    obtain ⟨cs, hcs⟩ := hall
    induction hcs with
    | nil => exact fun block hblock => by cases hblock
    | @cons c block _ _ hc _ ih => exact List.forall_mem_cons.mpr ⟨isBlock_iff.mpr ⟨c, hc⟩, ih⟩

theorem decodeConfigurations_iff : ∀ {n : Nat} {rest rest' : List UInt8} {cs : List UsbConfiguration},
    UsbDescriptorSet.decodeConfigurations n rest = .ok (cs, rest') ↔ ∃ blocks : List (List UInt8),
      rest = blocks.flatten ++ rest' ∧ blocks.length = n ∧
        List.Forall₂ (fun c block => ∃ rs, UsbConfiguration.BlockOf c rs block) cs blocks
  | 0, rest, rest', cs => by
    rw [UsbDescriptorSet.decodeConfigurations]
    constructor
    · intro h
      cases h
      exact ⟨[], rfl, rfl, List.Forall₂.nil⟩
    · intro hblocks
      obtain ⟨blocks, rfl, hlen, hcs⟩ := hblocks
      cases List.length_eq_zero_iff.mp hlen
      cases hcs
      rfl
  | n + 1, rest, rest', cs => by
    rw [UsbDescriptorSet.decodeConfigurations]
    constructor
    · intro h
      obtain ⟨⟨c, rest₁⟩, hc, h⟩ := bind_eq_ok.mp h
      dsimp only at h
      obtain ⟨⟨cs₁, rest₂⟩, hcs, h⟩ := bind_eq_ok.mp h
      cases h
      obtain ⟨rs, block, rfl, hblock⟩ := decodeFrom_iff.mp hc
      obtain ⟨blocks, rfl, hlen, hblocks⟩ := decodeConfigurations_iff.mp hcs
      exact ⟨block :: blocks, by rw [List.flatten_cons, List.append_assoc], by rw [List.length_cons, hlen],
        List.Forall₂.cons ⟨rs, hblock⟩ hblocks⟩
    · intro hblocks
      obtain ⟨blocks, rfl, hlen, hcs⟩ := hblocks
      cases hcs with
      | nil => cases hlen
      | @cons c block cs blocks hblock hblocks =>
        obtain ⟨rs, hblock⟩ := hblock
        have hfirst : UsbConfiguration.decodeFrom (block ++ (blocks.flatten ++ rest')) = .ok (c, _) :=
          decodeFrom_iff.mpr ⟨rs, block, rfl, hblock⟩
        rw [List.flatten_cons, List.append_assoc, hfirst, ok_bind]
        dsimp only
        rw [decodeConfigurations_iff.mpr ⟨blocks, rfl, Nat.succ.inj hlen, hblocks⟩]
        rfl

/-! ## Sidecars -/

def keysOf (cs : List UsbConfiguration) : List (List (UInt8 × UInt8)) :=
  cs.map fun c => c.interfaces.map (·.descriptor.key)

/-- A sidecar for an interface with one of the keys. -/
structure SidecarFor (keys : List (List (UInt8 × UInt8))) (sidecar : List UInt8) : Prop where
  length : sidecar.length = 8 + (readU16Le sidecar 6).toNat
  type : byteAt sidecar 3 = usbDescHidReport
  index : byteAt sidecar 4 = 0
  interface : ∃ ks, keys[(byteAt sidecar 0).toNat]? = some ks ∧ (byteAt sidecar 1, byteAt sidecar 2) ∈ ks

theorem attachReport_accepts {n a : UInt8} {report : List UInt8} : ∀ {is : List UsbInterface},
    (∃ is', attachReport n a report is = .ok is') ↔ (n, a) ∈ is.map (·.descriptor.key)
  | [] => by
    refine iff_of_false ?_ (by simp)
    intro haccepts
    obtain ⟨is', h⟩ := haccepts
    cases h
  | i :: is => by
    have hkey : (n, a) = i.descriptor.key ↔ i.hasKey n a = true := by rw [UsbInterface.hasKey_iff, eq_comm]
    rw [attachReport, List.map_cons, List.mem_cons, hkey]
    by_cases hi : i.hasKey n a = true
    · rw [if_pos hi]
      exact iff_of_true ⟨_, rfl⟩ (Or.inl hi)
    · rw [if_neg hi, or_iff_right hi, ← @attachReport_accepts n a report]
      constructor
      · intro haccepts
        obtain ⟨is', h⟩ := haccepts
        obtain ⟨is₁, his, -⟩ := bind_eq_ok.mp h
        exact ⟨is₁, his⟩
      · intro haccepts
        obtain ⟨is₁, his⟩ := haccepts
        rw [his]
        exact ⟨_, rfl⟩

theorem attachSidecar_accepts {cs : List UsbConfiguration} {k : Nat} {n a : UInt8} {report : List UInt8} :
    (∃ cs', attachSidecar cs k n a report = .ok cs') ↔ ∃ ks, (keysOf cs)[k]? = some ks ∧ (n, a) ∈ ks := by
  rw [attachSidecar, keysOf, List.getElem?_map]
  cases cs[k]? with
  | none =>
    refine iff_of_false ?_ (by simp)
    intro haccepts
    obtain ⟨cs', h⟩ := haccepts
    cases h
  | some c =>
    dsimp only
    constructor
    · intro haccepts
      obtain ⟨cs', h⟩ := haccepts
      obtain ⟨is, his, -⟩ := bind_eq_ok.mp h
      exact ⟨_, rfl, attachReport_accepts.mp ⟨is, his⟩⟩
    · intro hkeys
      obtain ⟨ks, hks, hmem⟩ := hkeys
      rw [Option.map_some, Option.some.injEq] at hks
      obtain ⟨is, his⟩ := (@attachReport_accepts n a report c.interfaces).mpr (hks ▸ hmem)
      rw [his]
      exact ⟨_, rfl⟩

/-- A sidecar changes a report descriptor and nothing else. -/
theorem attachSidecar_strip {cs cs' : List UsbConfiguration} {k : Nat} {n a : UInt8} {report : List UInt8}
    (h : attachSidecar cs k n a report = .ok cs') :
    cs'.map UsbConfiguration.strip = cs.map UsbConfiguration.strip := by
  rw [attachSidecar] at h
  cases hk : cs[k]? with
  | none =>
    rw [hk] at h
    cases h
  | some c =>
    rw [hk] at h
    obtain ⟨is, his, h⟩ := bind_eq_ok.mp h
    cases h
    obtain ⟨before, i, after, hc, rfl, -⟩ := attachReport_ok his
    have hstrip : UsbConfiguration.strip { c with interfaces := before ++ { i with reportDescriptor := some report } ::
        after } = c.strip := by
      rw [UsbConfiguration.strip, UsbConfiguration.strip, hc, List.map_append, List.map_append, List.map_cons,
        List.map_cons]
      rfl
    obtain ⟨hlt, hget⟩ := List.getElem?_eq_some_iff.mp hk
    have hlt' : k < (cs.map UsbConfiguration.strip).length := by rwa [List.length_map]
    have hsame : (cs.map UsbConfiguration.strip)[k] = c.strip := by rw [List.getElem_map, hget]
    rw [List.map_set, hstrip, ← hsame, List.set_getElem_self]

theorem keysOf_strip (cs : List UsbConfiguration) : keysOf (cs.map UsbConfiguration.strip) = keysOf cs := by
  rw [keysOf, keysOf, List.map_map]
  refine List.map_congr_left fun c _ => ?_
  rw [Function.comp_apply, UsbConfiguration.strip, List.map_map]
  rfl

theorem decodeSidecars_strip : ∀ {n : Nat} {rest rest' : List UInt8} {cs cs' : List UsbConfiguration},
    decodeSidecars n rest cs = .ok (cs', rest') → cs'.map UsbConfiguration.strip = cs.map UsbConfiguration.strip
  | 0, _, _, _, _, h => by
    cases h
    rfl
  | n + 1, rest, rest', cs, cs', h => by
    rw [decodeSidecars] at h
    obtain ⟨⟨header, rest₁⟩, -, h⟩ := bind_eq_ok.mp h
    dsimp only at h
    obtain ⟨⟨report, rest₂⟩, -, h⟩ := bind_eq_ok.mp h
    dsimp only at h
    rw [ite_error_eq_ok] at h
    obtain ⟨cs₁, hattach, h⟩ := bind_eq_ok.mp h.2
    rw [decodeSidecars_strip h, attachSidecar_strip hattach]

section
variable {header report : List UInt8}

theorem sidecarFor_append (h : header.length = 8) {keys : List (List (UInt8 × UInt8))} :
    SidecarFor keys (header ++ report) ↔ report.length = (readU16Le header 6).toNat ∧
      ¬ (byteAt header 3 ≠ usbDescHidReport ∨ byteAt header 4 ≠ 0) ∧
      ∃ ks, keys[(byteAt header 0).toNat]? = some ks ∧ (byteAt header 1, byteAt header 2) ∈ ks := by
  have hbyte : ∀ i, i < 8 → byteAt (header ++ report) i = byteAt header i :=
    fun i hi => byteAt_append_left (by omega)
  constructor
  · intro hrecord
    obtain ⟨hlen, htype, hindex, hinterface⟩ := hrecord
    rw [List.length_append, readU16Le_append_left (by omega)] at hlen
    rw [hbyte 3 (by decide)] at htype
    rw [hbyte 4 (by decide)] at hindex
    rw [hbyte 0 (by decide), hbyte 1 (by decide), hbyte 2 (by decide)] at hinterface
    refine ⟨by omega, ?_, hinterface⟩
    intro hne
    obtain hne | hne := hne
    · exact hne htype
    · exact hne hindex
  · intro hsidecar
    obtain ⟨hlen, hkind, hinterface⟩ := hsidecar
    rw [not_or, Decidable.not_not, Decidable.not_not] at hkind
    refine ⟨?_, ?_, ?_, ?_⟩
    · rw [List.length_append, readU16Le_append_left (by omega), h, hlen]
    · rw [hbyte 3 (by decide), hkind.1]
    · rw [hbyte 4 (by decide), hkind.2]
    · rw [hbyte 0 (by decide), hbyte 1 (by decide), hbyte 2 (by decide)]
      exact hinterface

end

theorem decodeSidecars_accepts : ∀ {n : Nat} {rest rest' : List UInt8} {cs : List UsbConfiguration},
    (∃ cs', decodeSidecars n rest cs = .ok (cs', rest')) ↔ ∃ sidecars : List (List UInt8),
      rest = sidecars.flatten ++ rest' ∧ sidecars.length = n ∧ ∀ sidecar ∈ sidecars, SidecarFor (keysOf cs) sidecar
  | 0, rest, rest', cs => by
    rw [decodeSidecars]
    constructor
    · intro haccepts
      obtain ⟨cs', h⟩ := haccepts
      cases h
      exact ⟨[], rfl, rfl, fun _ h => by cases h⟩
    · intro hsidecars
      obtain ⟨sidecars, rfl, hlen, -⟩ := hsidecars
      cases List.length_eq_zero_iff.mp hlen
      exact ⟨cs, rfl⟩
  | n + 1, rest, rest', cs => by
    rw [decodeSidecars]
    constructor
    · intro haccepts
      obtain ⟨cs', h⟩ := haccepts
      obtain ⟨⟨header, rest₁⟩, hheader, h⟩ := bind_eq_ok.mp h
      obtain ⟨hrest, hheaderLen⟩ := take_ok hheader
      dsimp only at h
      obtain ⟨⟨report, rest₂⟩, hreport, h⟩ := bind_eq_ok.mp h
      obtain ⟨hrest₁, hreportLen⟩ := take_ok hreport
      dsimp only at h
      rw [ite_error_eq_ok] at h
      obtain ⟨hkind, h⟩ := h
      obtain ⟨cs₁, hattach, h⟩ := bind_eq_ok.mp h
      obtain ⟨sidecars, rfl, hlen, hall⟩ := decodeSidecars_accepts.mp ⟨cs', h⟩
      rw [← keysOf_strip, attachSidecar_strip hattach, keysOf_strip] at hall
      refine ⟨(header ++ report) :: sidecars, ?_, by rw [List.length_cons, hlen],
        List.forall_mem_cons.mpr ⟨?_, hall⟩⟩
      · rw [hrest, hrest₁, List.flatten_cons, List.append_assoc, List.append_assoc]
      · exact (sidecarFor_append hheaderLen).mpr ⟨hreportLen, hkind, attachSidecar_accepts.mp ⟨cs₁, hattach⟩⟩
    · intro hsidecars
      obtain ⟨sidecars, rfl, hlen, hall⟩ := hsidecars
      cases sidecars with
      | nil => cases hlen
      | cons sidecar sidecars =>
        obtain ⟨hfirst, hall⟩ := List.forall_mem_cons.mp hall
        have hmin := hfirst.length
        have hheaderLen : (sidecar.take 8).length = 8 := by
          rw [List.length_take]
          omega
        rw [← List.take_append_drop 8 sidecar, sidecarFor_append hheaderLen] at hfirst
        obtain ⟨hreportLen, hkind, hinterface⟩ := hfirst
        have hattach := @attachSidecar_accepts cs (byteAt (sidecar.take 8) 0).toNat (byteAt (sidecar.take 8) 1)
          (byteAt (sidecar.take 8) 2) (sidecar.drop 8)
        obtain ⟨cs₁, hcs₁⟩ := hattach.mpr hinterface
        rw [← keysOf_strip, ← attachSidecar_strip hcs₁, keysOf_strip] at hall
        obtain ⟨cs', hcs'⟩ : ∃ cs', decodeSidecars n (sidecars.flatten ++ rest') cs₁ = .ok (cs', rest') :=
          decodeSidecars_accepts.mpr ⟨sidecars, rfl, Nat.succ.inj hlen, hall⟩
        refine ⟨cs', ?_⟩
        have hsplit : (sidecar :: sidecars).flatten ++ rest' =
            sidecar.take 8 ++ (sidecar.drop 8 ++ (sidecars.flatten ++ rest')) := by
          rw [← List.append_assoc (sidecar.take 8), List.take_append_drop, List.flatten_cons, List.append_assoc]
        rw [hsplit, @take_append _ descriptorSidecarHeaderLen hheaderLen, ok_bind]
        dsimp only
        rw [take_append hreportLen, ok_bind]
        dsimp only
        rw [if_neg hkind, hcs₁, ok_bind]
        exact hcs'

theorem forall₂_getElem? {α β : Type} {R : α → β → Prop} {as : List α} {bs : List β} (h : List.Forall₂ R as bs)
    (k : Nat) :
    (as[k]? = none ∧ bs[k]? = none) ∨ ∃ a b, as[k]? = some a ∧ bs[k]? = some b ∧ R a b := by
  induction h generalizing k with
  | nil => exact Or.inl ⟨rfl, rfl⟩
  | @cons a b as bs hab _ ih =>
    cases k with
    | zero => exact Or.inr ⟨a, b, rfl, rfl, hab⟩
    | succ k => exact ih k

theorem isSidecar_iff {cs : List UsbConfiguration} {blocks : List (List UInt8)}
    (h : List.Forall₂ (fun c block => ∃ rs, UsbConfiguration.BlockOf c rs block) cs blocks) {sidecar : List UInt8} :
    IsSidecar blocks sidecar ↔ SidecarFor (keysOf cs) sidecar := by
  have hinterface : (∃ block, blocks[(byteAt sidecar 0).toNat]? = some block ∧ ∃ rs : List (List UInt8),
      block.drop 9 = rs.flatten ∧ (∀ r ∈ rs, IsRecord r) ∧ ∃ r ∈ rs, isInterface r = true ∧
        byteAt r 2 = byteAt sidecar 1 ∧ byteAt r 3 = byteAt sidecar 2) ↔
      ∃ ks, (keysOf cs)[(byteAt sidecar 0).toNat]? = some ks ∧ (byteAt sidecar 1, byteAt sidecar 2) ∈ ks := by
    rw [keysOf, List.getElem?_map]
    rcases forall₂_getElem? h (byteAt sidecar 0).toNat with ⟨hc, hb⟩ | ⟨c, block, hc, hb, rs, hblock⟩
    · rw [hc, hb]
      simp
    · obtain ⟨total, count, hbytes, -, -⟩ := hblock.header
      have hdrop : block.drop 9 = rs.flatten := by
        have hlen : (c.descriptor.toUsbBytes total count).length = 9 :=
          UsbConfigurationDescriptor.toUsbBytes_length _ _ _
        rw [hbytes, List.drop_left' hlen]
      have hkeys := read_keys hblock.records hblock.read
      dsimp only at hkeys
      rw [hc, hb, Option.map_some]
      constructor
      · intro hsettings
        obtain ⟨_, ⟨⟩, rs', hrs', hrecords, r, hr, hi, hnumber, halternate⟩ := hsettings
        obtain rfl := records_unique hblock.records hrecords (hdrop.symm.trans hrs')
        refine ⟨_, rfl, ?_⟩
        rw [hkeys, ← hnumber, ← halternate]
        exact List.mem_map.mpr ⟨r, List.mem_filter.mpr ⟨hr, hi⟩, rfl⟩
      · intro hsettings
        obtain ⟨_, ⟨⟩, hmem⟩ := hsettings
        rw [hkeys] at hmem
        obtain ⟨r, hr, hkey⟩ := List.mem_map.mp hmem
        obtain ⟨hr, hi⟩ := List.mem_filter.mp hr
        rw [recordKey, Prod.mk.injEq] at hkey
        exact ⟨block, rfl, rs, hdrop, hblock.records, r, hr, hi, hkey.1, hkey.2⟩
  constructor
  · exact fun hs => ⟨hs.length, hs.type, hs.index, hinterface.mp hs.interface⟩
  · exact fun hs => ⟨hs.length, hs.type, hs.index, hinterface.mpr hs.interface⟩

/-! ## Descriptor sets -/

namespace UsbDescriptorSet

/-- `decode` behind the eight bytes of its header. -/
def decodeBehind (configCount sidecarCount : Nat) (rest : List UInt8) : DecodeM UsbDescriptorSet := do
  let (deviceBytes, rest) ← take rest UsbDeviceDescriptor.len
  let (device, deviceConfigCount) ← UsbDeviceDescriptor.fromUsbBytes deviceBytes
  if deviceConfigCount.toNat ≠ configCount then
    .error (.invalidDescriptorSet "device configuration count mismatch")
  else
    let (configurations, rest) ← decodeConfigurations configCount rest
    let (configurations, rest) ← decodeSidecars sidecarCount rest configurations
    if rest ≠ [] then .error (.invalidDescriptorSet "trailing descriptor payload bytes")
    else .ok { device, configurations }

theorem decode_header {bytes : List UInt8} {d : UsbDescriptorSet} : decode bytes = .ok d ↔
    ∃ (c : UInt8) (s : UInt16) (rest : List UInt8),
      bytes = descriptorSetMagic ++ descriptorSetVersion :: c :: (u16Le s ++ rest) ∧
        decodeBehind c.toNat s.toNat rest = .ok d := by
  constructor
  · intro h
    rw [decode, ite_error_eq_ok, ite_error_eq_ok, ite_error_eq_ok, Decidable.not_not, Decidable.not_not] at h
    obtain ⟨hmin, hmagic, hversion, h⟩ := h
    rw [UsbDeviceDescriptor.len] at hmin
    refine ⟨byteAt bytes 5, readU16Le bytes 6, bytes.drop 8, ?_, h⟩
    rw [← hmagic, ← hversion, readU16Le_at bytes (by omega)]
    have hfour : slice bytes 4 8 = [byteAt bytes 4, byteAt bytes 5, byteAt bytes 6, byteAt bytes 7] := by
      have htwo : slice bytes 4 6 = [byteAt bytes 4, byteAt bytes 5] := slice_pair (by omega)
      have hnext : slice bytes 6 8 = [byteAt bytes 6, byteAt bytes 7] := slice_pair (by omega)
      rw [← slice_append_slice bytes (b := 6) (by omega) (by omega), htwo, hnext]
      rfl
    have hsplit : bytes = slice bytes 0 4 ++ (slice bytes 4 8 ++ bytes.drop 8) := by
      rw [← List.append_assoc, slice_append_slice bytes (by omega) (by omega), slice_zero, List.take_append_drop]
    conv_lhs => rw [hsplit, hfour]
    rfl
  · intro hsidecar
    obtain ⟨c, s, rest, rfl, h⟩ := hsidecar
    obtain ⟨lo, hi, hpair, hs⟩ := u16Le_pair s
    have hbytes : descriptorSetMagic ++ descriptorSetVersion :: c :: (u16Le s ++ rest) =
        [0x57, 0x44, 0x45, 0x53, 1, c, lo, hi] ++ rest := by
      rw [hpair]
      rfl
    have hmagic : slice ([0x57, 0x44, 0x45, 0x53, 1, c, lo, hi] ++ rest) 0 4 = descriptorSetMagic := rfl
    have hversion : byteAt ([0x57, 0x44, 0x45, 0x53, 1, c, lo, hi] ++ rest) 4 = descriptorSetVersion := rfl
    have hfive : byteAt ([0x57, 0x44, 0x45, 0x53, 1, c, lo, hi] ++ rest) 5 = c := rfl
    have hsix : readU16Le ([0x57, 0x44, 0x45, 0x53, 1, c, lo, hi] ++ rest) 6 = s := hs
    have hdrop : ([0x57, 0x44, 0x45, 0x53, 1, c, lo, hi] ++ rest).drop 8 = rest := rfl
    have hmin : ¬ ([0x57, 0x44, 0x45, 0x53, 1, c, lo, hi] ++ rest).length < 8 + UsbDeviceDescriptor.len := by
      intro hlt
      rw [List.length_append] at hlt
      have hshort : rest.length < UsbDeviceDescriptor.len := by
        simp only [List.length_cons, List.length_nil] at hlt
        omega
      unfold decodeBehind at h
      rw [take, if_pos hshort] at h
      cases h
    rw [hbytes, decode, if_neg hmin, if_neg (not_not_intro hmagic), if_neg (not_not_intro hversion), hfive, hsix, hdrop]
    exact h

/-- What `decode` makes of the parts of its input. -/
theorem decode_parts {bytes : List UInt8} {d : UsbDescriptorSet} (h : decode bytes = .ok d) :
    ∃ (c : UInt8) (s : UInt16) (blocks sidecars : List (List UInt8)) (cs : List UsbConfiguration),
      bytes = image c s (d.device.toUsbBytes c) blocks sidecars ∧ blocks.length = c.toNat ∧
        List.Forall₂ (fun c block => ∃ rs, UsbConfiguration.BlockOf c rs block) cs blocks ∧
          d.configurations.map UsbConfiguration.strip = cs.map UsbConfiguration.strip ∧
            sidecars.length = s.toNat ∧ ∀ sidecar ∈ sidecars, SidecarFor (keysOf cs) sidecar := by
  obtain ⟨c, s, rest, hbytes, h⟩ := decode_header.mp h
  unfold decodeBehind at h
  obtain ⟨⟨device, rest₁⟩, htake, h⟩ := bind_eq_ok.mp h
  obtain ⟨hrest, -⟩ := take_ok htake
  dsimp only at h
  obtain ⟨⟨desc, n⟩, hdesc, h⟩ := bind_eq_ok.mp h
  have hdevice := UsbDeviceDescriptor.fromUsbBytes_ok.mp hdesc
  dsimp only at h
  rw [ite_error_eq_ok, Decidable.not_not, UInt8.toNat_inj] at h
  obtain ⟨hcount, h⟩ := h
  obtain ⟨⟨cs, rest₂⟩, hcs, h⟩ := bind_eq_ok.mp h
  obtain ⟨blocks, hrest₁, hblocksLen, hblocks⟩ := decodeConfigurations_iff.mp hcs
  dsimp only at h
  obtain ⟨⟨cs', rest₃⟩, hcs', h⟩ := bind_eq_ok.mp h
  obtain ⟨sidecars, hrest₂, hsidecarsLen, hsidecars⟩ := decodeSidecars_accepts.mp ⟨cs', hcs'⟩
  dsimp only at h
  rw [ite_error_eq_ok, Decidable.not_not] at h
  obtain ⟨hend, h⟩ := h
  cases h
  refine ⟨c, s, blocks, sidecars, cs, ?_, hblocksLen, hblocks, decodeSidecars_strip hcs', hsidecarsLen, hsidecars⟩
  rw [hbytes, hrest, hrest₁, hrest₂, hend, List.append_nil, hdevice, hcount, image]

theorem accepts_iff {bytes : List UInt8} : (∃ d, decode bytes = .ok d) ↔ Grammar bytes := by
  constructor
  · intro haccepts
    obtain ⟨d, h⟩ := haccepts
    obtain ⟨c, s, blocks, sidecars, cs, hbytes, hblocksLen, hblocks, -, hsidecarsLen, hsidecars⟩ := decode_parts h
    exact ⟨c, s, _, blocks, sidecars, hbytes,
      ⟨UsbDeviceDescriptor.toUsbBytes_length _ _, deviceRecord_fields d.device c⟩,
      ⟨hblocksLen, forall_isBlock_iff.mpr ⟨cs, hblocks⟩⟩, hsidecarsLen,
      fun sidecar hsidecar => (isSidecar_iff hblocks).mpr (hsidecars sidecar hsidecar)⟩
  · rintro ⟨c, s, device, blocks, sidecars, hbytes, ⟨hdeviceLen, hfirst, htype, hlast⟩, ⟨hblocksLen, hblocks⟩,
      hsidecarsLen, hsidecars⟩
    obtain ⟨cs, hcs⟩ := forall_isBlock_iff.mp hblocks
    obtain ⟨desc, hdesc⟩ := deviceRecord hdeviceLen hfirst htype
    have hread : UsbDeviceDescriptor.fromUsbBytes device = .ok (desc, c) :=
      UsbDeviceDescriptor.fromUsbBytes_ok.mpr (hlast ▸ hdesc)
    obtain ⟨cs', hcs'⟩ : ∃ cs', decodeSidecars s.toNat sidecars.flatten cs = .ok (cs', []) :=
      decodeSidecars_accepts.mpr ⟨sidecars, (List.append_nil _).symm, hsidecarsLen,
        fun sidecar hsidecar => (isSidecar_iff hcs).mp (hsidecars sidecar hsidecar)⟩
    refine ⟨⟨desc, cs'⟩, decode_header.mpr ⟨c, s, _, hbytes, ?_⟩⟩
    unfold decodeBehind
    rw [@take_append device UsbDeviceDescriptor.len hdeviceLen, ok_bind]
    dsimp only
    rw [hread, ok_bind]
    dsimp only
    rw [if_neg (not_not_intro rfl), decodeConfigurations_iff.mpr ⟨blocks, rfl, hblocksLen, hcs⟩, ok_bind]
    dsimp only
    rw [hcs', ok_bind]
    rfl

/-- Decoding stays in bounds on every input, and succeeds on the grammar alone. -/
theorem decode_grammar (bytes : List UInt8) : Checked.decode bytes ≠ Cursor.fault ∧
    ((∃ d, Checked.decode bytes = Cursor.lift (.ok d)) ↔ Grammar bytes) := by
  rw [Checked.decode_eq, ← accepts_iff]
  refine ⟨Cursor.lift_ne_fault _, ⟨?_, ?_⟩⟩
  · intro haccepts
    obtain ⟨d, h⟩ := haccepts
    exact ⟨d, Cursor.lift_inj h⟩
  · intro haccepts
    obtain ⟨d, h⟩ := haccepts
    exact ⟨d, congrArg Cursor.lift h⟩

end UsbDescriptorSet

end WhyUsb
