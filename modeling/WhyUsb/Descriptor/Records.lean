import WhyUsb.Descriptor.RoundTrip

/-!
# The decoder reads records as they are written

Each fixed record is accepted exactly when it is the encoding of a descriptor,
so a body is read record by record as what it is: an interface, an endpoint or
an extra descriptor. `BodyFrom` says what the records to come must be after
some have been read; `foldlM_accepts` is the loop of `decode_from` in its terms.
-/

namespace WhyUsb

open Endian

/-! ## Splitting -/

/-- The records of `rest`, each as long as its first byte says. -/
def splitRecords : Nat → List UInt8 → List (List UInt8)
  | 0, _ => []
  | _ + 1, [] => []
  | fuel + 1, first :: rest =>
    (first :: rest).take first.toNat :: splitRecords fuel ((first :: rest).drop first.toNat)

theorem splitRecords_flatten : ∀ {rs : List (List UInt8)} {fuel : Nat}, (∀ r ∈ rs, IsRecord r) →
    rs.flatten.length ≤ fuel → splitRecords fuel rs.flatten = rs
  | [], 0, _, _ => rfl
  | [], _ + 1, _, _ => rfl
  | [] :: rs, _, h, _ => absurd (h [] List.mem_cons_self).1 (by decide)
  | (first :: r) :: rs, 0, _, hfuel => by
    rw [List.flatten_cons, List.length_append, List.length_cons] at hfuel
    omega
  | (first :: r) :: rs, fuel + 1, h, hfuel => by
    obtain ⟨hr, hrs⟩ := List.forall_mem_cons.mp h
    have hlen : (first :: r).length = first.toNat := hr.2.symm
    rw [List.flatten_cons, List.length_append] at hfuel
    have htwo := hr.1
    rw [List.flatten_cons, List.cons_append, splitRecords, ← List.cons_append, List.take_left' hlen,
      List.drop_left' hlen, splitRecords_flatten hrs (by omega)]

/-- A byte string is split into records in one way only. -/
theorem records_unique {rs rs' : List (List UInt8)} (h : ∀ r ∈ rs, IsRecord r) (h' : ∀ r ∈ rs', IsRecord r)
    (heq : rs.flatten = rs'.flatten) : rs = rs' := by
  rw [← splitRecords_flatten h (Nat.le_refl _), heq, splitRecords_flatten h' (Nat.le_refl _)]

/-! ## Fixed records -/

theorem u16Le_leNat (lo hi : UInt8) : u16Le (UInt16.ofNat (leNat [lo, hi])) = [lo, hi] := by
  have hlt : beNat [hi, lo] < 2 ^ 16 := by simpa using beNat_lt [hi, lo]
  have hbytes : beBytes 2 (beNat [hi, lo]) = [hi, lo] := beBytes_beNat [hi, lo]
  rw [show leNat [lo, hi] = beNat [hi, lo] from rfl, u16Le, UInt16.toNat_ofNat', Nat.mod_eq_of_lt hlt, leBytes, hbytes]
  rfl

theorem readU16Le_at (bytes : List UInt8) {i : Nat} (h : i + 2 ≤ bytes.length) :
    u16Le (readU16Le bytes i) = [byteAt bytes i, byteAt bytes (i + 1)] := by
  rw [readU16Le, slice_pair h, u16Le_leNat]

theorem readU16Le_append_left {xs : List UInt8} {i : Nat} (h : i + 2 ≤ xs.length) (ys : List UInt8) :
    readU16Le (xs ++ ys) i = readU16Le xs i := by
  rw [readU16Le, readU16Le, slice, slice, List.drop_append_of_le_length (by omega),
    List.take_append_of_le_length (by rw [List.length_drop]; omega)]

/-- A byte string spelled out by its subscripts. -/
theorem eq_map_byteAt (bytes : List UInt8) : bytes = (List.range bytes.length).map (byteAt bytes) := by
  refine List.ext_getElem (by simp) fun i h _ => ?_
  simp [byteAt, h]

theorem UsbDeviceDescriptor.fromUsbBytes_ok {bytes : List UInt8} {d : UsbDeviceDescriptor} {n : UInt8} :
    fromUsbBytes bytes = .ok (d, n) ↔ bytes = d.toUsbBytes n := by
  constructor
  · intro h
    rw [fromUsbBytes, ite_error_eq_ok] at h
    obtain ⟨hrecord, h⟩ := h
    simp only [not_or, ne_eq, Decidable.not_not] at hrecord
    obtain ⟨hlen, hfirst, htype⟩ := hrecord
    cases h
    rw [len] at hlen
    conv_lhs => rw [eq_map_byteAt bytes, hlen]
    rw [toUsbBytes, readU16Le_at bytes (by omega), readU16Le_at bytes (by omega), readU16Le_at bytes (by omega),
      readU16Le_at bytes (by omega), ← hfirst, ← htype]
    rfl
  · intro heq
    subst heq
    exact fromUsbBytes_toUsbBytes d n

theorem UsbConfigurationDescriptor.fromUsbBytes_ok {bytes : List UInt8} {d : UsbConfigurationDescriptor} {t : UInt16}
    {n : UInt8} : fromUsbBytes bytes = .ok (d, t, n) ↔ bytes = d.toUsbBytes t n := by
  constructor
  · intro h
    rw [fromUsbBytes, ite_error_eq_ok] at h
    obtain ⟨hrecord, h⟩ := h
    simp only [not_or, ne_eq, Decidable.not_not] at hrecord
    obtain ⟨hlen, hfirst, htype⟩ := hrecord
    cases h
    rw [len] at hlen
    conv_lhs => rw [eq_map_byteAt bytes, hlen]
    rw [toUsbBytes, readU16Le_at bytes (by omega), ← hfirst, ← htype]
    rfl
  · intro heq
    subst heq
    exact fromUsbBytes_toUsbBytes d t n

theorem UsbInterfaceDescriptor.fromUsbBytes_ok {bytes : List UInt8} {d : UsbInterfaceDescriptor} {n : UInt8} :
    fromUsbBytes bytes = .ok (d, n) ↔ bytes = d.toUsbBytes n := by
  constructor
  · intro h
    rw [fromUsbBytes, ite_error_eq_ok] at h
    obtain ⟨hrecord, h⟩ := h
    simp only [not_or, ne_eq, Decidable.not_not] at hrecord
    obtain ⟨hlen, hfirst, htype⟩ := hrecord
    cases h
    rw [len] at hlen
    conv_lhs => rw [eq_map_byteAt bytes, hlen]
    rw [toUsbBytes, ← hfirst, ← htype]
    rfl
  · intro heq
    subst heq
    exact fromUsbBytes_toUsbBytes d n

theorem UsbEndpointDescriptor.fromUsbBytes_ok {bytes : List UInt8} {d : UsbEndpointDescriptor} :
    fromUsbBytes bytes = .ok d ↔ bytes = d.toUsbBytes := by
  constructor
  · intro h
    rw [fromUsbBytes, ite_error_eq_ok] at h
    obtain ⟨hrecord, h⟩ := h
    simp only [not_or, ne_eq, Decidable.not_not] at hrecord
    obtain ⟨hlen, hfirst, htype⟩ := hrecord
    cases h
    rw [len] at hlen
    conv_lhs => rw [eq_map_byteAt bytes, hlen]
    rw [toUsbBytes, readU16Le_at bytes (by omega), ← hfirst, ← htype]
    rfl
  · intro heq
    subst heq
    exact fromUsbBytes_toUsbBytes d

/-! ## Kinds of records -/

def isInterface (r : List UInt8) : Bool := byteAt r 1 == usbDescInterface

def isEndpoint (r : List UInt8) : Bool := byteAt r 1 == usbDescEndpoint

/-- The endpoint records up to the next interface record. -/
def endpointsAhead (rs : List (List UInt8)) : Nat := (rs.takeWhile fun r => !isInterface r).countP isEndpoint

section
variable {r : List UInt8} {rs : List (List UInt8)}

theorem isExtra_iff : IsExtra r ↔ isInterface r = false ∧ isEndpoint r = false := by
  rw [IsExtra, isInterface, isEndpoint, beq_eq_false_iff_ne, beq_eq_false_iff_ne]

theorem not_isEndpoint (hi : isInterface r = true) : isEndpoint r = false := by
  rw [isInterface, beq_iff_eq] at hi
  rw [isEndpoint, hi]
  rfl

theorem endpointsAhead_interface (hi : isInterface r = true) : endpointsAhead (r :: rs) = 0 := by
  rw [endpointsAhead, List.takeWhile_cons_of_neg (by simp [hi]), List.countP_nil]

theorem endpointsAhead_other (hi : isInterface r = false) :
    endpointsAhead (r :: rs) = endpointsAhead rs + if isEndpoint r = true then 1 else 0 := by
  rw [endpointsAhead, List.takeWhile_cons_of_pos (by simp [hi]), List.countP_cons, endpointsAhead]

/-- An interface record, by its fields. -/
theorem interfaceRecord (hr : IsRecord r) (hi : isInterface r = true) (hlen : r.length = 9) :
    ∃ d : UsbInterfaceDescriptor, r = d.toUsbBytes (byteAt r 4) ∧ d.interfaceNumber = byteAt r 2 ∧
      d.alternateSetting = byteAt r 3 := by
  have hfirst : byteAt r 0 = 9 := UInt8.toNat_inj.mp (hr.2.trans hlen)
  rw [isInterface, beq_iff_eq] at hi
  refine ⟨⟨byteAt r 2, byteAt r 3, byteAt r 5, byteAt r 6, byteAt r 7, byteAt r 8⟩, ?_, rfl, rfl⟩
  refine UsbInterfaceDescriptor.fromUsbBytes_ok.mp ?_
  rw [UsbInterfaceDescriptor.fromUsbBytes, if_neg]
  rw [hfirst, hi]
  simp [hlen, UsbInterfaceDescriptor.len]

theorem endpointRecord (hr : IsRecord r) (he : isEndpoint r = true) (hlen : r.length = 7) :
    ∃ d : UsbEndpointDescriptor, r = d.toUsbBytes := by
  have hfirst : byteAt r 0 = 7 := UInt8.toNat_inj.mp (hr.2.trans hlen)
  rw [isEndpoint, beq_iff_eq] at he
  refine ⟨⟨byteAt r 2, byteAt r 3, readU16Le r 4, byteAt r 6⟩, UsbEndpointDescriptor.fromUsbBytes_ok.mp ?_⟩
  rw [UsbEndpointDescriptor.fromUsbBytes, if_neg]
  rw [hfirst, he]
  simp [hlen, UsbEndpointDescriptor.len]

theorem configurationRecord (hlen : r.length = 9) (hfirst : byteAt r 0 = 9)
    (htype : byteAt r 1 = usbDescConfiguration) :
    ∃ d : UsbConfigurationDescriptor, r = d.toUsbBytes (readU16Le r 2) (byteAt r 4) := by
  refine ⟨⟨byteAt r 5, byteAt r 6, byteAt r 7, byteAt r 8⟩, UsbConfigurationDescriptor.fromUsbBytes_ok.mp ?_⟩
  rw [UsbConfigurationDescriptor.fromUsbBytes, if_neg]
  rw [hfirst, htype]
  simp [hlen, UsbConfigurationDescriptor.len]

theorem configurationRecord_fields (d : UsbConfigurationDescriptor) (t : UInt16) (n : UInt8) :
    byteAt (d.toUsbBytes t n) 0 = 9 ∧ byteAt (d.toUsbBytes t n) 1 = usbDescConfiguration ∧
      readU16Le (d.toUsbBytes t n) 2 = t ∧ byteAt (d.toUsbBytes t n) 4 = n := by
  obtain ⟨lo, hi, ht, ht'⟩ := u16Le_pair t
  rw [UsbConfigurationDescriptor.toUsbBytes, ht]
  exact ⟨rfl, rfl, ht', rfl⟩

theorem deviceRecord (hlen : r.length = 18) (hfirst : byteAt r 0 = 18) (htype : byteAt r 1 = usbDescDevice) :
    ∃ d : UsbDeviceDescriptor, r = d.toUsbBytes (byteAt r 17) := by
  refine ⟨⟨readU16Le r 2, byteAt r 4, byteAt r 5, byteAt r 6, byteAt r 7, readU16Le r 8, readU16Le r 10,
    readU16Le r 12, byteAt r 14, byteAt r 15, byteAt r 16⟩, UsbDeviceDescriptor.fromUsbBytes_ok.mp ?_⟩
  rw [UsbDeviceDescriptor.fromUsbBytes, if_neg]
  rw [hfirst, htype]
  simp [hlen, UsbDeviceDescriptor.len]

theorem deviceRecord_fields (d : UsbDeviceDescriptor) (n : UInt8) :
    byteAt (d.toUsbBytes n) 0 = 18 ∧ byteAt (d.toUsbBytes n) 1 = usbDescDevice ∧ byteAt (d.toUsbBytes n) 17 = n := by
  obtain ⟨v₀, v₁, hv, -⟩ := u16Le_pair d.usbVersion
  obtain ⟨i₀, i₁, hi, -⟩ := u16Le_pair d.vendorId
  obtain ⟨p₀, p₁, hp, -⟩ := u16Le_pair d.productId
  obtain ⟨r₀, r₁, hr, -⟩ := u16Le_pair d.deviceVersion
  rw [UsbDeviceDescriptor.toUsbBytes, hv, hi, hp, hr]
  exact ⟨rfl, rfl, rfl⟩

theorem step_interface_length {st st' : Body} (hi : isInterface r = true) (h : st.step r = .ok st') :
    r.length = 9 := by
  rw [isInterface, beq_iff_eq] at hi
  rw [Body.step, Body.bodyStep, if_pos hi] at h
  obtain ⟨_, -, h⟩ := bind_eq_ok.mp h
  obtain ⟨⟨d, n⟩, hd, -⟩ := bind_eq_ok.mp h
  rw [UsbInterfaceDescriptor.fromUsbBytes_ok.mp hd, UsbInterfaceDescriptor.toUsbBytes_length]
  rfl

theorem step_endpoint_ok {st st' : Body} (he : isEndpoint r = true) (h : st.step r = .ok st') :
    r.length = 7 ∧ ∃ o, st.current = some o := by
  rw [isEndpoint, beq_iff_eq] at he
  rw [Body.step, Body.bodyStep, he, if_neg (by decide), if_pos rfl] at h
  cases ho : st.current with
  | none =>
    rw [ho] at h
    cases h
  | some o =>
    rw [ho] at h
    obtain ⟨e, hd, -⟩ := bind_eq_ok.mp h
    rw [UsbEndpointDescriptor.fromUsbBytes_ok.mp hd, UsbEndpointDescriptor.toUsbBytes_length]
    exact ⟨rfl, o, rfl⟩

end

/-! ## What may follow -/

theorem forall_split_cons {α : Type} {P : List α → α → List α → Prop} {x : α} {xs : List α} :
    (∀ before a after, x :: xs = before ++ a :: after → P before a after) ↔
      P [] x xs ∧ ∀ before a after, xs = before ++ a :: after → P (x :: before) a after := by
  constructor
  · exact fun h => ⟨h [] x xs rfl, fun before a after hxs => h (x :: before) a after (by rw [hxs]; rfl)⟩
  · rintro ⟨hx, hxs⟩ before a after h
    cases before with
    | nil =>
      rw [List.nil_append, List.cons.injEq] at h
      rw [← h.1, ← h.2]
      exact hx
    | cons y before =>
      rw [List.cons_append, List.cons.injEq] at h
      rw [← h.1]
      exact hxs before a after h.2

/-- The records that may follow: `current` has the endpoints of the open interface so far and how many it announced. -/
structure BodyFrom (current : Option (Nat × Nat)) (rs : List (List UInt8)) : Prop where
  interfaceLength : ∀ r ∈ rs, isInterface r = true → r.length = 9
  endpointLength : ∀ r ∈ rs, isEndpoint r = true → r.length = 7
  endpointAfter : ∀ before r after, rs = before ++ r :: after → isEndpoint r = true →
    current.isSome = true ∨ ∃ i ∈ before, isInterface i = true
  announced : ∀ p, current = some p → p.1 + endpointsAhead rs = p.2
  endpointCount : ∀ before r after, rs = before ++ r :: after → isInterface r = true →
    endpointsAhead after = (byteAt r 4).toNat

section
variable {current : Option (Nat × Nat)} {r : List UInt8} {rs : List (List UInt8)}

theorem bodyFrom_nil : BodyFrom current [] ↔ ∀ p, current = some p → p.1 = p.2 := by
  refine ⟨fun h p hp => h.announced p hp, fun h => ⟨?_, ?_, ?_, h, ?_⟩⟩
  · intro r hr; cases hr
  · intro r hr; cases hr
  · intro before r after hrs; cases before <;> cases hrs
  · intro before r after hrs; cases before <;> cases hrs

theorem bodyFrom_interface (hi : isInterface r = true) : BodyFrom current (r :: rs) ↔
    (∀ p, current = some p → p.1 = p.2) ∧ r.length = 9 ∧ BodyFrom (some (0, (byteAt r 4).toNat)) rs := by
  have hahead : endpointsAhead (r :: rs) = 0 := endpointsAhead_interface hi
  constructor
  · intro h
    refine ⟨fun p hp => ?_, h.interfaceLength r List.mem_cons_self hi,
      fun r hr => h.interfaceLength r (List.mem_cons_of_mem _ hr),
      fun r hr => h.endpointLength r (List.mem_cons_of_mem _ hr), fun _ _ _ _ _ => Or.inl rfl, ?_,
      (forall_split_cons.mp h.endpointCount).2⟩
    · have := h.announced p hp
      rwa [hahead] at this
    · intro p hp
      cases hp
      rw [Nat.zero_add]
      exact (forall_split_cons.mp h.endpointCount).1 hi
  · intro hclosing
    obtain ⟨hclosed, hlen, h⟩ := hclosing
    refine ⟨List.forall_mem_cons.mpr ⟨fun _ => hlen, h.interfaceLength⟩,
      List.forall_mem_cons.mpr ⟨fun he => ?_, h.endpointLength⟩,
      forall_split_cons.mpr ⟨fun he => ?_, fun before a after hrs _ => Or.inr ⟨r, List.mem_cons_self, hi⟩⟩,
      fun p hp => ?_, forall_split_cons.mpr ⟨fun _ => ?_, h.endpointCount⟩⟩
    · rw [not_isEndpoint hi] at he
      cases he
    · rw [not_isEndpoint hi] at he
      cases he
    · rw [hahead]
      exact hclosed p hp
    · have := h.announced _ rfl
      rwa [Nat.zero_add] at this

theorem bodyFrom_endpoint (he : isEndpoint r = true) : BodyFrom current (r :: rs) ↔
    ∃ p, current = some p ∧ r.length = 7 ∧ BodyFrom (some (p.1 + 1, p.2)) rs := by
  have hi : isInterface r = false := Bool.eq_false_iff.mpr fun hi => by
    rw [not_isEndpoint hi] at he
    cases he
  have hahead : endpointsAhead (r :: rs) = endpointsAhead rs + 1 := by
    rw [endpointsAhead_other hi, if_pos he]
  constructor
  · intro h
    have hopen := (forall_split_cons.mp h.endpointAfter).1 he
    rcases hopen with hsome | ⟨i, hnil, -⟩
    · obtain ⟨p, hp⟩ := Option.isSome_iff_exists.mp hsome
      refine ⟨p, hp, h.endpointLength r List.mem_cons_self he,
        fun r hr => h.interfaceLength r (List.mem_cons_of_mem _ hr),
        fun r hr => h.endpointLength r (List.mem_cons_of_mem _ hr), fun _ _ _ _ _ => Or.inl rfl, ?_,
        (forall_split_cons.mp h.endpointCount).2⟩
      intro q hq
      cases hq
      have := h.announced p hp
      rw [hahead] at this
      dsimp only
      omega
    · cases hnil
  · intro hopen
    obtain ⟨p, rfl, hlen, h⟩ := hopen
    refine ⟨List.forall_mem_cons.mpr ⟨fun hi' => ?_, h.interfaceLength⟩,
      List.forall_mem_cons.mpr ⟨fun _ => hlen, h.endpointLength⟩, fun _ _ _ _ _ => Or.inl rfl, ?_,
      forall_split_cons.mpr ⟨fun hi' => ?_, h.endpointCount⟩⟩
    · rw [hi] at hi'
      cases hi'
    · intro q hq
      cases hq
      have := h.announced _ rfl
      rw [hahead]
      dsimp only at this
      omega
    · rw [hi] at hi'
      cases hi'

theorem bodyFrom_extra (he : IsExtra r) : BodyFrom current (r :: rs) ↔ BodyFrom current rs := by
  obtain ⟨hi, he⟩ := isExtra_iff.mp he
  have hahead : endpointsAhead (r :: rs) = endpointsAhead rs := by
    rw [endpointsAhead_other hi, he]
    rfl
  constructor
  · intro h
    refine ⟨fun r hr => h.interfaceLength r (List.mem_cons_of_mem _ hr),
      fun r hr => h.endpointLength r (List.mem_cons_of_mem _ hr), fun before a after hrs ha => ?_, fun p hp => ?_,
      (forall_split_cons.mp h.endpointCount).2⟩
    · rcases (forall_split_cons.mp h.endpointAfter).2 before a after hrs ha with hsome | ⟨i, hmem, hint⟩
      · exact Or.inl hsome
      · rcases List.mem_cons.mp hmem with rfl | hmem
        · rw [hi] at hint
          cases hint
        · exact Or.inr ⟨i, hmem, hint⟩
    · rw [← hahead]
      exact h.announced p hp
  · intro h
    refine ⟨List.forall_mem_cons.mpr ⟨fun hi' => ?_, h.interfaceLength⟩,
      List.forall_mem_cons.mpr ⟨fun he' => ?_, h.endpointLength⟩,
      forall_split_cons.mpr ⟨fun he' => ?_, fun before a after hrs ha => ?_⟩, fun p hp => ?_,
      forall_split_cons.mpr ⟨fun hi' => ?_, h.endpointCount⟩⟩
    · rw [hi] at hi'
      cases hi'
    · rw [he] at he'
      cases he'
    · rw [he] at he'
      cases he'
    · rcases h.endpointAfter before a after hrs ha with hsome | ⟨i, hmem, hint⟩
      · exact Or.inl hsome
      · exact Or.inr ⟨i, List.mem_cons_of_mem _ hmem, hint⟩
    · rw [hahead]
      exact h.announced p hp
    · rw [hi] at hi'
      cases hi'

end

/-! ## The loop -/

namespace Body

/-- What is open, as `BodyFrom` counts it. -/
def counts (st : Body) : Option (Nat × Nat) :=
  st.current.map fun o => (o.endpoints.length, o.expectedEndpoints.toNat)

theorem close_accepts (st : Body) : (∃ st', st.close = .ok st') ↔ ∀ p, st.counts = some p → p.1 = p.2 := by
  rw [close, counts]
  cases st.current with
  | none => exact iff_of_true ⟨st, rfl⟩ fun p hp => by cases hp
  | some o =>
    dsimp only
    rw [OpenInterface.finish]
    constructor
    · rintro ⟨st', h⟩ p ⟨⟩
      obtain ⟨i, hi, -⟩ := bind_eq_ok.mp h
      rw [ite_error_eq_ok, Decidable.not_not] at hi
      exact hi.1
    · intro h
      rw [if_neg (not_not_intro (h _ rfl))]
      exact ⟨_, rfl⟩

/-- The loop and the last `finish` succeed exactly on what may follow. -/
theorem foldlM_accepts : ∀ (rs : List (List UInt8)) (st : Body), (∀ r ∈ rs, IsRecord r) →
    ((∃ st', (rs.foldlM step st >>= close) = .ok st') ↔ BodyFrom st.counts rs)
  | [], st, _ => by
    rw [List.foldlM_nil, bodyFrom_nil]
    exact close_accepts st
  | r :: rs, st, hrs => by
    obtain ⟨hr, htail⟩ := List.forall_mem_cons.mp hrs
    rw [List.foldlM_cons, except_bind_assoc]
    by_cases hi : isInterface r = true
    · rw [bodyFrom_interface hi, ← close_accepts]
      constructor
      · intro hsteps
        obtain ⟨st', h⟩ := hsteps
        obtain ⟨st₁, hstep, h⟩ := bind_eq_ok.mp h
        have hlen := step_interface_length hi hstep
        obtain ⟨d, hd, -⟩ := interfaceRecord hr hi hlen
        rw [hd, step_interface] at hstep
        obtain ⟨closed, hclose, hstep⟩ := bind_eq_ok.mp hstep
        cases hstep
        exact ⟨⟨closed, hclose⟩, hlen, (foldlM_accepts rs _ htail).mp ⟨st', h⟩⟩
      · intro hsplit
        obtain ⟨⟨closed, hclose⟩, hlen, h⟩ := hsplit
        obtain ⟨d, hd, -⟩ := interfaceRecord hr hi hlen
        have hstep := step_interface st d (byteAt r 4)
        rw [← hd, hclose, ok_bind] at hstep
        rw [hstep, ok_bind]
        exact (foldlM_accepts rs _ htail).mpr h
    · by_cases he : isEndpoint r = true
      · rw [bodyFrom_endpoint he]
        constructor
        · intro hsteps
          obtain ⟨st', h⟩ := hsteps
          obtain ⟨st₁, hstep, h⟩ := bind_eq_ok.mp h
          obtain ⟨hlen, o, ho⟩ := step_endpoint_ok he hstep
          obtain ⟨d, rfl⟩ := endpointRecord hr he hlen
          rw [step_endpoint ho] at hstep
          cases hstep
          refine ⟨_, by rw [counts, ho]; rfl, hlen, ?_⟩
          have hfrom := (foldlM_accepts rs _ htail).mp ⟨st', h⟩
          rwa [counts, Option.map_some, List.length_append] at hfrom
        · intro hopen
          obtain ⟨p, hp, hlen, h⟩ := hopen
          obtain ⟨d, rfl⟩ := endpointRecord hr he hlen
          rw [counts, Option.map_eq_some_iff] at hp
          obtain ⟨o, ho, rfl⟩ := hp
          rw [step_endpoint ho, ok_bind]
          refine (foldlM_accepts rs _ htail).mpr ?_
          rwa [counts, Option.map_some, List.length_append]
      · have hextra : IsExtra r := isExtra_iff.mpr ⟨Bool.eq_false_iff.mpr hi, Bool.eq_false_iff.mpr he⟩
        rw [bodyFrom_extra hextra]
        cases ho : st.current with
        | none =>
          rw [step_extra_closed ho hr hextra, ok_bind, foldlM_accepts rs _ htail]
          rfl
        | some o =>
          rw [step_extra_open ho hr hextra, ok_bind, foldlM_accepts rs _ htail, counts, counts, ho]
          rfl

end Body

end WhyUsb
