import WhyUsb.Ring.Agreement

/-!
# Calls under any cursors

Whoever maps the ring can write both cursors, and a call takes what it finds.
Its copies stay inside the data array as long as they are no longer than it; how
long they can get is up to the difference of the cursors, which a push subtracts
from the size of the ring and a pop does not.
-/

namespace WhyUsb

open Endian

/-! ## What a copy touches -/

/-- Every byte of the wrapped copy is one of the data array. -/
def CopyWithin (absolute : UInt64) (len : Nat) : Prop := ∀ i, i < len → wrapIndex absolute len i < ringBufferSize

theorem copyWithin_of_le (absolute : UInt64) {len : Nat} (h : len ≤ ringBufferSize) : CopyWithin absolute len := by
  intro i hi
  have ho : absolute.toNat % ringBufferSize < ringBufferSize := Nat.mod_lt _ (by decide)
  unfold wrapIndex firstPart
  by_cases hfirst : i < min len (ringBufferSize - absolute.toNat % ringBufferSize)
  · rw [if_pos hfirst]
    omega
  · rw [if_neg hfirst]
    omega

theorem copyBytes_outside {absolute : UInt64} {len : Nat} (h : CopyWithin absolute len) {j : Nat}
    (hj : ringBufferSize ≤ j) (bs : List UInt8) :
    ∀ (data : Nat → UInt8) (i : Nat), i + bs.length = len → copyBytes data absolute len i bs j = data j := by
  induction bs with
  | nil =>
    intro data i _
    rfl
  | cons b bs ih =>
    intro data i hlen
    rw [List.length_cons] at hlen
    have hi : wrapIndex absolute len i < ringBufferSize := h i (by omega)
    rw [copyBytes, ih _ (i + 1) (by omega), Function.update_of_ne (by omega)]

theorem copyInto_outside {data : Nat → UInt8} {absolute : UInt64} {src : List UInt8}
    (h : CopyWithin absolute src.length) {j : Nat} (hj : ringBufferSize ≤ j) :
    copyInto data absolute src j = data j :=
  copyBytes_outside h hj src data 0 (Nat.zero_add _)

theorem copyFrom_congr {data data' : Nat → UInt8} {absolute : UInt64} {len : Nat} (h : CopyWithin absolute len)
    (hdata : ∀ j, j < ringBufferSize → data j = data' j) : copyFrom data absolute len = copyFrom data' absolute len := by
  apply List.map_congr_left
  intro i hi
  exact hdata _ (h i (List.mem_range.mp hi))

/-! ## Bounded calls -/

/-- A push whose `head - tail` and free space do not underflow, and which copies into the data array no more than it
holds. `evaluated` says that the length passed its own check, `accepted` that the frame was stored. -/
structure PushBounded (evaluated accepted : Prop) (r : Ring) (src : List UInt8) : Prop where
  used : evaluated → r.tail.toNat ≤ r.head.toNat
  space : evaluated → (r.head - r.tail).toNat ≤ ringBufferSize
  fits : accepted → framePrefixLen + src.length ≤ ringBufferSize
  lengthCopy : accepted → CopyWithin r.head framePrefixLen
  frameCopy : accepted → CopyWithin (r.head + UInt64.ofNat framePrefixLen) src.length

/-- A pop whose `head - tail` does not underflow, and which copies out of the data array no more than it holds.
`taken` are the frames that the call returns. -/
structure PopBounded (taken : List UInt8 → Prop) (r : Ring) : Prop where
  used : r.tail.toNat ≤ r.head.toNat
  lengthCopy : CopyWithin r.tail framePrefixLen
  fits : ∀ bytes, taken bytes → framePrefixLen + bytes.length ≤ ringBufferSize
  frameCopy : ∀ bytes, taken bytes → CopyWithin (r.tail + UInt64.ofNat framePrefixLen) bytes.length

def Spsc.PushBounded (r : Ring) (src : List UInt8) : Prop :=
  WhyUsb.PushBounded (Spsc.lenRejected src.length = false) ((Spsc.pushFrame r src).1 = true) r src

def Mapped.PushBounded (r : Ring) (frame : List UInt8) : Prop :=
  WhyUsb.PushBounded (frame.length ≤ uint32Max) ((Mapped.pushFrame r frame).1 = .ok ()) r frame

def Spsc.PopBounded (r : Ring) (maxLen : Nat) : Prop :=
  WhyUsb.PopBounded (fun bytes => (Spsc.popFrame r maxLen).1 = some bytes) r

def Mapped.PopBounded (r : Ring) (maxLen : Nat) : Prop :=
  WhyUsb.PopBounded (fun bytes => (Mapped.popFrame r maxLen).1 = .ok (some bytes)) r

section
variable {r : Ring} {src : List UInt8} {maxLen : Nat}

/-! ## What the calls accept -/

theorem lenRejected_eq_false {len : Nat} : Spsc.lenRejected len = false ↔ len ≤ uint32Max := by
  constructor
  · intro h
    rw [Spsc.lenRejected, Bool.or_eq_false_iff, decide_eq_false_iff_not] at h
    exact Nat.le_of_not_lt h.1
  · exact lenRejected_of_le

theorem Spsc.pushFrame_accepted : (Spsc.pushFrame r src).1 = true ↔
    src.length ≤ uint32Max ∧ framePrefixLen + src.length ≤ Spsc.availableSpace r.head r.tail := by
  rw [← lenRejected_eq_false]
  by_cases hlen : Spsc.lenRejected src.length = true
  · simp only [Spsc.pushFrame, hlen, if_true, Bool.false_eq_true, Bool.true_eq_false, false_and]
  · by_cases hspace : Spsc.availableSpace r.head r.tail < framePrefixLen + src.length
    · simp only [Spsc.pushFrame, hlen, hspace, Nat.not_le.mpr hspace, Bool.false_eq_true, if_false, if_true, and_false]
    · simp only [Spsc.pushFrame, hlen, hspace, Nat.le_of_not_lt hspace, Bool.false_eq_true, if_false, and_self]

theorem Spsc.pushFrame_head (h : (Spsc.pushFrame r src).1 = true) :
    (Spsc.pushFrame r src).2.head = r.head + UInt64.ofNat (framePrefixLen + src.length) := by
  obtain ⟨hlen, hspace⟩ := Spsc.pushFrame_accepted.mp h
  have hpassed : Spsc.lenRejected src.length = false := lenRejected_of_le hlen
  simp only [Spsc.pushFrame, hpassed, Nat.not_lt.mpr hspace, Bool.false_eq_true, if_false]

theorem Spsc.popFrame_taken {bytes : List UInt8} (h : (Spsc.popFrame r maxLen).1 = some bytes) :
    bytes.length ≤ maxLen := by
  by_cases hempty : (r.head - r.tail).toNat < framePrefixLen
  · simp only [Spsc.popFrame, hempty, if_true, reduceCtorEq] at h
  · by_cases hrefused : (r.head - r.tail).toNat < framePrefixLen + Spsc.peekU32 r.data r.tail ∨
        maxLen < Spsc.peekU32 r.data r.tail
    · simp only [Spsc.popFrame, hempty, hrefused, if_false, if_true, reduceCtorEq] at h
    · simp only [Spsc.popFrame, hempty, hrefused, if_false, Option.some.injEq] at h
      rw [← h, copyFrom, List.length_map, List.length_range]
      exact Nat.le_of_not_lt (not_or.mp hrefused).2

/-! ## When calls are bounded -/

theorem sub_toNat_of_le (h : r.tail.toNat ≤ r.head.toNat) :
    (r.head - r.tail).toNat = r.head.toNat - r.tail.toNat :=
  UInt64.toNat_sub_of_le _ _ (UInt64.le_iff_toNat_le.mpr h)

theorem availableSpace_le (hused : r.tail.toNat ≤ r.head.toNat) (hspace : r.head.toNat ≤ r.tail.toNat + ringBufferSize) :
    Spsc.availableSpace r.head r.tail ≤ ringBufferSize := by
  have h := availableSpace_ofNat hused hspace
  rw [UInt64.ofNat_toNat, UInt64.ofNat_toNat] at h
  exact h ▸ Nat.sub_le _ _

theorem pushBounded_iff {evaluated accepted : Prop} (hevaluated : evaluated ↔ src.length ≤ uint32Max)
    (haccepted : accepted ↔ (Spsc.pushFrame r src).1 = true) :
    PushBounded evaluated accepted r src ↔ uint32Max < src.length ∨
      r.tail.toNat ≤ r.head.toNat ∧ r.head.toNat ≤ r.tail.toNat + ringBufferSize := by
  constructor
  · intro h
    by_cases hlen : src.length ≤ uint32Max
    · have hused := h.used (hevaluated.mpr hlen)
      have hspace := h.space (hevaluated.mpr hlen)
      rw [sub_toNat_of_le hused] at hspace
      exact Or.inr ⟨hused, by omega⟩
    · exact Or.inl (Nat.lt_of_not_le hlen)
  · intro hbounds
    obtain hlong | ⟨hused, hspace⟩ := hbounds
    · -- the length check comes first, and nothing is evaluated or copied behind it
      have hrejected : ¬ evaluated := fun h => Nat.not_le.mpr hlong (hevaluated.mp h)
      have hrefused : ¬ accepted := fun h => Nat.not_le.mpr hlong (Spsc.pushFrame_accepted.mp (haccepted.mp h)).1
      exact ⟨fun h => absurd h hrejected, fun h => absurd h hrejected, fun h => absurd h hrefused,
        fun h => absurd h hrefused, fun h => absurd h hrefused⟩
    · have hfits : accepted → framePrefixLen + src.length ≤ ringBufferSize := fun h =>
        Nat.le_trans (Spsc.pushFrame_accepted.mp (haccepted.mp h)).2 (availableSpace_le hused hspace)
      refine ⟨fun _ => hused, fun _ => ?_, hfits, fun _ => copyWithin_of_le _ (by decide), fun h => ?_⟩
      · rw [sub_toNat_of_le hused]
        omega
      · exact copyWithin_of_le _ (Nat.le_trans (Nat.le_add_left ..) (hfits h))

theorem popBounded_iff {taken : List UInt8 → Prop}
    (htaken : ∀ bytes, taken bytes ↔ (Spsc.popFrame r maxLen).1 = some bytes)
    (hmax : framePrefixLen + maxLen ≤ ringBufferSize) : PopBounded taken r ↔ r.tail.toNat ≤ r.head.toNat := by
  constructor
  · intro h
    exact h.used
  · intro hused
    have hlen : ∀ bytes, taken bytes → framePrefixLen + bytes.length ≤ ringBufferSize := by
      intro bytes h
      have := Spsc.popFrame_taken ((htaken bytes).mp h)
      omega
    exact ⟨hused, copyWithin_of_le _ (by decide), hlen,
      fun bytes h => copyWithin_of_le _ (Nat.le_trans (Nat.le_add_left ..) (hlen bytes h))⟩

/-! A bounded push stores nothing behind the data array, and a bounded pop reads nothing there. -/

theorem Spsc.PushBounded.outside (h : Spsc.PushBounded r src) {j : Nat} (hj : ringBufferSize ≤ j) :
    (Spsc.pushFrame r src).2.data j = r.data j := by
  cases haccepted : (Spsc.pushFrame r src).1 with
  | false => rw [pushFrame_refused r haccepted]
  | true =>
    obtain ⟨hlen, hspace⟩ := Spsc.pushFrame_accepted.mp haccepted
    have hpassed : Spsc.lenRejected src.length = false := lenRejected_of_le hlen
    have hlength : CopyWithin r.head (beBytes 4 src.length).length := by
      rw [beBytes_length]
      exact h.lengthCopy haccepted
    simp only [Spsc.pushFrame, hpassed, Nat.not_lt.mpr hspace, Bool.false_eq_true, if_false]
    rw [copyInto_outside (h.frameCopy haccepted) hj, copyInto_outside hlength hj]

theorem Spsc.PopBounded.inside (h : Spsc.PopBounded r maxLen) {data : Nat → UInt8}
    (hdata : ∀ j, j < ringBufferSize → data j = r.data j) :
    (Spsc.popFrame { r with data := data } maxLen).1 = (Spsc.popFrame r maxLen).1 := by
  have hpeek : Spsc.peekU32 data r.tail = Spsc.peekU32 r.data r.tail := by
    rw [Spsc.peekU32, Spsc.peekU32, copyFrom_congr h.lengthCopy hdata]
  by_cases hempty : (r.head - r.tail).toNat < framePrefixLen
  · simp only [Spsc.popFrame, hempty, if_true]
  · by_cases hrefused : (r.head - r.tail).toNat < framePrefixLen + Spsc.peekU32 r.data r.tail ∨
        maxLen < Spsc.peekU32 r.data r.tail
    · simp only [Spsc.popFrame, hpeek, hempty, hrefused, if_false, if_true]
    · have hframe := h.frameCopy (copyFrom r.data (r.tail + UInt64.ofNat framePrefixLen) (Spsc.peekU32 r.data r.tail))
        (by simp only [Spsc.popFrame, hempty, hrefused, if_false])
      rw [copyFrom, List.length_map, List.length_range] at hframe
      simp only [Spsc.popFrame, hpeek, hempty, hrefused, if_false, copyFrom_congr hframe hdata]

end

/-- For any cursors, data bytes and frame, pushes are bounded exactly when the frame is too long for its length field or
the cursors are in order and at most a ring apart; pops with room for a frame of the ring are, exactly when the cursors
are in order. -/
theorem calls_bounded_iff (r : Ring) :
    (∀ src, (Spsc.PushBounded r src ↔ uint32Max < src.length ∨
        r.tail.toNat ≤ r.head.toNat ∧ r.head.toNat ≤ r.tail.toNat + ringBufferSize) ∧
      (Mapped.PushBounded r src ↔ uint32Max < src.length ∨
        r.tail.toNat ≤ r.head.toNat ∧ r.head.toNat ≤ r.tail.toNat + ringBufferSize)) ∧
      ∀ maxLen, maxLen ≤ 1048572 → (Spsc.PopBounded r maxLen ↔ r.tail.toNat ≤ r.head.toNat) ∧
        (Mapped.PopBounded r maxLen ↔ r.tail.toNat ≤ r.head.toNat) := by
  constructor
  · intro src
    exact ⟨pushBounded_iff lenRejected_eq_false Iff.rfl, pushBounded_iff Iff.rfl (pushFrame_agrees r src).1.symm⟩
  · intro maxLen hmax
    have hroom : framePrefixLen + maxLen ≤ ringBufferSize := by
      rw [framePrefixLen, ringBufferSize]
      omega
    exact ⟨popBounded_iff (fun _ => Iff.rfl) hroom,
      popBounded_iff (fun bytes => ((popFrame_agrees r maxLen).1 bytes).symm) hroom⟩

/-- A ring whose consumer has moved its cursor ahead of an empty ring. -/
def farTail : Ring where
  head := 0
  tail := 4294967296
  data := fun _ => 0

theorem farTail_not_bounded : ¬ Spsc.PushBounded farTail (List.replicate 3000000 0) := by
  intro h
  have hlen : (List.replicate 3000000 (0 : UInt8)).length = 3000000 := List.length_replicate
  have haccepted : (Spsc.pushFrame farTail (List.replicate 3000000 0)).1 = true := by
    rw [Spsc.pushFrame_accepted, hlen]
    decide
  -- the last byte of the frame is stored behind the data array
  have hlast := h.frameCopy haccepted 2999999 (by rw [hlen]; decide)
  rw [hlen] at hlast
  exact absurd hlast (by decide)

end WhyUsb
