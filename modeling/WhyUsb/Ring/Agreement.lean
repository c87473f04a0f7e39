import WhyUsb.Ring.Frames

/-!
# The driver's ring and the daemon's agree

`SPSC_RingBuffer` and `MappedRing` work on the same bytes. Their wrapped copies
store and read the same cells, so whatever the prefix bytes say they accept the
same pushes and pops and leave the same ring; they differ in the order of the
checks of a pop, and in what a refusal is called.
-/

namespace WhyUsb

variable (r : Ring)

/-! ## `push_frame` -/

theorem pushFrame_agrees (f : List UInt8) :
    ((Spsc.pushFrame r f).1 = true ↔ (Mapped.pushFrame r f).1 = .ok ()) ∧
      (Spsc.pushFrame r f).2 = (Mapped.pushFrame r f).2 := by
  rcases Nat.lt_or_ge uint32Max f.length with hlong | hshort
  · have hrejected : Spsc.lenRejected f.length = true := by
      rw [Spsc.lenRejected, decide_eq_true hlong, Bool.true_or]
    unfold Spsc.pushFrame Mapped.pushFrame
    rw [if_pos hrejected, if_pos hlong]
    exact ⟨iff_of_false Bool.false_ne_true (fun h => by cases h), rfl⟩
  · have haccepted : Spsc.lenRejected f.length = false := lenRejected_of_le hshort
    have hlimit : ¬ uint32Max < f.length := Nat.not_lt.mpr hshort
    by_cases hroom : Spsc.availableSpace r.head r.tail < framePrefixLen + f.length
    · simp only [Spsc.pushFrame, Mapped.pushFrame, Mapped.availableSpace_eq, haccepted, hlimit, hroom, Bool.false_eq_true, if_false, if_true]
      exact ⟨iff_of_false not_false (fun h => by cases h), trivial⟩
    · simp only [Spsc.pushFrame, Mapped.pushFrame, Mapped.availableSpace_eq, haccepted, hlimit, hroom, Bool.false_eq_true, if_false,
        writeWrapped_eq_copyInto, and_self]

theorem pushFrame_refused {f : List UInt8} (h : (Spsc.pushFrame r f).1 = false) : (Spsc.pushFrame r f).2 = r := by
  by_cases hlen : Spsc.lenRejected f.length = true
  · simp only [Spsc.pushFrame, hlen, if_true]
  · by_cases hroom : Spsc.availableSpace r.head r.tail < framePrefixLen + f.length
    · simp only [Spsc.pushFrame, hlen, hroom, Bool.false_eq_true, if_false, if_true]
    · simp only [Spsc.pushFrame, hlen, hroom, Bool.false_eq_true, if_false, Bool.true_eq_false] at h

/-! ## `pop_frame` -/

theorem popFrame_agrees (maxLen : Nat) :
    (∀ bytes, (Spsc.popFrame r maxLen).1 = some bytes ↔ (Mapped.popFrame r maxLen).1 = .ok (some bytes)) ∧
      (Spsc.popFrame r maxLen).2 = (Mapped.popFrame r maxLen).2 := by
  unfold Spsc.popFrame Mapped.popFrame
  dsimp only
  rw [readWrapped_eq_copyFrom, ← Spsc.peekU32]
  split
  · exact ⟨fun _ => ⟨fun h => (by cases h), fun h => (by cases h)⟩, rfl⟩
  · rcases Nat.lt_or_ge maxLen (Spsc.peekU32 r.data r.tail) with hlong | hshort
    · rw [if_pos (Or.inr hlong), if_pos hlong]
      exact ⟨fun _ => ⟨fun h => (by cases h), fun h => (by cases h)⟩, rfl⟩
    · rw [if_neg (Nat.not_lt.mpr hshort)]
      by_cases hincomplete : (r.head - r.tail).toNat < framePrefixLen + Spsc.peekU32 r.data r.tail
      · rw [if_pos (Or.inl hincomplete), if_pos hincomplete]
        exact ⟨fun _ => ⟨fun h => (by cases h), fun h => (by cases h)⟩, rfl⟩
      · rw [if_neg (fun h => h.elim hincomplete (Nat.not_lt.mpr hshort)), if_neg hincomplete, readWrapped_eq_copyFrom]
        exact ⟨fun _ => by rw [Option.some.injEq, Except.ok.injEq, Option.some.injEq], rfl⟩

theorem popFrame_refused {maxLen : Nat} (h : (Spsc.popFrame r maxLen).1 = none) : (Spsc.popFrame r maxLen).2 = r := by
  unfold Spsc.popFrame at h ⊢
  dsimp only at h ⊢
  split
  · rfl
  · rename_i hprefix
    rw [if_neg hprefix] at h
    split
    · rfl
    · rename_i hframe
      rw [if_neg hframe] at h
      cases h

/-- For any cursors, data bytes, frame and buffer length, the two implementations do the same to the ring, and a
refusal does nothing. -/
theorem rings_agree (f : List UInt8) (maxLen : Nat) :
    ((Spsc.pushFrame r f).1 = true ↔ (Mapped.pushFrame r f).1 = .ok ()) ∧
      (Spsc.pushFrame r f).2 = (Mapped.pushFrame r f).2 ∧
      (∀ bytes, (Spsc.popFrame r maxLen).1 = some bytes ↔ (Mapped.popFrame r maxLen).1 = .ok (some bytes)) ∧
      (Spsc.popFrame r maxLen).2 = (Mapped.popFrame r maxLen).2 ∧
      ((Spsc.pushFrame r f).1 = false → (Spsc.pushFrame r f).2 = r ∧ (Mapped.pushFrame r f).2 = r) ∧
      ((Spsc.popFrame r maxLen).1 = none → (Spsc.popFrame r maxLen).2 = r ∧ (Mapped.popFrame r maxLen).2 = r) := by
  obtain ⟨hpush, hpushed⟩ := pushFrame_agrees r f
  obtain ⟨hpop, hpopped⟩ := popFrame_agrees r maxLen
  refine ⟨hpush, hpushed, hpop, hpopped, fun h => ?_, fun h => ?_⟩
  · rw [← hpushed]
    exact ⟨pushFrame_refused r h, pushFrame_refused r h⟩
  · rw [← hpopped]
    exact ⟨popFrame_refused r h, popFrame_refused r h⟩

end WhyUsb
