import WhyUsb.Ring.Interleaving

/-!
# A third party reads the cursors

`get_driver_status` calls `available_data` on rings whose ends belong to others.
Its two loads are no snapshot: whole calls of both sides run between them, and
the head it has loaded stays behind while the tail moves on. A producer or a
consumer that asks for itself owns one of the cursors and has no such gap.
-/

namespace WhyUsb

open Lts

inductive Observer where
  | loadTail (head : UInt64)
  | returned (availableData : UInt64)
  deriving DecidableEq, Repr

/-- The ring and the observer. `queued` is what the ring held when the head was loaded, `taken` what the consumer has
taken out since; both count bytes with their prefixes. -/
structure ObservedRing where
  ring : Ring
  observer : Observer
  queued : Nat
  taken : Nat

inductive ObservedAct where
  | pushFrame (side : RingSide) (frame : List UInt8)
  | popFrame (side : RingSide) (maxLen : Nat)
  | loadHead
  | loadTail

namespace ObservedRing

def loadHead (s : ObservedRing) : Option ObservedRing :=
  match s.observer with
  | .returned _ => some
      { s with
        observer := .loadTail s.ring.head
        queued := (s.ring.head - s.ring.tail).toNat
        taken := 0 }
  | .loadTail _ => none

def loadTail (s : ObservedRing) : Option ObservedRing :=
  match s.observer with
  | .loadTail head => some { s with observer := .returned (head - s.ring.tail) }
  | .returned _ => none

def step (s : ObservedRing) : ObservedAct → Option ObservedRing
  | .pushFrame side frame => some { s with ring := (RingSys.pushFrame side s.ring frame).2 }
  | .popFrame side maxLen =>
    let ring := (RingSys.popFrame side s.ring maxLen).2
    some { s with
      ring := ring
      taken := s.taken + (ring.tail - s.ring.tail).toNat }
  | .loadHead => s.loadHead
  | .loadTail => s.loadTail

def init (r : Ring) : ObservedRing where
  ring := r
  observer := .returned 0
  queued := 0
  taken := 0

/-- What `available_data` has returned fits the ring, so that `available_space` does not underflow, and the 32 bits of
`tx_queued_bytes` and `rx_queued_bytes`. -/
def InRange (s : ObservedRing) : Prop :=
  ∀ value, s.observer = .returned value → value.toNat ≤ ringBufferSize ∧ value.toUInt32.toNat = value.toNat

/-- The consumer has gone past the loaded head, and has not come round to it by a whole turn of the cursors. -/
def Overtaken (s : ObservedRing) : Prop :=
  s.queued < s.taken ∧ 0 < (s.taken - s.queued) % 2 ^ 64 ∧ (s.taken - s.queued) % 2 ^ 64 < 2 ^ 64 - ringBufferSize

/-- The second load of an observer that has been overtaken. -/
def LoadsLate (s : ObservedRing) (a : ObservedAct) : Prop :=
  a = .loadTail ∧ (∃ head, s.observer = .loadTail head) ∧ s.Overtaken

end ObservedRing

/-! ## What the calls do to the cursors -/

theorem RingSys.pushFrame_cursors (side : RingSide) (r : Ring) (f : List UInt8) :
    (RingSys.pushFrame side r f).2 = r ∨
      ∃ n data, n ≤ Spsc.availableSpace r.head r.tail ∧
        (RingSys.pushFrame side r f).2 = { r with head := r.head + UInt64.ofNat n, data := data } := by
  cases hlen : lenRefusal side f.length with
  | some result =>
    rw [pushFrame_refused hlen]
    exact Or.inl rfl
  | none =>
    rw [pushFrame_admitted hlen]
    by_cases hspace : Spsc.availableSpace r.head r.tail < framePrefixLen + f.length
    · rw [if_pos hspace]
      exact Or.inl rfl
    · rw [if_neg hspace]
      exact Or.inr ⟨framePrefixLen + f.length, _, Nat.le_of_not_lt hspace, rfl⟩

theorem RingSys.popRefusal_none {side : RingSide} {available frameLen maxLen : Nat}
    (h : popRefusal side available frameLen maxLen = none) : framePrefixLen + frameLen ≤ available := by
  cases side with
  | spsc =>
    rw [popRefusal, ite_eq_right_iff] at h
    by_cases hshort : available < framePrefixLen + frameLen
    · exact absurd (h (Or.inl hshort)) (by simp)
    · exact Nat.le_of_not_lt hshort
  | mapped =>
    rw [popRefusal] at h
    by_cases hbig : maxLen < frameLen
    · simp [hbig] at h
    · by_cases hshort : available < framePrefixLen + frameLen
      · simp [hbig, hshort] at h
      · exact Nat.le_of_not_lt hshort

theorem RingSys.popFrame_cursors (side : RingSide) (r : Ring) (maxLen : Nat) :
    (RingSys.popFrame side r maxLen).2 = r ∨
      ∃ n, n ≤ (r.head - r.tail).toNat ∧
        (RingSys.popFrame side r maxLen).2 = { r with tail := r.tail + UInt64.ofNat n } := by
  by_cases hempty : (r.head - r.tail).toNat < framePrefixLen
  · rw [popFrame_empty side maxLen hempty]
    exact Or.inl rfl
  · cases hrefusal : popRefusal side (r.head - r.tail).toNat (Endian.beNat (copyFrom r.data r.tail framePrefixLen)) maxLen with
    | some result =>
      rw [popFrame_refused side hempty hrefusal]
      exact Or.inl rfl
    | none =>
      exact Or.inr ⟨framePrefixLen + Endian.beNat (copyFrom r.data r.tail framePrefixLen), popRefusal_none hrefusal,
        congrArg Prod.snd (popFrame_admitted side hempty hrefusal)⟩

/-! ## The invariant -/

namespace ObservedRing

/-- The ring holds no more than fits, and what the observer is about to subtract is what was queued less what was taken. -/
structure Inv (s : ObservedRing) : Prop where
  cursors : (s.ring.head - s.ring.tail).toNat ≤ ringBufferSize
  loaded : ∀ head, s.observer = .loadTail head → s.queued ≤ ringBufferSize ∧
    head - s.ring.tail = UInt64.ofNat s.queued - UInt64.ofNat s.taken

/-! The differences of moved cursors, in wrapping arithmetic. -/

theorem availableSpace_eq {head tail : UInt64} (hused : (head - tail).toNat ≤ ringBufferSize) :
    Spsc.availableSpace head tail = ringBufferSize - (head - tail).toNat := by
  have hsize : (UInt64.ofNat ringBufferSize).toNat = ringBufferSize := by decide
  rw [Spsc.availableSpace, UInt64.toNat_sub_of_le _ _ (UInt64.le_iff_toNat_le.mpr (by rwa [hsize])), hsize]

theorem moved_head {head tail : UInt64} {n : Nat} (hused : (head - tail).toNat ≤ ringBufferSize)
    (hn : n ≤ Spsc.availableSpace head tail) : (head + UInt64.ofNat n - tail).toNat ≤ ringBufferSize := by
  have hsize : ringBufferSize < 2 ^ 64 := by decide
  have hmoved : head + UInt64.ofNat n - tail = (head - tail) + UInt64.ofNat n := by grind
  rw [availableSpace_eq hused] at hn
  rw [hmoved, UInt64.toNat_add, UInt64.toNat_ofNat', Nat.add_mod_mod, Nat.mod_eq_of_lt (by omega)]
  omega

theorem moved_tail {head tail : UInt64} {n : Nat} (hn : n ≤ (head - tail).toNat) :
    (head - (tail + UInt64.ofNat n)).toNat = (head - tail).toNat - n := by
  have hmoved : head - (tail + UInt64.ofNat n) = (head - tail) - UInt64.ofNat n := by grind
  have hlt := (head - tail).toNat_lt
  have hnat : (UInt64.ofNat n).toNat = n := by rw [UInt64.toNat_ofNat', Nat.mod_eq_of_lt (by omega)]
  rw [hmoved, UInt64.toNat_sub_of_le _ _ (UInt64.le_iff_toNat_le.mpr (by omega)), hnat]

section
variable {s s' : ObservedRing}

theorem pushFrame_inv (h : Inv s) (side : RingSide) (f : List UInt8) :
    Inv { s with ring := (RingSys.pushFrame side s.ring f).2 } := by
  obtain hsame | ⟨n, data, hn, hring⟩ := RingSys.pushFrame_cursors side s.ring f
  · rw [hsame]
    exact h
  · rw [hring]
    exact ⟨moved_head h.cursors hn, fun head hloaded => h.loaded head hloaded⟩

theorem popFrame_inv (h : Inv s) (side : RingSide) (maxLen : Nat)
    (hs : step s (.popFrame side maxLen) = some s') : Inv s' := by
  rw [step, Option.some.injEq] at hs
  subst hs
  obtain hsame | ⟨n, hn, hring⟩ := RingSys.popFrame_cursors side s.ring maxLen
  · rw [hsame, UInt64.sub_self]
    exact h
  · have hmoved : s.ring.tail + UInt64.ofNat n - s.ring.tail = UInt64.ofNat n := by grind
    rw [hring]
    refine ⟨?_, fun head hloaded => ?_⟩
    · dsimp only
      rw [moved_tail hn]
      exact Nat.le_trans (Nat.sub_le _ _) h.cursors
    · obtain ⟨hqueued, hdiff⟩ := h.loaded head hloaded
      refine ⟨hqueued, ?_⟩
      dsimp only
      rw [hmoved, UInt64.ofNat_add, UInt64.ofNat_toNat]
      grind

theorem loadHead_inv (h : Inv s) (hs : loadHead s = some s') : Inv s' := by
  unfold loadHead at hs
  cases hobserver : s.observer with
  | loadTail head =>
    rw [hobserver] at hs
    cases hs
  | returned value =>
    rw [hobserver, Option.some.injEq] at hs
    subst hs
    refine ⟨h.cursors, fun head hloaded => ?_⟩
    cases hloaded
    refine ⟨h.cursors, ?_⟩
    dsimp only
    rw [UInt64.ofNat_toNat]
    exact (UInt64.sub_zero _).symm

theorem loadTail_inv (h : Inv s) (hs : loadTail s = some s') : Inv s' := by
  unfold loadTail at hs
  cases hobserver : s.observer with
  | returned value =>
    rw [hobserver] at hs
    cases hs
  | loadTail head =>
    rw [hobserver, Option.some.injEq] at hs
    subst hs
    exact ⟨h.cursors, fun head hloaded => by cases hloaded⟩

theorem step_inv {a : ObservedAct} (h : Inv s) (hs : step s a = some s') : Inv s' := by
  cases a with
  | pushFrame side frame =>
    rw [step, Option.some.injEq] at hs
    exact hs ▸ pushFrame_inv h side frame
  | popFrame side maxLen => exact popFrame_inv h side maxLen hs
  | loadHead => exact loadHead_inv h hs
  | loadTail => exact loadTail_inv h hs

/-! ## What is returned -/

theorem difference_le_iff {queued taken : Nat} (hqueued : queued ≤ ringBufferSize) :
    (UInt64.ofNat queued - UInt64.ofNat taken).toNat ≤ ringBufferSize ↔
      ¬ (queued < taken ∧ 0 < (taken - queued) % 2 ^ 64 ∧ (taken - queued) % 2 ^ 64 < 2 ^ 64 - ringBufferSize) := by
  rw [ringBufferSize] at hqueued ⊢
  rw [UInt64.toNat_sub, UInt64.toNat_ofNat', UInt64.toNat_ofNat']
  omega

theorem toUInt32_toNat {value : UInt64} (h : value.toNat ≤ ringBufferSize) : value.toUInt32.toNat = value.toNat := by
  have hsize : ringBufferSize < 2 ^ 32 := by decide
  rw [UInt64.toNat_toUInt32, Nat.mod_eq_of_lt (by omega)]

theorem loadTail_inRange_iff {head : UInt64} (h : Inv s) (hobserver : s.observer = .loadTail head)
    (hs : loadTail s = some s') : s'.InRange ↔ ¬ s.Overtaken := by
  obtain ⟨hqueued, hdiff⟩ := h.loaded head hobserver
  rw [loadTail, hobserver, Option.some.injEq] at hs
  subst hs
  rw [Overtaken, ← difference_le_iff hqueued, ← hdiff]
  constructor
  · intro hrange
    exact (hrange _ rfl).1
  · intro hle value hvalue
    cases hvalue
    exact ⟨hle, toUInt32_toNat hle⟩

theorem step_inRange {a : ObservedAct} (hrange : s.InRange) (ha : a ≠ .loadTail) (hs : step s a = some s') :
    s'.InRange := by
  cases a with
  | pushFrame side frame =>
    rw [step, Option.some.injEq] at hs
    exact hs ▸ hrange
  | popFrame side maxLen =>
    rw [step, Option.some.injEq] at hs
    exact hs ▸ hrange
  | loadHead =>
    rw [step, loadHead] at hs
    cases hobserver : s.observer with
    | loadTail head =>
      rw [hobserver] at hs
      cases hs
    | returned value =>
      rw [hobserver, Option.some.injEq] at hs
      subst hs
      intro value hvalue
      cases hvalue
  | loadTail => exact absurd rfl ha

theorem step_inRange_iff {a : ObservedAct} (h : Inv s) (hrange : s.InRange) :
    (∀ s', step s a = some s' → s'.InRange) ↔ ¬ s.LoadsLate a := by
  by_cases ha : a = .loadTail
  · subst ha
    cases hobserver : s.observer with
    | returned value =>
      have hnone : step s .loadTail = none := by rw [step, loadTail, hobserver]
      refine iff_of_true (fun s' hs => ?_) (fun hlate => ?_)
      · rw [hnone] at hs
        cases hs
      · obtain ⟨-, ⟨head, hhead⟩, -⟩ := hlate
        rw [hobserver] at hhead
        cases hhead
    | loadTail head =>
      have hsome : step s .loadTail = some { s with observer := .returned (head - s.ring.tail) } := by
        rw [step, loadTail, hobserver]
      have hiff := loadTail_inRange_iff h hobserver hsome
      constructor
      · intro hall hlate
        exact hiff.mp (hall _ hsome) hlate.2.2
      · intro hlate s' hs
        rw [hsome, Option.some.injEq] at hs
        exact hs ▸ hiff.mpr fun hovertaken => hlate ⟨rfl, ⟨head, hobserver⟩, hovertaken⟩
  · exact iff_of_true (fun s' hs => step_inRange hrange ha hs) (fun hlate => ha hlate.1)

end

theorem init_inv {r : Ring} (hr : (r.head - r.tail).toNat ≤ ringBufferSize) : Inv (init r) :=
  ⟨hr, fun head hloaded => by cases hloaded⟩

theorem init_inRange (r : Ring) : (init r).InRange := by
  intro value hvalue
  cases hvalue
  exact ⟨Nat.zero_le _, rfl⟩

/-- In every run of whole calls and observations: all returned sizes are in range exactly when no observer loads the tail
after the consumer has overtaken the head it holds. -/
theorem sizes_inRange_iff (r : Ring) (hr : (r.head - r.tail).toNat ≤ ringBufferSize) (acts : List ObservedAct) :
    Along step (fun s a => ∀ s', step s a = some s' → s'.InRange) (init r) acts ↔
      Along step (fun s a => ¬ s.LoadsLate a) (init r) acts := by
  refine along_iff (P := fun s => Inv s ∧ s.InRange) ?_ ?_ ⟨init_inv hr, init_inRange r⟩
  · intro s a h
    exact step_inRange_iff h.1 h.2
  · intro s a s' h hrange hs
    exact ⟨step_inv h.1 hs, hrange s' hs⟩

def emptyRing : Ring where
  head := 0
  tail := 0
  data := fun _ => 0

/-- Two frames, of two bytes and of one. -/
def heldRing : Ring := (RingSys.pushFrame .mapped (RingSys.pushFrame .spsc emptyRing [1, 2]).2 [3]).2

/-- A frame comes in and the first one goes out between the two loads. -/
def interleavedRun : List ObservedAct :=
  [.loadHead, .pushFrame .spsc [4, 5], .popFrame .mapped 65536, .loadTail]

theorem sizes_inRange_iff_interleaved :
    (run step (init heldRing) interleavedRun).map (·.observer) = some (.returned 5) ∧
      Along step (fun s a => ∀ s', step s a = some s' → s'.InRange) (init heldRing) interleavedRun := by
  refine ⟨by decide +kernel, (sizes_inRange_iff heldRing (by decide +kernel) interleavedRun).mpr ?_⟩
  unfold interleavedRun
  refine along_cons_of_step rfl ?_ (along_cons_of_step rfl ?_ (along_cons_of_step rfl ?_
    (along_cons_of_step rfl ?_ trivial)))
  · exact fun hlate => by cases hlate.1
  · exact fun hlate => by cases hlate.1
  · exact fun hlate => by cases hlate.1
  · -- eleven bytes were queued at the first load, six are taken
    exact fun hlate => absurd hlate.2.2.1 (by decide +kernel)

/-- One frame goes through the empty ring between the two loads. -/
def overtakenRun : List ObservedAct := [.loadHead, .pushFrame .spsc [1], .popFrame .mapped 65536, .loadTail]

theorem overtakenRun_not_inRange : ¬ ∀ (acts : List ObservedAct) (s : ObservedRing),
    run step (init emptyRing) acts = some s → s.InRange := by
  intro h
  have hrun : (run step (init emptyRing) overtakenRun).map (·.observer) = some (.returned (0 - 5)) := by decide +kernel
  obtain ⟨s, hs, hobserver⟩ := Option.map_eq_some_iff.mp hrun
  exact absurd (h overtakenRun s hs _ hobserver).1 (by decide)

end ObservedRing

end WhyUsb
