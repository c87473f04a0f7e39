import Mathlib.Data.List.Induction
import WhyUsb.Driver.Mock

/-!
# What one pump keeps

`mock_driver_pump_once` pops a frame from the RX ring and then pushes it on the
TX ring. Where the push is refused the frame is in neither ring: the pump keeps
the frames of both rings exactly when the TX ring has room for the frame that
the pop takes.
-/

namespace WhyUsb

def Contains (r : Ring) (q : List (List UInt8)) : Prop := ∃ pos, Holds r pos q

theorem Contains.length_eq {r : Ring} {q q' : List (List UInt8)} (h : Contains r q) (h' : Contains r q') :
    (entries q).length = (entries q').length := by
  obtain ⟨pos, h⟩ := h
  obtain ⟨pos', h'⟩ := h'
  rw [← h.diff, ← h'.diff]

theorem Contains.not_tail {r : Ring} {f : List UInt8} {q : List (List UInt8)} (h : Contains r (f :: q)) :
    ¬ Contains r q := fun h' => by
  have := h.length_eq h'
  rw [entries_cons, List.length_append, entry_length] at this
  omega

/-- The pump returns true exactly when it moved the first frame of `rx` to the end of `tx`, and false leaves both. -/
def PumpKeeps (m : SharedMemoryContext) (rx tx : List (List UInt8)) : Prop :=
  ((mockDriverPumpOnce (some m)).1 = true ↔ ∃ f rest m', rx = f :: rest ∧
      (mockDriverPumpOnce (some m)).2 = some m' ∧ Contains m'.rxRing rest ∧ Contains m'.txRing (tx ++ [f])) ∧
    ((mockDriverPumpOnce (some m)).1 = false → ∃ m', (mockDriverPumpOnce (some m)).2 = some m' ∧
      Contains m'.rxRing rx ∧ Contains m'.txRing tx)

section
variable {m : SharedMemoryContext} {rxPos txPos : Nat} {rx tx : List (List UInt8)}

/-- The pump, by what the pop and the push do. -/
theorem pump_cases (hrx : Holds m.rxRing rxPos rx) (htx : Holds m.txRing txPos tx) :
    (mockDriverPumpOnce (some m) = (false, some m) ∧ ∀ f rest, rx = f :: rest → pumpBufferSize < f.length) ∨
      ∃ f rest m', rx = f :: rest ∧ f.length ≤ pumpBufferSize ∧ Contains m'.rxRing rest ∧
        ((mockDriverPumpOnce (some m) = (true, some m') ∧ Contains m'.txRing (tx ++ [f]) ∧
            (entries tx).length + (4 + f.length) ≤ ringBufferSize) ∨
          (mockDriverPumpOnce (some m) = (false, some m') ∧ ringBufferSize < (entries tx).length + (4 + f.length))) := by
  rcases hpop : Spsc.popFrame m.rxRing pumpBufferSize with ⟨frame, rxRing⟩
  rcases Spsc.popFrame_cases hrx pumpBufferSize with ⟨f, rest, hq, hfits, hok, hholds⟩ | ⟨hnone, hlong⟩
  · rw [hpop] at hok hholds
    dsimp only at hok hholds
    subst hok
    right
    rcases hpush : Spsc.pushFrame m.txRing f with ⟨pushed, txRing⟩
    rcases Spsc.pushFrame_cases htx f with ⟨htrue, hroom, hholds'⟩ | ⟨hfalse, hfull⟩
    · rw [hpush] at htrue hholds'
      dsimp only at htrue hholds'
      subst htrue
      refine ⟨f, rest, { rxRing := rxRing, txRing := txRing }, hq, hfits, ⟨_, hholds⟩, Or.inl ⟨?_, ⟨_, hholds'⟩, hroom⟩⟩
      simp only [mockDriverPumpOnce, hpop, hpush]
    · refine ⟨f, rest, { rxRing := rxRing, txRing := m.txRing }, hq, hfits, ⟨_, hholds⟩, Or.inr ⟨?_, hfull⟩⟩
      simp only [mockDriverPumpOnce, hpop, hfalse]
  · rw [hpop] at hnone
    cases hnone
    left
    refine ⟨?_, hlong⟩
    simp only [mockDriverPumpOnce, hpop]

/-- The pump keeps all frames exactly when the TX ring has room for the frame it takes, if it takes one: the first
of the RX ring, when that fits the pump's buffer. -/
theorem pumpKeeps_iff (hrx : Holds m.rxRing rxPos rx) (htx : Holds m.txRing txPos tx) :
    PumpKeeps m rx tx ↔ ∀ f rest, rx = f :: rest → f.length ≤ pumpBufferSize →
      framePrefixLen + f.length ≤ Spsc.availableSpace m.txRing.head m.txRing.tail := by
  have hfits := htx.fits
  rw [htx.availableSpace, framePrefixLen_eq]
  rcases pump_cases hrx htx with ⟨hpump, hlong⟩ | ⟨f, rest, m', rfl, hshort, hrest, ⟨hpump, hmoved, hroom⟩ | ⟨hpump, hfull⟩⟩
  · refine iff_of_true ⟨?_, fun _ => ⟨m, by rw [hpump], ⟨_, hrx⟩, ⟨_, htx⟩⟩⟩ ?_
    · rw [hpump]
      refine iff_of_false Bool.false_ne_true ?_
      rintro ⟨f, rest, m', rfl, hm', hrest, -⟩
      obtain rfl := Option.some.inj hm'
      exact Contains.not_tail ⟨_, hrx⟩ hrest
    · intro f rest hq hf
      have := hlong f rest hq
      omega
  · refine iff_of_true ⟨?_, fun hfalse => ?_⟩ ?_
    · rw [hpump]
      exact iff_of_true rfl ⟨f, rest, m', rfl, rfl, hrest, hmoved⟩
    · rw [hpump] at hfalse
      cases hfalse
    · rintro _ _ ⟨⟩ -
      omega
  · refine iff_of_false ?_ fun h => ?_
    · rintro ⟨-, hkept⟩
      obtain ⟨m'', hm'', hall, -⟩ := hkept (by rw [hpump])
      rw [hpump] at hm''
      obtain rfl := Option.some.inj hm''
      exact hall.not_tail hrest
    · have := h f rest rfl hshort
      omega

end

/-- A ring with one frame, and an empty one. -/
theorem pumpKeeps_iff_one :
    PumpKeeps { rxRing := (Spsc.pushFrame SharedMemoryContext.new.rxRing [1, 2, 3]).2
                txRing := SharedMemoryContext.new.txRing } ([] ++ [[1, 2, 3]]) [] ↔
      ∀ (f : List UInt8) (rest : List (List UInt8)), [] ++ [[1, 2, 3]] = f :: rest → f.length ≤ pumpBufferSize →
        framePrefixLen + f.length ≤
          Spsc.availableSpace SharedMemoryContext.new.txRing.head SharedMemoryContext.new.txRing.tail :=
  @pumpKeeps_iff
    { rxRing := (Spsc.pushFrame SharedMemoryContext.new.rxRing [1, 2, 3]).2, txRing := SharedMemoryContext.new.txRing }
    _ _ _ _ (Spsc.pushFrame_ok (holds_nil rfl) (by decide)).2.1 (holds_nil rfl)

/-! ## A full TX ring -/

theorem entries_length (q : List (List UInt8)) : (entries q).length = (q.map fun f => 4 + f.length).sum := by
  rw [entries, List.length_flatMap]
  simp only [entry_length]

theorem exists_holds (q : List (List UInt8)) (h : (entries q).length ≤ ringBufferSize) : ∃ r, Contains r q := by
  induction q using List.reverseRecOn with
  | nil => exact ⟨SharedMemoryContext.new.rxRing, _, holds_nil rfl⟩
  | append_singleton q f ih =>
    rw [entries_append, List.length_append, entries_cons, entries_nil, List.append_nil, entry_length] at h
    obtain ⟨r, pos, hr⟩ := ih (by omega)
    exact ⟨(Spsc.pushFrame r f).2, pos, (Spsc.pushFrame_ok hr h).2.1⟩

/-- One empty frame, and a pump that was polled too late: the sixteen frames of 65532 bytes before it fill the TX
ring. -/
theorem fullTxRing_not_kept : ¬ ∀ (m : SharedMemoryContext) (rx tx : List (List UInt8)), Contains m.rxRing rx →
    Contains m.txRing tx → PumpKeeps m rx tx := by
  intro h
  obtain ⟨payload, hpayload⟩ : ∃ payload : List UInt8, payload.length = 65532 :=
    ⟨List.replicate 65532 0, List.length_replicate⟩
  have hfull : (entries (List.replicate 16 payload)).length = ringBufferSize := by
    rw [entries_length, List.map_replicate, List.sum_replicate_nat, hpayload, ringBufferSize]
  obtain ⟨txRing, txPos, htx⟩ := exists_holds (List.replicate 16 payload) (Nat.le_of_eq hfull)
  obtain ⟨rxRing, rxPos, hrx⟩ := exists_holds [[]] (by decide)
  have hkept := h { rxRing := rxRing, txRing := txRing } [[]] _ ⟨rxPos, hrx⟩ ⟨txPos, htx⟩
  have hroom := (pumpKeeps_iff (m := { rxRing := rxRing, txRing := txRing }) hrx htx).mp hkept [] [] rfl (Nat.zero_le _)
  rw [htx.availableSpace, hfull, Nat.sub_self] at hroom
  revert hroom
  decide

end WhyUsb
