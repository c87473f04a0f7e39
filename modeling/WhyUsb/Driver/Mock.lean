import WhyUsb.Ring.Frames
import WhyUsb.Protocol.Frame

/-!
# The mock driver

The memory the daemon shares with the mock driver, the functions of `vhci.cpp`
on it and `MockDriverBackend` over them. `MockRun` adds the frames that went
through each ring; calls are whole here.
-/

namespace WhyUsb

open Endian

structure SharedMemoryContext where
  txRing : Ring
  rxRing : Ring

/-- `g_SharedMemory`; `none` is the null pointer. -/
abbrev SharedMemory := Option SharedMemoryContext

/-- The size of the buffer on the stack of `mock_driver_pump_once`. -/
def pumpBufferSize : Nat := 64 * 1024

def maxDriverFrameSize : Nat := 1024 * 64

def txRingPopFrame (g : SharedMemory) (maxLen : Nat) : Option (List UInt8) × SharedMemory :=
  match g with
  | none => (none, none)
  | some m => ((Spsc.popFrame m.txRing maxLen).1, some { m with txRing := (Spsc.popFrame m.txRing maxLen).2 })

def rxRingPushFrame (g : SharedMemory) (src : List UInt8) : Bool × SharedMemory :=
  match g with
  | none => (false, none)
  | some m => ((Spsc.pushFrame m.rxRing src).1, some { m with rxRing := (Spsc.pushFrame m.rxRing src).2 })

def mockDriverPumpOnce (g : SharedMemory) : Bool × SharedMemory :=
  match g with
  | none => (false, none)
  | some m =>
    match Spsc.popFrame m.rxRing pumpBufferSize with
    | (none, rx) => (false, some { m with rxRing := rx })
    | (some frame, rx) =>
      ((Spsc.pushFrame m.txRing frame).1, some { rxRing := rx, txRing := (Spsc.pushFrame m.txRing frame).2 })

inductive DriverError where
  | initFailed (status : Int32)
  | rxRingFull (len : Nat)
  | malformedTxFrame (error : ProtocolError)
  deriving DecidableEq, Repr

namespace MockDriverBackend

def pushRxBytes (g : SharedMemory) (bytes : List UInt8) : Except DriverError Unit × SharedMemory :=
  match rxRingPushFrame g bytes with
  | (false, g) => (.error (.rxRingFull bytes.length), g)
  | (true, g) => (.ok (), g)

def pumpOnce (g : SharedMemory) : Bool × SharedMemory := mockDriverPumpOnce g

def pollTxFrame (g : SharedMemory) : Except DriverError (Option Frame) × SharedMemory :=
  match txRingPopFrame g maxDriverFrameSize with
  | (none, g) => (.ok none, g)
  | (some bytes, g) =>
    match Frame.decode bytes with
    | .ok f => (.ok (some f), g)
    | .error e => (.error (.malformedTxFrame e), g)

end MockDriverBackend

/-! ## Runs -/

def SharedMemoryContext.new : SharedMemoryContext where
  txRing := { head := 0, tail := 0, data := fun _ => 0 }
  rxRing := { head := 0, tail := 0, data := fun _ => 0 }

inductive MockOp where
  | pushRxBytes (bytes : List UInt8)
  | pumpOnce
  | pollTxFrame

/-- The memory, and the frames each ring has taken and given. -/
structure MockRun where
  memory : SharedMemory
  rxPushed : List (List UInt8)
  rxPopped : List (List UInt8)
  txPushed : List (List UInt8)
  txPopped : List (List UInt8)

namespace MockRun

def init : MockRun where
  memory := some .new
  rxPushed := []
  rxPopped := []
  txPushed := []
  txPopped := []

def pumped (s : MockRun) : Option (List UInt8) := s.memory.bind fun m => (Spsc.popFrame m.rxRing pumpBufferSize).1

def step (s : MockRun) : MockOp → MockRun
  | .pushRxBytes bytes =>
    { s with
      memory := (rxRingPushFrame s.memory bytes).2
      rxPushed := s.rxPushed ++ if (rxRingPushFrame s.memory bytes).1 then [bytes] else [] }
  | .pumpOnce =>
    { s with
      memory := (mockDriverPumpOnce s.memory).2
      rxPopped := s.rxPopped ++ s.pumped.toList
      txPushed := s.txPushed ++ if (mockDriverPumpOnce s.memory).1 then s.pumped.toList else [] }
  | .pollTxFrame =>
    { s with
      memory := (txRingPopFrame s.memory maxDriverFrameSize).2
      txPopped := s.txPopped ++ (txRingPopFrame s.memory maxDriverFrameSize).1.toList }

def run (s : MockRun) (ops : List MockOp) : MockRun := ops.foldl step s

structure Inv (s : MockRun) : Prop where
  memory : ∃ m, s.memory = some m ∧
    (∃ rx, s.rxPopped ++ rx = s.rxPushed ∧ Holds m.rxRing (entries s.rxPopped).length rx) ∧
    ∃ tx, s.txPopped ++ tx = s.txPushed ∧ Holds m.txRing (entries s.txPopped).length tx

theorem init_inv : Inv init :=
  ⟨.new, rfl, ⟨[], rfl, holds_nil rfl⟩, ⟨[], rfl, holds_nil rfl⟩⟩

end MockRun

/-- Either a push adds the frame, or the ring is left as it is. -/
theorem Spsc.pushFrame_cases {r : Ring} {pos : Nat} {q : List (List UInt8)} (h : Holds r pos q) (f : List UInt8) :
    ((Spsc.pushFrame r f).1 = true ∧ (entries q).length + (4 + f.length) ≤ ringBufferSize ∧
        Holds (Spsc.pushFrame r f).2 pos (q ++ [f])) ∨
      (Spsc.pushFrame r f = (false, r) ∧ ringBufferSize < (entries q).length + (4 + f.length)) := by
  rcases Nat.lt_or_ge ringBufferSize ((entries q).length + (4 + f.length)) with hfull | hroom
  · exact Or.inr ⟨Spsc.pushFrame_full h hfull, hfull⟩
  · obtain ⟨hok, hholds, -⟩ := Spsc.pushFrame_ok h hroom
    exact Or.inl ⟨hok, hroom, hholds⟩

/-- Either a pop takes the first frame, or the ring is left as it is: empty, or its first frame too long. -/
theorem Spsc.popFrame_cases {r : Ring} {pos : Nat} {q : List (List UInt8)} (h : Holds r pos q) (maxLen : Nat) :
    (∃ f rest, q = f :: rest ∧ f.length ≤ maxLen ∧ (Spsc.popFrame r maxLen).1 = some f ∧
        Holds (Spsc.popFrame r maxLen).2 (pos + (4 + f.length)) rest) ∨
      (Spsc.popFrame r maxLen = (none, r) ∧ ∀ f rest, q = f :: rest → maxLen < f.length) := by
  cases q with
  | nil => exact Or.inr ⟨Spsc.popFrame_nil h maxLen, fun _ _ he => nomatch he⟩
  | cons f rest =>
    rcases Nat.lt_or_ge maxLen f.length with hsmall | hfits
    · refine Or.inr ⟨Spsc.popFrame_small h hsmall, ?_⟩
      rintro _ _ ⟨⟩
      exact hsmall
    · obtain ⟨hok, hholds, -⟩ := Spsc.popFrame_ok h hfits
      exact Or.inl ⟨f, rest, rfl, hfits, hok, hholds⟩

namespace MockRun

theorem entries_snoc_length (q : List (List UInt8)) (f : List UInt8) :
    (entries (q ++ [f])).length = (entries q).length + (4 + f.length) := by
  simp

theorem pushRxBytes_inv {s : MockRun} (h : Inv s) (bytes : List UInt8) : Inv (s.step (.pushRxBytes bytes)) := by
  obtain ⟨m, hm, ⟨rx, hrx, hrxHolds⟩, htx⟩ := h
  rcases Spsc.pushFrame_cases hrxHolds bytes with ⟨hok, -, hholds⟩ | ⟨hfull, -⟩
  · refine ⟨{ m with rxRing := (Spsc.pushFrame m.rxRing bytes).2 }, ?_, ⟨rx ++ [bytes], ?_, hholds⟩, htx⟩
    · simp only [step, hm, rxRingPushFrame]
    · simp only [step, hm, rxRingPushFrame, hok, if_true, ← hrx, List.append_assoc]
  · refine ⟨m, ?_, ⟨rx, ?_, hrxHolds⟩, htx⟩
    · simp only [step, hm, rxRingPushFrame, hfull]
    · simp only [step, hm, rxRingPushFrame, hfull, hrx, Bool.false_eq_true, if_false, List.append_nil]

theorem pollTxFrame_inv {s : MockRun} (h : Inv s) : Inv (s.step .pollTxFrame) := by
  obtain ⟨m, hm, hrx, ⟨tx, htx, htxHolds⟩⟩ := h
  rcases Spsc.popFrame_cases htxHolds maxDriverFrameSize with ⟨f, rest, rfl, -, hok, hholds⟩ | ⟨hnone, -⟩
  · refine ⟨{ m with txRing := (Spsc.popFrame m.txRing maxDriverFrameSize).2 }, ?_, hrx, ⟨rest, ?_, ?_⟩⟩
    · simp only [step, hm, txRingPopFrame]
    · simp only [step, hm, txRingPopFrame, hok, Option.toList_some, ← htx, List.append_assoc, List.singleton_append]
    · simp only [step, hm, txRingPopFrame, hok, Option.toList_some, entries_snoc_length]
      exact hholds
  · refine ⟨m, ?_, hrx, ⟨tx, ?_, ?_⟩⟩
    · simp only [step, hm, txRingPopFrame, hnone]
    · simp only [step, hm, txRingPopFrame, hnone, Option.toList_none, List.append_nil, htx]
    · simp only [step, hm, txRingPopFrame, hnone, Option.toList_none, List.append_nil]
      exact htxHolds

theorem pumpOnce_inv {s : MockRun} (h : Inv s) : Inv (s.step .pumpOnce) := by
  obtain ⟨m, hm, ⟨rx, hrx, hrxHolds⟩, ⟨tx, htx, htxHolds⟩⟩ := h
  rcases hpop : Spsc.popFrame m.rxRing pumpBufferSize with ⟨frame, rxRing⟩
  rcases Spsc.popFrame_cases hrxHolds pumpBufferSize with ⟨f, rest, rfl, -, hok, hholds⟩ | ⟨hnone, -⟩
  · rw [hpop] at hok hholds
    dsimp only at hok hholds
    subst hok
    have hrest : s.rxPopped ++ [f] ++ rest = s.rxPushed := by rw [← hrx, List.append_assoc, List.singleton_append]
    rw [← entries_snoc_length] at hholds
    rcases Spsc.pushFrame_cases htxHolds f with ⟨hpush, -, hholds'⟩ | ⟨hfull, -⟩
    · refine ⟨{ rxRing := rxRing, txRing := (Spsc.pushFrame m.txRing f).2 }, ?_, ⟨rest, ?_, ?_⟩, ⟨tx ++ [f], ?_, ?_⟩⟩
      · simp only [step, hm, mockDriverPumpOnce, hpop]
      · simpa only [step, pumped, hm, Option.bind_some, hpop, Option.toList_some] using hrest
      · simpa only [step, pumped, hm, Option.bind_some, hpop, Option.toList_some] using hholds
      · simp only [step, pumped, hm, Option.bind_some, mockDriverPumpOnce, hpop, hpush, if_true, Option.toList_some,
          ← htx, List.append_assoc]
      · exact hholds'
    · refine ⟨{ rxRing := rxRing, txRing := m.txRing }, ?_, ⟨rest, ?_, ?_⟩, ⟨tx, ?_, ?_⟩⟩
      · simp only [step, hm, mockDriverPumpOnce, hpop, hfull]
      · simpa only [step, pumped, hm, Option.bind_some, hpop, Option.toList_some] using hrest
      · simpa only [step, pumped, hm, Option.bind_some, hpop, Option.toList_some] using hholds
      · simp only [step, pumped, hm, Option.bind_some, mockDriverPumpOnce, hpop, hfull, Bool.false_eq_true, if_false,
          List.append_nil, htx]
      · exact htxHolds
  · rw [hpop] at hnone
    cases hnone
    refine ⟨m, ?_, ⟨rx, ?_, ?_⟩, ⟨tx, ?_, htxHolds⟩⟩
    · simp only [step, hm, mockDriverPumpOnce, hpop]
    · simp only [step, pumped, hm, Option.bind_some, hpop, Option.toList_none, List.append_nil, hrx]
    · simp only [step, pumped, hm, Option.bind_some, hpop, Option.toList_none, List.append_nil]
      exact hrxHolds
    · simp only [step, hm, mockDriverPumpOnce, hpop, Bool.false_eq_true, if_false, List.append_nil, htx]

theorem step_inv {s : MockRun} (h : Inv s) (op : MockOp) : Inv (s.step op) := by
  cases op with
  | pushRxBytes bytes => exact pushRxBytes_inv h bytes
  | pumpOnce => exact pumpOnce_inv h
  | pollTxFrame => exact pollTxFrame_inv h

theorem run_inv : ∀ (ops : List MockOp) {s : MockRun}, Inv s → Inv (s.run ops)
  | [], _, h => h
  | op :: ops, _, h => run_inv ops (step_inv h op)

/-! ## What a run keeps -/

theorem step_extends (s : MockRun) (op : MockOp) :
    s.rxPushed <+: (s.step op).rxPushed ∧ s.txPushed <+: (s.step op).txPushed := by
  cases op <;> simp only [step] <;>
    exact ⟨by first | exact List.prefix_append .. | exact List.prefix_refl _,
      by first | exact List.prefix_append .. | exact List.prefix_refl _⟩

theorem run_extends : ∀ (ops : List MockOp) (s : MockRun),
    s.rxPushed <+: (s.run ops).rxPushed ∧ s.txPushed <+: (s.run ops).txPushed
  | [], _ => ⟨List.prefix_refl _, List.prefix_refl _⟩
  | op :: ops, s => by
    obtain ⟨hrx, htx⟩ := step_extends s op
    obtain ⟨hrx', htx'⟩ := run_extends ops (s.step op)
    exact ⟨hrx.trans hrx', htx.trans htx'⟩

theorem run_append (s : MockRun) (ops ops' : List MockOp) : s.run (ops ++ ops') = (s.run ops).run ops' :=
  List.foldl_append

def txRoom (s : MockRun) : Nat :=
  (s.memory.map (·.txRing)).elim 0 fun tx => Spsc.availableSpace tx.head tx.tail

/-- The next pump moves `bytes`, and the poll that has nothing ahead of it returns `f`, whatever is done between. -/
def Taken (s : MockRun) (f : Frame) (bytes : List UInt8) : Prop :=
  (MockDriverBackend.pumpOnce s.memory).1 = true ∧ (s.step .pumpOnce).txPushed = s.txPushed ++ [bytes] ∧
    ∀ ops, ((s.step .pumpOnce).run ops).txPopped = s.txPushed →
      (MockDriverBackend.pollTxFrame ((s.step .pumpOnce).run ops).memory).1 = .ok (some f)

section
variable {s : MockRun} {f : Frame} {bytes : List UInt8}

theorem taken_of_fits (h : Inv s) (hf : f.encode = some bytes) (hfront : s.rxPopped ++ [bytes] <+: s.rxPushed)
    (hroom : framePrefixLen + bytes.length ≤ s.txRoom) (hfits : bytes.length ≤ maxDriverFrameSize) :
    Taken s f bytes := by
  have hgood := h
  obtain ⟨m, hm, ⟨rx, hrx, hrxHolds⟩, ⟨tx, htx, htxHolds⟩⟩ := hgood
  obtain ⟨rest, rfl⟩ : ∃ rest, rx = bytes :: rest := by
    rw [← hrx, List.prefix_append_right_inj] at hfront
    obtain ⟨rest, rfl⟩ := hfront
    exact ⟨rest, rfl⟩
  rcases hpop : Spsc.popFrame m.rxRing pumpBufferSize with ⟨frame, rxRing⟩
  obtain ⟨hok, -, -⟩ := Spsc.popFrame_ok hrxHolds (show bytes.length ≤ pumpBufferSize from hfits)
  rw [hpop] at hok
  dsimp only at hok
  subst hok
  have hspace : (entries tx).length + (4 + bytes.length) ≤ ringBufferSize := by
    rw [txRoom, hm, Option.map_some, Option.elim_some, htxHolds.availableSpace, framePrefixLen_eq] at hroom
    have := htxHolds.fits
    omega
  obtain ⟨hpush, -, -⟩ := Spsc.pushFrame_ok htxHolds hspace
  have hpumped : (s.step .pumpOnce).txPushed = s.txPushed ++ [bytes] := by
    simp only [step, pumped, hm, Option.bind_some, mockDriverPumpOnce, hpop, hpush, if_true, Option.toList_some]
  refine ⟨?_, hpumped, fun ops hpopped => ?_⟩
  · simp only [MockDriverBackend.pumpOnce, hm, mockDriverPumpOnce, hpop, hpush]
  · obtain ⟨m', hm', -, ⟨tx', htx', htxHolds'⟩⟩ := run_inv ops (step_inv h .pumpOnce)
    have hlater := (run_extends ops (s.step .pumpOnce)).2
    rw [hpumped, ← htx', hpopped, List.prefix_append_right_inj] at hlater
    obtain ⟨rest', rfl⟩ := hlater
    obtain ⟨hpoll, -, -⟩ := Spsc.popFrame_ok htxHolds' hfits
    simp only [MockDriverBackend.pollTxFrame, hm', txRingPopFrame, hpoll, Frame.decode_of_encode hf]

theorem pumpOnce_oversized (h : Inv s) (hfront : s.rxPopped ++ [bytes] <+: s.rxPushed)
    (hlong : pumpBufferSize < bytes.length) :
    (MockDriverBackend.pumpOnce s.memory).1 = false ∧ (s.step .pumpOnce).rxPopped = s.rxPopped := by
  obtain ⟨m, hm, ⟨rx, hrx, hrxHolds⟩, -⟩ := h
  obtain ⟨rest, rfl⟩ : ∃ rest, rx = bytes :: rest := by
    rw [← hrx, List.prefix_append_right_inj] at hfront
    obtain ⟨rest, rfl⟩ := hfront
    exact ⟨rest, rfl⟩
  have hnone := Spsc.popFrame_small hrxHolds hlong
  constructor
  · simp only [MockDriverBackend.pumpOnce, hm, mockDriverPumpOnce, hnone]
  · simp only [step, pumped, hm, Option.bind_some, hnone, Option.toList_none, List.append_nil]

theorem oversized_blocks (hlong : pumpBufferSize < bytes.length) : ∀ (ops : List MockOp) {s : MockRun}, Inv s →
    s.rxPopped ++ [bytes] <+: s.rxPushed → (MockDriverBackend.pumpOnce (s.run ops).memory).1 = false
  | [], _, h, hfront => (pumpOnce_oversized h hfront hlong).1
  | op :: ops, s, h, hfront => by
    have hstays : (s.step op).rxPopped = s.rxPopped := by
      cases op with
      | pushRxBytes _ => rfl
      | pumpOnce => exact (pumpOnce_oversized h hfront hlong).2
      | pollTxFrame => rfl
    exact oversized_blocks hlong ops (step_inv h op) (hstays ▸ hfront.trans (step_extends s op).1)

end

theorem pushRxBytes_ok {s : MockRun} {bytes : List UInt8}
    (h : (MockDriverBackend.pushRxBytes s.memory bytes).1 = .ok ()) :
    (s.step (.pushRxBytes bytes)).rxPushed = s.rxPushed ++ [bytes] := by
  unfold MockDriverBackend.pushRxBytes at h
  split at h
  · cases h
  · rename_i hpush
    simp only [step, hpush, if_true]

/-- An accepted frame is taken exactly when it fits the 64 KiB buffers of the pump and of the poll. -/
theorem accepted_taken_iff (ops ops' : List MockOp) {f : Frame} {bytes : List UInt8} (hf : f.encode = some bytes)
    (hpush : (MockDriverBackend.pushRxBytes (init.run ops).memory bytes).1 = .ok ())
    (hahead : (init.run (ops ++ .pushRxBytes bytes :: ops')).rxPopped = (init.run ops).rxPushed)
    (hroom : framePrefixLen + bytes.length ≤ (init.run (ops ++ .pushRxBytes bytes :: ops')).txRoom) :
    Taken (init.run (ops ++ .pushRxBytes bytes :: ops')) f bytes ↔ bytes.length ≤ maxDriverFrameSize := by
  have hinv := run_inv (ops ++ .pushRxBytes bytes :: ops') init_inv
  have hfront : (init.run (ops ++ .pushRxBytes bytes :: ops')).rxPopped ++ [bytes] <+:
      (init.run (ops ++ .pushRxBytes bytes :: ops')).rxPushed := by
    rw [hahead, ← pushRxBytes_ok hpush, run_append]
    exact (run_extends ops' _).1
  constructor
  · rintro ⟨hpump, -⟩
    by_contra hlong
    rw [(pumpOnce_oversized hinv hfront (Nat.lt_of_not_le hlong)).1] at hpump
    cases hpump
  · exact taken_of_fits hinv hf hfront hroom

theorem accepted_taken_second : Taken
    (init.run ([.pushRxBytes [1, 2, 3]] ++ .pushRxBytes (magic ++ [1, 1, 1, 2] ++ List.replicate 20 0) :: [.pumpOnce]))
    ⟨0, .request, .hostToDevice, .bulk, 0, 0, []⟩ (magic ++ [1, 1, 1, 2] ++ List.replicate 20 0) ↔
      (magic ++ [1, 1, 1, 2] ++ List.replicate 20 0).length ≤ maxDriverFrameSize :=
  accepted_taken_iff [.pushRxBytes [1, 2, 3]] [.pumpOnce] (by decide +kernel) (by decide +kernel) (by decide +kernel)
    (by decide +kernel)

theorem map_txRing_rxRingPushFrame (g : SharedMemory) (bytes : List UInt8) :
    (rxRingPushFrame g bytes).2.map (·.txRing) = g.map (·.txRing) := by
  cases g <;> rfl

theorem txRoom_pushRxBytes (s : MockRun) (bytes : List UInt8) :
    (s.step (.pushRxBytes bytes)).txRoom = s.txRoom := by
  rw [txRoom, step, map_txRing_rxRingPushFrame, ← txRoom]

/-- 65509 payload bytes make a frame one byte longer than the buffers: the ring takes it, the pump never moves it. -/
theorem longRequest_not_taken : ¬ ∀ (ops ops' : List MockOp) (f : Frame) (bytes : List UInt8), f.encode = some bytes →
    (MockDriverBackend.pushRxBytes (init.run ops).memory bytes).1 = .ok () →
    (init.run (ops ++ .pushRxBytes bytes :: ops')).rxPopped = (init.run ops).rxPushed →
    framePrefixLen + bytes.length ≤ (init.run (ops ++ .pushRxBytes bytes :: ops')).txRoom →
    Taken (init.run (ops ++ .pushRxBytes bytes :: ops')) f bytes := by
  intro h
  obtain ⟨payload, hpayload⟩ : ∃ payload : List UInt8, payload.length = 65509 :=
    ⟨List.replicate 65509 0, List.length_replicate⟩
  obtain ⟨bytes, hf⟩ := @Frame.encode_ok ⟨1, .request, .hostToDevice, .bulk, 1, 0, payload⟩
    (by rw [hpayload]; omega)
  have hlen : bytes.length = 65537 := by rw [Frame.encode_length hf, hpayload, headerLen]
  have hroom : (entries []).length + (4 + bytes.length) ≤ ringBufferSize := by
    rw [hlen, entries_nil, List.length_nil, ringBufferSize]
    omega
  have hlong : pumpBufferSize < bytes.length := by
    rw [hlen, pumpBufferSize]
    omega
  have hempty : Holds SharedMemoryContext.new.rxRing SharedMemoryContext.new.rxRing.tail.toNat [] := holds_nil rfl
  have hpush : (MockDriverBackend.pushRxBytes init.memory bytes).1 = .ok () := by
    simp only [MockDriverBackend.pushRxBytes, init, rxRingPushFrame, (Spsc.pushFrame_ok hempty hroom).1]
  have htx : framePrefixLen + bytes.length ≤ (init.step (.pushRxBytes bytes)).txRoom := by
    have hspace : init.txRoom = ringBufferSize := by decide +kernel
    rw [hlen, txRoom_pushRxBytes, hspace, framePrefixLen, ringBufferSize]
    omega
  obtain ⟨hpump, -⟩ := h [] [] _ bytes hf hpush rfl htx
  have hfront : [] ++ [bytes] <+: (init.step (.pushRxBytes bytes)).rxPushed := by
    rw [pushRxBytes_ok hpush]
    exact List.prefix_refl _
  have hblocked := (pumpOnce_oversized (step_inv init_inv (.pushRxBytes bytes)) hfront hlong).1
  rw [List.nil_append, show init.run [.pushRxBytes bytes] = init.step (.pushRxBytes bytes) from rfl, hblocked] at hpump
  cases hpump

end MockRun

end WhyUsb
