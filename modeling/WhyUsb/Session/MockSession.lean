import WhyUsb.Driver.Mock
import WhyUsb.Ring.Interleaving
import WhyUsb.Session.DataPath

/-!
# A session over the mock driver

The main loop pushes on the RX ring and pumps; the worker polls the TX ring
while a pump may be pushing on it, so the accesses of both to that ring are
steps of their own. The RX ring is the main loop's alone.
-/

namespace WhyUsb

open List Lts Matching

structure MockSession where
  session : NetworkSession
  rxRing : Ring
  tx : RingSys
  pumping : Bool
  polling : Bool

inductive MockSessionAct where
  | session (a : SessionAct)
  | pushRxBytes
  | pumpOnce
  | pumpStep
  | pumpReturn
  | pollTxFrame
  | pollStep
  | pollReturn

/-- `attach_device` and `detach_device` of the mock driver succeed; its rings have steps of their own. -/
def SessionAct.leavesRings : SessionAct → Bool
  | .receive _ driverOk => driverOk
  | .cleanup driverOk => driverOk
  | .pushRx _ => false
  | .pumpOnce _ => false
  | .pollTx _ => false
  | _ => true

def MockDriverBackend.polled : Option (List UInt8) → Except DriverError (Option Frame)
  | none => .ok none
  | some bytes =>
    match Frame.decode bytes with
    | .ok frame => .ok (some frame)
    | .error e => .error (.malformedTxFrame e)

namespace MockSession

/-- The memory is new: the daemon accepts one client. -/
def new : MockSession where
  session := .new
  rxRing := SharedMemoryContext.new.rxRing
  tx := .init SharedMemoryContext.new.txRing
  pumping := false
  polling := false

/-- The bytes of the transfer that `flush_endpoint_transfers` pops next. -/
def flushedBytes (s : MockSession) : Option (List UInt8) := s.session.queues.popNext.1.bind fun t => t.frame.encode

section
variable (cfg : SessionConfig)

/-- Where there are no bytes to push, `encode` has panicked. -/
def pushRxBytes (s : MockSession) : Option MockSession :=
  match s.flushedBytes with
  | none => (s.session.step cfg (.pushRx false)).map fun session => { s with session }
  | some bytes =>
    (s.session.step cfg (.pushRx (Spsc.pushFrame s.rxRing bytes).1)).map fun session =>
      { s with session, rxRing := (Spsc.pushFrame s.rxRing bytes).2 }

def pumpOnce (s : MockSession) : Option MockSession :=
  match s.session.main, s.pumping with
  | .pumping _, false =>
    match Spsc.popFrame s.rxRing pumpBufferSize with
    | (none, rxRing) => (s.session.step cfg (.pumpOnce false)).map fun session => { s with session, rxRing }
    | (some frame, rxRing) => (s.tx.step .spsc .spsc (.pushCall frame)).map fun tx =>
      { s with rxRing, tx, pumping := true }
  | _, _ => none

def pumpStep (s : MockSession) : Option MockSession :=
  if s.pumping then (s.tx.step .spsc .spsc .pushStep).map fun tx => { s with tx } else none

def pumpReturn (s : MockSession) : Option MockSession :=
  match s.pumping, s.tx.producer with
  | true, .returned (.ok ok) => (s.session.step cfg (.pumpOnce ok)).map fun session =>
    { s with session, pumping := false }
  | _, _ => none

def pollTxFrame (s : MockSession) : Option MockSession :=
  match s.session.worker, s.polling with
  | .poll, false => (s.tx.step .spsc .spsc (.popCall maxDriverFrameSize)).map fun tx => { s with tx, polling := true }
  | _, _ => none

def pollStep (s : MockSession) : Option MockSession :=
  if s.polling then (s.tx.step .spsc .spsc .popStep).map fun tx => { s with tx } else none

def pollReturn (s : MockSession) : Option MockSession :=
  match s.polling, s.tx.consumer with
  | true, .returned (.ok popped) => (s.session.step cfg (.pollTx (MockDriverBackend.polled popped))).map fun session =>
    { s with session, polling := false }
  | _, _ => none

def step (s : MockSession) : MockSessionAct → Option MockSession
  | .session a => if a.leavesRings then (s.session.step cfg a).map fun session => { s with session } else none
  | .pushRxBytes => s.pushRxBytes cfg
  | .pumpOnce => s.pumpOnce cfg
  | .pumpStep => s.pumpStep
  | .pumpReturn => s.pumpReturn cfg
  | .pollTxFrame => s.pollTxFrame
  | .pollStep => s.pollStep
  | .pollReturn => s.pollReturn cfg

end

/-! ## What a step does -/

section
variable (cfg : SessionConfig)

inductive Stepped (s : MockSession) : MockSessionAct → MockSession → Prop where
  | session {a session} (ha : a.leavesRings = true) (hstep : s.session.step cfg a = some session) :
      Stepped s (.session a) { s with session }
  | panics {session} (hbytes : s.flushedBytes = none) (hstep : s.session.step cfg (.pushRx false) = some session) :
      Stepped s .pushRxBytes { s with session }
  | pushRxBytes {bytes ok rxRing session} (hbytes : s.flushedBytes = some bytes)
      (hpush : Spsc.pushFrame s.rxRing bytes = (ok, rxRing))
      (hstep : s.session.step cfg (.pushRx ok) = some session) :
      Stepped s .pushRxBytes { s with session, rxRing }
  | pumpNothing {rxRing session} (hidle : s.pumping = false)
      (hpop : Spsc.popFrame s.rxRing pumpBufferSize = (none, rxRing))
      (hstep : s.session.step cfg (.pumpOnce false) = some session) : Stepped s .pumpOnce { s with session, rxRing }
  | pumpOnce {failed frame rxRing tx} (hmain : s.session.main = .pumping failed) (hidle : s.pumping = false)
      (hpop : Spsc.popFrame s.rxRing pumpBufferSize = (some frame, rxRing))
      (hstep : s.tx.step .spsc .spsc (.pushCall frame) = some tx) :
      Stepped s .pumpOnce { s with rxRing, tx, pumping := true }
  | pumpStep {tx} (hpumping : s.pumping = true) (hstep : s.tx.step .spsc .spsc .pushStep = some tx) :
      Stepped s .pumpStep { s with tx }
  | pumpReturn {ok session} (hpumping : s.pumping = true) (hproducer : s.tx.producer = .returned (.ok ok))
      (hstep : s.session.step cfg (.pumpOnce ok) = some session) :
      Stepped s .pumpReturn { s with session, pumping := false }
  | pollTxFrame {tx} (hworker : s.session.worker = .poll) (hidle : s.polling = false)
      (hstep : s.tx.step .spsc .spsc (.popCall maxDriverFrameSize) = some tx) :
      Stepped s .pollTxFrame { s with tx, polling := true }
  | pollStep {tx} (hpolling : s.polling = true) (hstep : s.tx.step .spsc .spsc .popStep = some tx) :
      Stepped s .pollStep { s with tx }
  | pollReturn {popped session} (hpolling : s.polling = true) (hconsumer : s.tx.consumer = .returned (.ok popped))
      (hstep : s.session.step cfg (.pollTx (MockDriverBackend.polled popped)) = some session) :
      Stepped s .pollReturn { s with session, polling := false }

variable {cfg} {s s' : MockSession} {a : MockSessionAct}

theorem step_stepped (h : step cfg s a = some s') : Stepped cfg s a s' := by
  cases a with
  | session a =>
    simp only [step, Option.ite_none_right_eq_some, Option.map_eq_some_iff] at h
    obtain ⟨ha, session, hstep, rfl⟩ := h
    exact .session ha hstep
  | pushRxBytes =>
    simp only [step, MockSession.pushRxBytes] at h
    split at h <;> obtain ⟨session, hstep, rfl⟩ := Option.map_eq_some_iff.mp h
    · exact .panics (by assumption) hstep
    · exact .pushRxBytes (by assumption) rfl hstep
  | pumpOnce =>
    simp only [step, MockSession.pumpOnce] at h
    split at h
    · split at h
      · obtain ⟨session, hstep, rfl⟩ := Option.map_eq_some_iff.mp h
        exact .pumpNothing (by assumption) (by assumption) hstep
      · obtain ⟨tx, hstep, rfl⟩ := Option.map_eq_some_iff.mp h
        exact .pumpOnce (by assumption) (by assumption) (by assumption) hstep
    · cases h
  | pumpStep =>
    simp only [step, MockSession.pumpStep, Option.ite_none_right_eq_some, Option.map_eq_some_iff] at h
    obtain ⟨hpumping, tx, hstep, rfl⟩ := h
    exact .pumpStep hpumping hstep
  | pumpReturn =>
    simp only [step, MockSession.pumpReturn] at h
    split at h
    · obtain ⟨session, hstep, rfl⟩ := Option.map_eq_some_iff.mp h
      exact .pumpReturn (by assumption) (by assumption) hstep
    · cases h
  | pollTxFrame =>
    simp only [step, MockSession.pollTxFrame] at h
    split at h
    · obtain ⟨tx, hstep, rfl⟩ := Option.map_eq_some_iff.mp h
      exact .pollTxFrame (by assumption) (by assumption) hstep
    · cases h
  | pollStep =>
    simp only [step, MockSession.pollStep, Option.ite_none_right_eq_some, Option.map_eq_some_iff] at h
    obtain ⟨hpolling, tx, hstep, rfl⟩ := h
    exact .pollStep hpolling hstep
  | pollReturn =>
    simp only [step, MockSession.pollReturn] at h
    split at h
    · obtain ⟨session, hstep, rfl⟩ := Option.map_eq_some_iff.mp h
      exact .pollReturn (by assumption) (by assumption) hstep
    · cases h

theorem step_session (h : step cfg s a = some s') : s'.session = s.session ∨
    ∃ b, s.session.step cfg b = some s'.session ∧ ((a = .session b ∧ b.leavesRings = true) ∨
      (∃ ok, b = .pushRx ok) ∨ (∃ ok, b = .pumpOnce ok) ∨ ∃ result, b = .pollTx result) := by
  cases step_stepped h with
  | session ha hstep => exact Or.inr ⟨_, hstep, Or.inl ⟨rfl, ha⟩⟩
  | panics hbytes hstep => exact Or.inr ⟨_, hstep, Or.inr (Or.inl ⟨_, rfl⟩)⟩
  | pushRxBytes hbytes hpush hstep => exact Or.inr ⟨_, hstep, Or.inr (Or.inl ⟨_, rfl⟩)⟩
  | pumpNothing hidle hpop hstep => exact Or.inr ⟨_, hstep, Or.inr (Or.inr (Or.inl ⟨_, rfl⟩))⟩
  | pumpReturn hpumping hproducer hstep => exact Or.inr ⟨_, hstep, Or.inr (Or.inr (Or.inl ⟨_, rfl⟩))⟩
  | pollReturn hpolling hconsumer hstep => exact Or.inr ⟨_, hstep, Or.inr (Or.inr (Or.inr ⟨_, rfl⟩))⟩
  | _ => exact Or.inl rfl

end

end MockSession

end WhyUsb
