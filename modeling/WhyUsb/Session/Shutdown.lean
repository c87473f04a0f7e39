import WhyUsb.Session.Network

/-!
# Leaving the session

Once the loop is left nothing is taken from the channel, and the receiver stays
alive until the worker is joined. A worker with a frame for a full channel then
waits for ever; the runs without this are those where the loop is not left on
such a worker and the worker finds no frame for a full channel afterwards.
-/

namespace WhyUsb

open Lts

namespace NetworkSession

def ChannelFull (s : NetworkSession) : Prop := txCapacity ≤ s.channel.length

def LoopLeft (s : NetworkSession) : Prop := s.main = .leaving ∨ s.main = .cleaned ∨ s.main = .joining

def WorkerHolds (s : NetworkSession) : Prop := ∃ bytes, s.worker = .send bytes

def SessionAct.IsWorker : SessionAct → Prop
  | .checkCancelled | .pollTx _ | .blockingSend | .waitForTxFrame => True
  | _ => False

section
variable (cfg : SessionConfig)

/-- After the loop is left the worker can take a step or has ended. -/
def WorkerFree (s : NetworkSession) : Prop :=
  LoopLeft s → s.worker = .ended ∨ ∃ a, SessionAct.IsWorker a ∧ (step cfg s a).isSome

def LeavesLoop (s : NetworkSession) : SessionAct → Prop
  | .endOfStream => s.main = .select
  | .send ok =>
    match s.main with
    | .sending frame onError _ thenBreak =>
      frame.encode ≠ none ∧ (thenBreak = true ∨ (ok = false ∧ onError = .breakLoop))
    | .forwarding _ => ok = false
    | _ => False
  | _ => False

/-- The worker gets a frame that can be sent. -/
def TakesFrame (s : NetworkSession) : SessionAct → Prop
  | .pollTx (.ok (some frame)) => s.worker = .poll ∧ (outboundNetworkFrame frame).bind Frame.encode ≠ none
  | _ => False

/-- While the channel is full, the loop is not left with a frame in the worker's hand, and the worker gets none after
it is left. -/
def RoomToLeave (s : NetworkSession) (a : SessionAct) : Prop :=
  ChannelFull s → ¬ (WorkerHolds s ∧ LeavesLoop s a) ∧ ¬ (LoopLeft s ∧ TakesFrame s a)

variable {cfg} {s s' : NetworkSession} {a : SessionAct}

/-! ## The blocked worker -/

/-- The worker waits for a channel that nobody reads. -/
def Stuck (s : NetworkSession) : Prop := LoopLeft s ∧ ChannelFull s ∧ WorkerHolds s

theorem receiverAlive_of_left (h : LoopLeft s) : s.receiverAlive = true := by
  unfold receiverAlive
  rcases h with h | h | h <;> simp [h]

theorem workerFree_iff : WorkerFree cfg s ↔ ¬ Stuck s := by
  constructor
  · rintro hfree ⟨hleft, hfull, bytes, hbytes⟩
    have halive := receiverAlive_of_left hleft
    rcases hfree hleft with hended | ⟨a, ha, hstep⟩
    · rw [hbytes] at hended
      cases hended
    · cases a with
      | checkCancelled => simp [step, checkCancelled, hbytes] at hstep
      | pollTx result => simp [step, pollTx, hbytes] at hstep
      | blockingSend => simp [step, blockingSend, hbytes, halive, Nat.not_lt.mpr hfull] at hstep
      | waitForTxFrame => simp [step, waitForTxFrame, hbytes] at hstep
      | _ => exact ha.elim
  · intro h hleft
    cases hw : s.worker with
    | ended => exact Or.inl rfl
    | check => exact Or.inr ⟨.checkCancelled, trivial, by simp [step, checkCancelled, hw]⟩
    | poll => exact Or.inr ⟨.pollTx (.ok none), trivial, by simp [step, pollTx, hw]⟩
    | wait => exact Or.inr ⟨.waitForTxFrame, trivial, by simp [step, waitForTxFrame, hw]⟩
    | send bytes =>
      have hroom : s.channel.length < txCapacity := Nat.lt_of_not_le fun hfull => h ⟨hleft, hfull, bytes, hw⟩
      refine Or.inr ⟨.blockingSend, trivial, ?_⟩
      simp [step, blockingSend, hw, receiverAlive_of_left hleft, hroom]

theorem not_left_of_inLoop (h : s.main.inLoop = true) : ¬ LoopLeft s := by
  rintro (hmain | hmain | hmain) <;> simp [hmain, MainPc.inLoop] at h

theorem not_stuck_of_inLoop (h : s.main.inLoop = true) : ¬ Stuck s := fun hstuck => not_left_of_inLoop h hstuck.1

theorem afterSend_left {onError : OnError} {rest : List Frame} {thenBreak ok : Bool} :
    (MainPc.afterSend onError rest thenBreak ok = .leaving ∨ MainPc.afterSend onError rest thenBreak ok = .cleaned ∨
        MainPc.afterSend onError rest thenBreak ok = .joining) ↔
      thenBreak = true ∨ (ok = false ∧ onError = .breakLoop) := by
  have hrest : MainPc.sendingEach rest ≠ .leaving ∧ MainPc.sendingEach rest ≠ .cleaned ∧
      MainPc.sendingEach rest ≠ .joining := by
    cases rest <;> simp [MainPc.sendingEach]
  cases thenBreak <;> cases ok <;> cases onError <;> simp [MainPc.afterSend, hrest]

/-- A step makes the worker stuck in two ways: the loop is left on it, or it takes a frame after that. -/
theorem step_stuck (h : ¬ Stuck s) (hstep : step cfg s a = some s') :
    Stuck s' ↔ ChannelFull s ∧ ((WorkerHolds s ∧ LeavesLoop s a) ∨ (LoopLeft s ∧ TakesFrame s a)) := by
  cases step_stepped hstep with
  | receive hmain hdecode =>
    refine iff_of_false (not_stuck_of_inLoop (handleFrame_inLoop (s := s.record _) hmain _ _)) ?_
    simp [LeavesLoop, TakesFrame]
  | malformed hmain hdecode =>
    refine iff_of_false h ?_
    simp [LeavesLoop, TakesFrame]
  | endOfStream hmain => simp [Stuck, LoopLeft, ChannelFull, WorkerHolds, LeavesLoop, TakesFrame, hmain]
  | receiveTx hmain hchannel =>
    refine iff_of_false (not_stuck_of_inLoop rfl) ?_
    simp [LeavesLoop, TakesFrame]
  | send hmain hencode =>
    simp [Stuck, LoopLeft, ChannelFull, WorkerHolds, LeavesLoop, TakesFrame, hmain, hencode, afterSend_left]
    tauto
  | sendPanics hmain hencode =>
    simp [Stuck, LoopLeft, LeavesLoop, TakesFrame, hmain, hencode]
  | forward hmain =>
    rename_i bytes ok
    cases ok <;> simp [Stuck, LoopLeft, ChannelFull, WorkerHolds, LeavesLoop, TakesFrame, hmain]
  | flushed hmain hpop =>
    refine iff_of_false (not_stuck_of_inLoop (sendingEach_inLoop _)) ?_
    simp [LeavesLoop, TakesFrame]
  | pushRx hmain hpop hencode =>
    rename_i failed transfer queues bytes ok
    cases ok <;> simp [Stuck, LoopLeft, LeavesLoop, TakesFrame]
  | pushRxPanics hmain hpop hencode => simp [Stuck, LoopLeft, LeavesLoop, TakesFrame]
  | pumpOnce hmain => simp [Stuck, LoopLeft, LeavesLoop, TakesFrame]
  | cleanup hmain =>
    refine iff_of_false (fun hstuck => h ⟨Or.inl hmain, hstuck.2⟩) ?_
    simp [LeavesLoop, TakesFrame]
  | cancelWorker hmain =>
    refine iff_of_false (fun hstuck => h ⟨Or.inr (Or.inl hmain), hstuck.2⟩) ?_
    simp [LeavesLoop, TakesFrame]
  | join hmain hworker => simp [Stuck, LoopLeft, LeavesLoop, TakesFrame]
  | checkCancelled hworker => cases s.txCancelled <;> simp [Stuck, WorkerHolds, LeavesLoop, TakesFrame]
  | pollFrame hworker hout =>
    simp [Stuck, LoopLeft, ChannelFull, WorkerHolds, LeavesLoop, TakesFrame, hworker, hout, and_comm]
  | pollPanics hworker hout => simp [Stuck, WorkerHolds, LeavesLoop, TakesFrame, hout]
  | pollNone hworker => simp [Stuck, WorkerHolds, LeavesLoop, TakesFrame]
  | pollError hworker => simp [Stuck, WorkerHolds, LeavesLoop, TakesFrame]
  | blockingSend hworker halive hroom => simp [Stuck, WorkerHolds, LeavesLoop, TakesFrame]
  | blockingSendClosed hworker hclosed => simp [Stuck, WorkerHolds, LeavesLoop, TakesFrame]
  | waitForTxFrame hworker => simp [Stuck, WorkerHolds, LeavesLoop, TakesFrame]

theorem enabled_of_leavesLoop (h : LeavesLoop s a) : (step cfg s a).isSome := by
  unfold LeavesLoop at h
  split at h
  · simp [step, NetworkSession.endOfStream, h]
  · split at h
    · rename_i hmain
      obtain ⟨bytes, hencode⟩ := Option.ne_none_iff_exists'.mp h.1
      simp [step, NetworkSession.send, hmain, hencode]
    · rename_i hmain
      simp [step, NetworkSession.send, hmain]
    · exact h.elim
  · exact h.elim

theorem enabled_of_takesFrame (h : TakesFrame s a) : (step cfg s a).isSome := by
  unfold TakesFrame at h
  split at h
  · obtain ⟨bytes, hout⟩ := Option.ne_none_iff_exists'.mp h.2
    simp [step, NetworkSession.pollTx, h.1, hout]
  · exact h.elim

theorem roomToLeave_iff (h : WorkerFree cfg s) :
    (∀ s', step cfg s a = some s' → WorkerFree cfg s') ↔ RoomToLeave s a := by
  rw [workerFree_iff] at h
  unfold RoomToLeave
  constructor
  · intro hfree hfull
    constructor
    · rintro ⟨hholds, hleaves⟩
      have henabled : (step cfg s a).isSome := enabled_of_leavesLoop hleaves
      obtain ⟨s', hstep⟩ := Option.isSome_iff_exists.mp henabled
      exact workerFree_iff.mp (hfree s' hstep) ((step_stuck h hstep).mpr ⟨hfull, Or.inl ⟨hholds, hleaves⟩⟩)
    · rintro ⟨hleft, htakes⟩
      have henabled : (step cfg s a).isSome := enabled_of_takesFrame htakes
      obtain ⟨s', hstep⟩ := Option.isSome_iff_exists.mp henabled
      exact workerFree_iff.mp (hfree s' hstep) ((step_stuck h hstep).mpr ⟨hfull, Or.inr ⟨hleft, htakes⟩⟩)
  · intro hroom s' hstep
    refine workerFree_iff.mpr fun hstuck => ?_
    obtain ⟨hfull, hcases⟩ := (step_stuck h hstep).mp hstuck
    obtain ⟨hleave, htake⟩ := hroom hfull
    exact hcases.elim hleave htake

end

/-! ## Runs -/

/-- In every run: the worker stays free in every state reached exactly when every step leaves it room. -/
theorem workerFree_iff_roomToLeave (cfg : SessionConfig) (acts : List SessionAct) :
    Along (step cfg) (fun s a => ∀ s', step cfg s a = some s' → WorkerFree cfg s') new acts ↔
      Along (step cfg) RoomToLeave new acts := by
  have hnew : WorkerFree cfg new := workerFree_iff.mpr (not_stuck_of_inLoop rfl)
  exact along_iff (P := WorkerFree cfg) (fun _ _ h => roomToLeave_iff h) (fun _ _ _ _ hfree hstep => hfree _ hstep)
    hnew

/-- A Request from the driver, which the worker answers. -/
def driverRequest : Frame where
  requestId := 7
  frameType := .request
  direction := .hostToDevice
  transferType := .bulk
  endpoint := 1
  status := 0
  payload := []

/-- `n` answers of the driver that nobody takes from the channel. -/
def undelivered : Nat → List SessionAct
  | 0 => []
  | n + 1 => .checkCancelled :: .pollTx (.ok (some driverRequest)) :: .blockingSend :: undelivered n

/-- One answer more than the channel holds, and the client disconnects. -/
def stuckShutdown : List SessionAct :=
  undelivered txCapacity ++ [.checkCancelled, .pollTx (.ok (some driverRequest)), .endOfStream, .cleanup true,
    .cancelWorker]

theorem stuckShutdown_deadlocks : ∃ s, run (step ⟨none, [4], []⟩) new stuckShutdown = some s ∧ s.main = .joining ∧
    ¬ WorkerFree ⟨none, [4], []⟩ s := by
  have h : (run (step ⟨none, [4], []⟩) new stuckShutdown).map (fun s => (s.main, s.worker, s.channel.length)) =
      some (.joining, .send (((outboundNetworkFrame driverRequest).bind Frame.encode).getD []), txCapacity) := by
    decide +kernel
  obtain ⟨s, hrun, hs⟩ := Option.map_eq_some_iff.mp h
  obtain ⟨hmain, hs⟩ := Prod.mk.inj hs
  obtain ⟨hworker, hchannel⟩ := Prod.mk.inj hs
  exact ⟨s, hrun, hmain, fun hfree =>
    workerFree_iff.mp hfree ⟨Or.inr (Or.inr hmain), Nat.le_of_eq hchannel.symm, _, hworker⟩⟩

end NetworkSession

end WhyUsb
