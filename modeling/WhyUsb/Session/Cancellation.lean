import WhyUsb.Protocol.Requests
import WhyUsb.Session.Provenance

/-!
# Cancelling a transfer

`handle_cancel_request` searches the endpoint queues, which are empty whenever
the main loop waits: a Request that was accepted is in the driver or beyond.
Every CancelRequest is answered as failed, and the transfer goes on.
-/

namespace WhyUsb

open List Lts

namespace SessionEvent

/-- The flush pushed a Request with the id `r`. -/
def accepts (r : UInt64) : SessionEvent → Bool
  | pushRx f true => f.requestId == r
  | _ => false

/-- A Response with the id `r` and status 0 is sent, by either path. -/
def isSuccess (r : UInt64) : SessionEvent → Bool
  | sent f _ => f.frameType == .response && f.requestId == r && f.status == 0
  | forwarded bytes _ =>
    match Frame.decode bytes with
    | .ok f => f.frameType == .response && f.requestId == r && f.status == 0
    | .error _ => false
  | _ => false

end SessionEvent

def Frame.tellsCancelled (f : Frame) : Bool :=
  f.frameType == .cancelResponse && f.status == TransferStatus.cancelled.asI32

def SessionEvent.isCancelled (r : UInt64) : SessionEvent → Bool
  | sent f _ => f.tellsCancelled && f.requestId == r
  | _ => false

/-- A Request with the id `r` was accepted, and no Response for `r` sent. -/
def Outstanding (r : UInt64) (trace : Trace) : Prop :=
  (∃ e ∈ trace, e.2.accepts r = true) ∧ ∀ e ∈ trace, e.2.isResponse r = false

instance (r : UInt64) (trace : Trace) : Decidable (Outstanding r trace) := inferInstanceAs (Decidable (_ ∧ _))

/-- In state Attached a CancelRequest arrived for a Request that was outstanding. -/
structure CancelArrived (s : NetworkSession) (before : Trace) (cancel : Frame) (after : Trace) : Prop where
  trace : s.trace = before ++ (.attached, .received cancel) :: after
  frameType : cancel.frameType = .cancelRequest
  outstanding : Outstanding cancel.requestId before

/-- Outstanding Requests can be cancelled: the answer, sent or still to be sent, is CancelResponse(Cancelled) and no
success follows; and no Request has both. -/
structure CancelContract (s : NetworkSession) : Prop where
  honoured : ∀ before cancel after, CancelArrived s before cancel after →
    ((after.filterMap fun e => e.2.sentFrame) ++ s.main.pending).head? = some (cancel.cancelResponse .cancelled) ∧
      ∀ e ∈ after, e.2.isSuccess cancel.requestId = false
  exclusive : ∀ r, s.trace.countP (fun e => e.2.isCancelled r) + s.trace.countP (fun e => e.2.isSuccess r) ≤
    s.trace.countP fun e => e.2.isRequest r

/-- The step receives no CancelRequest for an outstanding Request. -/
def NothingToCancel (s : MockSession) : MockSessionAct → Prop
  | .session (.receive bytes true) => ∀ cancel, s.session.main = .select → Frame.decode bytes = .ok cancel →
      cancel.frameType = .cancelRequest → s.session.lifecycle.state = .attached →
      ¬ Outstanding cancel.requestId s.session.trace
  | _ => True

namespace NetworkSession

section
variable {cfg : SessionConfig} {s s' : NetworkSession} {a : SessionAct}

theorem tellsCancelled_of_frameType {f : Frame} (h : f.frameType ≠ .cancelResponse) : f.tellsCancelled = false := by
  simp [Frame.tellsCancelled, h]

theorem attachResponseWithDescriptors_frameType {frame f : Frame} {status : Int32} {descriptors : UsbDescriptorSet}
    (h : frame.attachResponseWithDescriptors status descriptors = .ok f) : f.frameType = .attachResponse := by
  unfold Frame.attachResponseWithDescriptors at h
  cases hencode : descriptors.encode with
  | error e =>
    rw [hencode] at h
    cases h
  | ok bytes =>
    rw [hencode] at h
    cases h
    rfl

theorem handleFrame_notCancelled (hqueues : s.queues.Drained) (hmain : s.main = .select) (driverOk : Bool)
    (frame : Frame) : ∀ f ∈ (s.handleFrame cfg driverOk frame).main.pending, f.tellsCancelled = false := by
  intro f hf
  unfold handleFrame at hf
  cases hframe : frame.frameType with
  | attachRequest =>
    rw [hframe] at hf
    dsimp only at hf
    unfold handleAttachRequest at hf
    dsimp only at hf
    refine tellsCancelled_of_frameType ?_
    split at hf
    · split at hf
      · rename_i hresponse
        rw [List.mem_singleton.mp hf, attachResponseWithDescriptors_frameType hresponse]
        exact fun hne => nomatch hne
      · rw [List.mem_singleton.mp hf]
        exact fun hne => nomatch hne
    · rw [List.mem_singleton.mp hf]
      exact fun hne => nomatch hne
  | detachRequest =>
    rw [hframe] at hf
    rw [List.mem_singleton.mp hf]
    exact tellsCancelled_of_frameType fun hne => nomatch hne
  | cancelRequest =>
    rw [hframe] at hf
    dsimp only [reply] at hf
    rw [handleCancelRequest_drained hqueues] at hf
    rw [List.mem_singleton.mp hf]
    simp [Frame.tellsCancelled, Frame.cancelResponse, Frame.transferControlResponse, TransferStatus.asI32]
  | resetRequest =>
    rw [hframe] at hf
    dsimp only [sendEach] at hf
    rw [sendingEach_pending] at hf
    refine tellsCancelled_of_frameType ?_
    rcases mem_handleResetRequest hf with hreset | ⟨hresponse, -⟩
    · simp [hreset]
    · simp [hresponse]
  | request =>
    rw [hframe] at hf
    dsimp only at hf
    unfold handleDataRequest at hf
    refine tellsCancelled_of_frameType ?_
    split at hf
    · rw [List.mem_singleton.mp hf]
      exact fun hne => nomatch hne
    · split at hf
      · rcases List.mem_cons.mp hf with rfl | hevent
        · obtain ⟨status, data, hresponse⟩ :=
            handleControlRequest_controlResponse frame s.activeDescriptors cfg.mockHidKeycodes s.control
          rw [hresponse]
          exact fun hne => nomatch hne
        · simp [mem_handleControlRequest hevent]
      · split at hf
        · rename_i response hresponse
          rw [List.mem_singleton.mp hf]
          simp [(mockTransferOutcomeResponse_response hresponse).1]
        · split at hf
          · dsimp only at hf
            rw [hmain] at hf
            cases hf
          · cases hf
  | _ =>
    rw [hframe] at hf
    dsimp only at hf
    rw [hmain] at hf
    cases hf

end

end NetworkSession

/-! ## Runs -/

namespace MockSession

/-- No CancelRequest has arrived for an outstanding Request. -/
structure Untested (s : MockSession) : Prop where
  provenance : Provenance s
  sent : s.session.AllSent fun f => f.tellsCancelled = false
  arrived : ∀ before cancel after, ¬ CancelArrived s.session before cancel after

section
variable {cfg : SessionConfig} {s s' : MockSession} {a : MockSessionAct}

theorem new_untested : Untested new where
  provenance := new_provenance
  sent := ⟨fun _ hf => (nomatch hf), fun _ _ _ h => nomatch h⟩
  arrived := fun before _ _ h => by
    have := h.trace
    cases before <;> cases this

theorem step_sent (h : Untested s) (hstep : step cfg s a = some s') :
    s'.session.AllSent fun f => f.tellsCancelled = false := by
  rcases step_session hstep with hsame | ⟨b, hb, -⟩
  · rw [hsame]
    exact h.sent
  · obtain ⟨queued, answered, hbooked⟩ := h.provenance.booked
    exact NetworkSession.step_allSent hbooked
      (fun driverOk frame hqueues hmain =>
        NetworkSession.handleFrame_notCancelled (s := s.session.record _) hqueues hmain driverOk frame)
      (fun frame => NetworkSession.tellsCancelled_of_frameType fun hne => nomatch hne) h.sent hb

theorem step_untested (h : Untested s) (hnothing : NothingToCancel s a) (hstep : step cfg s a = some s') :
    Untested s' where
  provenance := step_provenance h.provenance hstep
  sent := step_sent h hstep
  arrived := by
    rintro before cancel after ⟨htrace, htype, houtstanding⟩
    rcases step_session hstep with hsame | ⟨b, hb, hcall⟩
    · exact h.arrived before cancel after ⟨hsame ▸ htrace, htype, houtstanding⟩
    · rcases NetworkSession.step_trace hb with hsame | ⟨event, hgrown, hreceived⟩
      · exact h.arrived before cancel after ⟨hsame ▸ htrace, htype, houtstanding⟩
      · rw [hgrown] at htrace
        rcases append_cons_eq_append_singleton htrace.symm with ⟨rfl, hevent, -⟩ | ⟨after', -, hbefore⟩
        · obtain ⟨hstate, hcancel⟩ := Prod.mk.inj hevent
          obtain ⟨bytes, driverOk, hb, hmain, hdecode⟩ := hreceived cancel hcancel.symm
          subst hb
          rcases hcall with ⟨rfl, hdriver⟩ | ⟨_, hb⟩ | ⟨_, hb⟩ | ⟨_, hb⟩
          · obtain rfl : driverOk = true := hdriver
            exact hnothing cancel hmain hdecode htype hstate.symm houtstanding
          · cases hb
          · cases hb
          · cases hb
        · exact h.arrived before cancel after' ⟨hbefore, htype, houtstanding⟩

theorem Untested.contract (h : Untested s) : CancelContract s.session where
  honoured := fun before cancel after harrived => absurd harrived (h.arrived before cancel after)
  exclusive := by
    intro r
    have hcancelled : s.session.trace.countP (fun e => e.2.isCancelled r) = 0 := by
      rw [List.countP_eq_zero]
      rintro ⟨state, event⟩ he
      cases event with
      | sent f ok => simp [SessionEvent.isCancelled, h.sent.sent state f ok he]
      | _ => simp [SessionEvent.isCancelled]
    have hsuccess : s.session.trace.countP (fun e => e.2.isSuccess r) ≤
        s.session.trace.countP fun e => e.2.isResponse r := by
      refine List.countP_mono_left fun e _ he => ?_
      cases hevent : e.2 with
      | sent f ok =>
        rw [hevent, SessionEvent.isSuccess] at he
        exact (Bool.and_eq_true_iff.mp he).1
      | forwarded bytes ok =>
        rw [hevent, SessionEvent.isSuccess] at he
        rw [SessionEvent.isResponse, isResponseBytes]
        cases hdecode : Frame.decode bytes with
        | ok f =>
          rw [hdecode] at he
          exact (Bool.and_eq_true_iff.mp he).1
        | error e =>
          rw [hdecode] at he
          cases he
      | _ =>
        rw [hevent] at he
        cases he
    have hresponses := h.provenance.countP_le r
    omega

theorem step_dishonoured (h : Provenance s) (harrives : ¬ NothingToCancel s a) :
    ∃ s', step cfg s a = some s' ∧ ¬ CancelContract s'.session := by
  unfold NothingToCancel at harrives
  split at harrives
  · rename_i bytes
    simp only [not_forall, not_not] at harrives
    obtain ⟨cancel, hmain, hdecode, htype, hstate, houtstanding⟩ := harrives
    obtain ⟨queued, answered, hbooked⟩ := h.booked
    have hqueues := (hbooked.drained (by simp [hmain])).2
    have hframe : (s.session.record (.received cancel)).handleFrame cfg true cancel =
        (s.session.record (.received cancel)).reply (cancel.cancelResponse .failed) := by
      unfold NetworkSession.handleFrame
      rw [htype]
      dsimp only [NetworkSession.record_lifecycle, NetworkSession.record_queues]
      rw [handleCancelRequest_drained hqueues]
      rfl
    refine ⟨{ s with session := (s.session.record (.received cancel)).reply (cancel.cancelResponse .failed) }, ?_, ?_⟩
    · simp only [step, SessionAct.leavesRings, if_true, NetworkSession.step, NetworkSession.receive, hmain, hdecode,
        hframe, Option.map_some]
    · intro hcontract
      have harrived : CancelArrived ((s.session.record (.received cancel)).reply (cancel.cancelResponse .failed))
          s.session.trace cancel [] := ⟨by rw [← hstate]; rfl, htype, houtstanding⟩
      have hanswer := (hcontract.honoured _ _ _ harrived).1
      have hfields := congrArg (Option.map Frame.status) hanswer
      revert hfields
      simp [NetworkSession.reply, MainPc.pending, Frame.cancelResponse, Frame.transferControlResponse,
        TransferStatus.asI32]
  · exact absurd trivial harrives

/-- In every run: every state reached keeps the contract exactly when no step receives a CancelRequest for an
outstanding Request. -/
theorem cancelContract_iff_nothingToCancel (cfg : SessionConfig) (acts : List MockSessionAct) :
    Along (step cfg) (fun s a => ∀ s', step cfg s a = some s' → CancelContract s'.session) new acts ↔
      Along (step cfg) NothingToCancel new acts := by
  have hcondition : ∀ s a, Untested s →
      ((∀ s', step cfg s a = some s' → CancelContract s'.session) ↔ NothingToCancel s a) := by
    intro s a h
    constructor
    · intro hcontract
      by_contra harrives
      obtain ⟨s', hstep, hbroken⟩ := step_dishonoured (s := s) h.provenance harrives
      exact hbroken (hcontract s' hstep)
    · intro hnothing s' hstep
      exact (step_untested h hnothing hstep).contract
  exact along_iff (P := Untested) hcondition
    (fun s a s' h hcontract hstep => step_untested h ((hcondition s a h).mp hcontract) hstep) new_untested

end

/-- A CancelRequest for a Request that has been pumped and not yet polled. -/
theorem pumped_not_cancelled : ¬ ∀ cfg acts s, run (step cfg) new acts = some s → CancelContract s.session := by
  intro h
  have hpumped : (run (step ⟨none, [4], []⟩) new pumpedRun).map
      (fun s => (s.session.main, s.session.lifecycle.state, decide (Outstanding 7 s.session.trace))) =
        some (.select, .attached, true) := by
    decide +kernel
  obtain ⟨s, hrun, hs⟩ := Option.map_eq_some_iff.mp hpumped
  obtain ⟨hmain, hs⟩ := Prod.mk.inj hs
  obtain ⟨hstate, houtstanding⟩ := Prod.mk.inj hs
  have hinv : Provenance s := run_invariant (fun _ _ _ hs hstep => step_provenance hs hstep) new_provenance hrun
  obtain ⟨bytes, hencode⟩ := @Frame.encode_ok (.cancelRequest 7 .bulk 1) (by decide)
  have harrives : ¬ NothingToCancel s (.session (.receive bytes true)) := fun hnothing =>
    hnothing _ hmain (Frame.decode_of_encode hencode) rfl hstate (of_decide_eq_true houtstanding)
  obtain ⟨s', hstep, hbroken⟩ := @step_dishonoured ⟨none, [4], []⟩ s _ hinv harrives
  refine hbroken (h ⟨none, [4], []⟩ (pumpedRun ++ [.session (.receive bytes true)]) s' ?_)
  rw [run_append_of_run _ hrun, run_cons_of_step _ hstep, run_nil]

end MockSession

end WhyUsb
