import WhyUsb.Protocol.Requests
import WhyUsb.Session.AttachAnswers
import WhyUsb.Session.UsbIpAnswers

/-!
# Sessions are bracketed

What the lifecycle is at each place of the main loop: open inside it, detached
by the request that leaves it or by the cleanup after it. The cleanup detaches
once more; every way out passes it.
-/

namespace WhyUsb

open Lts

namespace NetworkSession

/-- An AttachResponse has status 0 exactly when the session is attached. -/
def TellsAttached (state : SessionState) (frame : Frame) : Prop :=
  frame.frameType = .attachResponse → (frame.status = 0 ↔ state = .attached)

def LifecycleAt (lifecycle : Lifecycle) : MainPc → Prop
  | .select => lifecycle.Open
  | .sending _ _ _ thenBreak => if thenBreak then lifecycle.Bracketed else lifecycle.Open
  | .forwarding _ => lifecycle.Open
  | .flushing _ => lifecycle.Open ∧ lifecycle.state = .attached
  | .pumping _ => lifecycle.Open ∧ lifecycle.state = .attached
  | .leaving => lifecycle.Bracketed
  | .cleaned => lifecycle.Left
  | .joining => lifecycle.Left
  | .finished => lifecycle.Left
  | .panicked => lifecycle.Bracketed

def EventOk : SessionState × SessionEvent → Prop
  | (state, .pushRx _ _) => state = .attached
  | (state, .sent frame _) => TellsAttached state frame
  | _ => True

structure BracketInv (s : NetworkSession) : Prop where
  lifecycle : LifecycleAt s.lifecycle s.main
  pending : ∀ frame ∈ s.main.pending, TellsAttached s.lifecycle.state frame
  trace : ∀ e ∈ s.trace, EventOk e

section
variable {cfg : SessionConfig} {s s' : NetworkSession} {a : SessionAct}

theorem new_bracketInv : BracketInv new where
  lifecycle := Lifecycle.new_open
  pending := fun _ h => nomatch h
  trace := fun _ h => nomatch h

theorem tellsAttached_of_response {state : SessionState} {frame : Frame} (h : frame.frameType = .response) :
    TellsAttached state frame := by
  intro hattach
  rw [h] at hattach
  cases hattach

theorem LifecycleAt.bracketed {lifecycle : Lifecycle} {main : MainPc} (h : LifecycleAt lifecycle main) :
    lifecycle.Bracketed := by
  cases main with
  | select => exact h.toBracketed
  | sending frame onError rest thenBreak =>
    cases thenBreak with
    | true => exact h
    | false => exact h.toBracketed
  | forwarding bytes => exact h.toBracketed
  | flushing failed => exact h.1.toBracketed
  | pumping failed => exact h.1.toBracketed
  | leaving => exact h
  | cleaned => exact h.toBracketed
  | joining => exact h.toBracketed
  | finished => exact h.toBracketed
  | panicked => exact h

theorem sendingEach_lifecycle {lifecycle : Lifecycle} (h : lifecycle.Open) (frames : List Frame) :
    LifecycleAt lifecycle (.sendingEach frames) := by
  cases frames with
  | nil => exact h
  | cons frame rest => exact h

theorem afterSend_lifecycle {lifecycle : Lifecycle} {frame : Frame} {onError : OnError} {rest : List Frame}
    {thenBreak : Bool} (h : LifecycleAt lifecycle (.sending frame onError rest thenBreak)) (ok : Bool) :
    LifecycleAt lifecycle (.afterSend onError rest thenBreak ok) := by
  cases thenBreak with
  | true => exact h
  | false =>
    cases ok with
    | true => exact sendingEach_lifecycle h rest
    | false =>
      cases onError with
      | breakLoop => exact Lifecycle.Open.toBracketed h
      | skipRest => exact h

/-! ## One frame -/

theorem handleAttachRequest_bracketed (h : s.lifecycle.Open) (driverOk : Bool) (frame : Frame) :
    LifecycleAt (s.handleAttachRequest cfg driverOk frame).lifecycle (s.handleAttachRequest cfg driverOk frame).main ∧
      ∀ f ∈ (s.handleAttachRequest cfg driverOk frame).main.pending,
        TellsAttached (s.handleAttachRequest cfg driverOk frame).lifecycle.state f := by
  have hopen := Lifecycle.attachSession_open h driverOk cfg.attachDevice
  have hstatus := @Lifecycle.attachSession_status s.lifecycle driverOk cfg.attachDevice
  unfold handleAttachRequest
  dsimp only
  rw [attachResponseWithDescriptors_eq]
  split
  · rename_i hzero
    refine ⟨hopen, fun f hf _ => ?_⟩
    rw [List.mem_singleton.mp hf]
    exact hstatus
  · refine ⟨hopen, fun f hf _ => ?_⟩
    rw [List.mem_singleton.mp hf]
    exact hstatus

theorem handleDataRequest_bracketed (h : s.lifecycle.Open) (hmain : s.main = .select) (frame : Frame) :
    LifecycleAt (s.handleDataRequest cfg frame).lifecycle (s.handleDataRequest cfg frame).main ∧
      ∀ f ∈ (s.handleDataRequest cfg frame).main.pending,
        TellsAttached (s.handleDataRequest cfg frame).lifecycle.state f := by
  unfold handleDataRequest
  split
  · refine ⟨h, fun f hf => ?_⟩
    rw [List.mem_singleton.mp hf]
    exact tellsAttached_of_response rfl
  · rename_i hattached
    split
    · refine ⟨h, fun f hf => ?_⟩
      rcases List.mem_cons.mp hf with rfl | hevent
      · obtain ⟨status, data, hresponse⟩ :=
          handleControlRequest_controlResponse frame s.activeDescriptors cfg.mockHidKeycodes s.control
        exact tellsAttached_of_response (congrArg Frame.frameType hresponse)
      · exact fun hne => by rw [mem_handleControlRequest hevent] at hne; cases hne
    · split
      · rename_i response hresponse
        refine ⟨h, fun f hf => ?_⟩
        rw [List.mem_singleton.mp hf]
        exact tellsAttached_of_response (mockTransferOutcomeResponse_response hresponse).1
      · split
        · dsimp only
          rw [hmain]
          exact ⟨h, fun f hf => nomatch hf⟩
        · exact ⟨⟨h, not_not.mp hattached⟩, fun f hf => nomatch hf⟩

theorem handleFrame_bracketed (cfg : SessionConfig) (h : s.lifecycle.Open) (hmain : s.main = .select) (driverOk : Bool)
    (frame : Frame) :
    LifecycleAt (s.handleFrame cfg driverOk frame).lifecycle (s.handleFrame cfg driverOk frame).main ∧
      ∀ f ∈ (s.handleFrame cfg driverOk frame).main.pending,
        TellsAttached (s.handleFrame cfg driverOk frame).lifecycle.state f := by
  unfold handleFrame
  cases frame.frameType with
  | attachRequest => exact handleAttachRequest_bracketed h driverOk frame
  | detachRequest =>
    refine ⟨(Lifecycle.detachSession_left h.toBracketed h.not_closed driverOk).toBracketed, fun f hf => ?_⟩
    rw [List.mem_singleton.mp hf]
    exact fun hne => nomatch hne
  | cancelRequest =>
    refine ⟨h, fun f hf hne => ?_⟩
    dsimp only at hf
    rw [List.mem_singleton.mp hf, handleCancelRequest_frameType] at hne
    cases hne
  | resetRequest =>
    refine ⟨sendingEach_lifecycle h _, fun f hf hne => ?_⟩
    dsimp only [sendEach] at hf
    rw [sendingEach_pending] at hf
    rcases mem_handleResetRequest hf with hreset | ⟨hresponse, -⟩
    · rw [hreset] at hne
      cases hne
    · rw [hresponse] at hne
      cases hne
  | request => exact handleDataRequest_bracketed h hmain frame
  | _ =>
    dsimp only
    rw [hmain]
    exact ⟨h, fun f hf => nomatch hf⟩

/-! ## One step -/

theorem BracketInv.trace_snoc {e : SessionState × SessionEvent} (h : BracketInv s) (he : EventOk e) :
    ∀ e' ∈ s.trace ++ [e], EventOk e' := by
  intro e' he'
  rcases List.mem_append.mp he' with hmem | hmem
  · exact h.trace e' hmem
  · exact List.mem_singleton.mp hmem ▸ he

theorem BracketInv.of_same (h : BracketInv s) (hlifecycle : s'.lifecycle = s.lifecycle) (htrace : s'.trace = s.trace)
    (hat : LifecycleAt s.lifecycle s'.main) (hpending : ∀ f ∈ s'.main.pending, f ∈ s.main.pending) :
    BracketInv s' where
  lifecycle := by rw [hlifecycle]; exact hat
  pending := fun f hf => by rw [hlifecycle]; exact h.pending f (hpending f hf)
  trace := by rw [htrace]; exact h.trace

theorem step_bracketInv (h : BracketInv s) (hstep : step cfg s a = some s') : BracketInv s' := by
  have hat := h.lifecycle
  cases step_stepped hstep with
  | receive hmain hdecode =>
    rw [hmain] at hat
    rename_i bytes frame driverOk
    have hs : (s.record (.received frame)).main = .select := hmain
    obtain ⟨hlifecycle, hpending⟩ := handleFrame_bracketed cfg (s := s.record (.received frame)) hat hs driverOk frame
    refine ⟨hlifecycle, hpending, ?_⟩
    rw [(handleFrame_sameWorker driverOk frame).trace]
    exact h.trace_snoc trivial
  | malformed hmain hdecode => exact h
  | endOfStream hmain =>
    rw [hmain] at hat
    exact h.of_same rfl rfl hat.toBracketed fun _ hf => nomatch hf
  | receiveTx hmain hchannel =>
    rw [hmain] at hat
    exact h.of_same rfl rfl hat fun _ hf => nomatch hf
  | send hmain hencode =>
    rename_i frame onError rest thenBreak bytes ok
    have hpending := h.pending
    rw [hmain] at hat hpending
    have hsent : EventOk (s.lifecycle.state, .sent frame ok) := hpending frame List.mem_cons_self
    exact ⟨afterSend_lifecycle hat ok, fun f hf => hpending f (List.mem_cons_of_mem _ (afterSend_pending hf)),
      h.trace_snoc hsent⟩
  | sendPanics hmain hencode => exact h.of_same rfl rfl hat.bracketed fun _ hf => nomatch hf
  | forward hmain =>
    rename_i bytes ok
    rw [hmain] at hat
    cases ok with
    | true => exact ⟨hat, fun _ hf => (nomatch hf), h.trace_snoc trivial⟩
    | false => exact ⟨hat.toBracketed, fun _ hf => (nomatch hf), h.trace_snoc trivial⟩
  | flushed hmain hpop =>
    rename_i failed queues
    rw [hmain] at hat
    refine h.of_same rfl rfl (sendingEach_lifecycle hat.1 failed) fun f hf => ?_
    rw [hmain]
    exact sendingEach_pending failed ▸ hf
  | pushRx hmain hpop hencode =>
    rename_i failed transfer queues bytes ok
    have hpending := h.pending
    rw [hmain] at hat hpending
    have hpush : EventOk (s.lifecycle.state, .pushRx transfer.frame ok) := hat.2
    cases ok with
    | true => exact ⟨hat, hpending, h.trace_snoc hpush⟩
    | false =>
      refine ⟨hat, fun f hf => ?_, h.trace_snoc hpush⟩
      rcases List.mem_append.mp hf with hmem | hmem
      · exact hpending f hmem
      · rw [List.mem_singleton.mp hmem]
        exact tellsAttached_of_response rfl
  | pushRxPanics hmain hpop hencode => exact h.of_same rfl rfl hat.bracketed fun _ hf => nomatch hf
  | pumpOnce hmain =>
    rename_i failed ok
    rw [hmain] at hat
    exact h.of_same rfl rfl hat fun f hf => by rw [hmain]; exact hf
  | cleanup hmain =>
    rename_i driverOk
    exact ⟨Lifecycle.detaching_left hat.bracketed driverOk, fun _ hf => (nomatch hf), h.trace⟩
  | cancelWorker hmain =>
    rw [hmain] at hat
    exact h.of_same rfl rfl hat fun _ hf => nomatch hf
  | join hmain hworker =>
    rw [hmain] at hat
    have hleft : Lifecycle.Left { s.lifecycle with state := .closed } :=
      ⟨⟨hat.wellBracketed, hat.detaches_le, hat.attached_iff⟩, hat.released⟩
    exact ⟨hleft, fun _ hf => (nomatch hf), h.trace⟩
  | checkCancelled hworker => exact h.of_same rfl rfl hat fun _ hf => hf
  | pollFrame hworker hout => exact h.of_same rfl rfl hat fun _ hf => hf
  | pollPanics hworker hout => exact h.of_same rfl rfl hat fun _ hf => hf
  | pollNone hworker => exact h.of_same rfl rfl hat fun _ hf => hf
  | pollError hworker => exact h.of_same rfl rfl hat fun _ hf => hf
  | blockingSend hworker halive hroom => exact h.of_same rfl rfl hat fun _ hf => hf
  | blockingSendClosed hworker hclosed => exact h.of_same rfl rfl hat fun _ hf => hf
  | waitForTxFrame hworker => exact h.of_same rfl rfl hat fun _ hf => hf

end

end NetworkSession

/-- Every run of the network session and every run of the USB/IP session, whatever arrives and whatever the driver
answers: one attach at most; pushes in state Attached; to every AttachRequest an AttachResponse, before any other frame
but those forwarded from the driver, with status 0 exactly in state Attached; no state Attached without one; a detach
for the attach and only for it, before the session returns. -/
theorem sessions_bracketed :
    (∀ cfg acts s, run (NetworkSession.step cfg) .new acts = some s →
        WellBracketed s.lifecycle.calls ∧
        (∀ state frame ok, (state, .pushRx frame ok) ∈ s.trace → state = .attached) ∧
        (∀ state frame ok, (state, .sent frame ok) ∈ s.trace → frame.frameType = .attachResponse →
          (frame.status = 0 ↔ state = .attached)) ∧
        (∀ before state request after, s.trace = before ++ (state, .received request) :: after →
          request.frameType = .attachRequest →
            ∃ answer, (s.answers after).head? = some answer ∧ NetworkSession.AnswersAttach request answer) ∧
        (s.lifecycle.state = .attached →
          ∃ before state request after answer, s.trace = before ++ (state, .received request) :: after ∧
            request.frameType = .attachRequest ∧ (s.answers after).head? = some answer ∧
            NetworkSession.AnswersAttach request answer ∧ answer.1 = .attached) ∧
        (s.main = .finished → Released s.lifecycle.calls)) ∧
      ∀ env attachDevice keycodes stream, ∃ run, runSingleUsbipClient env attachDevice keycodes stream = some run ∧
        (∀ e, run.result ≠ .encodeFailed e) ∧ WellBracketed run.lifecycle.calls ∧ Released run.lifecycle.calls := by
  refine ⟨fun cfg acts s hrun => ?_, runSingleUsbipClient_bracketed⟩
  have hinv : NetworkSession.BracketInv s :=
    run_invariant (fun _ _ _ h hstep => NetworkSession.step_bracketInv h hstep) NetworkSession.new_bracketInv hrun
  have hanswered : NetworkSession.AttachesAnswered s :=
    run_invariant (fun _ _ _ h hstep => NetworkSession.step_attachesAnswered h hstep)
      NetworkSession.new_attachesAnswered hrun
  have htold : NetworkSession.AttachedTold s :=
    run_invariant (fun _ _ _ h hstep => NetworkSession.step_attachedTold h hstep) NetworkSession.new_attachedTold hrun
  refine ⟨hinv.lifecycle.bracketed.wellBracketed, fun state frame ok he => hinv.trace _ he,
    fun state frame ok he => hinv.trace _ he,
    fun before state request after htrace htype => (hanswered before state request after htrace htype).head,
    fun hattached => ?_, fun hmain => ?_⟩
  · obtain ⟨before, state, request, after, htrace, htype, hfirst⟩ := htold hattached
    obtain ⟨answer, hhead, hanswers, hstate⟩ := hfirst.head
    exact ⟨before, state, request, after, answer, htrace, htype, hhead, hanswers, hstate⟩
  · have hleft := hinv.lifecycle
    rw [hmain] at hleft
    exact hleft.released

def servedConfig : SessionConfig where
  attachDevice := some ⟨0x1209, 1, 1, 1, 0⟩
  mockHidKeycodes := [4]
  mockTransferOutcomes := []

/-- A device is attached, a Request pushed, and the device detached. -/
def servedRun : List SessionAct :=
  [.receive ((Frame.attachRequest 1).encode.getD []) true, .send true,
    .receive ((Frame.mockRequest 7 []).encode.getD []) true, .pushRx true, .pumpOnce true, .flushed,
    .receive ((Frame.detachRequest 8).encode.getD []) true, .send true, .cleanup true, .cancelWorker, .checkCancelled,
    .join]

theorem sessions_bracketed_served : ∃ s answer,
    run (NetworkSession.step servedConfig) .new servedRun = some s ∧
      (s.answers (s.trace.drop 1)).head? = some answer ∧ answer.1 = .attached ∧ answer.2.status = 0 ∧
      NetworkSession.AnswersAttach (.attachRequest 1) answer ∧
      (SessionState.attached, SessionEvent.pushRx (.mockRequest 7 []) true) ∈ s.trace ∧
      s.lifecycle.calls = [.attachDevice ⟨0x1209, 1, 1, 1, 0⟩ true, .detachDevice 0 true] ∧
      WellBracketed s.lifecycle.calls ∧ Released s.lifecycle.calls := by
  have hserved : (run (NetworkSession.step servedConfig) .new servedRun).map (fun s =>
      (decide (s.main = .finished), s.trace.take 1,
        (s.answers (s.trace.drop 1)).head?.map fun answer => (answer.1, answer.2.status))) =
      some (true, [(.connected, .received (.attachRequest 1))], some (.attached, 0)) := by
    decide +kernel
  have hcalled : (run (NetworkSession.step servedConfig) .new servedRun).map (fun s =>
      (decide ((SessionState.attached, SessionEvent.pushRx (.mockRequest 7 []) true) ∈ s.trace), s.lifecycle.calls)) =
      some (true, [.attachDevice ⟨0x1209, 1, 1, 1, 0⟩ true, .detachDevice 0 true]) := by
    decide +kernel
  obtain ⟨s, hrun, hs⟩ := Option.map_eq_some_iff.mp hserved
  obtain ⟨hmain, hs⟩ := Prod.mk.inj hs
  obtain ⟨hfirst, htold⟩ := Prod.mk.inj hs
  rw [hrun, Option.map_some, Option.some.injEq] at hcalled
  obtain ⟨hpushed, hcalls⟩ := Prod.mk.inj hcalled
  obtain ⟨hbracketed, -, -, hanswered, -, hreleased⟩ := sessions_bracketed.1 _ _ s hrun
  have htrace : s.trace = [] ++ (.connected, .received (.attachRequest 1)) :: s.trace.drop 1 := by
    rw [List.nil_append, ← List.singleton_append, ← hfirst, List.take_append_drop]
  obtain ⟨answer, hhead, hanswer⟩ := hanswered _ _ _ _ htrace rfl
  rw [hhead, Option.map_some, Option.some.injEq] at htold
  obtain ⟨hstate, hstatus⟩ := Prod.mk.inj htold
  exact ⟨s, answer, hrun, hhead, hstate, hstatus, hanswer, of_decide_eq_true hpushed, hcalls, hbracketed,
    hreleased (of_decide_eq_true hmain)⟩

end WhyUsb
