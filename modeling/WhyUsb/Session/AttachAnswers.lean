import WhyUsb.Descriptor.Image
import WhyUsb.Session.Network

/-!
# Attach requests are answered

An AttachRequest leaves the main loop at its answer and at nothing else, and
the answer can be encoded: it is the next frame of its own that the session
sends. Frames from the driver, which it only forwards, may come before.
-/

namespace WhyUsb

open Lts

theorem attachResponseWithDescriptors_eq (frame : Frame) (status : Int32) (attachDevice : Option DeviceAttachRequest) :
    frame.attachResponseWithDescriptors status (descriptorSetForAttach attachDevice) =
      .ok (frame.lifecycleResponse .attachResponse status (descriptorSetForAttach attachDevice).bytes) := by
  have hencode : (descriptorSetForAttach attachDevice).encode = .ok (descriptorSetForAttach attachDevice).bytes :=
    (UsbDescriptorSet.encode_ok _ _).mpr ⟨(UsbDescriptorSet.mockHidKeyboard_wellFormed _ _).1, rfl⟩
  rw [Frame.attachResponseWithDescriptors, hencode]
  rfl

/-- The descriptors of an AttachResponse are short, whatever the ids in them. -/
theorem attachDescriptors_encode (frame : Frame) (status : Int32) (attachDevice : Option DeviceAttachRequest) :
    ∃ bytes, (frame.lifecycleResponse .attachResponse status (descriptorSetForAttach attachDevice).bytes).encode =
      some bytes := by
  have hlen : (descriptorSetForAttach attachDevice).bytes.length =
      (UsbDescriptorSet.mockHidKeyboard 0 0).bytes.length := by
    rw [UsbDescriptorSet.bytes_length, UsbDescriptorSet.bytes_length]
    rfl
  have hshort : (UsbDescriptorSet.mockHidKeyboard 0 0).bytes.length < 2 ^ 32 := by decide +kernel
  refine Frame.encode_ok ?_
  change (descriptorSetForAttach attachDevice).bytes.length < 2 ^ 32
  rw [hlen]
  exact hshort

theorem detachSession_not_attached (ok : Bool) (l : Lifecycle) : (detachSession ok l).2.state ≠ .attached := by
  unfold detachSession
  split
  · rename_i hclosed
    rw [hclosed]
    decide
  · split
    · cases ok with
      | true => exact (by decide : SessionState.closed ≠ .attached)
      | false => exact (by decide : SessionState.detaching ≠ .attached)
    · exact (by decide : SessionState.closed ≠ .attached)

namespace NetworkSession

/-- The AttachResponse to the request, with status 0 exactly in a session that is attached now. -/
structure AnswersAttach (request : Frame) (answer : SessionState × Frame) : Prop where
  frameType : answer.2.frameType = .attachResponse
  requestId : answer.2.requestId = request.requestId
  status : answer.2.status = 0 ↔ answer.1 = .attached

def sentAnswers (after : Trace) : List (SessionState × Frame) :=
  after.filterMap fun e => e.2.sentFrame.map fun frame => (e.1, frame)

/-- What the session itself has sent after some point of its trace, and what it is about to send, each with the state
then. The driver's frames, which it forwards, are not among them. -/
def answers (s : NetworkSession) (after : Trace) : List (SessionState × Frame) :=
  sentAnswers after ++ s.main.pending.map fun frame => (s.lifecycle.state, frame)

/-- The first answer is as `Q` says: it was sent, or the main loop is at it and at nothing else. -/
inductive FirstAnswer (Q : SessionState × Frame → Prop) (s : NetworkSession) (after : Trace) : Prop where
  | sent {answer} (hsent : (sentAnswers after).head? = some answer) (hanswer : Q answer)
  | sending {response} (hnone : sentAnswers after = []) (hmain : s.main = .sending response .breakLoop [] false)
      (hencode : ∃ bytes, response.encode = some bytes) (hanswer : Q (s.lifecycle.state, response))

def AttachesAnswered (s : NetworkSession) : Prop :=
  ∀ before state request after, s.trace = before ++ (state, .received request) :: after →
    request.frameType = .attachRequest → FirstAnswer (AnswersAttach request) s after

/-- Whoever is attached was asked for it, and has been told or is told next. -/
def AttachedTold (s : NetworkSession) : Prop :=
  s.lifecycle.state = .attached → ∃ before state request after, s.trace = before ++ (state, .received request) :: after ∧
    request.frameType = .attachRequest ∧
      FirstAnswer (fun answer => AnswersAttach request answer ∧ answer.1 = .attached) s after

section
variable {cfg : SessionConfig} {Q : SessionState × Frame → Prop} {s s' : NetworkSession} {a : SessionAct} {after : Trace}

theorem sentAnswers_append (after more : Trace) : sentAnswers (after ++ more) = sentAnswers after ++ sentAnswers more :=
  List.filterMap_append

theorem FirstAnswer.head (h : FirstAnswer Q s after) : ∃ answer, (s.answers after).head? = some answer ∧ Q answer := by
  cases h with
  | sent hsent hanswer =>
    refine ⟨_, ?_, hanswer⟩
    rw [answers, List.head?_append, hsent, Option.some_or]
  | sending hnone hmain _ hanswer =>
    refine ⟨_, ?_, hanswer⟩
    rw [answers, hnone, hmain]
    rfl

/-! ## Steps -/

/-- What was sent first stays first. -/
theorem sentAnswers_head {answer : SessionState × Frame} (h : (sentAnswers after).head? = some answer) (more : Trace) :
    (sentAnswers (after ++ more)).head? = some answer := by
  rw [sentAnswers_append, List.head?_append, h, Option.some_or]

theorem FirstAnswer.of_main (h : FirstAnswer Q s after) {main : MainPc} (hmain : s.main = main)
    (hother : ∀ response, main ≠ .sending response .breakLoop [] false) (more : Trace) :
    FirstAnswer Q s' (after ++ more) := by
  cases h with
  | sent hsent hanswer => exact .sent (sentAnswers_head hsent more) hanswer
  | sending _ hsending => exact absurd (hmain.symm.trans hsending) (hother _)

theorem FirstAnswer.of_send (h : FirstAnswer Q s after) {frame : Frame} {onError : OnError} {rest : List Frame}
    {thenBreak ok : Bool} (hmain : s.main = .sending frame onError rest thenBreak) :
    FirstAnswer Q s' (after ++ [(s.lifecycle.state, .sent frame ok)]) := by
  cases h with
  | sent hsent hanswer => exact .sent (sentAnswers_head hsent _) hanswer
  | sending hnone hsending _ hanswer =>
    rw [hsending] at hmain
    cases hmain
    refine .sent ?_ hanswer
    rw [sentAnswers_append, hnone]
    rfl

theorem FirstAnswer.of_sendPanics (h : FirstAnswer Q s after) {frame : Frame} {onError : OnError} {rest : List Frame}
    {thenBreak : Bool} (hmain : s.main = .sending frame onError rest thenBreak) (hencode : frame.encode = none) :
    FirstAnswer Q s' (after ++ []) := by
  cases h with
  | sent hsent hanswer => exact .sent (sentAnswers_head hsent _) hanswer
  | sending _ hsending hsome _ =>
    rw [hsending] at hmain
    cases hmain
    obtain ⟨bytes, hbytes⟩ := hsome
    cases hencode.symm.trans hbytes

theorem FirstAnswer.of_worker (h : FirstAnswer Q s after) (hmain : s'.main = s.main)
    (hlifecycle : s'.lifecycle = s.lifecycle) : FirstAnswer Q s' (after ++ []) := by
  rw [List.append_nil]
  cases h with
  | sent hsent hanswer => exact .sent hsent hanswer
  | sending hnone hsending hencode hanswer =>
    refine .sending hnone (hmain.trans hsending) hencode ?_
    rw [hlifecycle]
    exact hanswer

/-- A step that receives nothing: it attaches no one, and first answers stay. -/
structure Quiet (s s' : NetworkSession) (more : Trace) : Prop where
  trace : s'.trace = s.trace ++ more
  received : ∀ state frame, (state, SessionEvent.received frame) ∉ more
  attached : s'.lifecycle.state = .attached → s.lifecycle.state = .attached
  answer : ∀ Q after, FirstAnswer Q s after → FirstAnswer Q s' (after ++ more)

theorem quiet_of_main {main : MainPc} (hmain : s.main = main)
    (hother : ∀ response, main ≠ .sending response .breakLoop [] false) (htrace : s'.trace = s.trace)
    (hattached : s'.lifecycle.state = .attached → s.lifecycle.state = .attached) : Quiet s s' [] where
  trace := htrace.trans (List.append_nil _).symm
  received := by simp
  attached := hattached
  answer := fun _ _ hfirst => hfirst.of_main hmain hother []

theorem quiet_of_worker (hmain : s'.main = s.main) (hlifecycle : s'.lifecycle = s.lifecycle)
    (htrace : s'.trace = s.trace) : Quiet s s' [] where
  trace := htrace.trans (List.append_nil _).symm
  received := by simp
  attached := by rw [hlifecycle]; exact id
  answer := fun _ _ hfirst => hfirst.of_worker hmain hlifecycle

/-- A step receives a frame in the select, or it is quiet. -/
theorem step_quiet (hstep : step cfg s a = some s') :
    (∃ frame driverOk, s.main = .select ∧ s' = (s.record (.received frame)).handleFrame cfg driverOk frame) ∨
      ∃ more, Quiet s s' more := by
  cases step_stepped hstep with
  | receive hmain hdecode => exact Or.inl ⟨_, _, hmain, rfl⟩
  | malformed hmain hdecode => exact Or.inr ⟨[], quiet_of_worker rfl rfl rfl⟩
  | send hmain hencode => exact Or.inr ⟨_, rfl, by simp, id, fun _ _ hfirst => hfirst.of_send hmain⟩
  | sendPanics hmain hencode =>
    exact Or.inr ⟨[], (List.append_nil _).symm, by simp, id, fun _ _ hfirst => hfirst.of_sendPanics hmain hencode⟩
  | forward hmain => exact Or.inr ⟨_, rfl, by simp, id, fun _ _ hfirst => hfirst.of_main hmain (by simp) _⟩
  | pushRx hmain hpop hencode =>
    exact Or.inr ⟨_, rfl, by simp, id, fun _ _ hfirst => hfirst.of_main hmain (by simp) _⟩
  | endOfStream hmain => exact Or.inr ⟨[], quiet_of_main hmain (by simp) rfl id⟩
  | receiveTx hmain hchannel => exact Or.inr ⟨[], quiet_of_main hmain (by simp) rfl id⟩
  | flushed hmain hpop => exact Or.inr ⟨[], quiet_of_main hmain (by simp) rfl id⟩
  | pushRxPanics hmain hpop hencode => exact Or.inr ⟨[], quiet_of_main hmain (by simp) rfl id⟩
  | pumpOnce hmain => exact Or.inr ⟨[], quiet_of_main hmain (by simp) rfl id⟩
  | cleanup hmain =>
    exact Or.inr ⟨[], quiet_of_main hmain (by simp) rfl fun hattached =>
      absurd hattached (detachSession_not_attached _ _)⟩
  | cancelWorker hmain => exact Or.inr ⟨[], quiet_of_main hmain (by simp) rfl id⟩
  | join hmain hworker => exact Or.inr ⟨[], quiet_of_main hmain (by simp) rfl fun hattached => by cases hattached⟩
  | _ => exact Or.inr ⟨[], quiet_of_worker rfl rfl rfl⟩

/-! ## Frames received -/

/-- The main loop is at the AttachResponse. -/
theorem handleAttachRequest_answers (cfg : SessionConfig) (s : NetworkSession) (driverOk : Bool) (frame : Frame) :
    ∃ response, (s.handleAttachRequest cfg driverOk frame).main = .sending response .breakLoop [] false ∧
      (∃ bytes, response.encode = some bytes) ∧
      AnswersAttach frame ((s.handleAttachRequest cfg driverOk frame).lifecycle.state, response) := by
  have hstatus := @Lifecycle.attachSession_status s.lifecycle driverOk cfg.attachDevice
  unfold handleAttachRequest
  dsimp only
  rw [attachResponseWithDescriptors_eq]
  split
  · exact ⟨_, rfl, attachDescriptors_encode frame _ cfg.attachDevice, rfl, rfl, hstatus⟩
  · exact ⟨_, rfl, Frame.encode_ok (by decide : 0 < 2 ^ 32), rfl, rfl, hstatus⟩

theorem handleFrame_attached (driverOk : Bool) {frame : Frame} (htype : frame.frameType ≠ .attachRequest)
    (hattached : (s.handleFrame cfg driverOk frame).lifecycle.state = .attached) : s.lifecycle.state = .attached := by
  unfold handleFrame at hattached
  cases hframe : frame.frameType with
  | attachRequest => exact absurd hframe htype
  | detachRequest =>
    rw [hframe] at hattached
    exact absurd hattached (detachSession_not_attached driverOk s.lifecycle)
  | request =>
    rw [hframe] at hattached
    dsimp only at hattached
    unfold handleDataRequest at hattached
    repeat' split at hattached
    all_goals exact hattached
  | _ =>
    rw [hframe] at hattached
    exact hattached

/-! ## Runs -/

theorem new_attachesAnswered : AttachesAnswered new := by
  intro before state request after htrace
  cases before <;> cases htrace

theorem step_attachesAnswered (h : AttachesAnswered s) (hstep : step cfg s a = some s') : AttachesAnswered s' := by
  intro before state request after htrace htype
  obtain ⟨frame, driverOk, hmain, rfl⟩ | ⟨more, hquiet⟩ := step_quiet hstep
  · rw [received_trace] at htrace
    obtain ⟨-, hevent, rfl⟩ | ⟨after', rfl, hbefore⟩ := append_cons_eq_append_singleton htrace.symm
    · obtain rfl := SessionEvent.received.inj (Prod.mk.inj hevent).2
      obtain ⟨response, hsending, hencode, hanswers⟩ :=
        handleAttachRequest_answers cfg (s.record (.received request)) driverOk request
      unfold handleFrame
      rw [htype]
      exact .sending rfl hsending hencode hanswers
    · exact (h before state request after' hbefore htype).of_main hmain (by simp) _
  · rw [hquiet.trace] at htrace
    obtain ⟨after', rfl, hbefore⟩ | hnew := append_cons_eq_append htrace.symm
    · exact hquiet.answer _ _ (h before state request after' hbefore htype)
    · exact absurd hnew (hquiet.received state request)

theorem new_attachedTold : AttachedTold new := by
  intro hattached
  cases hattached

theorem step_attachedTold (h : AttachedTold s) (hstep : step cfg s a = some s') : AttachedTold s' := by
  intro hattached
  obtain ⟨frame, driverOk, hmain, rfl⟩ | ⟨more, hquiet⟩ := step_quiet hstep
  · by_cases htype : frame.frameType = .attachRequest
    · obtain ⟨response, hsending, hencode, hanswers⟩ :=
        handleAttachRequest_answers cfg (s.record (.received frame)) driverOk frame
      refine ⟨s.trace, s.lifecycle.state, frame, [], received_trace cfg s driverOk frame, htype, ?_⟩
      unfold handleFrame at hattached ⊢
      rw [htype] at hattached ⊢
      exact .sending rfl hsending hencode ⟨hanswers, hattached⟩
    · have hbefore : s.lifecycle.state = .attached :=
        handleFrame_attached (s := s.record (.received frame)) driverOk htype hattached
      obtain ⟨before, state, request, after, htrace, hrequest, hfirst⟩ := h hbefore
      refine ⟨before, state, request, _, ?_, hrequest, hfirst.of_main hmain (by simp) [(s.lifecycle.state, .received frame)]⟩
      rw [received_trace, record_trace, htrace, List.append_assoc, List.cons_append]
  · obtain ⟨before, state, request, after, htrace, hrequest, hfirst⟩ := h (hquiet.attached hattached)
    refine ⟨before, state, request, after ++ more, ?_, hrequest, hquiet.answer _ _ hfirst⟩
    rw [hquiet.trace, htrace, List.append_assoc, List.cons_append]

end

end NetworkSession

end WhyUsb
