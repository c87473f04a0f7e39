import WhyUsb.Lib.Matching
import WhyUsb.Queue.Refinement
import WhyUsb.Session.Network

/-!
# What becomes of a Request

A Request that is received is answered at once, or queued, flushed in the same
iteration and then pushed or answered as failed. The endpoint queues are empty
whenever the main loop waits, and hold the one transfer just received while it
is flushed.
-/

namespace WhyUsb

open List Lts Matching

/-! ## The queues of a session -/

namespace EndpointTransferQueues

structure Drained (q : EndpointTransferQueues) : Prop where
  wf : q.Wf
  empty : ∀ k, view q.queues k = []

/-- The frames in the queues: none, or one. -/
inductive Queued (q : EndpointTransferQueues) : List Frame → Prop where
  | none (h : Drained q) : Queued q []
  | one {transfer : QueuedTransfer} (wf : q.Wf)
      (hview : view q.queues = Function.update (fun _ => []) transfer.key [transfer]) : Queued q [transfer.frame]

section
variable {q : EndpointTransferQueues} {f : Frame}

theorem default_drained : Drained default where
  wf := wf_empty rfl rfl rfl
  empty := fun k => congrFun (show view default.queues = fun _ => [] from view_empty) k

theorem clear_drained : Drained q.clear.2 := default_drained

theorem Drained.activeOrder (h : Drained q) : q.activeOrder = [] := by
  rw [List.eq_nil_iff_forall_not_mem]
  intro k hk
  obtain ⟨ts, hts⟩ := mem_queues_iff.mp ((h.wf.order k).mp hk)
  exact (h.wf.stored k ts hts).1 (view_of_some hts ▸ h.empty k)

theorem Drained.popNext (h : Drained q) : q.popNext = (.none, q) := (popNext_empty h.wf h.activeOrder).1

theorem Drained.cancel (h : Drained q) (r : UInt64) : q.cancel r = (.none, q) :=
  cancel_none fun k t ht => by rw [h.empty k] at ht; cases ht

theorem Drained.resetEndpoint (h : Drained q) (k : EndpointKey) :
    (q.resetEndpoint k).1 = [] ∧ Drained (q.resetEndpoint k).2 := by
  obtain ⟨hdropped, hwf, -, hview⟩ := resetEndpoint_spec h.wf k
  refine ⟨by rw [hdropped, h.empty k], hwf, fun k' => ?_⟩
  rw [hview]
  by_cases hk : k' = k
  · rw [hk, Function.update_self]
  · rw [Function.update_of_ne hk, h.empty k']

theorem Drained.enqueue (h : Drained q) (hf : f.frameType = .request) :
    (q.enqueue f).1 = .ok q.nextSequence ∧ Queued (q.enqueue f).2 [f] := by
  obtain ⟨hout, hwf, -, hview⟩ := enqueue_accepted h.wf hf
  have hone : view (q.enqueue f).2.queues = Function.update (fun _ => []) (q.transfer f).key [q.transfer f] := by
    rw [hview, h.empty, show view q.queues = fun _ => [] from funext h.empty]
    rfl
  have hqueued : Queued (q.enqueue f).2 [(q.transfer f).frame] := .one hwf hone
  exact ⟨hout, hqueued⟩

theorem popNext_one {transfer : QueuedTransfer} (hwf : q.Wf)
    (hview : view q.queues = Function.update (fun _ => []) transfer.key [transfer]) :
    q.popNext.1 = some transfer ∧ Drained q.popNext.2 := by
  cases ho : q.activeOrder with
  | nil =>
    have hnone := (popNext_empty hwf ho).2 transfer.key
    rw [hview, Function.update_self] at hnone
    cases hnone
  | cons k order =>
    obtain ⟨t, rest, hk, -, hpop, hwf', -, hview'⟩ := popNext_front hwf ho
    by_cases heq : k = transfer.key
    · rw [heq, hview, Function.update_self] at hk
      obtain ⟨rfl, rfl⟩ := List.cons.inj hk
      refine ⟨hpop, hwf', fun k' => ?_⟩
      rw [hview', heq, hview, Function.update_idem]
      by_cases hk' : k' = transfer.key
      · rw [hk', Function.update_self]
      · rw [Function.update_of_ne hk']
    · rw [hview, Function.update_of_ne heq] at hk
      cases hk

theorem Queued.popNext {queued : List Frame} (h : Queued q queued) :
    (queued = [] ∧ q.popNext = (.none, q)) ∨
      ∃ transfer, queued = [transfer.frame] ∧ q.popNext.1 = some transfer ∧ Drained q.popNext.2 := by
  cases h with
  | none hdrained => exact Or.inl ⟨rfl, hdrained.popNext⟩
  | one hwf hview => exact Or.inr ⟨_, rfl, popNext_one hwf hview⟩

end

end EndpointTransferQueues

open EndpointTransferQueues

section
variable {q : EndpointTransferQueues}

theorem handleCancelRequest_drained (h : Drained q) (frame : Frame) (state : SessionState) :
    handleCancelRequest frame state q = (frame.cancelResponse .failed, q) := by
  unfold handleCancelRequest
  rw [h.cancel]
  split <;> rfl

theorem handleResetRequest_drained (h : Drained q) (frame : Frame) (state : SessionState) :
    (∃ status, (handleResetRequest frame state q).1 = [frame.resetResponse status]) ∧
      Drained (handleResetRequest frame state q).2 := by
  obtain ⟨hdropped, hdrained⟩ := h.resetEndpoint (EndpointKey.fromFrame frame)
  unfold handleResetRequest
  split
  · exact ⟨⟨_, rfl⟩, h⟩
  · rcases hreset : q.resetEndpoint (EndpointKey.fromFrame frame) with ⟨dropped, queues⟩
    rw [hreset] at hdropped hdrained
    dsimp only at hdropped
    subst hdropped
    exact ⟨⟨_, rfl⟩, hdrained⟩

end

/-! ## The books -/

namespace SessionEvent

def request : SessionEvent → Option Frame
  | received f => if f.frameType = .request then some f else none
  | _ => none

def pushed : SessionEvent → Option Frame
  | pushRx f true => some f
  | _ => none

def direct : SessionEvent → Option Frame
  | sent f _ => if f.frameType = .response then some f else none
  | _ => none

def forwardedBytes : SessionEvent → Option (List UInt8)
  | forwarded bytes _ => some bytes
  | _ => none

end SessionEvent

def IsResponseTo (response request : Frame) : Prop :=
  response.frameType = .response ∧ response.requestId = request.requestId

def MainPc.responses (main : MainPc) : List Frame := main.pending.filter fun f => f.frameType = .response

namespace NetworkSession

def events {α : Type} (s : NetworkSession) (book : SessionEvent → Option α) : List α :=
  s.trace.filterMap fun e => book e.2

theorem events_of_event {α : Type} {s s' : NetworkSession} {state : SessionState} {event : SessionEvent}
    (h : s'.trace = s.trace ++ [(state, event)]) (book : SessionEvent → Option α) :
    s'.events book = s.events book ++ (book event).toList := by
  unfold events
  rw [h, List.filterMap_append]
  cases hbook : book event with
  | none => simp [hbook]
  | some a => simp [hbook]

theorem record_events {α : Type} (s : NetworkSession) (event : SessionEvent) (book : SessionEvent → Option α) :
    (s.record event).events book = s.events book ++ (book event).toList :=
  events_of_event (record_trace event) book

theorem events_nil {s s' : NetworkSession} (h : s'.trace = s.trace) {book : SessionEvent → Option Frame} :
    s'.events book = s.events book ++ [] := by
  unfold events
  rw [h, List.append_nil]

theorem events_of_trace {α : Type} {s s' : NetworkSession} (h : s'.trace = s.trace)
    (book : SessionEvent → Option α) : s'.events book = s.events book := by
  unfold events
  rw [h]

/-- Every Request received is answered once, pushed once or still queued, at most. -/
structure Booked (s : NetworkSession) (queued answered : List Frame) : Prop where
  queue : Queued s.queues queued
  flushing : queued ≠ [] → ∃ failed, s.main = .flushing failed
  answers : Forall₂ IsResponseTo (s.events SessionEvent.direct ++ s.main.responses) answered
  once : (answered ++ (s.events SessionEvent.pushed ++ queued)) <+~ s.events SessionEvent.request

section
variable {cfg : SessionConfig} {s s' : NetworkSession} {a : SessionAct} {queued answered : List Frame}

theorem new_booked : Booked new [] [] where
  queue := .none default_drained
  flushing := fun h => absurd rfl h
  answers := .nil
  once := List.Subperm.refl _

theorem Booked.drained (h : Booked s queued answered) (hmain : ∀ failed, s.main ≠ .flushing failed) :
    queued = [] ∧ Drained s.queues := by
  cases h.queue with
  | none hdrained => exact ⟨rfl, hdrained⟩
  | one hwf hview =>
    obtain ⟨failed, hflushing⟩ := h.flushing (List.cons_ne_nil _ _)
    exact absurd hflushing (hmain failed)

theorem afterSend_sublist (onError : OnError) (rest : List Frame) (thenBreak ok : Bool) :
    (MainPc.afterSend onError rest thenBreak ok).pending <+ rest := by
  cases thenBreak with
  | true => exact nil_sublist _
  | false =>
    cases ok with
    | true =>
      change (MainPc.sendingEach rest).pending <+ rest
      rw [sendingEach_pending]
    | false => cases onError <;> exact nil_sublist _

/-! ## One frame -/

/-- The frame is answered at once, or queued, or neither. -/
structure HandledOnce (s : NetworkSession) (request : Option Frame) : Prop where
  once : ∃ queued answered, Queued s.queues queued ∧ (queued ≠ [] → s.main = .flushing []) ∧
    Forall₂ IsResponseTo s.main.responses answered ∧ (answered ++ queued) <+ request.toList

theorem handledOnce_silent (hqueues : Drained s.queues) (hmain : s.main.responses = []) (request : Option Frame) :
    HandledOnce s request :=
  ⟨[], [], .none hqueues, fun h => absurd rfl h, by rw [hmain]; exact .nil, nil_sublist _⟩

theorem handledOnce_answered {frame response : Frame} (hqueues : Drained s.queues)
    (hmain : s.main.responses = [response]) (h : IsResponseTo response frame) : HandledOnce s (some frame) :=
  ⟨[], [frame], .none hqueues, fun h => absurd rfl h, by rw [hmain]; exact .cons h .nil, List.Sublist.refl _⟩

/-- A control request is answered by one Response; the reports after it are Events. -/
theorem controlResponses (frame : Frame) (descriptors : Option UsbDescriptorSet) (keycodes : List UInt8)
    (st : ControlState) (onError : OnError) (thenBreak : Bool) :
    (MainPc.sending (handleControlRequest frame descriptors keycodes st).1.response onError
      (handleControlRequest frame descriptors keycodes st).1.events thenBreak).responses =
        [(handleControlRequest frame descriptors keycodes st).1.response] ∧
      IsResponseTo (handleControlRequest frame descriptors keycodes st).1.response frame := by
  obtain ⟨status, data, hresponse⟩ := handleControlRequest_controlResponse frame descriptors keycodes st
  have hevents : (handleControlRequest frame descriptors keycodes st).1.events.filter
      (fun f => f.frameType = .response) = [] := by
    rw [List.filter_eq_nil_iff]
    intro f hf
    rw [mem_handleControlRequest hf]
    decide
  rw [MainPc.responses, MainPc.pending, List.filter_cons, hevents, hresponse]
  exact ⟨rfl, rfl, rfl⟩

theorem handleDataRequest_once (h : Drained s.queues) {frame : Frame}
    (hframe : frame.frameType = .request) : HandledOnce (s.handleDataRequest cfg frame) (some frame) := by
  unfold handleDataRequest
  split
  · exact handledOnce_answered h rfl ⟨rfl, rfl⟩
  · split
    · obtain ⟨hresponses, hanswers⟩ := controlResponses frame s.activeDescriptors cfg.mockHidKeycodes s.control
        .breakLoop false
      exact handledOnce_answered h hresponses hanswers
    · split
      · rename_i response hresponse
        have hanswers := mockTransferOutcomeResponse_response hresponse
        refine handledOnce_answered h ?_ hanswers
        simp [reply, MainPc.responses, MainPc.pending, hanswers.1]
      · obtain ⟨hok, hone⟩ := h.enqueue hframe
        split
        · rename_i hrejected
          rw [hrejected] at hok
          cases hok
        · rename_i hqueued
          rw [hqueued] at hone
          exact ⟨[frame], [], hone, fun _ => rfl, .nil, List.Sublist.refl _⟩

theorem handleFrame_once (hmain : s.main = .select) (h : Drained s.queues) (driverOk : Bool) (frame : Frame) :
    HandledOnce (s.handleFrame cfg driverOk frame) (SessionEvent.received frame).request := by
  have hselect : s.main.responses = [] := by rw [hmain]; rfl
  unfold handleFrame
  cases hframe : frame.frameType with
  | attachRequest =>
    dsimp only
    unfold handleAttachRequest
    dsimp only
    refine handledOnce_silent ?_ ?_ _
    · split <;> exact h
    · split
      · unfold Frame.attachResponseWithDescriptors
        cases UsbDescriptorSet.encode _ <;> rfl
      · rfl
  | detachRequest =>
    refine handledOnce_silent ?_ rfl _
    exact h
  | cancelRequest =>
    dsimp only [reply]
    rw [handleCancelRequest_drained h]
    refine handledOnce_silent ?_ rfl _
    exact h
  | resetRequest =>
    dsimp only [sendEach]
    obtain ⟨⟨status, hresponses⟩, hdrained⟩ := handleResetRequest_drained h frame s.lifecycle.state
    rw [hresponses]
    refine handledOnce_silent ?_ rfl _
    exact hdrained
  | request =>
    rw [SessionEvent.request, if_pos hframe]
    exact handleDataRequest_once h hframe
  | _ => exact handledOnce_silent h hselect _

/-! ## One step -/

/-- What a step sends leaves the Responses to send, and what it pushes leaves the queue. -/
theorem Booked.of_books (h : Booked s queued answered) {queued' sent pushed : List Frame}
    (hdirect : s'.events SessionEvent.direct = s.events SessionEvent.direct ++ sent)
    (hpushed : s'.events SessionEvent.pushed = s.events SessionEvent.pushed ++ pushed)
    (hrequest : s'.events SessionEvent.request = s.events SessionEvent.request) (hqueue : Queued s'.queues queued')
    (hflushing : queued' ≠ [] → ∃ failed, s'.main = .flushing failed)
    (hresponses : sent ++ s'.main.responses <+ s.main.responses) (hqueued : pushed ++ queued' <+ queued) :
    ∃ queued answered, Booked s' queued answered := by
  obtain ⟨answered', hsub, hanswers⟩ := forall₂_of_sublist (hresponses.append_left _) h.answers
  refine ⟨queued', answered', hqueue, hflushing, ?_, ?_⟩
  · rw [hdirect, List.append_assoc]
    exact hanswers
  · rw [hpushed, hrequest, List.append_assoc]
    exact (hsub.append (hqueued.append_left _)).subperm.trans h.once

theorem Booked.of_same (h : Booked s queued answered) (htrace : s'.trace = s.trace) (hqueue : Queued s'.queues queued)
    (hflushing : queued ≠ [] → ∃ failed, s'.main = .flushing failed)
    (hresponses : s'.main.responses <+ s.main.responses) : ∃ queued answered, Booked s' queued answered := by
  exact h.of_books (events_nil htrace) (events_nil htrace) (events_of_trace htrace _) hqueue hflushing hresponses
    (List.Sublist.refl _)

theorem Booked.of_worker (h : Booked s queued answered) (htrace : s'.trace = s.trace) (hqueues : s'.queues = s.queues)
    (hmain : s'.main = s.main) : ∃ queued answered, Booked s' queued answered :=
  h.of_same htrace (hqueues ▸ h.queue) (hmain ▸ h.flushing) (hmain ▸ List.Sublist.refl _)

theorem Booked.of_main (h : Booked s queued answered) (htrace : s'.trace = s.trace) (hqueues : s'.queues = s.queues)
    (hmain : ∀ failed, s.main ≠ .flushing failed) (hresponses : s'.main.responses <+ s.main.responses) :
    ∃ queued answered, Booked s' queued answered := by
  obtain ⟨rfl, hdrained⟩ := h.drained hmain
  exact h.of_same htrace (hqueues ▸ .none hdrained) (fun hne => absurd rfl hne) hresponses

theorem receive_booked (h : Booked s queued answered) (hmain : s.main = .select) (driverOk : Bool) (frame : Frame) :
    ∃ queued answered,
      Booked ((s.record (.received frame)).handleFrame cfg driverOk frame) queued answered := by
  obtain ⟨rfl, hdrained⟩ := h.drained (by simp [hmain])
  have hhandled : HandledOnce ((s.record (.received frame)).handleFrame cfg driverOk frame)
      (SessionEvent.received frame).request :=
    handleFrame_once (s := s.record (.received frame)) hmain hdrained driverOk frame
  obtain ⟨queued', answered', hqueue, hflushing, hanswers, honce⟩ := hhandled.once
  have htrace := received_trace cfg s driverOk frame
  have hresponses : s.main.responses = [] := by rw [hmain]; rfl
  have hbefore := h.answers
  rw [hresponses, List.append_nil] at hbefore
  refine ⟨queued', answered ++ answered', hqueue, fun hne => ⟨[], hflushing hne⟩, ?_, ?_⟩
  · rw [events_of_trace htrace, record_events]
    exact rel_append ((List.append_nil _).symm ▸ hbefore) hanswers
  · rw [events_of_trace htrace, events_of_trace htrace, record_events, record_events]
    have hsplit : answered ++ answered' ++ (s.events SessionEvent.pushed ++ queued') ~
        answered ++ (s.events SessionEvent.pushed ++ []) ++ (answered' ++ queued') := by
      simp only [List.append_nil, List.append_assoc]
      exact (List.perm_append_comm_assoc _ _ _).append_left _
    rw [show (SessionEvent.received frame).pushed = none from rfl, Option.toList_none, List.append_nil]
    exact hsplit.subperm.trans
      (((subperm_append_right _).mpr h.once).trans ((subperm_append_left _).mpr honce.subperm))

theorem Booked.popNext (h : Booked s queued answered) {transfer : QueuedTransfer} {queues : EndpointTransferQueues}
    (hpop : s.queues.popNext = (some transfer, queues)) : queued = [transfer.frame] ∧ Drained queues := by
  rcases h.queue.popNext with ⟨-, hnone⟩ | ⟨popped, rfl, hsome, hdrained⟩
  · rw [hpop] at hnone
    cases hnone
  · rw [hpop] at hsome hdrained
    obtain rfl := Option.some.inj hsome
    exact ⟨rfl, hdrained⟩

/-- A push that is refused makes the transfer one that is answered. -/
theorem pushRefused_booked {f : Frame} {failed : List Frame} {queues : EndpointTransferQueues}
    (h : Booked s [f] answered) (hmain : s.main = .flushing failed) (hdrained : Drained queues) :
    ∃ queued answered, Booked { { s with queues }.record (.pushRx f false) with
      main := .flushing (failed ++ [f.statusResponse .failed]) } queued answered := by
  have hresponses : (MainPc.flushing (failed ++ [f.statusResponse .failed])).responses =
      s.main.responses ++ [f.statusResponse .failed] := by
    rw [hmain, MainPc.responses, MainPc.pending, List.filter_append]
    rfl
  have hsame : ∀ book : SessionEvent → Option Frame, book (.pushRx f false) = none →
      ({ s with queues }.record (.pushRx f false)).events book = s.events book := fun book hbook => by
    rw [record_events, hbook]
    exact List.append_nil _
  refine ⟨[], answered ++ [f], .none hdrained, fun hne => absurd rfl hne, ?_, ?_⟩
  · rw [hresponses, ← List.append_assoc]
    exact rel_append ((hsame SessionEvent.direct rfl).symm ▸ h.answers) (.cons ⟨rfl, rfl⟩ .nil)
  · have hsplit : answered ++ [f] ++ (s.events SessionEvent.pushed ++ []) ~
        answered ++ (s.events SessionEvent.pushed ++ [f]) := by
      rw [List.append_nil, List.append_assoc]
      exact List.perm_append_comm.append_left _
    exact (hsame SessionEvent.pushed rfl).symm ▸ (hsame SessionEvent.request rfl).symm ▸ hsplit.subperm.trans h.once

theorem step_booked (h : Booked s queued answered) (hstep : step cfg s a = some s') :
    ∃ queued answered, Booked s' queued answered := by
  cases step_stepped hstep with
  | receive hmain hdecode => exact receive_booked h hmain _ _
  | malformed hmain hdecode => exact ⟨_, _, h⟩
  | endOfStream hmain => exact h.of_main rfl rfl (by simp [hmain]) (nil_sublist _)
  | receiveTx hmain hchannel => exact h.of_main rfl rfl (by simp [hmain]) (nil_sublist _)
  | send hmain hencode =>
    rename_i frame onError rest thenBreak bytes ok
    obtain ⟨rfl, hdrained⟩ := h.drained (by simp [hmain])
    have hresponses : s.main.responses =
        (SessionEvent.sent frame ok).direct.toList ++ rest.filter fun f => f.frameType = .response := by
      rw [hmain, MainPc.responses, MainPc.pending, List.filter_cons, SessionEvent.direct]
      by_cases hf : frame.frameType = .response <;> simp [hf]
    refine h.of_books (record_events s _ _) (record_events s _ _) ?_ (.none hdrained) (fun hne => absurd rfl hne) ?_
      (nil_sublist _)
    · exact (record_events s (.sent frame ok) _).trans (List.append_nil _)
    · rw [hresponses]
      exact ((afterSend_sublist onError rest thenBreak ok).filter _).append_left _
  | sendPanics hmain hencode => exact h.of_main rfl rfl (by simp [hmain]) (nil_sublist _)
  | forward hmain =>
    rename_i bytes ok
    obtain ⟨rfl, hdrained⟩ := h.drained (by simp [hmain])
    refine h.of_books (record_events s _ _) (record_events s _ _) ?_ (.none hdrained) (fun hne => absurd rfl hne) ?_
      (nil_sublist _)
    · exact (record_events s (.forwarded bytes ok) _).trans (List.append_nil _)
    · cases ok <;> exact nil_sublist _
  | flushed hmain hpop =>
    rename_i failed queues
    rcases h.queue.popNext with ⟨rfl, hnone⟩ | ⟨transfer, -, hsome, -⟩
    · obtain ⟨-, rfl⟩ := Prod.mk.inj (hnone.symm.trans hpop)
      refine h.of_same rfl h.queue (fun hne => absurd rfl hne) ?_
      rw [hmain, MainPc.responses, sendingEach_pending]
      exact List.Sublist.refl _
    · rw [hpop] at hsome
      cases hsome
  | pushRx hmain hpop hencode =>
    rename_i failed transfer queues bytes ok
    obtain ⟨rfl, hdrained⟩ := h.popNext hpop
    cases ok with
    | true =>
      refine h.of_books (record_events { s with queues } _ _) (record_events { s with queues } _ _) ?_ (.none hdrained)
        (fun hne => absurd rfl hne) ?_ (List.Sublist.refl _)
      · exact (record_events { s with queues } (.pushRx transfer.frame true) _).trans (List.append_nil _)
      · rw [hmain]
        exact List.Sublist.refl _
    | false => exact pushRefused_booked h hmain hdrained
  | pushRxPanics hmain hpop hencode =>
    obtain ⟨rfl, hdrained⟩ := h.popNext hpop
    refine h.of_books (events_nil rfl) (events_nil rfl) rfl (.none hdrained) (fun hne => absurd rfl hne) ?_
      (nil_sublist _)
    exact nil_sublist _
  | pumpOnce hmain =>
    rename_i failed ok
    obtain ⟨rfl, hdrained⟩ := h.drained (by simp [hmain])
    refine h.of_same rfl h.queue (fun hne => absurd rfl hne) ?_
    rw [hmain]
    exact List.Sublist.refl _
  | cleanup hmain =>
    obtain ⟨rfl, -⟩ := h.drained (by simp [hmain])
    exact h.of_same rfl (.none (clear_drained (q := s.queues))) (fun hne => absurd rfl hne) (nil_sublist _)
  | cancelWorker hmain => exact h.of_main rfl rfl (by simp [hmain]) (nil_sublist _)
  | join hmain hworker => exact h.of_main rfl rfl (by simp [hmain]) (nil_sublist _)
  | checkCancelled hworker => exact h.of_worker rfl rfl rfl
  | pollFrame hworker hout => exact h.of_worker rfl rfl rfl
  | pollPanics hworker hout => exact h.of_worker rfl rfl rfl
  | pollNone hworker => exact h.of_worker rfl rfl rfl
  | pollError hworker => exact h.of_worker rfl rfl rfl
  | blockingSend hworker halive hroom => exact h.of_worker rfl rfl rfl
  | blockingSendClosed hworker hclosed => exact h.of_worker rfl rfl rfl
  | waitForTxFrame hworker => exact h.of_worker rfl rfl rfl

/-! ## What is sent -/

/-- Every frame the main loop sends, or has yet to send, satisfies `Q`. -/
structure AllSent (Q : Frame → Prop) (s : NetworkSession) : Prop where
  pending : ∀ f ∈ s.main.pending, Q f
  sent : ∀ state f ok, (state, SessionEvent.sent f ok) ∈ s.trace → Q f

theorem AllSent.of_same {Q : Frame → Prop} (h : AllSent Q s) (htrace : s'.trace = s.trace)
    (hpending : ∀ f ∈ s'.main.pending, f ∈ s.main.pending) : AllSent Q s' where
  pending := fun f hf => h.pending f (hpending f hf)
  sent := by rw [htrace]; exact h.sent

theorem AllSent.of_event {Q : Frame → Prop} (h : AllSent Q s) {state : SessionState} {event : SessionEvent}
    (htrace : s'.trace = s.trace ++ [(state, event)]) (hevent : ∀ f ok, event = .sent f ok → Q f)
    (hpending : ∀ f ∈ s'.main.pending, Q f) : AllSent Q s' where
  pending := hpending
  sent := by
    intro state' f ok hmem
    rw [htrace] at hmem
    rcases List.mem_append.mp hmem with hmem | hmem
    · exact h.sent state' f ok hmem
    · obtain ⟨-, he⟩ := Prod.mk.inj (List.mem_singleton.mp hmem)
      exact hevent f ok he.symm

/-- Besides the answers to frames received, with empty queues, there are the Responses to refused pushes. -/
theorem step_allSent {Q : Frame → Prop} (hbooked : Booked s queued answered)
    (hanswers : ∀ driverOk frame, Drained s.queues → s.main = .select →
      ∀ f ∈ ((s.record (.received frame)).handleFrame cfg driverOk frame).main.pending, Q f)
    (hfailed : ∀ frame : Frame, Q (frame.statusResponse .failed)) (h : AllSent Q s)
    (hstep : step cfg s a = some s') : AllSent Q s' := by
  cases step_stepped hstep with
  | receive hmain hdecode =>
    rename_i bytes frame driverOk
    exact h.of_event (received_trace cfg s driverOk frame) (fun f ok he => nomatch he)
      (hanswers driverOk frame (hbooked.drained (by simp [hmain])).2 hmain)
  | malformed hmain hdecode => exact h
  | send hmain hencode =>
    rename_i frame onError rest thenBreak bytes ok
    have hpending := h.pending
    rw [hmain] at hpending
    refine h.of_event rfl (fun f ok he => ?_) fun f hf => hpending f (List.mem_cons_of_mem _ (afterSend_pending hf))
    obtain ⟨rfl, -⟩ := SessionEvent.sent.inj he
    exact hpending frame List.mem_cons_self
  | forward hmain =>
    rename_i bytes ok
    refine h.of_event rfl (fun f ok he => nomatch he) ?_
    cases ok <;> exact fun f hf => nomatch hf
  | flushed hmain hpop =>
    rename_i failed queues
    refine h.of_same rfl fun f hf => ?_
    rw [hmain]
    exact sendingEach_pending failed ▸ hf
  | pushRx hmain hpop hencode =>
    rename_i failed transfer queues bytes ok
    have hpending := h.pending
    rw [hmain] at hpending
    refine h.of_event rfl (fun f ok he => nomatch he) ?_
    cases ok with
    | true => exact hpending
    | false =>
      intro f hf
      rcases List.mem_append.mp hf with hf | hf
      · exact hpending f hf
      · exact List.mem_singleton.mp hf ▸ hfailed _
  | pumpOnce hmain =>
    refine h.of_same rfl fun f hf => ?_
    rw [hmain]
    exact hf
  | endOfStream hmain => exact h.of_same rfl fun f hf => nomatch hf
  | receiveTx hmain hchannel => exact h.of_same rfl fun f hf => nomatch hf
  | sendPanics hmain hencode => exact h.of_same rfl fun f hf => nomatch hf
  | pushRxPanics hmain hpop hencode => exact h.of_same rfl fun f hf => nomatch hf
  | cleanup hmain => exact h.of_same rfl fun f hf => nomatch hf
  | cancelWorker hmain => exact h.of_same rfl fun f hf => nomatch hf
  | join hmain hworker => exact h.of_same rfl fun f hf => nomatch hf
  | _ => exact h.of_same rfl fun f hf => hf

end

end NetworkSession

end WhyUsb
