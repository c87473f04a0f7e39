import WhyUsb.Session.Provenance

/-!
# How a Request is answered

The main loop answers a Request itself when its state, the control endpoint or
an outcome rule says so. Only a Request that none of these takes is queued, and
so nothing else is pushed to the driver.
-/

namespace WhyUsb

open List Lts

/-- The Responses the main loop makes of a Request itself. -/
inductive DirectAnswer (cfg : SessionConfig) (request : Frame) : Frame → Prop where
  | failed : DirectAnswer cfg request (request.statusResponse .failed)
  | control {descriptors st} (hcontrol : request.transferType = .control ∧ request.endpoint = 0) :
      DirectAnswer cfg request (handleControlRequest request descriptors cfg.mockHidKeycodes st).1.response
  | outcome {response} (hdata : ¬ (request.transferType = .control ∧ request.endpoint = 0))
      (houtcome : mockTransferOutcomeResponse request cfg.mockTransferOutcomes = some response) :
      DirectAnswer cfg request response

/-- A Request for the driver: not for the control endpoint, and named by no outcome rule. -/
structure DataRequest (cfg : SessionConfig) (f : Frame) : Prop where
  data : ¬ (f.transferType = .control ∧ f.endpoint = 0)
  unruled : ∀ rule ∈ cfg.mockTransferOutcomes, rule.requestId ≠ f.requestId

theorem mockTransferOutcomeResponse_none {frame : Frame} {outcomes : List MockTransferOutcomeRule} :
    mockTransferOutcomeResponse frame outcomes = none ↔ ∀ rule ∈ outcomes, rule.requestId ≠ frame.requestId := by
  rw [mockTransferOutcomeResponse, Option.map_eq_none_iff, List.find?_eq_none]
  simp only [beq_iff_eq, ne_eq]

namespace NetworkSession

open EndpointTransferQueues

/-! ## One frame -/

/-- What a handler leaves of a frame: answers of its own, or the frame in the queue. -/
inductive Disposed (cfg : SessionConfig) (frame : Frame) (s : NetworkSession) : Prop where
  | answered (hqueue : Drained s.queues)
      (hanswers : ∀ response ∈ s.main.responses, frame.frameType = .request ∧ DirectAnswer cfg frame response)
  | queued (hadmitted : DataRequest cfg frame) (hqueue : Queued s.queues [frame]) (hmain : s.main.responses = [])

/-- The frames in the queues and those pushed are for the driver, and the Responses answer Requests received. -/
structure Routed (cfg : SessionConfig) (s : NetworkSession) : Prop where
  booked : ∃ queued answered, s.Booked queued answered
  queued : ∀ k, ∀ transfer ∈ view s.queues.queues k, DataRequest cfg transfer.frame
  pushed : ∀ f ∈ s.events SessionEvent.pushed, DataRequest cfg f
  answers : ∀ response ∈ s.events SessionEvent.direct ++ s.main.responses,
    ∃ request ∈ s.events SessionEvent.request, DirectAnswer cfg request response

section
variable {cfg : SessionConfig} {s s' : NetworkSession} {a : SessionAct}

theorem disposed_silent {frame : Frame} (hqueues : Drained s.queues) (hmain : s.main.responses = []) :
    Disposed cfg frame s := by
  refine .answered hqueues fun response hresponse => ?_
  rw [hmain] at hresponse
  cases hresponse

theorem handleDataRequest_disposed (h : Drained s.queues) {frame : Frame} (hframe : frame.frameType = .request) :
    Disposed cfg frame (s.handleDataRequest cfg frame) := by
  unfold handleDataRequest
  by_cases hstate : s.lifecycle.state ≠ .attached
  · rw [if_pos hstate]
    refine .answered h fun response hresponse => ⟨hframe, ?_⟩
    rw [List.mem_singleton.mp hresponse]
    exact .failed
  · rw [if_neg hstate]
    by_cases hcontrol : frame.transferType = .control ∧ frame.endpoint = 0
    · rw [if_pos hcontrol]
      refine .answered h fun response hresponse => ⟨hframe, ?_⟩
      dsimp only at hresponse
      rw [(controlResponses frame s.activeDescriptors cfg.mockHidKeycodes s.control .breakLoop false).1] at hresponse
      rw [List.mem_singleton.mp hresponse]
      exact .control hcontrol
    · rw [if_neg hcontrol]
      cases houtcome : mockTransferOutcomeResponse frame cfg.mockTransferOutcomes with
      | some response =>
        refine .answered h fun f hf => ⟨hframe, ?_⟩
        have hone : f = response := List.mem_singleton.mp (List.mem_filter.mp hf).1
        exact hone ▸ .outcome hcontrol houtcome
      | none =>
        obtain ⟨hok, hone⟩ := h.enqueue hframe
        cases henqueue : s.queues.enqueue frame with
        | mk result queues =>
          rw [henqueue] at hok hone
          dsimp only at hok hone ⊢
          subst hok
          exact .queued ⟨hcontrol, mockTransferOutcomeResponse_none.mp houtcome⟩ hone rfl

theorem handleFrame_disposed (hmain : s.main = .select) (h : Drained s.queues) (driverOk : Bool) (frame : Frame) :
    Disposed cfg frame (s.handleFrame cfg driverOk frame) := by
  unfold handleFrame
  cases hframe : frame.frameType with
  | attachRequest =>
    dsimp only
    unfold handleAttachRequest
    dsimp only
    refine disposed_silent ?_ ?_
    · split <;> exact h
    · split
      · unfold Frame.attachResponseWithDescriptors
        cases UsbDescriptorSet.encode _ <;> rfl
      · rfl
  | detachRequest => exact disposed_silent (s := s.handleDetachRequest driverOk frame) h rfl
  | cancelRequest =>
    dsimp only [reply]
    rw [handleCancelRequest_drained h]
    exact disposed_silent h rfl
  | resetRequest =>
    dsimp only [sendEach]
    obtain ⟨⟨status, hresponses⟩, hdrained⟩ := handleResetRequest_drained h frame s.lifecycle.state
    rw [hresponses]
    exact disposed_silent hdrained rfl
  | request => exact handleDataRequest_disposed h hframe
  | _ => exact disposed_silent h (by rw [hmain]; rfl)

/-! ## One step -/

theorem Queued.admitted {q : EndpointTransferQueues} {queued : List Frame} (h : Queued q queued)
    (hadmitted : ∀ f ∈ queued, DataRequest cfg f) : ∀ k, ∀ transfer ∈ view q.queues k, DataRequest cfg transfer.frame := by
  intro k transfer htransfer
  cases h with
  | none hdrained =>
    rw [hdrained.empty k] at htransfer
    cases htransfer
  | one hwf hview =>
    rename_i held
    rw [hview] at htransfer
    by_cases hk : k = held.key
    · rw [hk, Function.update_self] at htransfer
      exact List.mem_singleton.mp htransfer ▸ hadmitted held.frame List.mem_cons_self
    · rw [Function.update_of_ne hk] at htransfer
      cases htransfer

theorem new_routed (cfg : SessionConfig) : Routed cfg new where
  booked := ⟨[], [], new_booked⟩
  queued := Queued.admitted (.none default_drained) fun _ hf => absurd hf List.not_mem_nil
  pushed := fun _ hf => absurd hf List.not_mem_nil
  answers := fun _ hf => absurd hf List.not_mem_nil

theorem Routed.of_same (h : Routed cfg s) (hbooked : ∃ queued answered, s'.Booked queued answered)
    (htrace : s'.trace = s.trace) (hqueued : ∀ k, ∀ transfer ∈ view s'.queues.queues k, DataRequest cfg transfer.frame)
    (hresponses : ∀ response ∈ s'.main.responses, response ∈ s.main.responses) : Routed cfg s' := by
  refine ⟨hbooked, hqueued, events_of_trace htrace SessionEvent.pushed ▸ h.pushed, fun response hresponse => ?_⟩
  rw [events_of_trace htrace] at hresponse ⊢
  exact h.answers response (List.mem_append.mpr ((List.mem_append.mp hresponse).imp_right (hresponses response)))

theorem Routed.of_main (h : Routed cfg s) (hbooked : ∃ queued answered, s'.Booked queued answered)
    (htrace : s'.trace = s.trace) (hqueues : s'.queues = s.queues)
    (hresponses : ∀ response ∈ s'.main.responses, response ∈ s.main.responses) : Routed cfg s' :=
  h.of_same hbooked htrace (hqueues ▸ h.queued) hresponses

theorem Routed.of_event (h : Routed cfg s) (hbooked : ∃ queued answered, s'.Booked queued answered)
    {event : SessionEvent} (htrace : s'.trace = s.trace ++ [(s.lifecycle.state, event)])
    (hpushed : event.pushed = none) (hrequest : event.request = none)
    (hqueued : ∀ k, ∀ transfer ∈ view s'.queues.queues k, DataRequest cfg transfer.frame)
    (hresponses : ∀ response ∈ event.direct.toList ++ s'.main.responses,
      response ∈ s.main.responses ∨ ∃ request ∈ s.events SessionEvent.request, DirectAnswer cfg request response) :
    Routed cfg s' := by
  refine ⟨hbooked, hqueued, ?_, fun response hresponse => ?_⟩
  · rw [events_of_event htrace, hpushed, Option.toList_none, List.append_nil]
    exact h.pushed
  · rw [events_of_event htrace, List.append_assoc] at hresponse
    rw [events_of_event htrace, hrequest, Option.toList_none, List.append_nil]
    obtain hsent | hresponse := List.mem_append.mp hresponse
    · exact h.answers response (List.mem_append_left _ hsent)
    · obtain hpending | hanswers := hresponses response hresponse
      · exact h.answers response (List.mem_append_right _ hpending)
      · exact hanswers

theorem Routed.received (h : Routed cfg s) {queued answered : List Frame} (hbooked : s.Booked queued answered)
    (hmain : s.main = .select) (driverOk : Bool) (frame : Frame) :
    Routed cfg ((s.record (.received frame)).handleFrame cfg driverOk frame) := by
  obtain ⟨rfl, hdrained⟩ := hbooked.drained (by simp [hmain])
  have htrace := received_trace cfg s driverOk frame
  have hdisposed : Disposed cfg frame ((s.record (.received frame)).handleFrame cfg driverOk frame) :=
    handleFrame_disposed (s := s.record (.received frame)) hmain hdrained driverOk frame
  generalize hnext : (s.record (.received frame)).handleFrame cfg driverOk frame = s' at htrace hdisposed ⊢
  have hbooked' : ∃ queued answered, s'.Booked queued answered := hnext ▸ receive_booked hbooked hmain driverOk frame
  have hevents : ∀ book : SessionEvent → Option Frame,
      s'.events book = s.events book ++ (book (.received frame)).toList := fun book =>
    events_of_event (htrace.trans (record_trace _)) book
  have hpushed : ∀ f ∈ s'.events SessionEvent.pushed, DataRequest cfg f := by
    rw [hevents]
    exact (List.append_nil _).symm ▸ h.pushed
  have hanswers : (∀ response ∈ s'.main.responses, frame.frameType = .request ∧ DirectAnswer cfg frame response) →
      ∀ response ∈ s'.events SessionEvent.direct ++ s'.main.responses,
        ∃ request ∈ s'.events SessionEvent.request, DirectAnswer cfg request response := by
    intro hnew response hresponse
    rw [hevents]
    obtain hsent | hresponse := List.mem_append.mp hresponse
    · have hnone : (SessionEvent.received frame).direct = none := rfl
      rw [hevents, hnone, Option.toList_none, List.append_nil] at hsent
      obtain ⟨request, hrequest, hanswer⟩ := h.answers response (List.mem_append_left _ hsent)
      exact ⟨request, List.mem_append_left _ hrequest, hanswer⟩
    · obtain ⟨hframe, hanswer⟩ := hnew response hresponse
      refine ⟨frame, List.mem_append_right _ ?_, hanswer⟩
      rw [SessionEvent.request, if_pos hframe]
      exact List.mem_singleton_self _
  cases hdisposed with
  | answered hqueue hnew =>
    exact ⟨hbooked', Queued.admitted (.none hqueue) (fun _ hf => absurd hf List.not_mem_nil), hpushed, hanswers hnew⟩
  | queued hadmitted hqueue hresponses =>
    refine ⟨hbooked', Queued.admitted hqueue fun f hf => ?_, hpushed, hanswers fun response hresponse => ?_⟩
    · exact List.mem_singleton.mp hf ▸ hadmitted
    · rw [hresponses] at hresponse
      cases hresponse

theorem Routed.popNext (h : Routed cfg s) {transfer : QueuedTransfer} {queues : EndpointTransferQueues}
    (hpop : s.queues.popNext = (some transfer, queues)) :
    DataRequest cfg transfer.frame ∧ transfer.frame ∈ s.events SessionEvent.request ∧ Drained queues := by
  obtain ⟨queued, answered, hbooked⟩ := h.booked
  obtain ⟨rfl, hdrained⟩ := hbooked.popNext hpop
  refine ⟨?_, ?_, hdrained⟩
  · generalize hqueued : [transfer.frame] = queued at hbooked
    have hqueue := hbooked.queue
    cases hqueue with
    | none hempty => cases hqueued
    | one hwf hview =>
      rename_i held
      have hheld : held ∈ view s.queues.queues held.key := by
        rw [hview, Function.update_self]
        exact List.mem_singleton_self _
      rw [List.cons.injEq] at hqueued
      exact hqueued.1 ▸ h.queued held.key held hheld
  · have hmem : transfer.frame ∈ answered ++ (s.events SessionEvent.pushed ++ [transfer.frame]) := by simp
    exact hbooked.once.subset hmem

theorem step_routed (h : Routed cfg s) (hstep : step cfg s a = some s') : Routed cfg s' := by
  have hdrained : ∀ {queues : EndpointTransferQueues}, Drained queues →
      ∀ k, ∀ transfer ∈ view queues.queues k, DataRequest cfg transfer.frame := fun hqueue =>
    Queued.admitted (.none hqueue) fun _ hf => absurd hf List.not_mem_nil
  obtain ⟨queued, answered, hbooked⟩ := h.booked
  have hbooked' := step_booked hbooked hstep
  cases step_stepped hstep with
  | receive hmain hdecode => exact h.received hbooked hmain _ _
  | malformed hmain hdecode => exact h
  | send hmain hencode =>
    rename_i frame onError rest thenBreak bytes ok
    refine h.of_event hbooked' rfl rfl rfl h.queued fun response hresponse => Or.inl ?_
    rw [hmain]
    obtain hsent | hrest := List.mem_append.mp hresponse
    · rw [SessionEvent.direct, Option.mem_toList, Option.ite_none_right_eq_some, Option.some.injEq] at hsent
      obtain ⟨hframe, rfl⟩ := hsent
      exact List.mem_filter.mpr ⟨List.mem_cons_self, decide_eq_true hframe⟩
    · obtain ⟨hrest, hframe⟩ := List.mem_filter.mp hrest
      exact List.mem_filter.mpr ⟨List.mem_cons_of_mem _ (afterSend_pending hrest), hframe⟩
  | forward hmain =>
    rename_i bytes ok
    refine h.of_event hbooked' rfl rfl rfl h.queued fun response hresponse => ?_
    cases ok <;> cases hresponse
  | flushed hmain hpop =>
    rename_i failed queues
    obtain ⟨-, hnone⟩ | ⟨transfer, -, hsome, -⟩ := hbooked.queue.popNext
    · obtain ⟨-, rfl⟩ := Prod.mk.inj (hnone.symm.trans hpop)
      refine h.of_main hbooked' rfl rfl fun response hresponse => ?_
      rw [hmain]
      rwa [MainPc.responses, sendingEach_pending] at hresponse
    · rw [hpop] at hsome
      cases hsome
  | pushRx hmain hpop hencode =>
    rename_i failed transfer queues bytes ok
    obtain ⟨hadmitted, hreceived, hqueue⟩ := h.popNext hpop
    cases ok with
    | true =>
      refine ⟨hbooked', hdrained hqueue, fun f hf => ?_, fun response hresponse => ?_⟩
      · rw [events_of_event (s := s) rfl] at hf
        obtain hold | hnew := List.mem_append.mp hf
        · exact h.pushed f hold
        · exact List.mem_singleton.mp hnew ▸ hadmitted
      · rw [events_of_event (s := s) rfl] at hresponse ⊢
        simp only [SessionEvent.direct, SessionEvent.request, Option.toList_none, List.append_nil] at hresponse ⊢
        refine h.answers response ?_
        rw [hmain]
        exact hresponse
    | false =>
      refine h.of_event hbooked' rfl rfl rfl (hdrained hqueue) fun response hresponse => ?_
      obtain ⟨hfailed, hframe⟩ := List.mem_filter.mp hresponse
      obtain hold | hnew := List.mem_append.mp hfailed
      · rw [hmain]
        exact Or.inl (List.mem_filter.mpr ⟨hold, hframe⟩)
      · rw [List.mem_singleton.mp hnew]
        exact Or.inr ⟨transfer.frame, hreceived, .failed⟩
  | pushRxPanics hmain hpop hencode =>
    obtain ⟨-, -, hqueue⟩ := h.popNext hpop
    exact h.of_same hbooked' rfl (hdrained hqueue) fun _ hresponse => absurd hresponse List.not_mem_nil
  | pumpOnce hmain =>
    refine h.of_main hbooked' rfl rfl fun response hresponse => ?_
    rw [hmain]
    exact hresponse
  | cleanup hmain => exact h.of_same hbooked' rfl (hdrained (clear_drained (q := s.queues))) fun _ hf => absurd hf List.not_mem_nil
  | endOfStream hmain => exact h.of_main hbooked' rfl rfl fun _ hf => absurd hf List.not_mem_nil
  | receiveTx hmain hchannel => exact h.of_main hbooked' rfl rfl fun _ hf => absurd hf List.not_mem_nil
  | sendPanics hmain hencode => exact h.of_main hbooked' rfl rfl fun _ hf => absurd hf List.not_mem_nil
  | cancelWorker hmain => exact h.of_main hbooked' rfl rfl fun _ hf => absurd hf List.not_mem_nil
  | join hmain hworker => exact h.of_main hbooked' rfl rfl fun _ hf => absurd hf List.not_mem_nil
  | _ => exact h.of_main hbooked' rfl rfl fun _ hf => hf

end

/-- In every run over any driver: what is pushed are Requests that were received, not for the control endpoint and named
by no outcome rule; and every Response of the main loop is the answer one of its cases gives to a Request received. -/
theorem requests_routed (cfg : SessionConfig) (acts : List SessionAct) (s : NetworkSession)
    (h : run (step cfg) new acts = some s) :
    (∀ f ∈ s.events SessionEvent.pushed, f ∈ s.events SessionEvent.request ∧ DataRequest cfg f) ∧
      ∀ response ∈ s.events SessionEvent.direct,
        ∃ request ∈ s.events SessionEvent.request, DirectAnswer cfg request response := by
  have hinv : Routed cfg s := run_invariant (fun _ _ _ hs hstep => step_routed hs hstep) (new_routed cfg) h
  refine ⟨fun f hf => ⟨?_, hinv.pushed f hf⟩, fun response hresponse => ?_⟩
  · obtain ⟨queued, answered, hbooked⟩ := hinv.booked
    have hmem : f ∈ answered ++ (s.events SessionEvent.pushed ++ queued) := by simp [hf]
    exact hbooked.once.subset hmem
  · exact hinv.answers response (List.mem_append_left _ hresponse)

/-- One Request is answered by its rule, and one is pushed. -/
def ruledRun : List SessionAct :=
  [.receive ((Frame.attachRequest 1).encode.getD []) true, .send true,
    .receive ((Frame.mockRequest 7 []).encode.getD []) true, .send true,
    .receive ((Frame.mockRequest 8 []).encode.getD []) true, .pushRx true, .pumpOnce true, .flushed]

theorem requests_routed_ruled : ∃ s, run (step ⟨none, [4], [⟨7, .status .stall⟩]⟩) new ruledRun = some s ∧
    s.events SessionEvent.direct = [(Frame.mockRequest 7 []).statusResponse .stall] ∧
    s.events SessionEvent.pushed = [Frame.mockRequest 8 []] ∧
    (∀ f ∈ s.events SessionEvent.pushed, f ∈ s.events SessionEvent.request ∧
      DataRequest ⟨none, [4], [⟨7, .status .stall⟩]⟩ f) := by
  have hrun : (run (step ⟨none, [4], [⟨7, .status .stall⟩]⟩) new ruledRun).map
      (fun s => (s.events SessionEvent.direct, s.events SessionEvent.pushed)) =
        some ([(Frame.mockRequest 7 []).statusResponse .stall], [Frame.mockRequest 8 []]) := by decide +kernel
  obtain ⟨s, hs, hbooks⟩ := Option.map_eq_some_iff.mp hrun
  obtain ⟨hdirect, hpushed⟩ := Prod.mk.inj hbooks
  exact ⟨s, hs, hdirect, hpushed, (requests_routed _ ruledRun s hs).1⟩

end NetworkSession

end WhyUsb
