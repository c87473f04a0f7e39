import WhyUsb.Session.ClientSteps
import WhyUsb.Session.Handshake

/-!
# Client and daemon after the handshake

From then on the client sends mock transfers and the detach request only, so
the daemon's address and configuration stay; and the Events are what the
SET_CONFIGURATION left to send, which the client's handler takes one by one.
-/

namespace WhyUsb

open List Lts Matching

/-! ## Events -/

def eventOf (bytes : List UInt8) : Option Frame :=
  match Frame.decode bytes with
  | .ok f => if f.frameType = .event then some f else none
  | .error _ => none

theorem eventOf_encodes {bytes : List UInt8} {f : Frame} (h : Encodes bytes f) :
    eventOf bytes = if f.frameType = .event then some f else none := by
  rw [eventOf, Frame.decode_of_encode h]

theorem filterMap_eventOf : ∀ {sentBytes : List (List UInt8)} {sent : List Frame}, Forall₂ Encodes sentBytes sent →
    (∀ f ∈ sent, f.frameType = .event) → sentBytes.filterMap eventOf = sent
  | _, _, .nil, _ => rfl
  | _, _, .cons hencodes htail, hevents => by
    rw [List.filterMap_cons, eventOf_encodes hencodes, if_pos (hevents _ List.mem_cons_self),
      filterMap_eventOf htail fun f hf => hevents f (List.mem_cons_of_mem _ hf)]

theorem mockHidKeyboardEvents_length (keycodes : List UInt8) :
    (mockHidKeyboardEvents keycodes).length = 2 * keycodes.length := by
  unfold mockHidKeyboardEvents
  induction keycodes with
  | nil => rfl
  | cons keycode keycodes ih =>
    rw [List.flatMap_cons, List.length_append, ih, List.length_cons]
    simp only [List.length_cons, List.length_nil]
    omega

theorem mem_mockHidKeyboardEvents_taken {keycodes : List UInt8} {f : Frame} (h : f ∈ mockHidKeyboardEvents keycodes) :
    f.frameType = .event ∧ f.transferType = .interrupt ∧ f.endpoint = 0x81 ∧
      (∃ report, HidKeyboardInputReport.decode f.payload = .ok report) ∧ ∃ bytes, f.encode = some bytes := by
  obtain ⟨report, rfl⟩ := mem_mockHidKeyboardEvents h
  have hlen : (Frame.hidKeyboardInputEvent 0 report).payload.length = 8 := report.encode_length
  refine ⟨rfl, rfl, rfl, ?_, Frame.encode_ok (by rw [hlen]; decide)⟩
  unfold HidKeyboardInputReport.decode
  rw [if_neg (by simp [hlen])]
  exact ⟨_, rfl⟩

/-! ## The client -/

def IsMockRequest (f : Frame) : Prop := f.frameType = .request ∧ f.transferType = .bulk

/-- The responses the handshake was given, each for its own request. -/
def Answered (requests answered : List Frame) : Prop :=
  Forall₂ (fun request f => f.requestId = request.requestId ∧ f.frameType = .response ∧ f.status = 0) requests answered

def ClientPc.handshaking : ClientPc → Bool
  | sendAttach => true
  | awaitAttach => true
  | sendControl _ => true
  | awaitControl _ _ => true
  | failed => true
  | _ => false

namespace ClientSession

structure Running (s : ClientSession) : Prop where
  state : s.state ≠ .connected
  main : s.main.handshaking = false
  answered : Answered EnumerationStep.requests s.answered
  ignored : s.ignored = []
  channel : ∀ f ∈ s.channel, IsMockRequest f
  sendFrame : ∀ f, s.main = .sendFrame f → IsMockRequest f

section
variable {cfg : ClientConfig} {s s' : ClientSession}

theorem Running.of_main (h : Running s) (hstate : s'.state = s.state ∨ s'.state = .closed)
    (hmain : s'.main.handshaking = false) (hanswered : s'.answered = s.answered) (hignored : s'.ignored = s.ignored)
    (hchannel : ∀ f ∈ s'.channel, IsMockRequest f) (hframe : ∀ f, s'.main = .sendFrame f → IsMockRequest f) :
    Running s' where
  state := by
    rcases hstate with hstate | hstate
    · rw [hstate]
      exact h.state
    · rw [hstate]
      exact fun hne => nomatch hne
  main := hmain
  answered := by rw [hanswered]; exact h.answered
  ignored := by rw [hignored]; exact h.ignored
  channel := hchannel
  sendFrame := hframe

theorem Running.close (h : Running s) : Running s.close :=
  h.of_main (Or.inr rfl) rfl rfl rfl h.channel fun _ hf => nomatch hf

theorem Running.dataResponse (h : Running s) : Running (s.dataResponse cfg) := by
  unfold ClientSession.dataResponse
  split
  · exact h.of_main (Or.inl rfl) rfl rfl rfl h.channel fun _ hf => nomatch hf
  · exact h.of_main (Or.inl rfl) rfl rfl rfl h.channel fun _ hf => nomatch hf

theorem dataResponse_reports : (s.dataResponse cfg).reports = s.reports := by
  unfold ClientSession.dataResponse
  split <;> rfl

theorem Running.local_step {a : ClientAct} (h : Running s) (ha : a.isLocal = true) (hstep : s.step cfg a = some s') :
    Running s' ∧ s'.reports = s.reports := by
  cases a with
  | send ok => cases ha
  | receive bytes => cases ha
  | endOfStream => cases ha
  | mockLocalUsb =>
    obtain ⟨-, rfl | ⟨-, f, hframe, rfl⟩⟩ := mockLocalUsb_cases hstep
    · exact ⟨h.of_main (Or.inl rfl) h.main rfl rfl h.channel h.sendFrame, rfl⟩
    · refine ⟨h.of_main (Or.inl rfl) h.main rfl rfl (fun g hg => ?_) h.sendFrame, rfl⟩
      obtain hg | hg := List.mem_append.mp hg
      · exact h.channel g hg
      · exact List.mem_singleton.mp hg ▸ (mockFrame_request hframe).2
  | receiveTx =>
    obtain ⟨-, f, channel, hchannel, rfl⟩ := receiveTx_cases hstep
    have hall := h.channel
    rw [hchannel] at hall
    refine ⟨h.of_main (Or.inl rfl) rfl rfl rfl (fun g hg => hall g (List.mem_cons_of_mem _ hg)) fun g hg => ?_, rfl⟩
    obtain rfl := ClientPc.sendFrame.inj hg
    exact hall f List.mem_cons_self
  | receiveUrb =>
    obtain ⟨-, urbs, rfl⟩ := receiveUrb_cases hstep
    exact ⟨h.of_main (Or.inl rfl) h.main rfl rfl h.channel h.sendFrame, rfl⟩
  | injectUrb =>
    obtain ⟨-, rfl | ⟨-, urbs, rfl⟩⟩ := injectUrb_cases hstep
    · exact ⟨h.of_main (Or.inl rfl) rfl rfl rfl h.channel fun _ hf => (nomatch hf), rfl⟩
    · refine ⟨Running.dataResponse (h.of_main (Or.inl rfl) ?_ rfl rfl h.channel ?_), dataResponse_reports⟩
      · exact h.main
      · exact h.sendFrame

theorem Running.send {ok : Bool} {bytes : Option (List UInt8)} (h : Running s)
    (hsend : s.send cfg ok = some (bytes, s')) : Running s' ∧ s'.reports = s.reports ∧
      ∀ b ∈ bytes.toList, ∃ f, Encodes b f ∧ (IsMockRequest f ∨ f.frameType = .detachRequest) := by
  have hmain := h.main
  unfold ClientSession.send ClientSession.outgoing at hsend
  cases hpc : s.main with
  | sendFrame f =>
    rw [hpc] at hsend
    dsimp only at hsend
    split at hsend <;> cases hsend
    · exact ⟨h.of_main (Or.inl rfl) rfl rfl rfl h.channel fun _ hf => (nomatch hf), rfl, fun _ hb => nomatch hb⟩
    · rename_i hencode
      refine ⟨?_, ?_, fun b hb => ?_⟩
      · unfold ClientSession.sent
        rw [hpc]
        cases ok with
        | true => exact h.of_main (Or.inl rfl) rfl rfl rfl h.channel fun _ hf => nomatch hf
        | false => exact h.close
      · unfold ClientSession.sent
        rw [hpc]
        cases ok <;> rfl
      · rw [Option.toList_some, List.mem_singleton] at hb
        exact hb ▸ ⟨f, hencode, Or.inl (h.sendFrame f hpc)⟩
  | sendDetach =>
    rw [hpc] at hsend
    dsimp only at hsend
    split at hsend <;> cases hsend
    · exact ⟨h.of_main (Or.inl rfl) rfl rfl rfl h.channel fun _ hf => (nomatch hf), rfl, fun _ hb => nomatch hb⟩
    · rename_i hencode
      refine ⟨?_, ?_, fun b hb => ?_⟩
      · unfold ClientSession.sent
        rw [hpc]
        cases ok with
        | true => exact h.of_main (Or.inl rfl) rfl rfl rfl h.channel fun _ hf => nomatch hf
        | false => exact h.close
      · unfold ClientSession.sent
        rw [hpc]
        cases ok <;> rfl
      · rw [Option.toList_some, List.mem_singleton] at hb
        exact hb ▸ ⟨_, hencode, Or.inr rfl⟩
  | _ => simp [hpc, ClientPc.handshaking] at hmain hsend

theorem Running.receive {bytes : List UInt8} (h : Running s)
    (hevents : ∀ f, eventOf bytes = some f → f.transferType = .interrupt ∧ f.endpoint = 0x81 ∧
      ∃ report, HidKeyboardInputReport.decode f.payload = .ok report)
    (hreceive : s.receive cfg bytes = some s') : Running s' ∧ s'.reports = s.reports ++ (eventOf bytes).toList := by
  have hmain := h.main
  unfold ClientSession.receive at hreceive
  cases hpc : s.main with
  | select =>
    rw [hpc] at hreceive
    cases hreceive
    unfold handleNetworkFrame
    unfold eventOf at hevents ⊢
    cases hdecode : Frame.decode bytes with
    | error e => exact ⟨h, (List.append_nil _).symm⟩
    | ok f =>
      rw [hdecode] at hevents
      dsimp only at hevents ⊢
      cases hframe : f.frameType with
      | event =>
        obtain ⟨htransfer, hendpoint, report, hreport⟩ := hevents f (if_pos hframe)
        dsimp only
        rw [if_pos ⟨htransfer, hendpoint⟩, hreport]
        exact ⟨h.of_main (Or.inl rfl) h.main rfl rfl h.channel h.sendFrame, rfl⟩
      | response =>
        dsimp only
        split
        · exact ⟨h.dataResponse, by rw [dataResponse_reports]; simp⟩
        · exact ⟨h.of_main (Or.inl rfl) rfl rfl rfl h.channel fun _ hf => (nomatch hf), by simp⟩
      | detachResponse =>
        dsimp only
        split
        · exact ⟨h, by simp⟩
        · exact ⟨h.close, by simp [ClientSession.close]⟩
      | cancelResponse => exact ⟨h.dataResponse, by rw [dataResponse_reports]; simp⟩
      | _ => exact ⟨h, by simp⟩
  | _ => simp [hpc, ClientPc.handshaking] at hmain hreceive

theorem Running.endOfStream (h : Running s) (hend : s.endOfStream = some s') :
    Running s' ∧ s'.reports = s.reports := by
  have hmain := h.main
  unfold ClientSession.endOfStream at hend
  cases hpc : s.main with
  | select =>
    rw [hpc] at hend
    cases hend
    exact ⟨h.close, rfl⟩
  | _ => simp [hpc, ClientPc.handshaking] at hmain hend

end

end ClientSession

/-! ## The daemon -/

/-- Further frames are received once this is done. -/
def MainPc.looping : MainPc → Bool
  | select => true
  | sending _ _ _ thenBreak => !thenBreak
  | forwarding _ => true
  | flushing _ => true
  | pumping _ => true
  | _ => false

/-- The Events among the frames the main loop has yet to send. -/
def MainPc.events (main : MainPc) : List Frame := main.pending.filter fun f => f.frameType = .event

namespace NetworkSession

structure Running (cfg : SessionConfig) (s : NetworkSession) : Prop where
  control : s.control = ⟨1, 1⟩
  state : s.main.looping = true → s.lifecycle.state = .attached
  requests : s.events SessionEvent.controlRequest = EnumerationStep.requests
  emitted : s.events SessionEvent.emitted ++ s.main.events <+: mockHidKeyboardEvents cfg.mockHidKeycodes

def emits (s : NetworkSession) : SessionAct → List Frame
  | .send true => (s.main.outgoing.bind eventOf).toList
  | _ => []

section
variable {cfg : SessionConfig} {s s' : NetworkSession} {a : SessionAct}

theorem events_sendingEach (frames : List Frame) :
    (MainPc.sendingEach frames).events = frames.filter fun f => f.frameType = .event := by
  rw [MainPc.events, sendingEach_pending]

theorem events_afterSend (onError : OnError) (rest : List Frame) (thenBreak ok : Bool) :
    (MainPc.afterSend onError rest thenBreak ok).events <+: rest.filter fun f => f.frameType = .event := by
  cases thenBreak with
  | true => exact List.nil_prefix
  | false =>
    cases ok with
    | true => exact events_sendingEach rest ▸ List.prefix_refl _
    | false => cases onError <;> exact List.nil_prefix

theorem looping_afterSend {onError : OnError} {rest : List Frame} {thenBreak ok : Bool}
    (h : (MainPc.afterSend onError rest thenBreak ok).looping = true) : thenBreak = false := by
  cases thenBreak with
  | true => cases h
  | false => rfl

/-- A transfer of the task and the detach request cause no Events, and only the latter ends the loop. -/
theorem handleFrame_running (cfg : SessionConfig) {f : Frame} (hf : IsMockRequest f ∨ f.frameType = .detachRequest)
    (hmain : s.main = .select) (driverOk : Bool) :
    (s.handleFrame cfg driverOk f).control = s.control ∧ (s.handleFrame cfg driverOk f).main.events = [] ∧
      ((s.handleFrame cfg driverOk f).main.looping = true →
        (s.handleFrame cfg driverOk f).lifecycle = s.lifecycle) := by
  rcases hf with ⟨hframe, hbulk⟩ | hframe
  · have hdata : s.handleFrame cfg driverOk f = s.handleDataRequest cfg f := by rw [handleFrame, hframe]
    rw [hdata]
    unfold handleDataRequest
    rw [if_neg (c := f.transferType = .control ∧ f.endpoint = 0) (by simp [hbulk])]
    by_cases hstate : s.lifecycle.state = .attached
    · rw [if_neg (not_not.mpr hstate)]
      cases houtcome : mockTransferOutcomeResponse f cfg.mockTransferOutcomes with
      | some response =>
        refine ⟨rfl, ?_, fun _ => rfl⟩
        simp [reply, MainPc.events, MainPc.pending, (mockTransferOutcomeResponse_response houtcome).1]
      | none =>
        cases henqueue : s.queues.enqueue f with
        | mk result queues =>
          cases result with
          | error e =>
            refine ⟨rfl, ?_, fun _ => rfl⟩
            simp [hmain, MainPc.events, MainPc.pending]
          | ok _ => exact ⟨rfl, rfl, fun _ => rfl⟩
    · rw [if_pos hstate]
      exact ⟨rfl, rfl, fun _ => rfl⟩
  · have hdetach : s.handleFrame cfg driverOk f = s.handleDetachRequest driverOk f := by rw [handleFrame, hframe]
    rw [hdetach]
    exact ⟨rfl, rfl, fun hlooping => by cases hlooping⟩

theorem Running.of_silent (h : Running cfg s) (htrace : s'.trace = s.trace) (hcontrol : s'.control = s.control)
    (hstate : s'.main.looping = true → s.main.looping = true ∧ s'.lifecycle = s.lifecycle)
    (hmain : s'.main.events <+: s.main.events) :
    Running cfg s' ∧ s'.events SessionEvent.emitted = s.events SessionEvent.emitted ++ [] := by
  refine ⟨⟨hcontrol.trans h.control, fun hlooping => ?_, (events_of_trace htrace _).trans h.requests, ?_⟩,
    events_nil htrace⟩
  · obtain ⟨hlooping, hlifecycle⟩ := hstate hlooping
    rw [hlifecycle]
    exact h.state hlooping
  · rw [events_of_trace htrace]
    exact (List.prefix_append_right_inj _).mpr hmain |>.trans h.emitted

theorem Running.of_worker (h : Running cfg s) (htrace : s'.trace = s.trace) (hcontrol : s'.control = s.control)
    (hlifecycle : s'.lifecycle = s.lifecycle) (hmain : s'.main = s.main) :
    Running cfg s' ∧ s'.events SessionEvent.emitted = s.events SessionEvent.emitted ++ [] :=
  h.of_silent htrace hcontrol (fun hlooping => ⟨hmain ▸ hlooping, hlifecycle⟩) (hmain ▸ List.prefix_refl _)

/-- Steps that record something else than a control request. -/
theorem Running.of_event (h : Running cfg s) (event : SessionEvent)
    (htrace : s'.trace = s.trace ++ [(s.lifecycle.state, event)]) (hcontrol : s'.control = s.control)
    (hrequest : event.controlRequest = none)
    (hstate : s'.main.looping = true → s.main.looping = true ∧ s'.lifecycle = s.lifecycle)
    (hmain : event.emitted.toList ++ s'.main.events <+: s.main.events) :
    Running cfg s' ∧ s'.events SessionEvent.emitted = s.events SessionEvent.emitted ++ event.emitted.toList := by
  have hbooked := events_of_event htrace SessionEvent.emitted
  refine ⟨⟨hcontrol.trans h.control, fun hlooping => ?_, ?_, ?_⟩, hbooked⟩
  · obtain ⟨hlooping, hlifecycle⟩ := hstate hlooping
    rw [hlifecycle]
    exact h.state hlooping
  · rw [events_of_event htrace, hrequest, h.requests]
    rfl
  · rw [hbooked, List.append_assoc]
    exact (List.prefix_append_right_inj _).mpr hmain |>.trans h.emitted

theorem emits_send {frame : Frame} {onError : OnError} {rest : List Frame} {thenBreak ok : Bool} {bytes : List UInt8}
    (hmain : s.main = .sending frame onError rest thenBreak) (hencode : frame.encode = some bytes) :
    s.emits (.send ok) = (SessionEvent.sent frame ok).emitted.toList := by
  have hout : s.main.outgoing = some bytes := by rw [hmain]; exact hencode
  cases ok with
  | true =>
    rw [emits, hout, Option.bind_some, eventOf_encodes hencode]
    rfl
  | false => rfl

/-- Of the Events to send, one that is sent was the first. -/
theorem emitted_afterSend (frame : Frame) (onError : OnError) (rest : List Frame) (thenBreak ok : Bool) :
    (SessionEvent.sent frame ok).emitted.toList ++ (MainPc.afterSend onError rest thenBreak ok).events <+:
      (MainPc.sending frame onError rest thenBreak).events := by
  have hafter := events_afterSend onError rest thenBreak ok
  rw [MainPc.events.eq_def (.sending frame onError rest thenBreak), MainPc.pending, List.filter_cons]
  cases ok with
  | true =>
    by_cases hframe : frame.frameType = .event
    · simp only [SessionEvent.emitted, hframe, if_true, Option.toList_some, decide_true, List.singleton_append,
        List.prefix_cons_inj]
      exact hafter
    · simp only [SessionEvent.emitted, hframe, if_false, Option.toList_none, decide_false, Bool.false_eq_true,
        List.nil_append]
      exact hafter
  | false =>
    cases thenBreak with
    | true => exact List.nil_prefix
    | false => cases onError <;> exact List.nil_prefix

/-- The Events sent are those booked, in a daemon that gets transfers of the task and the detach request. -/
theorem Running.step (h : Running cfg s)
    (hreceive : ∀ bytes driverOk f, a = .receive bytes driverOk → Frame.decode bytes = .ok f →
      IsMockRequest f ∨ f.frameType = .detachRequest)
    (hforward : ∀ bytes, s.main = .forwarding bytes → eventOf bytes = none) (hstep : s.step cfg a = some s') :
    Running cfg s' ∧ s'.events SessionEvent.emitted = s.events SessionEvent.emitted ++ s.emits a := by
  cases step_stepped hstep with
  | receive hmain hdecode =>
    rename_i bytes f driverOk
    have hf := hreceive _ _ f rfl hdecode
    obtain ⟨hcontrol, hevents, hlifecycle⟩ :=
      handleFrame_running cfg (s := s.record (.received f)) hf hmain driverOk
    have hnone : (SessionEvent.received f).controlRequest = none := by
      refine if_neg ?_
      rcases hf with ⟨-, hbulk⟩ | hdetach
      · simp [hbulk]
      · simp [hdetach]
    refine h.of_event (.received f) (received_trace cfg s driverOk f) hcontrol hnone (fun hlooping => ?_) ?_
    · exact ⟨by rw [hmain]; rfl, hlifecycle hlooping⟩
    · rw [hevents]
      exact List.nil_prefix
  | malformed hmain hdecode => exact ⟨h, (List.append_nil _).symm⟩
  | endOfStream hmain => exact h.of_silent rfl rfl (fun hlooping => by cases hlooping) List.nil_prefix
  | receiveTx hmain hchannel =>
    exact h.of_silent rfl rfl (fun _ => ⟨by rw [hmain]; rfl, rfl⟩) List.nil_prefix
  | send hmain hencode =>
    rename_i frame onError rest thenBreak bytes ok
    rw [emits_send hmain hencode]
    refine h.of_event (.sent frame ok) rfl rfl rfl (fun hlooping => ?_) ?_
    · obtain rfl := looping_afterSend hlooping
      exact ⟨by rw [hmain]; rfl, rfl⟩
    · rw [hmain]
      exact emitted_afterSend frame onError rest thenBreak ok
  | sendPanics hmain hencode =>
    rename_i frame onError rest thenBreak ok
    have hemits : s.emits (.send ok) = [] := by
      cases ok with
      | true => rw [emits, hmain, MainPc.outgoing, hencode]; rfl
      | false => rfl
    rw [hemits]
    exact h.of_silent rfl rfl (fun hlooping => by cases hlooping) List.nil_prefix
  | forward hmain =>
    rename_i bytes ok
    have hemits : s.emits (.send ok) = [] := by
      cases ok with
      | true => rw [emits, hmain, MainPc.outgoing, Option.bind_some, hforward bytes hmain]; rfl
      | false => rfl
    rw [hemits]
    refine h.of_event (.forwarded bytes ok) rfl rfl rfl (fun _ => ⟨by rw [hmain]; rfl, rfl⟩) ?_
    cases ok <;> exact List.nil_prefix
  | flushed hmain hpop =>
    refine h.of_silent rfl rfl (fun _ => ⟨by rw [hmain]; rfl, rfl⟩) ?_
    rw [hmain, events_sendingEach]
    exact List.prefix_refl _
  | pushRx hmain hpop hencode =>
    rename_i failed transfer queues bytes ok
    refine h.of_event (.pushRx transfer.frame ok) rfl rfl rfl (fun _ => ⟨by rw [hmain]; rfl, rfl⟩) ?_
    rw [hmain]
    cases ok with
    | true => exact List.prefix_refl _
    | false =>
      have hfailed : (MainPc.flushing (failed ++ [transfer.frame.statusResponse .failed])).events =
          (MainPc.flushing failed).events := by
        simp [MainPc.events, MainPc.pending, List.filter_append, Frame.statusResponse]
      exact hfailed ▸ List.prefix_refl _
  | pushRxPanics hmain hpop hencode => exact h.of_silent rfl rfl (fun hlooping => by cases hlooping) List.nil_prefix
  | pumpOnce hmain => exact h.of_silent rfl rfl (fun _ => ⟨by rw [hmain]; rfl, rfl⟩) (hmain ▸ List.prefix_refl _)
  | cleanup hmain => exact h.of_silent rfl rfl (fun hlooping => by cases hlooping) List.nil_prefix
  | cancelWorker hmain => exact h.of_silent rfl rfl (fun hlooping => by cases hlooping) List.nil_prefix
  | join hmain hworker => exact h.of_silent rfl rfl (fun hlooping => by cases hlooping) List.nil_prefix
  | _ => exact h.of_worker rfl rfl rfl rfl

end

end NetworkSession

namespace MockSession

def emits (s : MockSession) : MockSessionAct → List Frame
  | .session a => s.session.emits a
  | _ => []

section
variable {cfg : SessionConfig} {s s' : MockSession} {a : MockSessionAct}

theorem Provenance.forwarding (h : Provenance s) {bytes : List UInt8} (hmain : s.session.main = .forwarding bytes) :
    eventOf bytes = none := by
  obtain ⟨requests, hrequests, -⟩ := sublistForall₂_iff.mp h.echoes
  have hmem : bytes ∈ s.session.produced := by simp [NetworkSession.produced, hmain, MainPc.forwardingBytes]
  obtain ⟨request, -, response, hdecode, hecho⟩ := exists_of_mem_forall₂ hrequests hmem
  rw [eventOf, hdecode]
  exact if_neg (by simp [hecho.frameType])

theorem step_running (hprovenance : Provenance s) (h : s.session.Running cfg)
    (hreceive : ∀ bytes driverOk f, a = .session (.receive bytes driverOk) → Frame.decode bytes = .ok f →
      IsMockRequest f ∨ f.frameType = .detachRequest) (hstep : step cfg s a = some s') :
    s'.session.Running cfg ∧
      s'.session.events SessionEvent.emitted = s.session.events SessionEvent.emitted ++ s.emits a := by
  have hforward : ∀ bytes, s.session.main = .forwarding bytes → eventOf bytes = none := fun _ => hprovenance.forwarding
  cases step_stepped hstep with
  | session hleaves hsession =>
    exact h.step (fun bytes driverOk f ha => hreceive bytes driverOk f (ha ▸ rfl)) hforward hsession
  | panics hbytes hsession => exact h.step (fun _ _ _ hb => by cases hb) hforward hsession
  | pushRxBytes hbytes hpush hsession => exact h.step (fun _ _ _ hb => by cases hb) hforward hsession
  | pumpNothing hidle hpop hsession => exact h.step (fun _ _ _ hb => by cases hb) hforward hsession
  | pumpReturn hpumping hproducer hsession => exact h.step (fun _ _ _ hb => by cases hb) hforward hsession
  | pollReturn hpolling hconsumer hsession => exact h.step (fun _ _ _ hb => by cases hb) hforward hsession
  | _ => exact ⟨h, (List.append_nil _).symm⟩

theorem emits_local (ha : a.isLocal = true) : s.emits a = [] := by
  cases a with
  | session b => cases b <;> first | rfl | cases ha
  | _ => rfl

end

end MockSession

/-! ## Both -/

namespace ClientDaemon

structure Running (cfg : SessionConfig) (s : ClientDaemon) : Prop where
  client : s.client.Running
  daemon : s.daemon.session.Running cfg
  toDaemon : ∀ bytes ∈ s.toDaemon, ∃ f, Encodes bytes f ∧ (IsMockRequest f ∨ f.frameType = .detachRequest)
  reports : s.client.reports ++ s.toClient.filterMap eventOf = s.daemon.session.events SessionEvent.emitted

section
variable {ccfg : ClientConfig} {cfg : SessionConfig} {s s' : ClientDaemon} {a : ClientDaemonAct}

theorem Running.emitted_prefix (h : Running cfg s) :
    s.daemon.session.events SessionEvent.emitted <+: mockHidKeyboardEvents cfg.mockHidKeycodes :=
  (List.prefix_append _ _).trans h.daemon.emitted

theorem Running.inFlight (h : Running cfg s) {bytes : List UInt8} {f : Frame} (hbytes : bytes ∈ s.toClient)
    (hf : eventOf bytes = some f) : f ∈ mockHidKeyboardEvents cfg.mockHidKeycodes := by
  refine h.emitted_prefix.subset ?_
  rw [← h.reports]
  exact List.mem_append_right _ (List.mem_filterMap.mpr ⟨bytes, hbytes, hf⟩)

theorem Running.step (h : Running cfg s) (hprovenance : s.daemon.Provenance) (hstep : step ccfg cfg s a = some s') :
    Running cfg s' := by
  cases step_stepped hstep with
  | clientSend hok hsend =>
    rename_i ok bytes client
    obtain ⟨hclient, hreports, hsent⟩ := h.client.send hsend
    refine ⟨hclient, h.daemon, fun b hb => ?_, by rw [hreports]; exact h.reports⟩
    rcases List.mem_append.mp hb with hb | hb
    · exact h.toDaemon b hb
    · cases ok with
      | true => exact hsent b hb
      | false => cases hb
  | clientReceive hhead hreceive =>
    rename_i bytes toClient client
    obtain ⟨hclient, hreports⟩ := h.client.receive (fun f hf => by
      have hmem := h.inFlight (by rw [hhead]; exact List.mem_cons_self) hf
      obtain ⟨-, htransfer, hendpoint, hreport, -⟩ := mem_mockHidKeyboardEvents_taken hmem
      exact ⟨htransfer, hendpoint, hreport⟩) hreceive
    refine ⟨hclient, h.daemon, h.toDaemon, ?_⟩
    have hbooked := h.reports
    rw [hhead, ← List.singleton_append, List.filterMap_append] at hbooked
    rw [hreports, List.append_assoc, ← hbooked]
    cases hevent : eventOf bytes with
    | none => simp [hevent]
    | some f => simp [hevent]
  | clientEnd hgone hend =>
    obtain ⟨hclient, hreports⟩ := h.client.endOfStream hend
    exact ⟨hclient, h.daemon, h.toDaemon, by rw [hreports]; exact h.reports⟩
  | clientLocal hlocal hclient =>
    obtain ⟨hclient, hreports⟩ := h.client.local_step hlocal hclient
    exact ⟨hclient, h.daemon, h.toDaemon, by rw [hreports]; exact h.reports⟩
  | daemonReceive hhead hdaemon =>
    rename_i bytes toDaemon driverOk daemon
    obtain ⟨hrunning, hemitted⟩ := MockSession.step_running hprovenance h.daemon (fun b driverOk' f hb hdecode => by
      obtain ⟨rfl, -⟩ := SessionAct.receive.inj (MockSessionAct.session.inj hb)
      obtain ⟨g, hencode, hg⟩ := h.toDaemon bytes (by rw [hhead]; exact List.mem_cons_self)
      rw [Frame.decode_of_encode hencode] at hdecode
      exact Except.ok.inj hdecode ▸ hg) hdaemon
    refine ⟨h.client, hrunning, fun b hb => h.toDaemon b (by rw [hhead]; exact List.mem_cons_of_mem _ hb), ?_⟩
    exact h.reports.trans ((List.append_nil _).symm.trans hemitted.symm)
  | daemonSend hok hdaemon =>
    rename_i ok daemon
    obtain ⟨hrunning, hemitted⟩ := MockSession.step_running hprovenance h.daemon (fun _ _ _ hb => by cases hb) hdaemon
    refine ⟨h.client, hrunning, h.toDaemon, ?_⟩
    rw [hemitted, ← h.reports, List.filterMap_append, List.append_assoc]
    congr 2
    cases ok with
    | false => rfl
    | true =>
      rw [if_pos rfl, MockSession.emits, NetworkSession.emits]
      cases s.daemon.session.main.outgoing with
      | none => rfl
      | some bytes => cases hevent : eventOf bytes <;> simp [hevent]
  | daemonEnd hgone hdaemon =>
    obtain ⟨hrunning, hemitted⟩ := MockSession.step_running hprovenance h.daemon (fun _ _ _ hb => by cases hb) hdaemon
    exact ⟨h.client, hrunning, h.toDaemon, h.reports.trans ((List.append_nil _).symm.trans hemitted.symm)⟩
  | daemonLocal hlocal hdaemon =>
    obtain ⟨hrunning, hemitted⟩ := MockSession.step_running hprovenance h.daemon (fun bytes driverOk f hb => by
      rw [hb] at hlocal
      cases hlocal) hdaemon
    rw [MockSession.emits_local hlocal] at hemitted
    exact ⟨h.client, hrunning, h.toDaemon, h.reports.trans ((List.append_nil _).symm.trans hemitted.symm)⟩

end

end ClientDaemon

end WhyUsb
