import WhyUsb.Protocol.Bulk
import WhyUsb.Session.Answers
import WhyUsb.Session.BulkChecks
import WhyUsb.Session.Ledger

/-!
# What the client is answered

The client's task makes its Requests of their ids alone. The daemon answers one
of them with an echo, by its outcome rule or with a failure, and once the client
is attached no other Response is on its way to it. So what the client injects is
the echo it expects, unless a rule of that id says otherwise.
-/

namespace WhyUsb

open List Lts Matching

/-! ## The Requests of the client -/

/-- A Request of the client is one of the enumeration, or the one its task makes of this id. -/
def Genuine (ccfg : ClientConfig) (f : Frame) : Prop :=
  f.frameType = .request → (f.transferType = .control ∧ f.endpoint = 0) ∨
    ClientSession.mockFrame ccfg f.requestId = some f

theorem ClientSession.send_leaves {cfg : ClientConfig} {s s' : ClientSession} {ok : Bool}
    {bytes : Option (List UInt8)} (h : s.send cfg ok = some (bytes, s')) :
    s'.channel = s.channel ∧ s'.main.held = [] := by
  unfold ClientSession.send at h
  cases hout : s.outgoing cfg with
  | none =>
    rw [hout] at h
    cases h
  | some out =>
    rw [hout] at h
    cases out with
    | error e =>
      obtain ⟨-, rfl⟩ := Prod.mk.inj (Option.some.inj h)
      exact ⟨rfl, rfl⟩
    | ok frame =>
      dsimp only at h
      cases hencode : frame.encode with
      | none =>
        rw [hencode] at h
        obtain ⟨-, rfl⟩ := Prod.mk.inj (Option.some.inj h)
        exact ⟨rfl, rfl⟩
      | some encoded =>
        rw [hencode] at h
        obtain ⟨-, rfl⟩ := Prod.mk.inj (Option.some.inj h)
        refine ⟨ClientSession.sent_channel s ok, ?_⟩
        cases ok with
        | true => exact ClientSession.sent_held hout
        | false =>
          have hgone := ClientSession.sent_gone hout
          cases hmain : (s.sent false).main with
          | sendFrame f =>
            rw [hmain] at hgone
            cases hgone
          | _ => rfl

namespace BulkBook

theorem handleNetworkFrame_pending {b : BulkBook} {bytes : List UInt8} {id : UInt64} {e : PendingBulk}
    (h : (b.handleNetworkFrame bytes).pendingBulkPayloads id = some e) : b.pendingBulkPayloads id = some e := by
  unfold BulkBook.handleNetworkFrame at h
  cases hdecode : Frame.decode bytes with
  | error error =>
    rw [hdecode] at h
    exact h
  | ok frame =>
    rw [hdecode] at h
    dsimp only at h
    by_cases hresponse : frame.frameType = .response
    · have htaken : Function.update b.pendingBulkPayloads frame.requestId none id = some e := by
        by_cases hstatus : frame.status ≠ 0
        · rwa [if_pos hresponse, if_pos hstatus] at h
        · rwa [if_pos hresponse, if_neg hstatus] at h
      by_cases hid : id = frame.requestId
      · rw [hid, Function.update_self] at htaken
        cases htaken
      · rwa [Function.update_of_ne hid] at htaken
    · rwa [if_neg hresponse] at h

theorem queueFrame_pending {b : BulkBook} {frame : Frame} {id : UInt64} {e : PendingBulk}
    (h : (b.queueFrame frame).pendingBulkPayloads id = some e) : b.pendingBulkPayloads id = some e ∨
      (frame.requestId = id ∧ MockBulkPayload.decode frame.payload = .ok e.payload) := by
  unfold BulkBook.queueFrame at h
  cases hdecode : MockBulkPayload.decode frame.payload with
  | error error =>
    rw [hdecode] at h
    exact Or.inl h
  | ok payload =>
    rw [hdecode] at h
    dsimp only at h
    by_cases hid : id = frame.requestId
    · rw [hid, Function.update_self, Option.some.injEq] at h
      subst h
      exact Or.inr ⟨hid.symm, rfl⟩
    · rw [Function.update_of_ne hid] at h
      exact Or.inl h

end BulkBook

namespace ClientRun

theorem step_bulk_channel {cfg : ClientConfig} {s s' : ClientRun} {a : ClientAct} (h : step cfg s a = some s') :
    s'.bulk = s.bulk ∨
      (∃ bytes, a = .receive bytes ∧ s.session.main = .select ∧ s'.bulk = s.bulk.handleNetworkFrame bytes) ∨
        ∃ frame ∈ s.session.channel, s'.bulk = s.bulk.queueFrame frame := by
  cases a with
  | receiveTx =>
    obtain ⟨session, -, rfl⟩ := Option.map_eq_some_iff.mp h
    cases hchannel : s.session.channel with
    | nil => exact Or.inl rfl
    | cons frame channel => exact Or.inr (Or.inr ⟨frame, List.mem_cons_self, rfl⟩)
  | receive bytes =>
    obtain ⟨session, -, rfl⟩ := Option.map_eq_some_iff.mp h
    by_cases hmain : s.session.main = .select
    · exact Or.inr (Or.inl ⟨bytes, rfl, hmain, if_pos hmain⟩)
    · exact Or.inl (if_neg hmain)
  | _ =>
    obtain ⟨next, -, rfl⟩ := Option.map_eq_some_iff.mp h
    exact Or.inl rfl

structure Taskmade (ccfg : ClientConfig) (s : ClientRun) : Prop where
  sent : ∀ f ∈ s.sent, Genuine ccfg f
  waiting : ∀ f ∈ s.session.channel ++ s.session.main.held, ClientSession.mockFrame ccfg f.requestId = some f
  pending : ∀ id e, s.bulk.pendingBulkPayloads id = some e → ∃ f, ClientSession.mockFrame ccfg id = some f ∧
    MockBulkPayload.decode f.payload = .ok e.payload

section
variable {ccfg : ClientConfig} {s s' : ClientRun} {a : ClientAct}

theorem new_taskmade (ccfg : ClientConfig) : Taskmade ccfg new where
  sent := fun _ hf => nomatch hf
  waiting := fun _ hf => nomatch hf
  pending := fun _ _ he => nomatch he

theorem sentFrame_outgoing {session : ClientSession} {f : Frame} (h : sentFrame ccfg session = some f) :
    session.outgoing ccfg = some (.ok f) := by
  unfold sentFrame at h
  split at h
  · rename_i frame hout
    rw [Option.ite_none_right_eq_some, Option.some.injEq] at h
    exact h.2 ▸ hout
  · cases h

theorem sentFrame_genuine (h : Taskmade ccfg s) : ∀ f ∈ (sentFrame ccfg s.session).toList, Genuine ccfg f := by
  intro f hf hframe
  have hout := sentFrame_outgoing (Option.mem_toList.mp hf)
  obtain ⟨-, rfl⟩ | ⟨step, setup, -, rfl⟩ | hmain | ⟨-, rfl⟩ := ClientSession.outgoing_cases hout
  · cases hframe
  · exact Or.inl ⟨rfl, rfl⟩
  · exact Or.inr (h.waiting f (List.mem_append_right _ (by rw [hmain]; exact List.mem_singleton_self _)))
  · cases hframe

theorem step_sent_genuine (h : Taskmade ccfg s) (hstep : step ccfg s a = some s') : ∀ f ∈ s'.sent, Genuine ccfg f := by
  obtain ⟨ok, bytes, -, -, hsent⟩ | ⟨-, hsent⟩ := step_session hstep
  · rw [hsent]
    intro f hf
    exact (List.mem_append.mp hf).elim (h.sent f) (sentFrame_genuine h f)
  · rw [hsent]
    exact h.sent

theorem step_waiting_taskmade (h : Taskmade ccfg s) (hstep : step ccfg s a = some s') :
    ∀ f ∈ s'.session.channel ++ s'.session.main.held, ClientSession.mockFrame ccfg f.requestId = some f := by
  obtain ⟨ok, bytes, -, hsend, -⟩ | ⟨hsession, -⟩ := step_session hstep
  · intro f hf
    refine h.waiting f (List.mem_append_left _ ?_)
    have hleft := ClientSession.send_leaves hsend
    rwa [hleft.1, hleft.2, List.append_nil] at hf
  · obtain hkeeps | htask := ClientSession.step_keeps hsession
    · exact fun f hf => h.waiting f (hkeeps.waiting f hf)
    · obtain ⟨-, hsame | ⟨-, frame, hframe, hqueued⟩⟩ := ClientSession.mockLocalUsb_cases htask
      · rw [hsame]
        exact h.waiting
      · rw [hqueued]
        intro f hf
        dsimp only at hf
        rw [List.append_assoc, List.mem_append, List.mem_append, List.mem_singleton] at hf
        obtain hwaits | rfl | hheld := hf
        · exact h.waiting f (List.mem_append_left _ hwaits)
        · rw [(ClientSession.mockFrame_request hframe).1]
          exact hframe
        · exact h.waiting f (List.mem_append_right _ hheld)

theorem step_pending_taskmade (h : Taskmade ccfg s) (hstep : step ccfg s a = some s') : ∀ id e,
    s'.bulk.pendingBulkPayloads id = some e → ∃ f, ClientSession.mockFrame ccfg id = some f ∧
      MockBulkPayload.decode f.payload = .ok e.payload := by
  intro id e he
  obtain hsame | ⟨bytes, -, -, htaken⟩ | ⟨frame, hmem, hqueued⟩ := step_bulk_channel hstep
  · rw [hsame] at he
    exact h.pending id e he
  · rw [htaken] at he
    exact h.pending id e (BulkBook.handleNetworkFrame_pending he)
  · rw [hqueued] at he
    obtain hold | ⟨rfl, hdecode⟩ := BulkBook.queueFrame_pending he
    · exact h.pending id e hold
    · exact ⟨frame, h.waiting frame (List.mem_append_left _ hmem), hdecode⟩

theorem step_taskmade (h : Taskmade ccfg s) (hstep : step ccfg s a = some s') : Taskmade ccfg s' where
  sent := step_sent_genuine h hstep
  waiting := step_waiting_taskmade h hstep
  pending := step_pending_taskmade h hstep

end

end ClientRun

/-! ## The Responses on their way -/

inductive DataAnswer (ccfg : ClientConfig) (cfg : SessionConfig) (response : Frame) : Prop where
  | failed (hstatus : response.status ≠ 0)
  | ruled {request} (houtcome : mockTransferOutcomeResponse request cfg.mockTransferOutcomes = some response)
  | echo {request} (htask : ClientSession.mockFrame ccfg response.requestId = some request)
      (hecho : IsEcho request response)

/-- It answers no cancellation, and if it is a Response, it is one to a Request of the task. -/
structure Trusted (ccfg : ClientConfig) (cfg : SessionConfig) (f : Frame) : Prop where
  uncancelled : f.frameType ≠ .cancelResponse
  answer : f.frameType = .response → DataAnswer ccfg cfg f

theorem Trusted.of_event {ccfg : ClientConfig} {cfg : SessionConfig} {f : Frame} (h : f.frameType = .event) :
    Trusted ccfg cfg f where
  uncancelled := fun hcancel => nomatch h.symm.trans hcancel
  answer := fun hresponse => nomatch h.symm.trans hresponse

theorem statusResponse_failed_trusted (ccfg : ClientConfig) (cfg : SessionConfig) (request : Frame) :
    Trusted ccfg cfg (request.statusResponse .failed) where
  uncancelled := nofun
  answer := fun _ => .failed (by simp [Frame.statusResponse, TransferStatus.asI32])

theorem TransferStatus.asI32_ne_zero {status : TransferStatus} (h : status ≠ .ok) : status.asI32 ≠ 0 := by
  cases status with
  | ok => exact absurd rfl h
  | _ => decide

theorem mockTransferOutcomeResponse_rule {request response : Frame} {outcomes : List MockTransferOutcomeRule}
    (h : mockTransferOutcomeResponse request outcomes = some response) : ∃ rule ∈ outcomes,
      rule.requestId = response.requestId ∧
        ∀ status, rule.outcome = .status status → status ≠ .ok → response.status ≠ 0 := by
  obtain ⟨rule, hfind, rfl⟩ := Option.map_eq_some_iff.mp h
  have hid : rule.requestId = request.requestId := by simpa using List.find?_some hfind
  refine ⟨rule, List.mem_of_find?_eq_some hfind, ?_, fun status houtcome hne => ?_⟩
  · cases rule.outcome with
    | status status => exact hid
    | shortPacket len => exact hid
  · rw [houtcome]
    exact status.asI32_ne_zero hne

namespace NetworkSession

section
variable {cfg : SessionConfig} {s s' : NetworkSession} {a : SessionAct}

theorem request_taken {f : Frame} (h : f ∈ s.events SessionEvent.request) :
    f.frameType = .request ∧ f ∈ s.events SessionEvent.taken := by
  obtain ⟨e, he, hrequest⟩ := List.mem_filterMap.mp h
  cases hevent : e.2 with
  | received g =>
    rw [hevent, SessionEvent.request, Option.ite_none_right_eq_some, Option.some.injEq] at hrequest
    obtain ⟨htype, rfl⟩ := hrequest
    exact ⟨htype, List.mem_filterMap.mpr ⟨e, he, by rw [hevent]; rfl⟩⟩
  | _ =>
    rw [hevent] at hrequest
    cases hrequest

theorem handleFrame_uncancelled (cfg : SessionConfig) (hmain : s.main = .select) (driverOk : Bool) {frame f : Frame}
    (hframe : IsMockRequest frame ∨ frame.frameType = .detachRequest)
    (hf : f ∈ (s.handleFrame cfg driverOk frame).main.pending) : f.frameType ≠ .cancelResponse := by
  unfold handleFrame at hf
  obtain ⟨htype, hbulk⟩ | hdetach := hframe
  · rw [htype] at hf
    dsimp only at hf
    unfold handleDataRequest at hf
    by_cases hstate : s.lifecycle.state ≠ .attached
    · rw [if_pos hstate] at hf
      exact List.mem_singleton.mp hf ▸ nofun
    · have hdata : ¬ (frame.transferType = .control ∧ frame.endpoint = 0) :=
        fun hcontrol => nomatch hbulk.symm.trans hcontrol.1
      rw [if_neg hstate, if_neg hdata] at hf
      cases houtcome : mockTransferOutcomeResponse frame cfg.mockTransferOutcomes with
      | some response =>
        rw [houtcome] at hf
        obtain rfl := List.mem_singleton.mp hf
        exact fun hcancel => nomatch (mockTransferOutcomeResponse_response houtcome).1.symm.trans hcancel
      | none =>
        rw [houtcome] at hf
        dsimp only at hf
        cases henqueue : s.queues.enqueue frame with
        | mk result queues =>
          rw [henqueue] at hf
          cases result with
          | error e =>
            dsimp only at hf
            rw [hmain] at hf
            cases hf
          | ok _ => cases hf
  · rw [hdetach] at hf
    exact List.mem_singleton.mp hf ▸ nofun

theorem step_pending (h : step cfg s a = some s') : ∀ f ∈ s'.main.pending, f ∈ s.main.pending ∨
    (∃ bytes driverOk frame, a = .receive bytes driverOk ∧ Frame.decode bytes = .ok frame ∧ s.main = .select ∧
      f ∈ ((s.record (.received frame)).handleFrame cfg driverOk frame).main.pending) ∨
        ∃ request : Frame, f = request.statusResponse .failed := by
  intro f hf
  cases step_stepped h with
  | receive hmain hdecode => exact Or.inr (Or.inl ⟨_, _, _, rfl, hdecode, hmain, hf⟩)
  | malformed hmain hdecode => exact Or.inl hf
  | send hmain hencode =>
    rw [hmain]
    exact Or.inl (List.mem_cons_of_mem _ (afterSend_pending hf))
  | forward hmain =>
    rename_i bytes ok
    cases ok <;> cases hf
  | flushed hmain hpop =>
    rename_i failed queues
    rw [hmain]
    exact Or.inl (sendingEach_pending failed ▸ hf)
  | pushRx hmain hpop hencode =>
    rename_i failed transfer queues bytes ok
    cases ok with
    | true =>
      rw [hmain]
      exact Or.inl hf
    | false =>
      obtain hold | hnew := List.mem_append.mp hf
      · rw [hmain]
        exact Or.inl hold
      · exact Or.inr (Or.inr ⟨transfer.frame, List.mem_singleton.mp hnew⟩)
  | pumpOnce hmain =>
    rw [hmain]
    exact Or.inl hf
  | endOfStream hmain => cases hf
  | receiveTx hmain hchannel => cases hf
  | sendPanics hmain hencode => cases hf
  | pushRxPanics hmain hpop hencode => cases hf
  | cleanup hmain => cases hf
  | cancelWorker hmain => cases hf
  | join hmain hworker => cases hf
  | _ => exact Or.inl hf

end

end NetworkSession

namespace MockSession

section
variable {cfg : SessionConfig} {s s' : MockSession} {a : MockSessionAct}

theorem step_routed (h : s.session.Routed cfg) (hstep : step cfg s a = some s') : s'.session.Routed cfg := by
  obtain hsame | ⟨b, hb, -⟩ := step_session hstep
  · rw [hsame]
    exact h
  · exact NetworkSession.step_routed h hb

/-- After the enumeration the daemon receives transfers of the task and detach requests, and what it is to send are no
Responses but those it can answer them with. -/
theorem step_trusted {ccfg : ClientConfig} (h : s.session.Routed cfg)
    (hreceive : ∀ bytes driverOk f, a = .session (.receive bytes driverOk) → Frame.decode bytes = .ok f →
      IsMockRequest f ∨ f.frameType = .detachRequest)
    (hpending : ∀ f ∈ s.session.main.pending, Trusted ccfg cfg f) (hstep : step cfg s a = some s') :
    ∀ f ∈ s'.session.main.pending, Trusted ccfg cfg f := by
  obtain hsame | ⟨b, hb, hcall⟩ := step_session hstep
  · rw [hsame]
    exact hpending
  · intro f hf
    obtain hold | ⟨bytes, driverOk, frame, rfl, hdecode, hmain, hanswer⟩ | ⟨request, rfl⟩ :=
      NetworkSession.step_pending hb f hf
    · exact hpending f hold
    · obtain ⟨rfl, -⟩ | ⟨_, hne⟩ | ⟨_, hne⟩ | ⟨_, hne⟩ := hcall
      · obtain ⟨queued, answered, hbooked⟩ := h.booked
        have hdrained := (hbooked.drained (by simp [hmain])).2
        have hkind := hreceive bytes driverOk frame rfl hdecode
        refine ⟨NetworkSession.handleFrame_uncancelled (s := s.session.record (.received frame)) cfg hmain driverOk
          hkind hanswer, fun hframe => ?_⟩
        have hresponse : f ∈ ((s.session.record (.received frame)).handleFrame cfg driverOk frame).main.responses :=
          List.mem_filter.mpr ⟨hanswer, decide_eq_true hframe⟩
        have hdisposed : NetworkSession.Disposed cfg frame
            ((s.session.record (.received frame)).handleFrame cfg driverOk frame) :=
          NetworkSession.handleFrame_disposed (s := s.session.record (.received frame)) hmain hdrained driverOk frame
        cases hdisposed with
        | queued hadmitted hqueue hnone =>
          rw [hnone] at hresponse
          cases hresponse
        | answered hqueue hanswers =>
          obtain ⟨hrequest, hdirect⟩ := hanswers f hresponse
          obtain ⟨-, hbulk⟩ | hdetach := hkind
          · cases hdirect with
            | failed => exact (statusResponse_failed_trusted ccfg cfg frame).answer rfl
            | control hcontrol => exact nomatch hbulk.symm.trans hcontrol.1
            | outcome hdata houtcome => exact .ruled houtcome
          · exact nomatch hdetach.symm.trans hrequest
      · cases hne
      · cases hne
      · cases hne
    · exact statusResponse_failed_trusted ccfg cfg request

/-- What the worker has made echoes a Request that was received, and not one for the control endpoint. -/
theorem Provenance.produced_echo (h : Provenance s) (hrouted : s.session.Routed cfg) {bytes : List UInt8}
    (hbytes : bytes ∈ s.session.produced) : ∃ request ∈ s.session.events SessionEvent.request,
      DataRequest cfg request ∧ EchoesRequest bytes request := by
  obtain ⟨requests, hrequests, hsub⟩ := sublistForall₂_iff.mp h.echoes
  obtain ⟨request, hmem, hecho⟩ := exists_of_mem_forall₂ hrequests hbytes
  have hpushed := hsub.subset hmem
  obtain ⟨queued, answered, hbooked⟩ := hrouted.booked
  refine ⟨request, hbooked.once.subset ?_, hrouted.pushed request hpushed, hecho⟩
  exact List.mem_append_right _ (List.mem_append_left _ hpushed)

end

end MockSession

namespace ClientDaemon

section
variable {ccfg : ClientConfig} {cfg : SessionConfig} {s s' : ClientDaemon}

theorem Phase.carried {a : ClientDaemonAct} (h : Phase cfg s) (hstate : s.client.state = .connected)
    (hstep : step ccfg cfg s a = some s') (hleft : s'.client.state ≠ .connected) :
    (∀ bytes ∈ s'.toClient, ∃ f, Encodes bytes f ∧ f.frameType = .event) ∧
      ∀ f ∈ s'.daemon.session.main.pending, f.frameType = .event := by
  cases a with
  | daemon a =>
    cases daemonStep_stepped hstep with
    | _ => exact absurd hstate hleft
  | client a =>
    cases h with
    | start hclient hidle =>
      obtain ⟨bytes, client, hsend, rfl⟩ :=
        hidle.client_step (by rw [hclient]; rfl) (Or.inl (by rw [hclient]; rfl)) hstep
      obtain ⟨encoded, hencoded, hnew⟩ := ClientSession.new_send ccfg
      rw [hclient, hnew] at hsend
      cases hsend
      exact absurd rfl hleft
    | attaching hclient hexchange =>
      obtain ⟨sent, rest, bytes, sentBytes, client, hevents, hresponse, hsent, hreceive, rfl, -⟩ :=
        hexchange.client_step (by rw [hclient]; rfl) (Or.inl (by rw [hclient]; rfl)) hstep
      rw [hclient, ClientSession.attaching_receive hresponse] at hreceive
      cases hreceive
      exact absurd rfl hleft
    | enumerating hclient hanswered hidle =>
      rename_i step answered
      obtain ⟨bytes, client, hsend, rfl⟩ :=
        hidle.client_step (by rw [hclient]; rfl) (Or.inr ⟨step, by rw [hclient]; rfl⟩) hstep
      obtain ⟨encoded, hencoded, henumerating⟩ := ClientSession.enumerating_send ccfg cfg step answered
      rw [hclient, henumerating] at hsend
      cases hsend
      exact absurd rfl hleft
    | controlling hclient hanswered hexchange =>
      rename_i step answered
      obtain ⟨sent, rest, bytes, sentBytes, client, hevents, hresponse, hsent, hreceive, rfl, -, hmain, -⟩ :=
        hexchange.client_step (by rw [hclient]; rfl) (Or.inr ⟨step, step.requestId, by rw [hclient]; rfl⟩) hstep
      have htype : ∀ f ∈ sent ++ rest, f.frameType = .event := by
        intro f hf
        exact ((controlExchange cfg step).events_frameType f (hevents ▸ hf)).1
      refine ⟨fun b hb => ?_, fun f hf => ?_⟩
      · obtain ⟨f, hf, hencodes⟩ := exists_of_mem_forall₂ hsent hb
        exact ⟨f, hencodes, htype f (List.mem_append_left _ hf)⟩
      · dsimp only at hf
        rw [hmain, NetworkSession.sendingEach_pending] at hf
        exact htype f (List.mem_append_right _ hf)
    | running hrunning => exact absurd hstate hrunning.client.state

theorem Phase.left_of_select (h : Phase cfg s) (hmain : s.client.main = .select) : s.client.state ≠ .connected := by
  cases h with
  | start hclient hidle =>
    rw [hclient] at hmain
    cases hmain
  | attaching hclient hexchange =>
    rw [hclient] at hmain
    cases hmain
  | enumerating hclient hanswered hidle =>
    rw [hclient] at hmain
    cases hmain
  | controlling hclient hanswered hexchange =>
    rw [hclient] at hmain
    cases hmain
  | running hrunning => exact hrunning.client.state

theorem received_inFlight {bytes : List UInt8} {driverOk : Bool}
    (h : step ccfg cfg s (.daemon (.session (.receive bytes driverOk))) = some s') : bytes ∈ s.toDaemon := by
  cases daemonStep_stepped h with
  | daemonReceive hhead hstep =>
    rw [hhead]
    exact List.mem_cons_self
  | daemonLocal hlocal hstep => cases hlocal

end

end ClientDaemon

/-! ## Every run -/

namespace ClientDaemonRun

/-- A success for a Request of the task. What it is compared with is the payload of that Request. -/
structure Expected (ccfg : ClientConfig) (cfg : SessionConfig) (urb : InjectedUrb) : Prop where
  status : urb.response.status = 0
  answers : DataAnswer ccfg cfg urb.response
  payload : ∀ payload, urb.expected = some payload → ∃ request,
    ClientSession.mockFrame ccfg urb.response.requestId = some request ∧
      MockBulkPayload.decode request.payload = .ok payload

structure Faithful (ccfg : ClientConfig) (cfg : SessionConfig) (s : ClientDaemonRun) : Prop where
  reached : Reached cfg s
  taskmade : s.client.Taskmade ccfg
  routed : s.daemon.session.Routed cfg
  toClient : s.client.session.state ≠ .connected → ∀ bytes ∈ s.toClient, ∀ f, Frame.decode bytes = .ok f →
    Trusted ccfg cfg f
  pending : s.client.session.state ≠ .connected → ∀ f ∈ s.daemon.session.main.pending, Trusted ccfg cfg f
  fresh : s.client.bulk.Fresh
  injected : ∀ urb ∈ s.client.bulk.injected, Expected ccfg cfg urb

section
variable {ccfg : ClientConfig} {cfg : SessionConfig} {s s' : ClientDaemonRun}

theorem new_faithful (ccfg : ClientConfig) (cfg : SessionConfig) : Faithful ccfg cfg new where
  reached := new_reached cfg
  taskmade := ClientRun.new_taskmade ccfg
  routed := NetworkSession.new_routed cfg
  toClient := fun _ _ hf => nomatch hf
  pending := fun _ _ hf => nomatch hf
  fresh := BulkBook.new_fresh
  injected := fun _ hurb => nomatch hurb

theorem Faithful.running (h : Faithful ccfg cfg s) (hstate : s.client.session.state ≠ .connected) :
    ClientDaemon.Running cfg s.system := h.reached.system.phase.running_of_left hstate

theorem Faithful.request (h : Faithful ccfg cfg s) {request : Frame}
    (hrequest : request ∈ s.daemon.session.events SessionEvent.request) (hadmitted : DataRequest cfg request) :
    ClientSession.mockFrame ccfg request.requestId = some request := by
  obtain ⟨inFlight, -, htaken⟩ := h.reached.carried.toDaemon
  obtain ⟨htype, hmem⟩ := NetworkSession.request_taken hrequest
  exact (h.taskmade.sent request (htaken.subset (List.mem_append_left _ hmem)) htype).resolve_left hadmitted.data

theorem Faithful.outgoing (h : Faithful ccfg cfg s) (hstate : s.client.session.state ≠ .connected)
    {bytes : List UInt8} (hout : s.daemon.session.main.outgoing = some bytes) {f : Frame}
    (hdecode : Frame.decode bytes = .ok f) : Trusted ccfg cfg f := by
  have hpending := h.pending hstate
  cases hmain : s.daemon.session.main with
  | sending frame onError rest thenBreak =>
    rw [hmain] at hout hpending
    rw [Frame.decode_of_encode hout] at hdecode
    exact Except.ok.inj hdecode ▸ hpending frame List.mem_cons_self
  | forwarding held =>
    rw [hmain] at hout
    obtain rfl := Option.some.inj hout
    have hproduced : held ∈ s.daemon.session.produced := by
      simp [NetworkSession.produced, hmain, MainPc.forwardingBytes]
    obtain ⟨request, hrequest, hadmitted, response, hresponse, hecho⟩ :=
      h.reached.system.provenance.produced_echo h.routed hproduced
    obtain rfl := Except.ok.inj (hdecode.symm.trans hresponse)
    have htask := h.request hrequest hadmitted
    rw [← hecho.requestId] at htask
    exact { uncancelled := fun hcancel => absurd (hecho.frameType.symm.trans hcancel) (by decide)
            answer := fun _ => .echo htask hecho }
  | _ =>
    rw [hmain] at hout
    cases hout

theorem Faithful.settled {a : ClientAct} (h : Faithful ccfg cfg s) (hstep : step ccfg cfg s (.client a) = some s')
    (hleft : s'.client.session.state ≠ .connected) :
    (∀ bytes ∈ s'.toClient, ∀ f, Frame.decode bytes = .ok f → Trusted ccfg cfg f) ∧
      ∀ f ∈ s'.daemon.session.main.pending, Trusted ccfg cfg f := by
  by_cases hstate : s.client.session.state = .connected
  · obtain ⟨hclient, hdaemon⟩ := h.reached.system.phase.carried hstate (step_system hstep) hleft
    refine ⟨fun bytes hbytes f hf => ?_, fun f hf => .of_event (hdaemon f hf)⟩
    obtain ⟨g, hencodes, hevent⟩ := hclient bytes hbytes
    obtain rfl := Except.ok.inj ((Frame.decode_of_encode hencodes).symm.trans hf)
    exact .of_event hevent
  · obtain ⟨hdaemon, -, hreceives⟩ := client_carries hstep
    refine ⟨fun bytes hbytes => h.toClient hstate bytes ?_, ?_⟩
    · rw [hreceives]
      exact List.mem_append_right _ hbytes
    · rw [hdaemon]
      exact h.pending hstate

theorem Faithful.receive {bytes : List UInt8} (h : Faithful ccfg cfg s)
    (hbytes : ∀ f, Frame.decode bytes = .ok f → Trusted ccfg cfg f) :
    ∀ urb ∈ (s.client.bulk.handleNetworkFrame bytes).injected, Expected ccfg cfg urb := by
  intro urb hurb
  rw [BulkBook.handleNetworkFrame_injected, List.mem_append] at hurb
  cases hurb with
  | inl hold => exact h.injected urb hold
  | inr hnew =>
    cases hdecode : Frame.decode bytes with
    | error e =>
      rw [hdecode] at hnew
      cases hnew
    | ok frame =>
      rw [hdecode] at hnew
      dsimp only at hnew
      by_cases hgood : frame.frameType = .response ∧ frame.status = 0
      · rw [if_pos hgood, List.mem_singleton] at hnew
        subst hnew
        refine ⟨hgood.2, (hbytes frame hdecode).answer hgood.1, fun payload hpayload => ?_⟩
        obtain ⟨entry, hentry, rfl⟩ := Option.map_eq_some_iff.mp hpayload
        exact h.taskmade.pending frame.requestId entry hentry
      · rw [if_neg hgood] at hnew
        cases hnew

theorem step_injected {a : ClientAct} (h : Faithful ccfg cfg s) (hstep : step ccfg cfg s (.client a) = some s') :
    ∀ urb ∈ s'.client.bulk.injected, Expected ccfg cfg urb := by
  obtain ⟨-, hclient, -⟩ := step_client hstep
  have hreceives := (client_carries hstep).receives
  obtain hsame | ⟨bytes, rfl, hmain, htaken⟩ | ⟨frame, -, hqueued⟩ := ClientRun.step_bulk_channel hclient
  · rw [hsame]
    exact h.injected
  · have hstate := h.reached.system.phase.left_of_select hmain
    rw [htaken]
    refine h.receive (h.toClient hstate bytes ?_)
    rw [hreceives]
    exact List.mem_cons_self
  · rw [hqueued, BulkBook.queueFrame_injected]
    exact h.injected

theorem client_faithful {a : ClientAct} (h : Faithful ccfg cfg s) (hstep : step ccfg cfg s (.client a) = some s') :
    Faithful ccfg cfg s' where
  reached := step_reached h.reached hstep
  taskmade := ClientRun.step_taskmade h.taskmade (step_client hstep).2.1
  routed := by
    rw [(client_carries hstep).daemon]
    exact h.routed
  toClient := fun hleft => (h.settled hstep hleft).1
  pending := fun hleft => (h.settled hstep hleft).2
  fresh := ClientRun.step_fresh h.fresh (step_client hstep).2.1
  injected := step_injected h hstep

theorem daemon_faithful {a : MockSessionAct} (h : Faithful ccfg cfg s)
    (hstep : step ccfg cfg s (.daemon a) = some s') : Faithful ccfg cfg s' := by
  obtain ⟨hsystem, hclient, -⟩ := step_daemon hstep
  obtain ⟨⟨-, sent, hsends, hsub⟩, hdaemon⟩ := daemon_carries hstep
  refine
    { reached := step_reached h.reached hstep
      taskmade := hclient ▸ h.taskmade
      routed := MockSession.step_routed h.routed hdaemon
      toClient := fun hleft => ?_
      pending := fun hleft => ?_
      fresh := hclient ▸ h.fresh
      injected := hclient ▸ h.injected }
  · rw [hclient] at hleft
    rw [hsends]
    intro bytes hbytes f hf
    obtain hold | hnew := List.mem_append.mp hbytes
    · exact h.toClient hleft bytes hold f hf
    · cases a with
      | session a =>
        cases a with
        | send ok => exact h.outgoing hleft (Option.mem_toList.mp (hsub.subset hnew)) hf
        | _ => cases hsub.subset hnew
      | _ => cases hsub.subset hnew
  · rw [hclient] at hleft
    refine MockSession.step_trusted h.routed ?_ (h.pending hleft) hdaemon
    rintro bytes driverOk f rfl hf
    have hmem : bytes ∈ s.system.toDaemon := ClientDaemon.received_inFlight hsystem
    obtain ⟨g, hencodes, hkind⟩ := (h.running hleft).toDaemon bytes hmem
    obtain rfl := Except.ok.inj ((Frame.decode_of_encode hencodes).symm.trans hf)
    exact hkind

theorem step_faithful {a : ClientDaemonAct} (h : Faithful ccfg cfg s) (hstep : step ccfg cfg s a = some s') :
    Faithful ccfg cfg s' := by
  cases a with
  | client a => exact client_faithful h hstep
  | daemon a => exact daemon_faithful h hstep

theorem Expected.ruled_or_echo {urb : InjectedUrb} (h : Expected ccfg cfg urb) :
    (∃ rule ∈ cfg.mockTransferOutcomes, rule.requestId = urb.response.requestId) ∨
      ∃ request, ClientSession.mockFrame ccfg urb.response.requestId = some request ∧ IsEcho request urb.response := by
  cases h.answers with
  | failed hstatus => exact absurd h.status hstatus
  | ruled houtcome =>
    obtain ⟨rule, hrule, hid⟩ := mockTransferOutcomeResponse_rule houtcome
    exact Or.inl ⟨rule, hrule, hid.1⟩
  | echo htask hecho => exact Or.inr ⟨_, htask, hecho⟩

/-- Where the rules only fail Requests, the payload of an echo is the expected one. -/
theorem Expected.payload_carried {urb : InjectedUrb} (h : Expected ccfg cfg urb)
    (hfails : ∀ rule ∈ cfg.mockTransferOutcomes, ∃ status, rule.outcome = .status status ∧ status ≠ .ok)
    {payload : MockBulkPayload} (hexpected : urb.expected = some payload) :
    MockBulkPayload.decode urb.response.payload = .ok payload := by
  obtain ⟨request, htask, hdecode⟩ := h.payload payload hexpected
  cases h.answers with
  | failed hstatus => exact absurd h.status hstatus
  | ruled houtcome =>
    obtain ⟨rule, hrule, -, hstatus⟩ := mockTransferOutcomeResponse_rule houtcome
    obtain ⟨status, houtcome, hne⟩ := hfails rule hrule
    exact absurd h.status (hstatus status houtcome hne)
  | echo htask' hecho =>
    obtain rfl := Option.some.inj (htask.symm.trans htask')
    obtain ⟨bulk, hbulk, hencode⟩ | ⟨⟨e, herror⟩, -⟩ := hecho.payload
    · obtain rfl := Except.ok.inj (hbulk.symm.trans hdecode)
      exact MockBulkPayload.decode_of_encode hencode
    · cases hdecode.symm.trans herror

end

/-- Against this daemon, what the client injects has succeeded and is ruled, or it is the echo of the Request that the
task makes of this id. Where no rule lets a Request succeed, each carries the payload it is compared with. -/
theorem injected_faithful (ccfg : ClientConfig) (cfg : SessionConfig) (acts : List ClientDaemonAct)
    (s : ClientDaemonRun) (h : run (step ccfg cfg) new acts = some s) :
    (∀ urb ∈ s.client.bulk.injected, urb.response.status = 0 ∧
      ((∃ rule ∈ cfg.mockTransferOutcomes, rule.requestId = urb.response.requestId) ∨
        ∃ request, ClientSession.mockFrame ccfg urb.response.requestId = some request ∧
          IsEcho request urb.response)) ∧
      ((∀ rule ∈ cfg.mockTransferOutcomes, ∃ status, rule.outcome = .status status ∧ status ≠ .ok) →
        s.client.bulk.Checked) := by
  have hfaithful : Faithful ccfg cfg s :=
    run_invariant (fun _ _ _ hs hstep => step_faithful hs hstep) (new_faithful ccfg cfg) h
  refine ⟨fun urb hurb => ?_, fun hfails => ⟨fun urb hurb payload hexpected => ?_, hfaithful.fresh.once⟩⟩
  · have hexpected := hfaithful.injected urb hurb
    exact ⟨hexpected.status, hexpected.ruled_or_echo⟩
  · exact (hfaithful.injected urb hurb).payload_carried hfails hexpected

theorem injected_faithful_bounded : ∃ s, run (step ⟨.mock, some 1, some 1⟩ ⟨none, [4], []⟩) new boundedRun = some s ∧
    s.client.bulk.injected.map (·.response.requestId) = [7] ∧ s.client.bulk.Checked := by
  have hrun : (run (step ⟨.mock, some 1, some 1⟩ ⟨none, [4], []⟩) new boundedRun).map
      (fun s => s.client.bulk.injected.map (·.response.requestId)) = some [7] := by decide +kernel
  obtain ⟨s, hs, hids⟩ := Option.map_eq_some_iff.mp hrun
  exact ⟨s, hs, hids, (injected_faithful _ _ boundedRun s hs).2 nofun⟩

end ClientDaemonRun

end WhyUsb
