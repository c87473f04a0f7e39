import WhyUsb.Protocol.Bulk
import WhyUsb.Session.Answers
import WhyUsb.Session.Enumeration

/-!
# The session does not panic

A frame panics in `encode` when its payload is longer than its length field can
say. What was decoded is not, and the answers are shorter: so neither party of
the session panics, whatever it receives, as long as the driver's frames were
decoded as well.
-/

namespace WhyUsb

open List Lts

/-- `encode` returns. -/
def Frame.Sendable (f : Frame) : Prop := f.payload.length < 2 ^ 32

/-- What a driver hands to the worker was decoded, as both of them do it. -/
def SessionAct.PollsDecoded (a : SessionAct) : Prop :=
  ∀ frame, a = .pollTx (.ok (some frame)) → ∃ bytes, Frame.decode bytes = .ok frame

/-! ## The frames that are made -/

theorem Frame.Sendable.encode {f : Frame} (h : f.Sendable) : ∃ bytes, f.encode = some bytes := Frame.encode_ok h

theorem Frame.sendable_of_decode {bytes : List UInt8} {f : Frame} (h : Frame.decode bytes = .ok f) : f.Sendable :=
  (Frame.decode_ok h).2.2

theorem Frame.sendable_of_encode {bytes : List UInt8} {f : Frame} (h : f.encode = some bytes) : f.Sendable :=
  sendable_of_decode (Frame.decode_of_encode h)

theorem Frame.statusResponse_sendable (f : Frame) (status : TransferStatus) : (f.statusResponse status).Sendable := by
  unfold Sendable
  exact (by decide : 0 < 2 ^ 32)

theorem Frame.controlResponse_sendable (f : Frame) (status : Int32) {data : List UInt8} (h : data.length < 2 ^ 16) :
    (f.controlResponse status data).Sendable := by
  unfold Sendable controlResponse
  dsimp only
  cases UsbControlTransfer.decode f.payload with
  | error e =>
    dsimp only
    omega
  | ok control =>
    dsimp only
    rw [UsbControlTransfer.encode, List.length_append, UsbControlSetup.encode_length, UsbControlSetup.len]
    dsimp only
    omega

theorem handleControlRequest_sendable (frame : Frame) (descriptors : Option UsbDescriptorSet) (keycodes : List UInt8)
    (st : ControlState) : (handleControlRequest frame descriptors keycodes st).1.response.Sendable := by
  have hnone : ∀ status, (frame.controlResponse status []).Sendable := fun status =>
    frame.controlResponse_sendable status (by decide)
  cases hdecode : UsbControlTransfer.decode frame.payload with
  | error e =>
    rw [handleControlRequest_malformed hdecode]
    exact hnone _
  | ok control =>
    have hhandled := @handleControlRequest_handled frame descriptors keycodes st control hdecode
    generalize handleControlRequest frame descriptors keycodes st = handled at hhandled
    cases hhandled with
    | getDescriptor hreq hset htype hbytes =>
      refine frame.controlResponse_sendable _ (Nat.lt_of_le_of_lt (List.length_take_le _ _) ?_)
      exact control.setup.length.toNat_lt
    | _ => exact hnone _

theorem mockTransferOutcomeResponse_sendable {frame response : Frame} {outcomes : List MockTransferOutcomeRule}
    (h : mockTransferOutcomeResponse frame outcomes = some response) : response.Sendable := by
  obtain ⟨rule, -, rfl⟩ := Option.map_eq_some_iff.mp h
  cases rule.outcome with
  | status status => exact frame.statusResponse_sendable status
  | shortPacket len =>
    have hlen : (mockResponseText.take len).length ≤ mockResponseText.length := List.length_take_le' _ _
    exact Nat.lt_of_le_of_lt hlen (by decide)

theorem attachResponse_sendable (frame : Frame) (status : Int32) (attachDevice : Option DeviceAttachRequest)
    {response : Frame}
    (h : frame.attachResponseWithDescriptors status (descriptorSetForAttach attachDevice) = .ok response) :
    response.Sendable := by
  obtain ⟨bytes, hbytes⟩ := attachDescriptors_encode frame status attachDevice
  rw [attachResponseWithDescriptors_eq] at h
  obtain rfl := Except.ok.inj h
  exact Frame.sendable_of_encode hbytes

theorem outboundNetworkFrame_sendable {frame : Frame} (h : frame.Sendable) :
    ∃ bytes, (outboundNetworkFrame frame).bind Frame.encode = some bytes := by
  unfold outboundNetworkFrame
  by_cases hrequest : frame.frameType = .request
  · rw [if_pos hrequest]
    cases hdecode : MockBulkPayload.decode frame.payload with
    | error e =>
      have hlen : mockResponseText.length < 2 ^ 32 := by decide
      exact Frame.encode_ok (f := frame.mockResponse mockResponseText) hlen
    | ok payload =>
      have hencode := MockBulkPayload.encode_of_decode hdecode
      have hlen := MockBulkPayload.encode_length hencode
      have hframe := (MockBulkPayload.decode_fields hdecode).2.2.1
      have hdata := (MockBulkPayload.decode_fields hdecode).2.2.2.2
      dsimp only
      rw [hencode, Option.map_some, Option.bind_some]
      refine Frame.encode_ok ?_
      unfold Frame.Sendable at h
      change (zeroed frame.payload 5 8).length < 2 ^ 32
      rw [hlen, hdata, List.length_drop]
      omega
  · rw [if_neg hrequest]
    exact h.encode

namespace NetworkSession

section
variable {cfg : SessionConfig} {s s' : NetworkSession} {a : SessionAct}

theorem handleFrame_sendable (h : EndpointTransferQueues.Drained s.queues) (hmain : s.main = .select) (driverOk : Bool)
    (frame : Frame) : ∀ f ∈ (s.handleFrame cfg driverOk frame).main.pending, f.Sendable := by
  have hnone : ∀ {f : Frame}, f.payload = [] → f.Sendable := by
    intro f hf
    unfold Frame.Sendable
    rw [hf]
    exact (by decide : 0 < 2 ^ 32)
  unfold handleFrame
  cases frame.frameType with
  | attachRequest =>
    dsimp only
    unfold handleAttachRequest
    dsimp only
    intro f hf
    split at hf
    · rw [List.mem_singleton.mp hf]
      split
      · rename_i response hresponse
        exact attachResponse_sendable frame _ cfg.attachDevice hresponse
      · exact hnone rfl
    · rw [List.mem_singleton.mp hf]
      exact hnone rfl
  | detachRequest =>
    intro f hf
    rw [List.mem_singleton.mp hf]
    exact hnone rfl
  | cancelRequest =>
    intro f hf
    dsimp only [reply] at hf
    rw [handleCancelRequest_drained h] at hf
    rw [List.mem_singleton.mp hf]
    exact hnone rfl
  | resetRequest =>
    intro f hf
    dsimp only [sendEach] at hf
    obtain ⟨⟨status, hresponses⟩, -⟩ := handleResetRequest_drained h frame s.lifecycle.state
    rw [hresponses] at hf
    rw [List.mem_singleton.mp hf]
    exact hnone rfl
  | request =>
    dsimp only
    unfold handleDataRequest
    intro f hf
    split at hf
    · rw [List.mem_singleton.mp hf]
      exact frame.statusResponse_sendable .failed
    · split at hf
      · obtain rfl | hevent := List.mem_cons.mp hf
        · exact handleControlRequest_sendable frame _ _ _
        · obtain hnil | hevents := handleControlRequest_events frame s.activeDescriptors cfg.mockHidKeycodes s.control
          · rw [hnil] at hevent
            cases hevent
          · rw [hevents] at hevent
            obtain ⟨report, rfl⟩ := mem_mockHidKeyboardEvents hevent
            have hlen : (Frame.hidKeyboardInputEvent 0 report).payload.length = 8 := report.encode_length
            unfold Frame.Sendable
            rw [hlen]
            decide
      · split at hf
        · rename_i response hresponse
          rw [List.mem_singleton.mp hf]
          exact mockTransferOutcomeResponse_sendable hresponse
        · split at hf
          · dsimp only at hf
            rw [hmain] at hf
            cases hf
          · cases hf
  | _ =>
    intro f hf
    dsimp only at hf
    rw [hmain] at hf
    cases hf

/-! ## Every step -/

/-- Neither party has panicked: the frames at hand can be sent, and the worker ends when it is told to. -/
structure Unpanicked (s : NetworkSession) : Prop where
  booked : ∃ queued answered, s.Booked queued answered
  main : s.main ≠ .panicked
  sendable : AllSent Frame.Sendable s
  requests : ∀ f ∈ s.events SessionEvent.request, f.Sendable
  ended : s.worker = .ended → s.txCancelled = true
  finished : s.main = .finished → s.worker = .ended

theorem new_unpanicked : Unpanicked new where
  booked := ⟨[], [], new_booked⟩
  main := fun h => nomatch h
  sendable := ⟨fun _ hf => (nomatch hf), fun _ _ _ hf => (nomatch hf)⟩
  requests := fun _ hf => nomatch hf
  ended := fun h => nomatch h
  finished := fun h => nomatch h

theorem step_requests_sendable (h : ∀ f ∈ s.events SessionEvent.request, f.Sendable) (hstep : step cfg s a = some s') :
    ∀ f ∈ s'.events SessionEvent.request, f.Sendable := by
  obtain hsame | ⟨event, hgrown, hreceived⟩ := step_trace hstep
  · rw [events_of_trace hsame]
    exact h
  · intro f hf
    rw [events_of_event hgrown] at hf
    obtain hold | hnew := List.mem_append.mp hf
    · exact h f hold
    · cases event with
      | received g =>
        obtain ⟨bytes, driverOk, -, -, hdecode⟩ := hreceived g rfl
        rw [SessionEvent.request, Option.mem_toList, Option.ite_none_right_eq_some, Option.some.injEq] at hnew
        exact hnew.2 ▸ Frame.sendable_of_decode hdecode
      | _ => cases hnew

theorem afterSend_unpanicked (onError : OnError) (rest : List Frame) (thenBreak ok : Bool) :
    MainPc.afterSend onError rest thenBreak ok ≠ .panicked ∧
      MainPc.afterSend onError rest thenBreak ok ≠ .finished := by
  cases thenBreak <;> cases ok <;> cases onError <;> cases rest <;> exact ⟨nofun, nofun⟩

theorem ne_of_inLoop {main : MainPc} (h : main.inLoop = true) : main ≠ .panicked ∧ main ≠ .finished := by
  constructor
  · intro hmain
    rw [hmain] at h
    cases h
  · intro hmain
    rw [hmain] at h
    cases h

theorem Unpanicked.popNext (h : Unpanicked s) {transfer : QueuedTransfer} {queues : EndpointTransferQueues}
    (hpop : s.queues.popNext = (some transfer, queues)) : transfer.frame.Sendable := by
  obtain ⟨queued, answered, hbooked⟩ := h.booked
  obtain ⟨rfl, -⟩ := hbooked.popNext hpop
  have hmem : transfer.frame ∈ answered ++ (s.events SessionEvent.pushed ++ [transfer.frame]) := by simp
  exact h.requests _ (hbooked.once.subset hmem)

theorem step_unpanicked (h : Unpanicked s) (hpolled : a.PollsDecoded) (hstep : step cfg s a = some s') :
    Unpanicked s' := by
  obtain ⟨queued, answered, hbooked⟩ := h.booked
  have hbooked' := step_booked hbooked hstep
  have hsendable : AllSent Frame.Sendable s' := by
    refine step_allSent hbooked ?_ (fun frame => frame.statusResponse_sendable .failed) h.sendable hstep
    intro driverOk frame hdrained hmain
    exact handleFrame_sendable (s := s.record (.received frame)) hdrained hmain driverOk frame
  have hrequests := step_requests_sendable h.requests hstep
  cases step_stepped hstep with
  | receive hmain hdecode =>
    rename_i bytes frame driverOk
    obtain ⟨hworker, -, hcancelled, -⟩ :=
      @handleFrame_sameWorker cfg (s.record (.received frame)) driverOk frame
    obtain ⟨hmain', hfinished⟩ :=
      ne_of_inLoop (@handleFrame_inLoop cfg (s.record (.received frame)) hmain driverOk frame)
    refine ⟨hbooked', hmain', hsendable, hrequests, fun hended => ?_, fun hend => absurd hend hfinished⟩
    exact hcancelled.trans (h.ended (hworker.symm.trans hended))
  | malformed hmain hdecode => exact h
  | sendPanics hmain hencode =>
    have hpending := h.sendable.pending
    rw [hmain] at hpending
    obtain ⟨bytes, hbytes⟩ := (hpending _ List.mem_cons_self).encode
    rw [hencode] at hbytes
    cases hbytes
  | pushRxPanics hmain hpop hencode =>
    obtain ⟨bytes, hbytes⟩ := (h.popNext hpop).encode
    rw [hencode] at hbytes
    cases hbytes
  | pollPanics hworker hout =>
    obtain ⟨bytes, hdecode⟩ := hpolled _ rfl
    obtain ⟨out, hsome⟩ := outboundNetworkFrame_sendable (Frame.sendable_of_decode hdecode)
    rw [hout] at hsome
    cases hsome
  | send hmain hencode =>
    obtain ⟨hmain', hfinished⟩ := afterSend_unpanicked _ _ _ _
    exact ⟨hbooked', hmain', hsendable, hrequests, h.ended, fun hend => absurd hend hfinished⟩
  | forward hmain =>
    rename_i bytes ok
    cases ok with
    | true => exact ⟨hbooked', nofun, hsendable, hrequests, h.ended, nofun⟩
    | false => exact ⟨hbooked', nofun, hsendable, hrequests, h.ended, nofun⟩
  | flushed hmain hpop =>
    rename_i failed queues
    obtain ⟨hmain', hfinished⟩ := ne_of_inLoop (sendingEach_inLoop failed)
    exact ⟨hbooked', hmain', hsendable, hrequests, h.ended, fun hend => absurd hend hfinished⟩
  | pushRx hmain hpop hencode =>
    rename_i failed transfer queues bytes ok
    cases ok with
    | true => exact ⟨hbooked', nofun, hsendable, hrequests, h.ended, nofun⟩
    | false => exact ⟨hbooked', nofun, hsendable, hrequests, h.ended, nofun⟩
  | cancelWorker hmain => exact ⟨hbooked', nofun, hsendable, hrequests, fun _ => rfl, nofun⟩
  | join hmain hworker => exact ⟨hbooked', nofun, hsendable, hrequests, h.ended, fun _ => hworker⟩
  | endOfStream hmain => exact ⟨hbooked', nofun, hsendable, hrequests, h.ended, nofun⟩
  | receiveTx hmain hchannel => exact ⟨hbooked', nofun, hsendable, hrequests, h.ended, nofun⟩
  | pumpOnce hmain => exact ⟨hbooked', nofun, hsendable, hrequests, h.ended, nofun⟩
  | cleanup hmain => exact ⟨hbooked', nofun, hsendable, hrequests, h.ended, nofun⟩
  | checkCancelled hworker =>
    refine ⟨hbooked', h.main, hsendable, hrequests, fun hended => ?_, fun hend => ?_⟩
    · dsimp only at hended
      by_cases hcancelled : s.txCancelled = true
      · exact hcancelled
      · rw [if_neg hcancelled] at hended
        cases hended
    · exact nomatch hworker.symm.trans (h.finished hend)
  | pollFrame hworker hout =>
    exact ⟨hbooked', h.main, hsendable, hrequests, nofun, fun hend => nomatch hworker.symm.trans (h.finished hend)⟩
  | pollNone hworker =>
    exact ⟨hbooked', h.main, hsendable, hrequests, nofun, fun hend => nomatch hworker.symm.trans (h.finished hend)⟩
  | pollError hworker =>
    exact ⟨hbooked', h.main, hsendable, hrequests, nofun, fun hend => nomatch hworker.symm.trans (h.finished hend)⟩
  | blockingSend hworker halive hroom =>
    exact ⟨hbooked', h.main, hsendable, hrequests, nofun, fun hend => nomatch hworker.symm.trans (h.finished hend)⟩
  | waitForTxFrame hworker =>
    exact ⟨hbooked', h.main, hsendable, hrequests, nofun, fun hend => nomatch hworker.symm.trans (h.finished hend)⟩
  | blockingSendClosed hworker hclosed =>
    -- the receiver is dropped by a main loop that panicked, or that has joined the worker
    unfold receiverAlive at hclosed
    cases hmain : s.main with
    | finished => exact nomatch hworker.symm.trans (h.finished hmain)
    | panicked => exact absurd hmain h.main
    | _ =>
      rw [hmain] at hclosed
      cases hclosed

end

/-- In every run, whatever is received and whichever calls and sends fail, as long as the driver's frames were decoded:
the main loop does not panic, and the worker does not end before it is cancelled. -/
theorem never_panics (cfg : SessionConfig) (acts : List SessionAct) (s : NetworkSession)
    (hpolled : ∀ a ∈ acts, a.PollsDecoded) (h : run (step cfg) new acts = some s) :
    s.main ≠ .panicked ∧ (s.worker = .ended → s.txCancelled = true) := by
  have hsteps : ∀ s a s', Unpanicked s → a.PollsDecoded → step cfg s a = some s' → Unpanicked s' :=
    fun s a s' hs hpolls hstep => step_unpanicked hs hpolls hstep
  have hinv : Unpanicked s := run_invariant_along hsteps new_unpanicked (along_of_forall new hpolled) h
  exact ⟨hinv.main, hinv.ended⟩

/-- A transfer on its way through a driver that hands back what it was pushed. -/
def polledRun : List SessionAct :=
  [.receive ((Frame.attachRequest 1).encode.getD []) true, .send true,
    .receive ((Frame.mockRequest 7 [1, 2]).encode.getD []) true, .pushRx true, .pumpOnce true, .flushed,
    .checkCancelled, .pollTx (.ok (some (Frame.mockRequest 7 [1, 2]))), .blockingSend, .receiveTx, .send true]

theorem never_panics_polled : ∃ s, run (step ⟨none, [4], []⟩) new polledRun = some s ∧
    (s.events SessionEvent.forwardedBytes).length = 1 ∧ s.main ≠ .panicked ∧
    (s.worker = .ended → s.txCancelled = true) := by
  have hrun : (run (step ⟨none, [4], []⟩) new polledRun).map
      (fun s => (s.events SessionEvent.forwardedBytes).length) = some 1 := by decide +kernel
  obtain ⟨s, hs, hlength⟩ := Option.map_eq_some_iff.mp hrun
  refine ⟨s, hs, hlength, never_panics _ polledRun s ?_ hs⟩
  intro a ha frame hpoll
  subst hpoll
  have hframe : frame = Frame.mockRequest 7 [1, 2] := by
    simpa [polledRun] using ha
  obtain ⟨bytes, hbytes⟩ := Frame.encode_ok (f := Frame.mockRequest 7 [1, 2]) (by decide)
  exact ⟨bytes, hframe ▸ Frame.decode_of_encode hbytes⟩

end NetworkSession

end WhyUsb
