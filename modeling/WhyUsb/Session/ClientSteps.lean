import WhyUsb.Session.ClientRun
import WhyUsb.Session.Composition

/-!
# What a step of the client can do

The outcomes of each of its steps, for any bytes that are received: which of
them count a response, which keep the request ids, and what a send leaves.
-/

namespace WhyUsb

/-- The frame that is about to be sent, if it came from the channel. -/
def ClientPc.held : ClientPc → List Frame
  | sendFrame frame => [frame]
  | _ => []

namespace ClientSession

/-- The ids stay, and no frame is added to those that wait. -/
structure Keeps (s s' : ClientSession) : Prop where
  nextRequestId : s'.nextRequestId = s.nextRequestId
  sentFrames : s'.sentFrames = s.sentFrames
  detachSent : s'.detachSent = s.detachSent
  waiting : ∀ f ∈ s'.channel ++ s'.main.held, f ∈ s.channel ++ s.main.held

def Counts (cfg : ClientConfig) (s : ClientSession) (a : ClientAct) : Prop :=
  match s.main, a with
  | .select, .receive bytes => ∃ frame, Frame.decode bytes = .ok frame ∧
      (frame.frameType = .response ∧ frame.status ≠ 0 ∨ frame.frameType = .cancelResponse)
  | .inject _, .injectUrb => cfg.vhciBackend = .mock ∧ s.urbs.length < clientChannelCapacity
  | _, _ => False

/-- The response that the control request waits for, with what is checked of it. -/
def Accepts (step : EnumerationStep) (requestId : UInt64) (bytes : List UInt8) (s : ClientSession) : Prop :=
  ∃ response control, Frame.decode bytes = .ok response ∧
    (response.requestId = requestId ∧ response.frameType = .response) ∧ response.status = 0 ∧
      UsbControlTransfer.decode response.payload = .ok control ∧ step.accepts s.descriptors control = true

section
variable {cfg : ClientConfig} {s s' : ClientSession}

/-! ## What a received frame can do -/

theorem waitForLifecycleResponse_cases (s : ClientSession) (bytes : List UInt8) :
    s.waitForLifecycleResponse bytes = s.fail ∨
      (∃ ignored, s.waitForLifecycleResponse bytes = { s with ignored := ignored }) ∨
        ∃ descriptors, s.waitForLifecycleResponse bytes =
          { s with descriptors := descriptors, main := .sendControl .deviceDescriptor } := by
  unfold waitForLifecycleResponse
  cases Frame.decode bytes with
  | error e => exact Or.inl rfl
  | ok frame =>
    dsimp only
    by_cases htype : frame.frameType ≠ .attachResponse
    · rw [if_pos htype]
      exact Or.inr (Or.inl ⟨_, rfl⟩)
    · rw [if_neg htype]
      by_cases hstatus : frame.status ≠ 0
      · rw [if_pos hstatus]
        exact Or.inl rfl
      · rw [if_neg hstatus]
        by_cases hpayload : frame.payload = []
        · rw [if_pos hpayload]
          exact Or.inr (Or.inr ⟨_, rfl⟩)
        · rw [if_neg hpayload]
          cases UsbDescriptorSet.decode frame.payload with
          | error e => exact Or.inl rfl
          | ok descriptors => exact Or.inr (Or.inr ⟨_, rfl⟩)

theorem waitForControlResponse_cases (s : ClientSession) (step : EnumerationStep) (requestId : UInt64)
    (bytes : List UInt8) : s.waitForControlResponse step requestId bytes = s.fail ∨
      (∃ ignored, s.waitForControlResponse step requestId bytes = { s with ignored := ignored }) ∨
        s.Accepts step requestId bytes ∧
          ∃ answered, s.waitForControlResponse step requestId bytes =
            { s with answered := answered }.enumerated step := by
  unfold waitForControlResponse Accepts
  cases Frame.decode bytes with
  | error e => exact Or.inl rfl
  | ok response =>
    dsimp only
    by_cases hunrelated : response.requestId ≠ requestId ∨ response.frameType ≠ .response
    · rw [if_pos hunrelated]
      exact Or.inr (Or.inl ⟨_, rfl⟩)
    · rw [if_neg hunrelated]
      by_cases hstatus : response.status ≠ 0
      · rw [if_pos hstatus]
        exact Or.inl rfl
      · rw [if_neg hstatus]
        cases hcontrol : UsbControlTransfer.decode response.payload with
        | error e => exact Or.inl rfl
        | ok control =>
          dsimp only
          by_cases haccepts : step.accepts s.descriptors control = true
          · rw [if_pos haccepts]
            rw [not_or, not_not, not_not] at hunrelated
            exact Or.inr (Or.inr ⟨⟨response, control, rfl, hunrelated, not_not.mp hstatus, hcontrol, haccepts⟩, _, rfl⟩)
          · rw [if_neg haccepts]
            exact Or.inl rfl

theorem waitForControlResponse_accepted {step : EnumerationStep} {requestId : UInt64} {bytes : List UInt8}
    (h : s.Accepts step requestId bytes) :
    ∃ answered, s.waitForControlResponse step requestId bytes = { s with answered := answered }.enumerated step := by
  obtain ⟨response, control, hdecode, hrelated, hstatus, hcontrol, haccepts⟩ := h
  unfold waitForControlResponse
  rw [hdecode]
  dsimp only
  rw [if_neg (by simp [hrelated]), if_neg (not_not.mpr hstatus), hcontrol]
  dsimp only
  rw [if_pos haccepts]
  exact ⟨_, rfl⟩

theorem counts_receive_iff (hmain : s.main = .select) (bytes : List UInt8) : s.Counts cfg (.receive bytes) ↔
    ∃ frame, Frame.decode bytes = .ok frame ∧
      (frame.frameType = .response ∧ frame.status ≠ 0 ∨ frame.frameType = .cancelResponse) := by
  unfold Counts
  rw [hmain]

/-- A frame is counted, injected, ends the session, or changes nothing but the reports. -/
theorem handleNetworkFrame_cases (cfg : ClientConfig) (hmain : s.main = .select) (bytes : List UInt8) :
    (s.Counts cfg (.receive bytes) ∧ s.handleNetworkFrame cfg bytes = s.dataResponse cfg) ∨
      ¬ s.Counts cfg (.receive bytes) ∧
        ((∃ payload, s.handleNetworkFrame cfg bytes = { s with main := .inject payload }) ∨
          s.handleNetworkFrame cfg bytes = s.close ∨
            ∃ reports, s.handleNetworkFrame cfg bytes = { s with reports := reports }) := by
  rw [counts_receive_iff hmain]
  unfold handleNetworkFrame
  cases hdecode : Frame.decode bytes with
  | error e => exact Or.inr ⟨nofun, Or.inr (Or.inr ⟨_, rfl⟩)⟩
  | ok frame =>
    dsimp only
    cases htype : frame.frameType with
    | response =>
      by_cases hstatus : frame.status ≠ 0
      · exact Or.inl ⟨⟨frame, rfl, Or.inl ⟨htype, hstatus⟩⟩, if_pos hstatus⟩
      · refine Or.inr ⟨?_, Or.inl ⟨frame.payload, if_neg hstatus⟩⟩
        intro hcounted
        obtain ⟨f, hf, hcounts⟩ := hcounted
        cases hf
        simp [htype, hstatus] at hcounts
    | cancelResponse => exact Or.inl ⟨⟨frame, rfl, Or.inr htype⟩, rfl⟩
    | detachResponse =>
      refine Or.inr ⟨?_, Or.inr ?_⟩
      · intro hcounted
        obtain ⟨f, hf, hcounts⟩ := hcounted
        cases hf
        simp [htype] at hcounts
      · by_cases hstatus : frame.status ≠ 0
        · exact Or.inr ⟨_, if_pos hstatus⟩
        · exact Or.inl (if_neg hstatus)
    | event =>
      refine Or.inr ⟨?_, Or.inr (Or.inr ?_)⟩
      · intro hcounted
        obtain ⟨f, hf, hcounts⟩ := hcounted
        cases hf
        simp [htype] at hcounts
      · dsimp only
        by_cases hkeyboard : frame.transferType = .interrupt ∧ frame.endpoint = 0x81
        · rw [if_pos hkeyboard]
          cases HidKeyboardInputReport.decode frame.payload with
          | error e => exact ⟨_, rfl⟩
          | ok report => exact ⟨_, rfl⟩
        · rw [if_neg hkeyboard]
          exact ⟨_, rfl⟩
    | _ =>
      refine Or.inr ⟨?_, Or.inr (Or.inr ⟨_, rfl⟩)⟩
      intro hcounted
      obtain ⟨f, hf, hcounts⟩ := hcounted
      cases hf
      simp [htype] at hcounts

/-! ## What a step can do -/

theorem receive_cases {bytes : List UInt8} (hstep : s.receive cfg bytes = some s') :
    (s.main = .awaitAttach ∧ s' = s.waitForLifecycleResponse bytes) ∨
      (∃ step requestId, s.main = .awaitControl step requestId ∧
        s' = s.waitForControlResponse step requestId bytes) ∨
        s.main = .select ∧ s' = s.handleNetworkFrame cfg bytes := by
  unfold receive at hstep
  cases hmain : s.main with
  | awaitAttach =>
    rw [hmain, Option.some.injEq] at hstep
    exact Or.inl ⟨rfl, hstep.symm⟩
  | awaitControl step requestId =>
    rw [hmain, Option.some.injEq] at hstep
    exact Or.inr (Or.inl ⟨step, requestId, rfl, hstep.symm⟩)
  | select =>
    rw [hmain, Option.some.injEq] at hstep
    exact Or.inr (Or.inr ⟨rfl, hstep.symm⟩)
  | _ =>
    rw [hmain] at hstep
    cases hstep

theorem endOfStream_cases (hstep : s.endOfStream = some s') : s' = s.fail ∨ s' = s.close := by
  unfold endOfStream at hstep
  cases hmain : s.main with
  | awaitAttach | awaitControl =>
    rw [hmain, Option.some.injEq] at hstep
    exact Or.inl hstep.symm
  | select =>
    rw [hmain, Option.some.injEq] at hstep
    exact Or.inr hstep.symm
  | _ =>
    rw [hmain] at hstep
    cases hstep

theorem injectUrb_cases (hstep : s.injectUrb cfg = some s') : (∃ payload, s.main = .inject payload) ∧
    (s' = { s with main := .select } ∨
      s.Counts cfg .injectUrb ∧ ∃ urbs, s' = { s with urbs := urbs }.dataResponse cfg) := by
  unfold injectUrb at hstep
  cases hmain : s.main with
  | inject payload =>
    rw [hmain] at hstep
    dsimp only at hstep
    refine ⟨⟨payload, rfl⟩, ?_⟩
    cases hbackend : cfg.vhciBackend with
    | linux =>
      rw [hbackend, Option.some.injEq] at hstep
      exact Or.inl hstep.symm
    | mock =>
      rw [hbackend] at hstep
      dsimp only at hstep
      by_cases hroom : s.urbs.length < clientChannelCapacity
      · rw [if_pos hroom, Option.some.injEq] at hstep
        have hcounts : s.Counts cfg .injectUrb := by
          unfold Counts
          rw [hmain]
          exact ⟨hbackend, hroom⟩
        exact Or.inr ⟨hcounts, s.urbs ++ [payload], hstep.symm⟩
      · rw [if_neg hroom] at hstep
        cases hstep
  | _ =>
    rw [hmain] at hstep
    cases hstep

theorem receiveUrb_cases (hstep : s.receiveUrb = some s') : s.main = .select ∧ ∃ urbs, s' = { s with urbs := urbs } := by
  unfold receiveUrb at hstep
  cases hmain : s.main with
  | select =>
    cases hurbs : s.urbs with
    | nil =>
      rw [hmain, hurbs] at hstep
      cases hstep
    | cons urb urbs =>
      rw [hmain, hurbs, Option.some.injEq] at hstep
      exact ⟨rfl, urbs, hstep.symm⟩
  | _ =>
    rw [hmain] at hstep
    cases hstep

theorem counts_step {a : ClientAct} (hcounts : s.Counts cfg a) :
    ∃ main urbs, s.step cfg a = some ({ s with main := main, urbs := urbs }.dataResponse cfg) := by
  unfold Counts at hcounts
  cases hmain : s.main with
  | select =>
    cases a with
    | receive bytes =>
      obtain ⟨-, hcounted⟩ | ⟨hnot, -⟩ := handleNetworkFrame_cases cfg hmain bytes
      · have hstep : s.step cfg (.receive bytes) = some (s.dataResponse cfg) := by
          simp only [step, receive, hmain, hcounted]
        exact ⟨s.main, s.urbs, hstep⟩
      · rw [hmain] at hcounts
        exact absurd ((counts_receive_iff hmain bytes).mpr hcounts) hnot
    | _ =>
      rw [hmain] at hcounts
      exact hcounts.elim
  | inject payload =>
    cases a with
    | injectUrb =>
      rw [hmain] at hcounts
      refine ⟨s.main, s.urbs ++ [payload], ?_⟩
      simp only [step, injectUrb, hmain, hcounts.1, hcounts.2, if_true]
    | _ =>
      rw [hmain] at hcounts
      exact hcounts.elim
  | _ =>
    rw [hmain] at hcounts
    exact hcounts.elim

theorem receiveTx_cases (hstep : s.receiveTx = some s') : s.main = .select ∧ ∃ frame channel,
    s.channel = frame :: channel ∧ s' = { s with channel := channel, main := .sendFrame frame } := by
  unfold receiveTx at hstep
  cases hmain : s.main with
  | select =>
    cases hchannel : s.channel with
    | nil =>
      rw [hmain, hchannel] at hstep
      cases hstep
    | cons frame channel =>
      rw [hmain, hchannel, Option.some.injEq] at hstep
      exact ⟨rfl, frame, channel, rfl, hstep.symm⟩
  | _ =>
    rw [hmain] at hstep
    cases hstep

/-! ## The task -/

theorem mockFrame_request {requestId : UInt64} {frame : Frame} (h : mockFrame cfg requestId = some frame) :
    frame.requestId = requestId ∧ frame.frameType = .request ∧ frame.transferType = .bulk := by
  unfold mockFrame at h
  cases hlen : cfg.mockBulkPayloadLen with
  | none =>
    rw [hlen, Option.some.injEq] at h
    exact h ▸ ⟨rfl, rfl, rfl⟩
  | some payloadLen =>
    rw [hlen] at h
    obtain ⟨payload, -, rfl⟩ := Option.map_eq_some_iff.mp h
    exact ⟨rfl, rfl, rfl⟩

/-- The task runs in the main loop. It ends, or queues a request below its limit. -/
theorem mockLocalUsb_cases (hstep : s.mockLocalUsb cfg = some s') : s.state = .attached ∧
    (s' = { s with taskEnded := true } ∨
      (∀ limit, cfg.mockFrameLimit = some limit → s.sentFrames < limit) ∧
        ∃ frame, mockFrame cfg s.requestId = some frame ∧ s' = { s with
          requestId := s.requestId + 1
          sentFrames := s.sentFrames + 1
          channel := s.channel ++ [frame] }) := by
  unfold mockLocalUsb at hstep
  by_cases hruns : s.state ≠ .attached ∨ s.taskEnded = true
  · rw [if_pos hruns] at hstep
    cases hstep
  · rw [if_neg hruns] at hstep
    refine ⟨not_not.mp fun hstate => hruns (Or.inl hstate), ?_⟩
    by_cases hlimit : (cfg.mockFrameLimit.any fun limit => limit ≤ s.sentFrames) = true
    · rw [if_pos hlimit, Option.some.injEq] at hstep
      exact Or.inl hstep.symm
    · rw [if_neg hlimit] at hstep
      by_cases hroom : s.channel.length < clientChannelCapacity
      · rw [if_pos hroom] at hstep
        cases hframe : mockFrame cfg s.requestId with
        | none =>
          rw [hframe, Option.some.injEq] at hstep
          exact Or.inl hstep.symm
        | some frame =>
          rw [hframe, Option.some.injEq] at hstep
          refine Or.inr ⟨fun limit hcfg => ?_, frame, rfl, hstep.symm⟩
          rw [hcfg] at hlimit
          exact UInt64.not_le.mp (by simpa using hlimit)
      · rw [if_neg hroom] at hstep
        cases hstep

/-! ## What a step keeps -/

theorem Keeps.of_held (hchannel : s'.channel = s.channel) (hnext : s'.nextRequestId = s.nextRequestId)
    (hsent : s'.sentFrames = s.sentFrames) (hdetach : s'.detachSent = s.detachSent) (hheld : s'.main.held = []) :
    s.Keeps s' := by
  refine ⟨hnext, hsent, hdetach, fun f hf => ?_⟩
  rw [hchannel, hheld, List.append_nil] at hf
  exact List.mem_append_left _ hf

theorem dataResponse_keeps (cfg : ClientConfig) (s : ClientSession) (main : ClientPc) (urbs : List (List UInt8)) :
    s.Keeps ({ s with main, urbs }.dataResponse cfg) := by
  unfold dataResponse
  by_cases hreached : s.detachSent = false ∧ cfg.mockFrameLimit = some (s.dataResponses + 1)
  · rw [if_pos hreached]
    exact .of_held rfl rfl rfl rfl rfl
  · rw [if_neg hreached]
    exact .of_held rfl rfl rfl rfl rfl

theorem receive_keeps {bytes : List UInt8} (hstep : s.receive cfg bytes = some s') : s.Keeps s' := by
  obtain ⟨-, rfl⟩ | ⟨step, requestId, -, rfl⟩ | ⟨hmain, rfl⟩ := receive_cases hstep
  · obtain hfail | ⟨ignored, hignored⟩ | ⟨descriptors, haccepted⟩ := s.waitForLifecycleResponse_cases bytes
    · rw [hfail]
      exact .of_held rfl rfl rfl rfl rfl
    · rw [hignored]
      exact ⟨rfl, rfl, rfl, fun _ hf => hf⟩
    · rw [haccepted]
      exact .of_held rfl rfl rfl rfl rfl
  · obtain hfail | ⟨ignored, hignored⟩ | ⟨-, answered, haccepted⟩ :=
      s.waitForControlResponse_cases step requestId bytes
    · rw [hfail]
      exact .of_held rfl rfl rfl rfl rfl
    · rw [hignored]
      exact ⟨rfl, rfl, rfl, fun _ hf => hf⟩
    · rw [haccepted]
      cases step with
      | _ => exact .of_held rfl rfl rfl rfl rfl
  · obtain ⟨-, hcounted⟩ | ⟨-, ⟨payload, hinject⟩ | hclose | ⟨reports, hreports⟩⟩ :=
      handleNetworkFrame_cases cfg hmain bytes
    · rw [hcounted]
      exact dataResponse_keeps cfg s s.main s.urbs
    · rw [hinject]
      exact .of_held rfl rfl rfl rfl rfl
    · rw [hclose]
      exact .of_held rfl rfl rfl rfl rfl
    · rw [hreports]
      exact ⟨rfl, rfl, rfl, fun _ hf => hf⟩

theorem endOfStream_keeps (hstep : s.endOfStream = some s') : s.Keeps s' := by
  obtain rfl | rfl := endOfStream_cases hstep
  · exact .of_held rfl rfl rfl rfl rfl
  · exact .of_held rfl rfl rfl rfl rfl

theorem injectUrb_keeps (hstep : s.injectUrb cfg = some s') : s.Keeps s' := by
  obtain ⟨-, rfl | ⟨-, urbs, rfl⟩⟩ := injectUrb_cases hstep
  · exact .of_held rfl rfl rfl rfl rfl
  · exact dataResponse_keeps cfg s s.main urbs

theorem receiveUrb_keeps (hstep : s.receiveUrb = some s') : s.Keeps s' := by
  obtain ⟨-, urbs, rfl⟩ := receiveUrb_cases hstep
  exact ⟨rfl, rfl, rfl, fun _ hf => hf⟩

theorem receiveTx_keeps (hstep : s.receiveTx = some s') : s.Keeps s' := by
  obtain ⟨-, frame, channel, hchannel, rfl⟩ := receiveTx_cases hstep
  refine ⟨rfl, rfl, rfl, fun f hf => List.mem_append_left _ ?_⟩
  rw [hchannel, List.mem_cons]
  obtain hwaits | hheld := List.mem_append.mp hf
  · exact Or.inr hwaits
  · exact Or.inl (List.mem_singleton.mp hheld)

theorem step_keeps {a : ClientAct} (hstep : s.step cfg a = some s') :
    s.Keeps s' ∨ s.mockLocalUsb cfg = some s' := by
  cases a with
  | send ok => cases hstep
  | receive bytes => exact Or.inl (receive_keeps hstep)
  | endOfStream => exact Or.inl (endOfStream_keeps hstep)
  | mockLocalUsb => exact Or.inr hstep
  | receiveTx => exact Or.inl (receiveTx_keeps hstep)
  | receiveUrb => exact Or.inl (receiveUrb_keeps hstep)
  | injectUrb => exact Or.inl (injectUrb_keeps hstep)

theorem step_gone {a : ClientAct} (hstep : s.step cfg a = some s') (hgone : s'.main.gone = false) :
    s.main.gone = false := by
  cases hmain : s.main with
  | failed | panicked | closed =>
    cases a with
    | mockLocalUsb =>
      have hsame : s'.main = s.main := by
        obtain ⟨-, rfl | ⟨-, frame, -, rfl⟩⟩ := mockLocalUsb_cases hstep
        · rfl
        · rfl
      rw [hsame, hmain] at hgone
      cases hgone
    | _ =>
      simp only [step, receive, endOfStream, receiveTx, receiveUrb, injectUrb, hmain] at hstep
      cases hstep
  | _ => rfl

/-! ## Sending -/

theorem outgoing_cases {frame : Frame} (h : s.outgoing cfg = some (.ok frame)) :
    s.main = .sendAttach ∧ frame = .attachRequest 1 ∨
      (∃ step setup, s.main = .sendControl step ∧ frame = .controlRequest s.nextRequestId setup) ∨
        s.main = .sendFrame frame ∨ s.main = .sendDetach ∧ frame = .detachRequest (s.detachRequestId cfg) := by
  unfold outgoing at h
  cases hmain : s.main with
  | sendAttach =>
    rw [hmain, Option.some.injEq] at h
    exact Or.inl ⟨rfl, (Except.ok.inj h).symm⟩
  | sendControl step =>
    rw [hmain, Option.some.injEq] at h
    cases hsetup : step.setup s.descriptors with
    | error e =>
      rw [hsetup] at h
      cases h
    | ok setup =>
      rw [hsetup] at h
      cases hreadable : setup.readable with
      | error e =>
        simp only [Bind.bind, Except.bind, hreadable] at h
        cases h
      | ok _ =>
        simp only [Bind.bind, Except.bind, hreadable] at h
        exact Or.inr (Or.inl ⟨step, setup, rfl, (Except.ok.inj h).symm⟩)
  | sendFrame frame' =>
    rw [hmain, Option.some.injEq] at h
    obtain rfl := Except.ok.inj h
    exact Or.inr (Or.inr (Or.inl rfl))
  | sendDetach =>
    rw [hmain, Option.some.injEq] at h
    exact Or.inr (Or.inr (Or.inr ⟨rfl, (Except.ok.inj h).symm⟩))
  | _ =>
    rw [hmain] at h
    cases h

theorem send_cases {ok : Bool} {bytes : Option (List UInt8)} (h : s.send cfg ok = some (bytes, s')) :
    (ClientRun.sentFrame cfg s = none ∧ s'.main.gone = true) ∨
      ∃ frame, s.outgoing cfg = some (.ok frame) ∧ ClientRun.sentFrame cfg s = some frame ∧ s' = s.sent ok := by
  unfold send at h
  unfold ClientRun.sentFrame
  cases hout : s.outgoing cfg with
  | none =>
    rw [hout] at h
    cases h
  | some out =>
    rw [hout] at h
    cases out with
    | error e =>
      obtain ⟨-, rfl⟩ := Prod.mk.inj (Option.some.inj h)
      exact Or.inl ⟨rfl, rfl⟩
    | ok frame =>
      dsimp only at h ⊢
      cases hencode : frame.encode with
      | none =>
        rw [hencode] at h
        obtain ⟨-, rfl⟩ := Prod.mk.inj (Option.some.inj h)
        exact Or.inl ⟨rfl, rfl⟩
      | some encoded =>
        rw [hencode] at h
        obtain ⟨-, rfl⟩ := Prod.mk.inj (Option.some.inj h)
        exact Or.inr ⟨frame, rfl, rfl, rfl⟩

theorem sent_gone {frame : Frame} (hout : s.outgoing cfg = some (.ok frame)) : (s.sent false).main.gone = true := by
  unfold sent
  cases hmain : s.main with
  | sendAttach | sendControl | sendFrame | sendDetach => rfl
  | _ =>
    rw [outgoing, hmain] at hout
    cases hout

theorem sent_channel (s : ClientSession) (ok : Bool) : (s.sent ok).channel = s.channel := by
  unfold sent
  cases s.main with
  | _ => cases ok <;> rfl

theorem sent_sentFrames (s : ClientSession) (ok : Bool) : (s.sent ok).sentFrames = s.sentFrames := by
  unfold sent
  cases s.main with
  | _ => cases ok <;> rfl

theorem sent_nextRequestId (ok : Bool) (h : ∀ step, s.main ≠ .sendControl step) :
    (s.sent ok).nextRequestId = s.nextRequestId := by
  unfold sent
  cases hmain : s.main with
  | sendControl step => exact absurd hmain (h step)
  | _ => cases ok <;> rfl

theorem sent_detachSent (ok : Bool) (h : s.main ≠ .sendDetach) : (s.sent ok).detachSent = s.detachSent := by
  unfold sent
  cases hmain : s.main with
  | sendDetach => exact absurd hmain h
  | _ => cases ok <;> rfl

theorem sent_held {frame : Frame} (hout : s.outgoing cfg = some (.ok frame)) : (s.sent true).main.held = [] := by
  unfold sent
  cases hmain : s.main with
  | sendAttach | sendControl | sendFrame | sendDetach => rfl
  | _ =>
    rw [outgoing, hmain] at hout
    cases hout

theorem outgoing_gone {frame : Frame} (hout : s.outgoing cfg = some (.ok frame)) : s.main.gone = false := by
  cases hmain : s.main with
  | failed | panicked | closed =>
    rw [outgoing, hmain] at hout
    cases hout
  | _ => rfl

end

end ClientSession

end WhyUsb
