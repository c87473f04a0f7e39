import WhyUsb.Session.Completion

/-!
# A client that waits for itself

The main loop of the client is the only reader of the channel that `inject_urb`
writes to, and it does not read while it injects. When it injects into a full
channel it waits for good. Any server can lead it there; this daemon cannot while
the frame limit is at most the capacity of the channel.
-/

namespace WhyUsb

open List Lts

namespace ClientSession

/-- `inject_urb` waits for room in the channel. -/
structure Stuck (cfg : ClientConfig) (s : ClientSession) : Prop where
  injecting : ∃ payload, s.main = .inject payload
  backend : cfg.vhciBackend = .mock
  full : clientChannelCapacity ≤ s.urbs.length

section
variable {cfg : ClientConfig} {s s' : ClientSession}

theorem Stuck.injectUrb (h : s.Stuck cfg) : s.injectUrb cfg = none := by
  obtain ⟨payload, hmain⟩ := h.injecting
  unfold ClientSession.injectUrb
  rw [hmain]
  dsimp only
  rw [h.backend]
  exact if_neg (Nat.not_lt.mpr h.full)

theorem Stuck.send (h : s.Stuck cfg) (ok : Bool) : s.send cfg ok = none := by
  obtain ⟨payload, hmain⟩ := h.injecting
  unfold ClientSession.send outgoing
  rw [hmain]

theorem Stuck.step (h : s.Stuck cfg) {a : ClientAct} (hstep : s.step cfg a = some s') :
    a = .mockLocalUsb ∧ s'.Stuck cfg := by
  obtain ⟨payload, hmain⟩ := h.injecting
  cases a with
  | mockLocalUsb =>
    refine ⟨rfl, ?_⟩
    obtain ⟨-, rfl | ⟨-, frame, -, rfl⟩⟩ := mockLocalUsb_cases hstep
    · exact ⟨h.injecting, h.backend, h.full⟩
    · exact ⟨h.injecting, h.backend, h.full⟩
  | injectUrb =>
    rw [ClientSession.step, h.injectUrb] at hstep
    cases hstep
  | _ =>
    simp only [ClientSession.step, receive, endOfStream, receiveTx, receiveUrb, hmain] at hstep
    cases hstep

theorem send_enabled (hout : s.outgoing cfg ≠ none) (ok : Bool) : s.send cfg ok ≠ none := by
  unfold ClientSession.send
  cases hframe : s.outgoing cfg with
  | none => exact absurd hframe hout
  | some out =>
    cases out with
    | error e => nofun
    | ok frame =>
      dsimp only
      cases frame.encode with
      | none => nofun
      | some bytes => nofun

end

end ClientSession

namespace ClientRun

/-- The main loop is there, and whatever arrives it does not go on. -/
def Stopped (cfg : ClientConfig) (s : ClientRun) : Prop :=
  s.session.main.gone = false ∧ ∀ a s', step cfg s a = some s' → a = .mockLocalUsb

section
variable {cfg : ClientConfig} {s s' : ClientRun}

theorem step_stuck {a : ClientAct} (h : s.session.Stuck cfg) (hstep : step cfg s a = some s') :
    a = .mockLocalUsb ∧ s'.session.Stuck cfg ∧ s'.sent = s.sent ∧ s'.bulk = s.bulk := by
  obtain ⟨ok, bytes, -, hsend, -⟩ | ⟨hsession, hsent⟩ := step_session hstep
  · rw [h.send ok] at hsend
    cases hsend
  · obtain ⟨rfl, hstuck⟩ := h.step hsession
    refine ⟨rfl, hstuck, hsent, ?_⟩
    obtain ⟨session, -, rfl⟩ := Option.map_eq_some_iff.mp hstep
    rfl

theorem exists_step {a : ClientAct} {session : ClientSession} (h : s.session.step cfg a = some session) :
    ∃ s', step cfg s a = some s' ∧ s'.session = session := by
  cases a with
  | send ok => cases h
  | receive bytes => exact ⟨_, Option.map_eq_some_iff.mpr ⟨session, h, rfl⟩, rfl⟩
  | receiveTx => exact ⟨_, Option.map_eq_some_iff.mpr ⟨session, h, rfl⟩, rfl⟩
  | _ => exact ⟨_, Option.map_eq_some_iff.mpr ⟨session, h, rfl⟩, rfl⟩

theorem exists_send {ok : Bool} {sent : Option (List UInt8) × ClientSession} (h : s.session.send cfg ok = some sent) :
    ∃ s', step cfg s (.send ok) = some s' ∧ s'.session = sent.2 :=
  ⟨_, Option.map_eq_some_iff.mpr ⟨sent, h, rfl⟩, rfl⟩

theorem stopped_of_stuck (h : s.session.Stuck cfg) : Stopped cfg s := by
  refine ⟨?_, fun a s' hstep => (step_stuck h hstep).1⟩
  obtain ⟨payload, hmain⟩ := h.injecting
  rw [hmain]
  rfl

theorem send_goes_on (hout : s.session.outgoing cfg ≠ none) : ¬ Stopped cfg s := by
  intro h
  obtain ⟨sent, hsent⟩ := Option.ne_none_iff_exists'.mp (ClientSession.send_enabled hout true)
  obtain ⟨s', hstep, -⟩ := exists_send hsent
  exact nomatch h.2 _ _ hstep

theorem receive_goes_on (hreceive : s.session.receive cfg [] ≠ none) : ¬ Stopped cfg s := by
  intro h
  obtain ⟨session, hsession⟩ := Option.ne_none_iff_exists'.mp hreceive
  obtain ⟨s', hstep, -⟩ := exists_step (a := .receive []) hsession
  exact nomatch h.2 _ _ hstep

theorem injectUrb_goes_on {session : ClientSession} (hinject : s.session.injectUrb cfg = some session) :
    ¬ Stopped cfg s := by
  intro h
  obtain ⟨s', hstep, -⟩ := exists_step (a := .injectUrb) hinject
  exact nomatch h.2 _ _ hstep

theorem stopped_iff : Stopped cfg s ↔ s.session.Stuck cfg := by
  refine ⟨fun h => ?_, stopped_of_stuck⟩
  cases hmain : s.session.main with
  | sendAttach | sendControl | sendFrame | sendDetach =>
    refine absurd h (send_goes_on ?_)
    rw [ClientSession.outgoing, hmain]
    intro hnone
    cases hnone
  | awaitAttach | awaitControl | select =>
    refine absurd h (receive_goes_on ?_)
    rw [ClientSession.receive, hmain]
    intro hnone
    cases hnone
  | inject payload =>
    cases hbackend : cfg.vhciBackend with
    | linux =>
      have hinject : s.session.injectUrb cfg = some { s.session with main := .select } := by
        rw [ClientSession.injectUrb, hmain]
        dsimp only
        rw [hbackend]
      exact absurd h (injectUrb_goes_on hinject)
    | mock =>
      refine ⟨⟨payload, hmain⟩, hbackend, Nat.not_lt.mp fun hroom => ?_⟩
      have hinject : s.session.injectUrb cfg =
          some ({ s.session with urbs := s.session.urbs ++ [payload] }.dataResponse cfg) := by
        rw [ClientSession.injectUrb, hmain]
        dsimp only
        rw [hbackend]
        exact if_pos hroom
      exact absurd h (injectUrb_goes_on hinject)
  | failed | panicked | closed =>
    have hlive := h.1
    rw [hmain] at hlive
    cases hlive

/-! ## The way there -/

theorem exists_receive (cfg : ClientConfig) {response : Frame} {bytes : List UInt8} (hmain : s.session.main = .select)
    (hbytes : response.encode = some bytes) (htype : response.frameType = .response) (hstatus : response.status = 0) :
    ∃ s', step cfg s (.receive bytes) = some s' ∧
      s'.session = { s.session with main := .inject response.payload } := by
  refine exists_step ?_
  rw [ClientSession.step, ClientSession.receive, hmain]
  dsimp only
  unfold ClientSession.handleNetworkFrame
  rw [Frame.decode_of_encode hbytes]
  dsimp only
  rw [htype]
  dsimp only
  rw [if_neg (not_not.mpr hstatus)]

theorem exists_select {session : ClientSession} (h : s.session = session.dataResponse cfg) :
    ∃ acts s', run (step cfg) s acts = some s' ∧ s'.session.main = .select ∧ s'.session.urbs = session.urbs := by
  unfold ClientSession.dataResponse at h
  by_cases hreached : session.detachSent = false ∧ cfg.mockFrameLimit = some (session.dataResponses + 1)
  · rw [if_pos hreached] at h
    have hmain : s.session.main = .sendDetach := by rw [h]
    have hout : s.session.outgoing cfg = some (.ok (.detachRequest (s.session.detachRequestId cfg))) := by
      rw [ClientSession.outgoing, hmain]
    obtain ⟨bytes, hbytes⟩ := Frame.encode_ok (f := .detachRequest (s.session.detachRequestId cfg))
      (Nat.two_pow_pos 32)
    have hsend : s.session.send cfg true = some (some bytes, { s.session with main := .select, detachSent := true }) := by
      unfold ClientSession.send
      rw [hout]
      dsimp only
      rw [hbytes]
      dsimp only
      rw [ClientSession.sent, hmain]
      rfl
    obtain ⟨s', hstep, hsession⟩ := exists_send hsend
    refine ⟨[.send true], s', ?_, ?_, ?_⟩
    · rw [run_cons_of_step _ hstep, run_nil]
    · rw [hsession]
    · have hurbs : s'.session.urbs = s.session.urbs := by rw [hsession]
      rw [hurbs, h]
  · rw [if_neg hreached] at h
    refine ⟨[], s, rfl, ?_, ?_⟩
    · rw [h]
    · rw [h]

theorem exists_filled (hmock : cfg.vhciBackend = .mock) (hmain : s.session.main = .select)
    (hroom : s.session.urbs.length < clientChannelCapacity) {response : Frame} {bytes : List UInt8}
    (hbytes : response.encode = some bytes) (htype : response.frameType = .response) (hstatus : response.status = 0) :
    ∃ acts s', run (step cfg) s acts = some s' ∧ s'.session.main = .select ∧
      s'.session.urbs.length = s.session.urbs.length + 1 := by
  obtain ⟨s₁, hreceive, hsession₁⟩ := exists_receive cfg hmain hbytes htype hstatus
  have hinject : s₁.session.step cfg .injectUrb =
      some ({ s₁.session with urbs := s₁.session.urbs ++ [response.payload] }.dataResponse cfg) := by
    rw [ClientSession.step, ClientSession.injectUrb, hsession₁]
    dsimp only
    rw [hmock]
    exact if_pos hroom
  obtain ⟨s₂, hinjected, hsession₂⟩ := exists_step hinject
  obtain ⟨acts, s', hrun, hselect, hurbs⟩ := exists_select hsession₂
  refine ⟨.receive bytes :: .injectUrb :: acts, s', ?_, hselect, ?_⟩
  · rw [run_cons_of_step _ hreceive, run_cons_of_step _ hinjected, hrun]
  · rw [hurbs, hsession₁, List.length_append, List.length_singleton]

theorem exists_stuck (hmock : cfg.vhciBackend = .mock) {response : Frame} {bytes : List UInt8}
    (hbytes : response.encode = some bytes) (htype : response.frameType = .response) (hstatus : response.status = 0) :
    ∀ (n : Nat) (s : ClientRun), s.session.main = .select → clientChannelCapacity ≤ s.session.urbs.length + n →
      ∃ acts s', run (step cfg) s acts = some s' ∧ s'.session.Stuck cfg := by
  intro n
  induction n with
  | zero =>
    intro s hmain hfull
    obtain ⟨s', hreceive, hsession⟩ := exists_receive cfg hmain hbytes htype hstatus
    refine ⟨[.receive bytes], s', ?_, ?_, hmock, ?_⟩
    · rw [run_cons_of_step _ hreceive, run_nil]
    · rw [hsession]
      exact ⟨_, rfl⟩
    · rw [hsession]
      exact hfull
  | succ n ih =>
    intro s hmain hfull
    by_cases hroom : s.session.urbs.length < clientChannelCapacity
    · obtain ⟨before, s₁, hbefore, hselect, hurbs⟩ := exists_filled hmock hmain hroom hbytes htype hstatus
      obtain ⟨after, s', hafter, hstuck⟩ := ih s₁ hselect (by omega)
      exact ⟨before ++ after, s', by rw [run_append_of_run _ hbefore, hafter], hstuck⟩
    · exact ih s hmain (by omega)

theorem run_stuck {acts : List ClientAct} (h : s.session.Stuck cfg) (hrun : run (step cfg) s acts = some s') :
    s'.session.Stuck cfg ∧ s'.sent = s.sent ∧ s'.bulk = s.bulk := by
  refine run_invariant (P := fun t => t.session.Stuck cfg ∧ t.sent = s.sent ∧ t.bulk = s.bulk)
    (fun t a t' ht hstep => ?_) ⟨h, rfl, rfl⟩ hrun
  obtain ⟨hstuck, hsent, hbulk⟩ := ht
  obtain ⟨-, hstuck', hsent', hbulk'⟩ := step_stuck hstuck hstep
  exact ⟨hstuck', hsent'.trans hsent, hbulk'.trans hbulk⟩

end

/-- In every state of the client with the mock backend, whatever the server does: the main loop is stopped exactly when
it injects into a channel that is full; it then never sends or takes in anything again; and from every state of its
select there are frames that lead it there. -/
theorem client_stalls {cfg : ClientConfig} (hmock : cfg.vhciBackend = .mock) (s : ClientRun) :
    (Stopped cfg s ↔ s.session.Stuck cfg) ∧
      (s.session.Stuck cfg → ∀ acts s', run (step cfg) s acts = some s' →
        s'.session.Stuck cfg ∧ s'.sent = s.sent ∧ s'.bulk = s.bulk) ∧
      (s.session.main = .select → ∃ acts s', run (step cfg) s acts = some s' ∧ s'.session.Stuck cfg) := by
  refine ⟨stopped_iff, fun h _ _ hrun => run_stuck h hrun, fun hmain => ?_⟩
  have hbytes : (Frame.controlResponse (.controlRequest 2 (.setAddress 1)) 0 []).encode ≠ none := by decide
  obtain ⟨bytes, hbytes⟩ := Option.ne_none_iff_exists'.mp hbytes
  exact exists_stuck hmock hbytes rfl rfl clientChannelCapacity s hmain (Nat.le_add_left _ _)

theorem client_stalls_attached : ∃ s, run (step ⟨.mock, none, none⟩) new attached = some s ∧
    ∃ acts s', run (step ⟨.mock, none, none⟩) s acts = some s' ∧ s'.session.Stuck ⟨.mock, none, none⟩ := by
  have hmain : (run (step ⟨.mock, none, none⟩) new attached).map (fun s => s.session.main) = some .select := by
    decide +kernel
  obtain ⟨s, hs, hselect⟩ := Option.map_eq_some_iff.mp hmain
  exact ⟨s, hs, (client_stalls rfl s).2.2 hselect⟩

end ClientRun

/-! ## Against this daemon -/

namespace ClientSession

section
variable {cfg : ClientConfig} {s s' : ClientSession}

theorem dataResponse_urbs (main : ClientPc) {urbs : List (List UInt8)} (hroom : s.dataResponses.toNat + 1 < 2 ^ 64)
    (h : urbs.length ≤ s.dataResponses.toNat + 1) :
    ({ s with main, urbs }.dataResponse cfg).urbs.length ≤ ({ s with main, urbs }.dataResponse cfg).dataResponses.toNat := by
  have hsum : (s.dataResponses + 1).toNat = s.dataResponses.toNat + 1 := by
    rw [UInt64.toNat_add]
    exact Nat.mod_eq_of_lt hroom
  unfold dataResponse
  by_cases hreached : s.detachSent = false ∧ cfg.mockFrameLimit = some (s.dataResponses + 1)
  · rw [if_pos hreached]
    exact hsum ▸ h
  · rw [if_neg hreached]
    exact hsum ▸ h

theorem waitForControlResponse_urbs (s : ClientSession) (step : EnumerationStep) (requestId : UInt64)
    (bytes : List UInt8) : (s.waitForControlResponse step requestId bytes).urbs = s.urbs ∧
      (s.waitForControlResponse step requestId bytes).dataResponses = s.dataResponses := by
  obtain hfail | ⟨ignored, hignored⟩ | ⟨-, answered, haccepted⟩ := s.waitForControlResponse_cases step requestId bytes
  · rw [hfail]
    exact ⟨rfl, rfl⟩
  · rw [hignored]
    exact ⟨rfl, rfl⟩
  · rw [haccepted]
    cases step with
    | _ => exact ⟨rfl, rfl⟩

theorem receive_urbs {bytes : List UInt8} (hroom : s.dataResponses.toNat + 1 < 2 ^ 64)
    (h : s.urbs.length ≤ s.dataResponses.toNat) (hstep : s.receive cfg bytes = some s') :
    s'.urbs.length ≤ s'.dataResponses.toNat := by
  obtain ⟨-, rfl⟩ | ⟨step, requestId, -, rfl⟩ | ⟨hmain, rfl⟩ := receive_cases hstep
  · obtain hfail | ⟨ignored, hignored⟩ | ⟨descriptors, haccepted⟩ := s.waitForLifecycleResponse_cases bytes
    · rw [hfail]
      exact h
    · rw [hignored]
      exact h
    · rw [haccepted]
      exact h
  · obtain ⟨hurbs, hresponses⟩ := s.waitForControlResponse_urbs step requestId bytes
    rw [hurbs, hresponses]
    exact h
  · obtain ⟨-, hcounted⟩ | ⟨-, ⟨payload, hinject⟩ | hclose | ⟨reports, hreports⟩⟩ :=
      handleNetworkFrame_cases cfg hmain bytes
    · rw [hcounted]
      exact dataResponse_urbs s.main hroom (Nat.le_succ_of_le h)
    · rw [hinject]
      exact h
    · rw [hclose]
      exact h
    · rw [hreports]
      exact h

theorem step_urbs {a : ClientAct} (hroom : s.dataResponses.toNat + 1 < 2 ^ 64)
    (h : s.urbs.length ≤ s.dataResponses.toNat) (hstep : s.step cfg a = some s') :
    s'.urbs.length ≤ s'.dataResponses.toNat := by
  cases a with
  | send ok => cases hstep
  | receive bytes => exact receive_urbs hroom h hstep
  | endOfStream =>
    obtain rfl | rfl := endOfStream_cases hstep
    · exact h
    · exact h
  | mockLocalUsb =>
    obtain ⟨-, rfl | ⟨-, frame, -, rfl⟩⟩ := mockLocalUsb_cases hstep
    · exact h
    · exact h
  | receiveTx =>
    obtain ⟨-, frame, channel, -, rfl⟩ := receiveTx_cases hstep
    exact h
  | receiveUrb =>
    unfold ClientSession.step receiveUrb at hstep
    cases hurbs : s.urbs with
    | nil =>
      cases hmain : s.main with
      | _ =>
        rw [hmain, hurbs] at hstep
        cases hstep
    | cons urb urbs =>
      cases hmain : s.main with
      | select =>
        rw [hmain, hurbs] at hstep
        obtain rfl := Option.some.inj hstep
        rw [hurbs, List.length_cons] at h
        exact Nat.le_of_succ_le h
      | _ =>
        rw [hmain] at hstep
        cases hstep
  | injectUrb =>
    unfold ClientSession.step ClientSession.injectUrb at hstep
    cases hmain : s.main with
    | inject payload =>
      rw [hmain] at hstep
      dsimp only at hstep
      cases hbackend : cfg.vhciBackend with
      | linux =>
        rw [hbackend] at hstep
        obtain rfl := Option.some.inj hstep
        exact h
      | mock =>
        rw [hbackend] at hstep
        dsimp only at hstep
        by_cases hfits : s.urbs.length < clientChannelCapacity
        · rw [if_pos hfits] at hstep
          obtain rfl := Option.some.inj hstep
          refine dataResponse_urbs s.main hroom ?_
          rw [List.length_append, List.length_singleton]
          exact Nat.succ_le_succ h
        · rw [if_neg hfits] at hstep
          cases hstep
    | _ =>
      rw [hmain] at hstep
      cases hstep

theorem send_urbs {ok : Bool} {bytes : Option (List UInt8)} (h : s.urbs.length ≤ s.dataResponses.toNat)
    (hsend : s.send cfg ok = some (bytes, s')) : s'.urbs.length ≤ s'.dataResponses.toNat := by
  have hsent : (s.sent ok).urbs.length ≤ (s.sent ok).dataResponses.toNat := by
    unfold sent
    cases s.main with
    | sendAttach | sendControl | sendFrame | sendDetach => cases ok <;> exact h
    | _ => exact h
  unfold ClientSession.send at hsend
  cases hout : s.outgoing cfg with
  | none =>
    rw [hout] at hsend
    cases hsend
  | some out =>
    rw [hout] at hsend
    cases out with
    | error e =>
      cases hsend
      exact h
    | ok frame =>
      dsimp only at hsend
      cases hencode : frame.encode with
      | none =>
        rw [hencode] at hsend
        cases hsend
        exact h
      | some bytes =>
        rw [hencode] at hsend
        cases hsend
        exact hsent

end

end ClientSession

namespace ClientDaemonRun

section
variable {ccfg : ClientConfig} {cfg : SessionConfig} {limit : UInt64} {s s' : ClientDaemonRun}

theorem Completing.counts_fit (h : Completing ccfg cfg limit s) (hfits : 7 + limit.toNat < 2 ^ 64) :
    s.client.session.dataResponses.toNat + 1 < 2 ^ 64 := by
  have hcounted := h.counted
  have hdelivered := h.delivered_le
  unfold ClientSession.counted at hcounted
  omega

theorem client_urbs {a : ClientAct} (h : Completing ccfg cfg limit s) (hfits : 7 + limit.toNat < 2 ^ 64)
    (hurbs : s.client.session.urbs.length ≤ s.client.session.dataResponses.toNat)
    (hstep : step ccfg cfg s (.client a) = some s') :
    s'.client.session.urbs.length ≤ s'.client.session.dataResponses.toNat := by
  obtain ⟨ok, bytes, -, hsend, -⟩ | ⟨hsession, -⟩ := ClientRun.step_session (step_client hstep).2.1
  · exact ClientSession.send_urbs hurbs hsend
  · exact ClientSession.step_urbs (h.counts_fit hfits) hurbs hsession

theorem step_urbs {a : ClientDaemonAct} (hpositive : 0 < limit.toNat) (hfits : 7 + limit.toNat < 2 ^ 64)
    (hcfg : ccfg.mockFrameLimit = some limit) (h : Completing ccfg cfg limit s)
    (hurbs : s.client.session.urbs.length ≤ s.client.session.dataResponses.toNat) (hstep : step ccfg cfg s a = some s') :
    Completing ccfg cfg limit s' ∧ s'.client.session.urbs.length ≤ s'.client.session.dataResponses.toNat := by
  refine ⟨step_completing hcfg hpositive hfits h hstep, ?_⟩
  cases a with
  | client a => exact client_urbs h hfits hurbs hstep
  | daemon a =>
    rw [(step_daemon hstep).2.1]
    exact hurbs

/-- To be stuck it takes one Response more than the channel holds. -/
theorem Completing.unstuck (h : Completing ccfg cfg limit s) (hsmall : limit.toNat ≤ clientChannelCapacity)
    (hurbs : s.client.session.urbs.length ≤ s.client.session.dataResponses.toNat) :
    ¬ s.client.session.Stuck ccfg := by
  rintro ⟨⟨payload, hmain⟩, -, hfull⟩
  have hstanding := h.inv.standing
  unfold ClientSession.Standing at hstanding
  rw [hmain] at hstanding
  have hcounted := h.counted
  have hanswered : s.client.session.answered.length = 5 :=
    (h.faithful.running (by rw [hstanding.1.state]; nofun)).client.answered.length_eq.symm
  have hdelivered := h.delivered_le
  unfold ClientSession.counted at hcounted
  rw [hmain, hanswered] at hcounted
  dsimp only [ClientPc.injecting] at hcounted
  omega

end

/-- In every run of client and daemon with a positive frame limit of at most the capacity of the channel, the main loop
of the client is never stopped. -/
theorem client_goes_on (backend : VhciBackendKind) (limit : UInt64) (payloadLen : Option Nat) (cfg : SessionConfig)
    (acts : List ClientDaemonAct) (s : ClientDaemonRun) (hpositive : 0 < limit.toNat)
    (hsmall : limit.toNat ≤ clientChannelCapacity)
    (h : run (step ⟨backend, some limit, payloadLen⟩ cfg) new acts = some s) :
    ¬ ClientRun.Stopped ⟨backend, some limit, payloadLen⟩ s.client := by
  have hfits : 7 + limit.toNat < 2 ^ 64 := by
    unfold clientChannelCapacity at hsmall
    omega
  have hreached := run_invariant
    (P := fun s => Completing ⟨backend, some limit, payloadLen⟩ cfg limit s ∧
      s.client.session.urbs.length ≤ s.client.session.dataResponses.toNat)
    (fun t a t' ht hstep => step_urbs hpositive hfits rfl ht.1 ht.2 hstep) ⟨new_completing _ cfg limit, Nat.le_refl _⟩ h
  rw [ClientRun.stopped_iff]
  exact hreached.1.unstuck hsmall hreached.2

theorem client_goes_on_bounded :
    ∃ s, run (step ⟨.mock, some 1, some 1⟩ ⟨none, [4], []⟩) new boundedRun = some s ∧
      s.client.session.dataResponses = 1 ∧ ¬ ClientRun.Stopped ⟨.mock, some 1, some 1⟩ s.client := by
  have hrun : (run (step ⟨.mock, some 1, some 1⟩ ⟨none, [4], []⟩) new boundedRun).map
      (fun s => s.client.session.dataResponses) = some 1 := by
    decide +kernel
  obtain ⟨s, hs, hcounted⟩ := Option.map_eq_some_iff.mp hrun
  exact ⟨s, hs, hcounted, client_goes_on .mock 1 (some 1) ⟨none, [4], []⟩ boundedRun s (by decide) (by decide) hs⟩

end ClientDaemonRun

end WhyUsb
