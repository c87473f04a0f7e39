import WhyUsb.Session.Phases

/-!
# The whole handshake

Every run of the client and the daemon is in one of the phases, and until the
client is attached one of them can go on; what the daemon has sent and what the
client has handled are read off the phase.
-/

namespace WhyUsb

open List Lts

namespace ClientDaemon

section
variable {ccfg : ClientConfig} {cfg : SessionConfig} {s s' : ClientDaemon}

/-! ## No step but the worker's -/

theorem Exchanging.enabled {x : Exchange cfg} (h : Exchanging x s)
    (hreceive : ∀ bytes, Encodes bytes x.response → (s.client.receive ccfg bytes).isSome) :
    ∃ a : ClientDaemonAct, a.isWorker = false ∧ (step ccfg cfg s a).isSome := by
  cases h with
  | requested hrequest htoDaemon htoClient hmain hat =>
    rename_i bytes
    refine ⟨.daemon (.session (.receive bytes true)), rfl, ?_⟩
    simp only [step, ClientDaemon.daemonReceive, htoDaemon, if_true, Option.isSome_map, MockSession.step,
      SessionAct.leavesRings, NetworkSession.step, NetworkSession.receive, hmain, Frame.decode_of_encode hrequest,
      Option.isSome_some]
  | answering htoDaemon htoClient hmain hat =>
    obtain ⟨bytes, hencode⟩ := x.response_encodes
    refine ⟨.daemon (.session (.send true)), rfl, ?_⟩
    simp only [step, ClientDaemon.daemonSend, true_or, if_true, Option.isSome_map, MockSession.step,
      SessionAct.leavesRings, NetworkSession.step, NetworkSession.send, hmain, hencode, Option.isSome_some]
  | answered hevents hresponse hsent htoDaemon htoClient hmain hat =>
    rename_i sent rest bytes sentBytes
    refine ⟨.client (.receive bytes), rfl, ?_⟩
    simp only [step, ClientDaemon.clientReceive, htoClient, if_true, Option.isSome_map]
    exact hreceive _ hresponse

theorem enabled_of_send {bytes : List UInt8} {client : ClientSession}
    (h : s.client.send ccfg true = some (some bytes, client)) :
    ∃ a : ClientDaemonAct, a.isWorker = false ∧ (step ccfg cfg s a).isSome :=
  ⟨.client (.send true), rfl, by simp [step, ClientDaemon.clientSend, h]⟩

/-- Until the client is attached one of the two can go on. -/
theorem Phase.enabled (h : Phase cfg s) (hstate : s.client.state = .connected) :
    ∃ a : ClientDaemonAct, a.isWorker = false ∧ (step ccfg cfg s a).isSome := by
  cases h with
  | start hclient hidle =>
    obtain ⟨bytes, -, hsend⟩ := ClientSession.new_send ccfg
    exact enabled_of_send (by rw [hclient]; exact hsend)
  | attaching hclient hexchange =>
    refine hexchange.enabled fun bytes hbytes => ?_
    rw [hclient, ClientSession.attaching_receive hbytes]
    rfl
  | enumerating hclient hanswered hidle =>
    obtain ⟨bytes, -, hsend⟩ := ClientSession.enumerating_send ccfg cfg _ _
    exact enabled_of_send (by rw [hclient]; exact hsend)
  | controlling hclient hanswered hexchange =>
    refine hexchange.enabled fun bytes hbytes => ?_
    rw [hclient, ClientSession.enumerating_receive hbytes]
    rfl
  | running hrunning => exact absurd hstate hrunning.client.state

/-! ## What the daemon receives -/

theorem Phase.received {bytes : List UInt8} {toDaemon : List (List UInt8)} {f : Frame} (h : Phase cfg s)
    (hhead : s.toDaemon = bytes :: toDaemon) (hmain : s.daemon.session.main = .select)
    (hdecode : Frame.decode bytes = .ok f) (hrequest : f.frameType = .request) :
    s.daemon.session.lifecycle.state = .attached := by
  have hexchanging : ∀ {x : Exchange cfg}, Exchanging x s → s.daemon.session.lifecycle.state = .attached := by
    intro x hexchange
    cases hexchange with
    | requested hencode htoDaemon htoClient hmain hat =>
      rw [htoDaemon] at hhead
      obtain ⟨rfl, -⟩ := List.cons.inj hhead
      rw [Frame.decode_of_encode hencode] at hdecode
      obtain rfl := Except.ok.inj hdecode
      rw [hat.state, x.attached hrequest]
    | answering htoDaemon htoClient hmain hat => rw [htoDaemon] at hhead; cases hhead
    | answered hevents hresponse hsent htoDaemon htoClient hmain hat => rw [htoDaemon] at hhead; cases hhead
  cases h with
  | start hclient hidle => rw [hidle.toDaemon] at hhead; cases hhead
  | attaching hclient hexchange => exact hexchanging hexchange
  | enumerating hclient hanswered hidle => rw [hidle.toDaemon] at hhead; cases hhead
  | controlling hclient hanswered hexchange => exact hexchanging hexchange
  | running hrunning => exact hrunning.daemon.state (by rw [hmain]; rfl)

def RequestsAttached (s : ClientDaemon) : Prop :=
  ∀ state f, (state, SessionEvent.received f) ∈ s.daemon.session.trace → f.frameType = .request → state = .attached

theorem step_requestsAttached {a : ClientDaemonAct} (h : RequestsAttached s) (hphase : Phase cfg s)
    (hstep : step ccfg cfg s a = some s') : RequestsAttached s' := by
  have hdaemon : ∀ {b : MockSessionAct} {daemon : MockSession}, s.daemon.step cfg b = some daemon →
      (∀ bytes driverOk, b = .session (.receive bytes driverOk) → ∃ toDaemon, s.toDaemon = bytes :: toDaemon) →
      ∀ state f, (state, SessionEvent.received f) ∈ daemon.session.trace → f.frameType = .request →
        state = .attached := by
    intro b daemon hb hhead state f hmem hrequest
    rcases MockSession.step_session hb with hsame | ⟨c, hc, hcall⟩
    · exact h state f (hsame ▸ hmem) hrequest
    · rcases NetworkSession.step_trace hc with hsame | ⟨event, hgrown, hreceived⟩
      · exact h state f (hsame ▸ hmem) hrequest
      · rw [hgrown] at hmem
        rcases List.mem_append.mp hmem with hmem | hmem
        · exact h state f hmem hrequest
        · obtain ⟨rfl, rfl⟩ := Prod.mk.inj (List.mem_singleton.mp hmem)
          obtain ⟨bytes, driverOk, rfl, hmain, hdecode⟩ := hreceived f rfl
          rcases hcall with ⟨rfl, -⟩ | ⟨_, hne⟩ | ⟨_, hne⟩ | ⟨_, hne⟩
          · obtain ⟨toDaemon, hhead⟩ := hhead bytes driverOk rfl
            exact hphase.received hhead hmain hdecode hrequest
          · cases hne
          · cases hne
          · cases hne
  cases step_stepped hstep with
  | clientSend hok hsend => exact h
  | clientReceive hhead hreceive => exact h
  | clientEnd hgone hend => exact h
  | clientLocal hlocal hclient => exact h
  | daemonReceive hhead hb =>
    refine hdaemon hb fun bytes driverOk hreceive => ?_
    obtain ⟨rfl, -⟩ := SessionAct.receive.inj (MockSessionAct.session.inj hreceive)
    exact ⟨_, hhead⟩
  | daemonSend hok hb => exact hdaemon hb fun _ _ hreceive => nomatch hreceive
  | daemonEnd hgone hb => exact hdaemon hb fun _ _ hreceive => nomatch hreceive
  | daemonLocal hlocal hb =>
    refine hdaemon hb fun bytes driverOk hreceive => ?_
    rw [hreceive] at hlocal
    cases hlocal

/-! ## Every run -/

structure Reached (cfg : SessionConfig) (s : ClientDaemon) : Prop where
  provenance : s.daemon.Provenance
  phase : Phase cfg s
  requests : RequestsAttached s

theorem new_reached (cfg : SessionConfig) : Reached cfg new where
  provenance := MockSession.new_provenance
  phase := new_phase cfg
  requests := fun _ _ hmem => nomatch hmem

theorem step_provenance {a : ClientDaemonAct} (h : s.daemon.Provenance) (hstep : step ccfg cfg s a = some s') :
    s'.daemon.Provenance := by
  cases step_stepped hstep with
  | clientSend hok hsend => exact h
  | clientReceive hhead hreceive => exact h
  | clientEnd hgone hend => exact h
  | clientLocal hlocal hclient => exact h
  | daemonReceive hhead hb => exact MockSession.step_provenance h hb
  | daemonSend hok hb => exact MockSession.step_provenance h hb
  | daemonEnd hgone hb => exact MockSession.step_provenance h hb
  | daemonLocal hlocal hb => exact MockSession.step_provenance h hb

theorem step_progress {a : ClientDaemonAct} (h : Reached cfg s) (hstep : step ccfg cfg s a = some s') :
    Progress cfg s s' a.isWorker := by
  cases a with
  | client a => exact h.phase.client_step h.provenance hstep
  | daemon a => exact h.phase.daemon_step h.provenance hstep

theorem step_reached {a : ClientDaemonAct} (h : Reached cfg s) (hstep : step ccfg cfg s a = some s') :
    Reached cfg s' where
  provenance := step_provenance h.provenance hstep
  phase := (step_progress h hstep).phase
  requests := step_requestsAttached h.requests h.phase hstep

theorem Exchanging.emitted_prefix {x : Exchange cfg} (h : Exchanging x s) :
    s.daemon.session.events SessionEvent.emitted <+: x.events := by
  cases h with
  | requested hencode htoDaemon htoClient hmain hat => exact hat.emitted ▸ List.nil_prefix
  | answering htoDaemon htoClient hmain hat => exact hat.emitted ▸ List.nil_prefix
  | answered hevents hresponse hsent htoDaemon htoClient hmain hat =>
    rw [hat.emitted, hevents]
    exact List.prefix_append _ _

theorem Phase.emitted_prefix (h : Phase cfg s) :
    s.daemon.session.events SessionEvent.emitted <+: mockHidKeyboardEvents cfg.mockHidKeycodes := by
  cases h with
  | start hclient hidle => exact hidle.at'.emitted ▸ List.nil_prefix
  | attaching hclient hexchange => exact hexchange.emitted_prefix.trans List.nil_prefix
  | enumerating hclient hanswered hidle => exact hidle.at'.emitted ▸ List.nil_prefix
  | controlling hclient hanswered hexchange =>
    rename_i step answered
    refine hexchange.emitted_prefix.trans ?_
    cases step with
    | setConfiguration => exact List.prefix_refl _
    | _ => exact List.nil_prefix
  | running hrunning => exact hrunning.emitted_prefix

theorem Phase.handled (h : Phase cfg s) : s.client.main ≠ .failed ∧ s.client.ignored = [] ∧
    s.client.reports <+: s.daemon.session.events SessionEvent.emitted := by
  cases h with
  | start hclient hidle => rw [hclient]; exact ⟨(nomatch ·), rfl, List.nil_prefix⟩
  | attaching hclient hexchange => rw [hclient]; exact ⟨(nomatch ·), rfl, List.nil_prefix⟩
  | enumerating hclient hanswered hidle => rw [hclient]; exact ⟨(nomatch ·), rfl, List.nil_prefix⟩
  | controlling hclient hanswered hexchange => rw [hclient]; exact ⟨(nomatch ·), rfl, List.nil_prefix⟩
  | running hrunning =>
    refine ⟨fun hfailed => ?_, hrunning.client.ignored, hrunning.reports ▸ List.prefix_append _ _⟩
    have hmain := hrunning.client.main
    rw [hfailed] at hmain
    cases hmain

theorem Phase.running_of_left (h : Phase cfg s) (hstate : s.client.state ≠ .connected) : Running cfg s := by
  cases h with
  | start hclient hidle => exact absurd (by rw [hclient]; rfl) hstate
  | attaching hclient hexchange => exact absurd (by rw [hclient]; rfl) hstate
  | enumerating hclient hanswered hidle => exact absurd (by rw [hclient]; rfl) hstate
  | controlling hclient hanswered hexchange => exact absurd (by rw [hclient]; rfl) hstate
  | running hrunning => exact hrunning

end

/-- What a run to `s` has to show: the handshake is under way and goes on, or it has succeeded. -/
structure Handshake (ccfg : ClientConfig) (cfg : SessionConfig) (acts : List ClientDaemonAct) (s : ClientDaemon) :
    Prop where
  notFailed : s.client.main ≠ .failed
  progress : s.client.state = .connected →
    acts.countP (fun a => !a.isWorker) ≤ 24 + 2 * cfg.mockHidKeycodes.length ∧
      ∃ a : ClientDaemonAct, a.isWorker = false ∧ (step ccfg cfg s a).isSome
  attached : s.client.state ≠ .connected → ∃ before after s₁, acts = before ++ after ∧
    run (step ccfg cfg) new before = some s₁ ∧ s₁.client.state = .attached
  control : s.client.state ≠ .connected → s.daemon.session.control = ⟨1, 1⟩
  answered : s.client.state ≠ .connected →
    s.daemon.session.events SessionEvent.controlRequest = EnumerationStep.requests ∧
      Answered EnumerationStep.requests s.client.answered
  received : RequestsAttached s
  reports : s.client.reports <+: s.daemon.session.events SessionEvent.emitted
  emitted : s.daemon.session.events SessionEvent.emitted <+: mockHidKeyboardEvents cfg.mockHidKeycodes
  ignored : s.client.ignored = []

/-- In every run of client and daemon the handshake does not fail, is over after so many steps, and leaves the client
attached and the daemon at address 1 and configuration 1; what the client's handler has taken is a prefix of the Events
the daemon has sent, and these of the reports of the keycodes. -/
theorem enumeration_handshake (ccfg : ClientConfig) (cfg : SessionConfig) (acts : List ClientDaemonAct)
    (s : ClientDaemon) (h : run (step ccfg cfg) new acts = some s) : Handshake ccfg cfg acts s := by
  have hreached : ∀ {acts s}, run (step ccfg cfg) new acts = some s → Reached cfg s := fun h =>
    run_invariant (P := Reached cfg) (fun _ _ _ hs hstep => step_reached hs hstep) (new_reached cfg) h
  obtain ⟨hprovenance, hphase, hrequests⟩ := hreached h
  obtain ⟨hfailed, hignored, hreports⟩ := hphase.handled
  refine ⟨hfailed, fun hstate => ⟨?_, hphase.enabled hstate⟩, fun hstate => ?_, fun hstate => ?_, fun hstate => ?_,
    hrequests, hreports, hphase.emitted_prefix, hignored⟩
  · have hcount := (run_countP_le (P := Reached cfg) (Q := fun s => s.client.state = .connected)
      (p := fun a => !a.isWorker) (fun s a s' hs hstep => ⟨step_reached hs hstep, fun hstate => by
        obtain ⟨hconnected, hrank⟩ := (step_progress hs hstep).rank_le hstate
        refine ⟨hconnected, ?_⟩
        cases hworker : a.isWorker <;> rw [hworker] at hrank <;> exact hrank⟩) (new_reached cfg) h hstate).2
    have hnew : rank cfg new = 24 + (0 + 0 + 2 * cfg.mockHidKeycodes.length) := rfl
    omega
  · obtain ⟨before, a, after, s₁, s₂, rfl, hrun, hconnected, hstep, hleft⟩ :=
      run_crosses (Q := fun s => s.client.state = .connected) (s := new) rfl h hstate
    refine ⟨before ++ [a], after, s₂, by simp, ?_, ?_⟩
    · rw [run_append_of_run _ hrun, run_cons_of_step _ hstep, run_nil]
    · exact ((step_progress (hreached hrun) hstep).attached hconnected).resolve_left hleft
  · exact (hphase.running_of_left hstate).daemon.control
  · have hrunning := hphase.running_of_left hstate
    exact ⟨hrunning.daemon.requests, hrunning.client.answered⟩

def exchangeRun (request response : Frame) : List ClientDaemonAct :=
  [.client (.send true), .daemon (.session (.receive (request.encode.getD []) true)), .daemon (.session (.send true)),
    .client (.receive (response.encode.getD []))]

def handshakeRun (cfg : SessionConfig) : List ClientDaemonAct :=
  exchangeRun (.attachRequest 1) (attachAnswer cfg.attachDevice) ++
    [EnumerationStep.deviceDescriptor, .configurationDescriptor, .reportDescriptor, .setAddress,
      .setConfiguration].flatMap (fun step => exchangeRun step.request (controlAnswer cfg step)) ++
    (mockHidKeyboardEvents cfg.mockHidKeycodes).flatMap fun f =>
      [.daemon (.session (.send true)), .client (.receive (f.encode.getD []))]

theorem enumeration_handshake_key : ∃ s, run (step ⟨.mock, none, none⟩ ⟨none, [4], []⟩) new
      (handshakeRun ⟨none, [4], []⟩) = some s ∧ s.client.state = .attached ∧ s.client.reports.length = 2 ∧
    Handshake ⟨.mock, none, none⟩ ⟨none, [4], []⟩ (handshakeRun ⟨none, [4], []⟩) s := by
  have hrun : (run (step ⟨.mock, none, none⟩ ⟨none, [4], []⟩) new (handshakeRun ⟨none, [4], []⟩)).map
      (fun s => (s.client.state, s.client.reports.length)) = some (.attached, 2) := by decide +kernel
  obtain ⟨s, hs, hend⟩ := Option.map_eq_some_iff.mp hrun
  obtain ⟨hstate, hreports⟩ := Prod.mk.inj hend
  exact ⟨s, hs, hstate, hreports, enumeration_handshake _ _ _ s hs⟩

end ClientDaemon

end WhyUsb
