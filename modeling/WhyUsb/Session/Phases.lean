import WhyUsb.Session.Running

/-!
# The phases of the handshake

The attach and the enumeration are six exchanges, one after the other, with
nothing in flight between them. Each takes the client four steps further; the
last leaves only the Events behind it, and both sides in their main loops.
-/

namespace WhyUsb

open List Lts

/-! ## The six exchanges -/

theorem mockHidKeyboardEvents_sendable {keycodes : List UInt8} :
    ∀ f ∈ mockHidKeyboardEvents keycodes, f.frameType = .event ∧ ∃ bytes, f.encode = some bytes := by
  intro f hf
  obtain ⟨hframe, -, -, -, hencodes⟩ := mem_mockHidKeyboardEvents_taken hf
  exact ⟨hframe, hencodes⟩

def attachExchange (cfg : SessionConfig) : Exchange cfg where
  request := .attachRequest 1
  response := attachAnswer cfg.attachDevice
  events := []
  before := ⟨.connected, none, .new, []⟩
  after := ⟨.attached, some (descriptorSetForAttach cfg.attachDevice), .new, []⟩
  response_encodes := attachAnswer_encodes cfg.attachDevice
  response_frameType := fun h => nomatch h
  events_frameType := fun _ hf => nomatch hf
  answers := fun s hstate _ hcontrol => hcontrol ▸ NetworkSession.handleFrame_attach (by simp [hstate])
  requests_eq := rfl
  owed_le := by simp
  attached := fun h => nomatch h

def controlAnswer (cfg : SessionConfig) (step : EnumerationStep) : Frame :=
  (handleControlRequest (.controlRequest step.requestId step.packet) (some (descriptorSetForAttach cfg.attachDevice))
    cfg.mockHidKeycodes step.before).1.response

theorem handleControlRequest_answer (cfg : SessionConfig) (step : EnumerationStep) :
    handleControlRequest (.controlRequest step.requestId step.packet)
        (some (descriptorSetForAttach cfg.attachDevice)) cfg.mockHidKeycodes step.before =
          ({ response := controlAnswer cfg step, events := step.events cfg.mockHidKeycodes }, step.after) ∧
      IsAnswer (some (descriptorSetForAttach cfg.attachDevice)) step (controlAnswer cfg step) := by
  obtain ⟨vendorId, productId, h⟩ := descriptorSetForAttach_eq cfg.attachDevice
  obtain ⟨response, hanswer, hisAnswer⟩ := handleControlRequest_step vendorId productId cfg.mockHidKeycodes step
  rw [← h] at hanswer hisAnswer
  have hresponse : controlAnswer cfg step = response := by rw [controlAnswer, hanswer]
  rw [hresponse]
  exact ⟨hanswer, hisAnswer⟩

def controlExchange (cfg : SessionConfig) (step : EnumerationStep) : Exchange cfg where
  request := .controlRequest step.requestId step.packet
  response := controlAnswer cfg step
  events := step.events cfg.mockHidKeycodes
  before := ⟨.attached, some (descriptorSetForAttach cfg.attachDevice), step.before,
    step.earlier.map EnumerationStep.request⟩
  after := ⟨.attached, some (descriptorSetForAttach cfg.attachDevice), step.after,
    (step.earlier ++ [step]).map EnumerationStep.request⟩
  response_encodes := (handleControlRequest_answer cfg step).2.encodes
  response_frameType := by
    rw [(handleControlRequest_answer cfg step).2.frameType]
    exact fun h => nomatch h
  events_frameType := by
    intro f hf
    cases step with
    | setConfiguration => exact mockHidKeyboardEvents_sendable f hf
    | _ => cases hf
  answers := by
    intro s hstate hdescriptors hcontrol
    have hanswer := (handleControlRequest_answer cfg step).1
    dsimp only at hdescriptors hcontrol ⊢
    rw [← hdescriptors, ← hcontrol] at hanswer
    rw [← hdescriptors]
    exact NetworkSession.handleFrame_control hstate hanswer true
  requests_eq := List.map_append
  owed_le := by
    cases step with
    | setConfiguration =>
      show (mockHidKeyboardEvents cfg.mockHidKeycodes).length + 0 ≤ 2 * cfg.mockHidKeycodes.length
      rw [mockHidKeyboardEvents_length]
      omega
    | _ => exact Nat.le_of_eq (Nat.zero_add _)
  attached := fun _ => rfl

/-- The next request finds the daemon as the last one left it. -/
theorem controlExchange_next {cfg : SessionConfig} {step next : EnumerationStep} (h : step.next = some next) :
    (controlExchange cfg step).after = (controlExchange cfg next).before :=
  congrArg₂ (DaemonView.mk .attached (some (descriptorSetForAttach cfg.attachDevice)))
    (EnumerationStep.next_before h).symm (congrArg _ (EnumerationStep.next_earlier h))

/-! ## Between exchanges -/

namespace ClientDaemon

structure Idle (s : ClientDaemon) (at' : DaemonView) : Prop where
  toDaemon : s.toDaemon = []
  toClient : s.toClient = []
  main : s.daemon.session.main = .select
  at' : DaemonAt s.daemon at' []

section
variable {ccfg : ClientConfig} {cfg : SessionConfig} {x : Exchange cfg} {at' : DaemonView} {s s' : ClientDaemon}

theorem Idle.daemon_step {a : MockSessionAct} (h : Idle s at') (hprovenance : s.daemon.Provenance)
    (hclient : s.client.main.gone = false) (hstep : step ccfg cfg s (.daemon a) = some s') :
    s'.client = s.client ∧ Idle s' at' ∧
      daemonRank cfg s' + (if a.isWorker then 0 else 1) ≤ daemonRank cfg s := by
  cases daemonStep_stepped hstep with
  | daemonReceive hhead hdaemon =>
    rw [h.toDaemon] at hhead
    cases hhead
  | daemonSend hok hdaemon =>
    have hmain := h.main
    cases MockSession.step_stepped hdaemon with
    | session hleaves hsession =>
      cases NetworkSession.step_stepped hsession with
      | send hsending hencode => rw [hmain] at hsending; cases hsending
      | sendPanics hsending hencode => rw [hmain] at hsending; cases hsending
      | forward hforwarding => rw [hmain] at hforwarding; cases hforwarding
  | daemonEnd hgone hdaemon =>
    rw [hclient] at hgone
    cases hgone
  | daemonLocal hlocal hdaemon =>
    have hworker := MockSession.step_quiet hprovenance h.at'.pushed h.at'.pumping (Or.inl h.main) hlocal hdaemon
    obtain ⟨hsame, hpumping⟩ := MockSession.step_worker hworker hdaemon
    refine ⟨rfl, ⟨h.toDaemon, h.toClient, hsame.main.trans h.main, h.at'.of_same hsame hpumping⟩, ?_⟩
    unfold daemonRank
    dsimp only
    rw [hworker, if_pos rfl, hsame.main, hsame.control]
    exact Nat.le_refl _

theorem Idle.request {bytes : List UInt8} (h : Idle s x.before) (hbytes : Encodes bytes x.request)
    (client : ClientSession) :
    Exchanging x { s with client, toDaemon := s.toDaemon ++ [bytes] } ∧
      daemonRank cfg { s with client, toDaemon := s.toDaemon ++ [bytes] } = daemonRank cfg s + 2 := by
  refine ⟨.requested hbytes (by rw [h.toDaemon]; rfl) h.toClient h.main h.at', ?_⟩
  unfold daemonRank
  simp only [h.toDaemon, List.nil_append, List.length_singleton, List.length_nil]
  omega

/-! ## The client during the handshake -/

theorem no_local_step {client : ClientSession} {a : ClientAct} (hstate : client.state = .connected)
    (hmain : client.main.handshaking = true) (ha : a.isLocal = true) : client.step ccfg a = none := by
  cases a with
  | send ok => cases ha
  | receive bytes => cases ha
  | endOfStream => cases ha
  | mockLocalUsb =>
    simp only [ClientSession.step, ClientSession.mockLocalUsb]
    rw [if_pos (Or.inl (by simp [hstate]))]
  | _ =>
    simp only [ClientSession.step, ClientSession.receiveTx, ClientSession.receiveUrb, ClientSession.injectUrb]
    cases hpc : client.main <;> first | rfl | (rw [hpc] at hmain; cases hmain)

theorem Idle.client_step {a : ClientAct} (h : Idle s at') (hstate : s.client.state = .connected)
    (hmain : s.client.main = .sendAttach ∨ ∃ step, s.client.main = .sendControl step)
    (hstep : step ccfg cfg s (.client a) = some s') : ∃ bytes client, s.client.send ccfg true = some (bytes, client) ∧
      s' = { s with client, toDaemon := s.toDaemon ++ bytes.toList } := by
  have hgone : s.daemon.session.main.gone = false := by rw [h.main]; rfl
  cases clientStep_stepped hstep with
  | clientSend hok hsend =>
    obtain rfl := hok.resolve_right (by simp [hgone])
    exact ⟨_, _, hsend, rfl⟩
  | clientReceive hhead hreceive =>
    rw [h.toClient] at hhead
    cases hhead
  | clientEnd hgone' hend =>
    rw [hgone] at hgone'
    cases hgone'
  | clientLocal hlocal hclient =>
    rw [no_local_step hstate (by rcases hmain with hmain | ⟨step, hmain⟩ <;> rw [hmain] <;> rfl) hlocal] at hclient
    cases hclient

/-- While it waits, it can only receive the response; the Events behind it stay in flight. -/
theorem Exchanging.client_step {a : ClientAct} (h : Exchanging x s) (hstate : s.client.state = .connected)
    (hmain : s.client.main = .awaitAttach ∨ ∃ step requestId, s.client.main = .awaitControl step requestId)
    (hstep : step ccfg cfg s (.client a) = some s') :
    ∃ sent rest bytes sentBytes client, x.events = sent ++ rest ∧ Encodes bytes x.response ∧
      Forall₂ Encodes sentBytes sent ∧ s.client.receive ccfg bytes = some client ∧
      s' = { s with client, toClient := sentBytes } ∧ s.toDaemon = [] ∧
      s.daemon.session.main = .sendingEach rest ∧ DaemonAt s.daemon x.after sent := by
  cases clientStep_stepped hstep with
  | clientSend hok hsend =>
    unfold ClientSession.send ClientSession.outgoing at hsend
    rcases hmain with hmain | ⟨step, requestId, hmain⟩ <;> rw [hmain] at hsend <;> cases hsend
  | clientReceive hhead hreceive =>
    cases h with
    | requested hrequest htoDaemon htoClient hmain' hat => rw [htoClient] at hhead; cases hhead
    | answering htoDaemon htoClient hmain' hat => rw [htoClient] at hhead; cases hhead
    | answered hevents hresponse hsent htoDaemon htoClient hmain' hat =>
      rw [htoClient] at hhead
      obtain ⟨rfl, rfl⟩ := List.cons.inj hhead
      exact ⟨_, _, _, _, _, hevents, hresponse, hsent, hreceive, rfl, htoDaemon, hmain', hat⟩
  | clientEnd hgone hend =>
    rcases h.main with hmain' | ⟨f, onError, rest, hmain'⟩ <;> rw [hmain'] at hgone <;> cases hgone
  | clientLocal hlocal hclient =>
    rw [no_local_step hstate (by rcases hmain with hmain | ⟨step, requestId, hmain⟩ <;> rw [hmain] <;> rfl)
      hlocal] at hclient
    cases hclient

theorem idle_of_answered (client : ClientSession) {sent rest : List Frame} {sentBytes : List (List UInt8)}
    (hevents : x.events = sent ++ rest) (hnone : x.events = []) (hsent : Forall₂ Encodes sentBytes sent)
    (htoDaemon : s.toDaemon = []) (hmain : s.daemon.session.main = .sendingEach rest)
    (hat : DaemonAt s.daemon x.after sent) : Idle { s with client, toClient := sentBytes } x.after := by
  rw [hnone] at hevents
  obtain ⟨rfl, rfl⟩ := List.append_eq_nil_iff.mp hevents.symm
  cases hsent
  exact ⟨htoDaemon, rfl, hmain, hat⟩

end

end ClientDaemon

/-! ## The phases -/

namespace EnumerationStep

def left : EnumerationStep → Nat
  | deviceDescriptor => 5
  | configurationDescriptor => 4
  | reportDescriptor => 3
  | setAddress => 2
  | setConfiguration => 1

theorem next_left {step next : EnumerationStep} (h : step.next = some next) : step.left = next.left + 1 := by
  cases step <;> cases h <;> rfl

end EnumerationStep

/-- An exchange takes two steps of each side; three are left when the client waits. -/
def ClientPc.rank : ClientPc → Nat
  | sendAttach => 24
  | awaitAttach => 21
  | sendControl step => 4 * step.left
  | awaitControl step _ => 4 * step.left - 3
  | _ => 0

namespace ClientSession

def attaching : ClientSession := { new with main := .awaitAttach }

def enumerating (cfg : SessionConfig) (main : ClientPc) (nextRequestId : UInt64) (answered : List Frame) :
    ClientSession :=
  { new with
    main
    descriptors := some (descriptorSetForAttach cfg.attachDevice)
    nextRequestId
    answered }

section
variable {ccfg : ClientConfig} {cfg : SessionConfig} {step : EnumerationStep} {answered : List Frame}

theorem new_send (ccfg : ClientConfig) : ∃ bytes, Encodes bytes (.attachRequest 1) ∧
    new.send ccfg true = some (some bytes, attaching) := by
  obtain ⟨bytes, hencode⟩ := Frame.encode_ok (f := .attachRequest 1) (by decide)
  refine ⟨bytes, hencode, ?_⟩
  have hout : new.outgoing ccfg = some (.ok (.attachRequest 1)) := rfl
  rw [send, hout]
  dsimp only
  rw [hencode]
  rfl

theorem enumerating_send (ccfg : ClientConfig) (cfg : SessionConfig) (step : EnumerationStep) (answered : List Frame) :
    ∃ bytes, Encodes bytes (.controlRequest step.requestId step.packet) ∧
      (enumerating cfg (.sendControl step) step.requestId answered).send ccfg true = some (some bytes,
        enumerating cfg (.awaitControl step step.requestId) (step.requestId + 1) answered) := by
  obtain ⟨vendorId, productId, hdescriptors⟩ := descriptorSetForAttach_eq cfg.attachDevice
  have hpayload : (Frame.controlRequest step.requestId step.packet).payload.length < 2 ^ 32 := by
    rw [Frame.controlRequest, UsbControlTransfer.encode, List.length_append, UsbControlSetup.encode_length]
    exact (by decide : UsbControlSetup.len + 0 < 2 ^ 32)
  obtain ⟨bytes, hencode⟩ := Frame.encode_ok hpayload
  refine ⟨bytes, hencode, ?_⟩
  have hout : (enumerating cfg (.sendControl step) step.requestId answered).outgoing ccfg =
      some (.ok (.controlRequest step.requestId step.packet)) := by
    simp only [outgoing, enumerating, hdescriptors, EnumerationStep.setup_eq]
    show some (step.packet.readable.bind fun _ => .ok (Frame.controlRequest step.requestId step.packet)) = _
    rw [EnumerationStep.packet_readable]
    rfl
  rw [send, hout]
  dsimp only
  rw [hencode]
  rfl

theorem attaching_receive {bytes : List UInt8} (h : Encodes bytes (attachAnswer cfg.attachDevice)) :
    attaching.receive ccfg bytes = some (enumerating cfg (.sendControl .deviceDescriptor) 2 []) :=
  congrArg some (waitForLifecycleResponse_answer h)

theorem enumerating_receive {bytes : List UInt8} (h : Encodes bytes (controlAnswer cfg step)) :
    (enumerating cfg (.awaitControl step step.requestId) (step.requestId + 1) answered).receive ccfg bytes =
      some ((enumerating cfg (.awaitControl step step.requestId) (step.requestId + 1)
        (answered ++ [controlAnswer cfg step])).enumerated step) :=
  congrArg some (waitForControlResponse_answer (handleControlRequest_answer cfg step).2 h)

theorem enumerated_next {next : EnumerationStep} (h : step.next = some next) :
    (enumerating cfg (.awaitControl step step.requestId) (step.requestId + 1) answered).enumerated step =
      enumerating cfg (.sendControl next) next.requestId answered := by
  unfold enumerated
  rw [h, ← EnumerationStep.next_requestId h]
  rfl

theorem answered_snoc (h : Answered (step.earlier.map EnumerationStep.request) answered) :
    Answered ((step.earlier ++ [step]).map EnumerationStep.request) (answered ++ [controlAnswer cfg step]) := by
  have hanswer := (handleControlRequest_answer cfg step).2
  rw [List.map_append]
  exact List.rel_append h (.cons ⟨hanswer.requestId, hanswer.frameType, hanswer.status⟩ .nil)

end

end ClientSession

namespace ClientDaemon

inductive Phase (cfg : SessionConfig) (s : ClientDaemon) : Prop where
  | start (hclient : s.client = .new) (hidle : Idle s (attachExchange cfg).before)
  | attaching (hclient : s.client = .attaching) (hexchange : Exchanging (attachExchange cfg) s)
  | enumerating {step answered} (hclient : s.client = .enumerating cfg (.sendControl step) step.requestId answered)
      (hanswered : Answered (step.earlier.map EnumerationStep.request) answered)
      (hidle : Idle s (controlExchange cfg step).before)
  | controlling {step answered}
      (hclient : s.client = .enumerating cfg (.awaitControl step step.requestId) (step.requestId + 1) answered)
      (hanswered : Answered (step.earlier.map EnumerationStep.request) answered)
      (hexchange : Exchanging (controlExchange cfg step) s)
  | running (hrunning : Running cfg s)

def rank (cfg : SessionConfig) (s : ClientDaemon) : Nat := s.client.main.rank + daemonRank cfg s

/-- The phase after a step; until the client is attached every step but the worker's is progress. -/
structure Progress (cfg : SessionConfig) (s s' : ClientDaemon) (worker : Bool) : Prop where
  phase : Phase cfg s'
  rank_le : s'.client.state = .connected →
    s.client.state = .connected ∧ rank cfg s' + (if worker then 0 else 1) ≤ rank cfg s
  attached : s.client.state = .connected → s'.client.state = .connected ∨ s'.client.state = .attached

section
variable {ccfg : ClientConfig} {cfg : SessionConfig} {s s' : ClientDaemon}

theorem new_phase (cfg : SessionConfig) : Phase cfg new :=
  .start rfl ⟨rfl, rfl, rfl, ⟨rfl, rfl, rfl, rfl, rfl, rfl, rfl⟩⟩

theorem progress_of_daemon {worker : Bool} (hclient : s'.client = s.client) (hphase : Phase cfg s')
    (hrank : daemonRank cfg s' + (if worker then 0 else 1) ≤ daemonRank cfg s) : Progress cfg s s' worker where
  phase := hphase
  rank_le := by
    intro hstate
    refine ⟨hclient ▸ hstate, ?_⟩
    unfold rank
    rw [hclient]
    omega
  attached := fun hstate => Or.inl (hclient ▸ hstate)

theorem progress_of_running {worker : Bool} (h : Running cfg s) (h' : Running cfg s') : Progress cfg s s' worker where
  phase := .running h'
  rank_le := fun hstate => absurd hstate h'.client.state
  attached := fun hstate => absurd hstate h.client.state

theorem Phase.daemon_step {a : MockSessionAct} (h : Phase cfg s) (hprovenance : s.daemon.Provenance)
    (hstep : step ccfg cfg s (.daemon a) = some s') : Progress cfg s s' a.isWorker := by
  cases h with
  | start hclient hidle =>
    obtain ⟨hsame, hidle, hrank⟩ := hidle.daemon_step hprovenance (by rw [hclient]; rfl) hstep
    exact progress_of_daemon hsame (.start (hsame.trans hclient) hidle) hrank
  | attaching hclient hexchange =>
    obtain ⟨hsame, hexchange, hrank⟩ := hexchange.daemon_step hprovenance (by rw [hclient]; rfl) hstep
    exact progress_of_daemon hsame (.attaching (hsame.trans hclient) hexchange) hrank
  | enumerating hclient hanswered hidle =>
    obtain ⟨hsame, hidle, hrank⟩ := hidle.daemon_step hprovenance (by rw [hclient]; rfl) hstep
    exact progress_of_daemon hsame (.enumerating (hsame.trans hclient) hanswered hidle) hrank
  | controlling hclient hanswered hexchange =>
    obtain ⟨hsame, hexchange, hrank⟩ := hexchange.daemon_step hprovenance (by rw [hclient]; rfl) hstep
    exact progress_of_daemon hsame (.controlling (hsame.trans hclient) hanswered hexchange) hrank
  | running hrunning => exact progress_of_running hrunning (hrunning.step hprovenance hstep)

theorem progress_of_request {x : Exchange cfg} {client : ClientSession} {bytes : List UInt8} (hidle : Idle s x.before)
    (hbytes : Encodes bytes x.request) (hstate : s.client.state = .connected) (hstate' : client.state = .connected)
    (hphase : Exchanging x { s with client, toDaemon := s.toDaemon ++ [bytes] } →
      Phase cfg { s with client, toDaemon := s.toDaemon ++ [bytes] })
    (hrank : client.main.rank + 3 = s.client.main.rank) :
    Progress cfg s { s with client, toDaemon := s.toDaemon ++ [bytes] } false := by
  obtain ⟨hexchange, hdaemon⟩ := hidle.request hbytes client
  refine ⟨hphase hexchange, fun _ => ⟨hstate, ?_⟩, fun _ => Or.inl hstate'⟩
  unfold rank
  rw [hdaemon]
  dsimp only
  simp only [Bool.false_eq_true, if_false]
  omega

theorem progress_of_answer {client : ClientSession} {toClient : List (List UInt8)} (hstate : s.client.state = .connected)
    (hstate' : client.state = .connected) (hphase : Phase cfg { s with client, toClient })
    (hrank : client.main.rank + 1 = s.client.main.rank) : Progress cfg s { s with client, toClient } false where
  phase := hphase
  rank_le := by
    intro _
    refine ⟨hstate, ?_⟩
    unfold rank daemonRank
    simp only [Bool.false_eq_true, if_false]
    omega
  attached := fun _ => Or.inl hstate'

/-- The last response is taken: what is in flight, and what is still to be sent, are the Events. -/
theorem running_of_answered {sent rest : List Frame} {sentBytes : List (List UInt8)} {answered : List Frame}
    (hanswered : Answered EnumerationStep.requests answered)
    (hevents : mockHidKeyboardEvents cfg.mockHidKeycodes = sent ++ rest) (hsent : Forall₂ Encodes sentBytes sent)
    (htoDaemon : s.toDaemon = []) (hmain : s.daemon.session.main = .sendingEach rest)
    (hat : DaemonAt s.daemon (controlExchange cfg .setConfiguration).after sent) :
    Running cfg { s with
      client := (ClientSession.enumerating cfg (.awaitControl .setConfiguration 6) 7 answered).enumerated
        .setConfiguration
      toClient := sentBytes } where
  client := ⟨fun h => (nomatch h), rfl, hanswered, rfl, fun _ hf => (nomatch hf), fun _ hf => nomatch hf⟩
  daemon := by
    refine ⟨hat.control, fun _ => hat.state, hat.requests, ?_⟩
    have hall : (MainPc.sendingEach rest).events = rest := by
      rw [NetworkSession.events_sendingEach, List.filter_eq_self]
      intro f hf
      exact decide_eq_true (mockHidKeyboardEvents_sendable f (hevents ▸ List.mem_append_right _ hf)).1
    dsimp only
    rw [hat.emitted, hmain, hall]
    exact hevents ▸ List.prefix_refl _
  toDaemon := by
    dsimp only
    rw [htoDaemon]
    exact fun _ hb => nomatch hb
  reports := by
    have hframes : ∀ f ∈ sent, f.frameType = .event := fun f hf =>
      (mockHidKeyboardEvents_sendable f (hevents ▸ List.mem_append_left _ hf)).1
    dsimp only
    rw [filterMap_eventOf hsent hframes, hat.emitted]
    rfl

theorem Phase.client_step {a : ClientAct} (h : Phase cfg s) (hprovenance : s.daemon.Provenance)
    (hstep : step ccfg cfg s (.client a) = some s') : Progress cfg s s' false := by
  cases h with
  | start hclient hidle =>
    obtain ⟨bytes, client, hsend, rfl⟩ :=
      hidle.client_step (by rw [hclient]; rfl) (Or.inl (by rw [hclient]; rfl)) hstep
    obtain ⟨encoded, hencoded, hnew⟩ := ClientSession.new_send ccfg
    rw [hclient, hnew] at hsend
    cases hsend
    exact progress_of_request hidle hencoded (by rw [hclient]; rfl) rfl (fun hexchange => .attaching rfl hexchange)
      (by rw [hclient]; rfl)
  | attaching hclient hexchange =>
    obtain ⟨sent, rest, bytes, sentBytes, client, hevents, hresponse, hsent, hreceive, rfl, htoDaemon, hmain, hat⟩ :=
      hexchange.client_step (by rw [hclient]; rfl) (Or.inl (by rw [hclient]; rfl)) hstep
    rw [hclient, ClientSession.attaching_receive hresponse] at hreceive
    cases hreceive
    have hidle := idle_of_answered (.enumerating cfg (.sendControl .deviceDescriptor) 2 []) hevents rfl hsent htoDaemon
      hmain hat
    exact progress_of_answer (by rw [hclient]; rfl) rfl (.enumerating rfl .nil hidle) (by rw [hclient]; rfl)
  | enumerating hclient hanswered hidle =>
    rename_i step answered
    obtain ⟨bytes, client, hsend, rfl⟩ :=
      hidle.client_step (by rw [hclient]; rfl) (Or.inr ⟨step, by rw [hclient]; rfl⟩) hstep
    obtain ⟨encoded, hencoded, henumerating⟩ := ClientSession.enumerating_send ccfg cfg step answered
    rw [hclient, henumerating] at hsend
    cases hsend
    exact progress_of_request (x := controlExchange cfg step) hidle hencoded (by rw [hclient]; rfl) rfl
      (fun hexchange => .controlling rfl hanswered hexchange) (by rw [hclient]; cases step <;> rfl)
  | controlling hclient hanswered hexchange =>
    rename_i step answered
    obtain ⟨sent, rest, bytes, sentBytes, client, hevents, hresponse, hsent, hreceive, rfl, htoDaemon, hmain, hat⟩ :=
      hexchange.client_step (by rw [hclient]; rfl) (Or.inr ⟨step, step.requestId, by rw [hclient]; rfl⟩) hstep
    rw [hclient, ClientSession.enumerating_receive hresponse] at hreceive
    have hsnoc : Answered ((step.earlier ++ [step]).map EnumerationStep.request)
        (answered ++ [controlAnswer cfg step]) := ClientSession.answered_snoc hanswered
    cases hnext : step.next with
    | some next =>
      rw [ClientSession.enumerated_next hnext] at hreceive
      cases hreceive
      rw [EnumerationStep.next_earlier hnext] at hsnoc
      have hidle := idle_of_answered (.enumerating cfg (.sendControl next) next.requestId
        (answered ++ [controlAnswer cfg step])) hevents (EnumerationStep.events_of_next hnext _) hsent htoDaemon hmain
        hat
      rw [controlExchange_next hnext] at hidle
      refine progress_of_answer (by rw [hclient]; rfl) rfl (.enumerating rfl hsnoc hidle) ?_
      have hleft := EnumerationStep.next_left hnext
      rw [hclient]
      simp only [ClientSession.enumerating, ClientPc.rank]
      omega
    | none =>
      obtain rfl := EnumerationStep.next_none hnext
      cases hreceive
      exact ⟨.running (running_of_answered hsnoc hevents hsent htoDaemon hmain hat), fun h => (nomatch h),
        fun _ => Or.inr rfl⟩
  | running hrunning => exact progress_of_running hrunning (hrunning.step hprovenance hstep)

end

end ClientDaemon

end WhyUsb
