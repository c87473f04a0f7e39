import WhyUsb.Session.Enumeration

/-!
# One exchange of the handshake

A request of the client is in flight, being answered, or answered with the
response, and the Events behind it, in flight. The client waits all the time:
the steps are those of the daemon, and each but the worker's brings the
response nearer.
-/

namespace WhyUsb

open List Lts

def SessionEvent.emitted : SessionEvent → Option Frame
  | sent f true => if f.frameType = .event then some f else none
  | _ => none

def SessionEvent.controlRequest : SessionEvent → Option Frame
  | received f => if f.frameType = .request ∧ f.transferType = .control then some f else none
  | _ => none

/-! ## The worker -/

structure NetworkSession.SameMain (s s' : NetworkSession) : Prop where
  lifecycle : s'.lifecycle = s.lifecycle
  descriptors : s'.activeDescriptors = s.activeDescriptors
  control : s'.control = s.control
  main : s'.main = s.main
  trace : s'.trace = s.trace

namespace MockSession

section
variable {cfg : SessionConfig} {d d' : MockSession} {a : MockSessionAct}

theorem step_worker (ha : a.isWorker = true) (h : step cfg d a = some d') :
    NetworkSession.SameMain d.session d'.session ∧ d'.pumping = d.pumping := by
  cases step_stepped h with
  | session hleaves hstep =>
    cases NetworkSession.step_stepped hstep with
    | checkCancelled hworker => exact ⟨⟨rfl, rfl, rfl, rfl, rfl⟩, rfl⟩
    | blockingSend hworker halive hroom => exact ⟨⟨rfl, rfl, rfl, rfl, rfl⟩, rfl⟩
    | blockingSendClosed hworker hclosed => exact ⟨⟨rfl, rfl, rfl, rfl, rfl⟩, rfl⟩
    | waitForTxFrame hworker => exact ⟨⟨rfl, rfl, rfl, rfl, rfl⟩, rfl⟩
    | _ => cases ha
  | pollTxFrame hworker hidle hstep => exact ⟨⟨rfl, rfl, rfl, rfl, rfl⟩, rfl⟩
  | pollStep hpolling hstep => exact ⟨⟨rfl, rfl, rfl, rfl, rfl⟩, rfl⟩
  | pollReturn hpolling hconsumer hstep =>
    generalize MockDriverBackend.polled _ = result at hstep
    cases NetworkSession.step_stepped hstep <;> exact ⟨⟨rfl, rfl, rfl, rfl, rfl⟩, rfl⟩
  | _ => cases ha

theorem Provenance.channel_nil (h : Provenance d) (hpushed : d.session.events SessionEvent.pushed = []) :
    d.session.channel = [] := by
  obtain ⟨requests, hrequests, hsub⟩ := sublistForall₂_iff.mp h.echoes
  rw [hpushed, List.sublist_nil] at hsub
  subst hsub
  have hproduced : d.session.produced = [] := List.forall₂_nil_right_iff.mp hrequests
  unfold NetworkSession.produced at hproduced
  simp only [List.append_eq_nil_iff] at hproduced
  exact hproduced.2.2.1

/-- Between frames, with nothing pushed, a step that has no part in the connection is the worker's. -/
theorem step_quiet (h : Provenance d) (hpushed : d.session.events SessionEvent.pushed = []) (hidle : d.pumping = false)
    (hmain : d.session.main = .select ∨ ∃ f onError rest, d.session.main = .sending f onError rest false)
    (ha : a.isLocal = true) (hstep : step cfg d a = some d') : a.isWorker = true := by
  have hother : ∀ {main : MainPc}, d.session.main = main → main ≠ .select →
      (∀ f onError rest, main ≠ .sending f onError rest false) → False := by
    rintro main rfl hselect hsending
    rcases hmain with hmain | ⟨f, onError, rest, hmain⟩
    · exact hselect hmain
    · exact hsending f onError rest hmain
  cases step_stepped hstep with
  | session hleaves hsession =>
    cases NetworkSession.step_stepped hsession with
    | receive hmain hdecode => cases ha
    | malformed hmain hdecode => cases ha
    | endOfStream hmain => cases ha
    | send hmain hencode => cases ha
    | sendPanics hmain hencode => cases ha
    | forward hmain => cases ha
    | receiveTx hmain hchannel =>
      rw [h.channel_nil hpushed] at hchannel
      cases hchannel
    | flushed hmain hpop => exact (hother hmain (by simp) (by simp)).elim
    | pushRx hmain hpop hencode => cases hleaves
    | pushRxPanics hmain hpop hencode => cases hleaves
    | pumpOnce hmain => cases hleaves
    | cleanup hmain => exact (hother hmain (by simp) (by simp)).elim
    | cancelWorker hmain => exact (hother hmain (by simp) (by simp)).elim
    | join hmain hworker => exact (hother hmain (by simp) (by simp)).elim
    | pollFrame hworker hout => cases hleaves
    | pollPanics hworker hout => cases hleaves
    | pollNone hworker => cases hleaves
    | pollError hworker => cases hleaves
    | _ => rfl
  | panics hbytes hsession =>
    cases NetworkSession.step_stepped hsession with
    | pushRx hmain hpop hencode => exact (hother hmain (by simp) (by simp)).elim
    | pushRxPanics hmain hpop hencode => exact (hother hmain (by simp) (by simp)).elim
  | pushRxBytes hbytes hpush hsession =>
    cases NetworkSession.step_stepped hsession with
    | pushRx hmain hpop hencode => exact (hother hmain (by simp) (by simp)).elim
    | pushRxPanics hmain hpop hencode => exact (hother hmain (by simp) (by simp)).elim
  | pumpNothing hidle hpop hsession =>
    cases NetworkSession.step_stepped hsession with
    | pumpOnce hmain => exact (hother hmain (by simp) (by simp)).elim
  | pumpOnce hmain hidle hpop hcall => exact (hother hmain (by simp) (by simp)).elim
  | pumpStep hpumping hstep =>
    rw [hidle] at hpumping
    cases hpumping
  | pumpReturn hpumping hproducer hsession =>
    rw [hidle] at hpumping
    cases hpumping
  | _ => rfl

end

end MockSession

/-! ## Exchanges -/

structure DaemonView where
  state : SessionState
  descriptors : Option UsbDescriptorSet
  control : ControlState
  requests : List Frame

/-- The daemon as the handshake sees it; nothing is pushed or pumped yet. -/
structure DaemonAt (d : MockSession) (at' : DaemonView) (emitted : List Frame) : Prop where
  state : d.session.lifecycle.state = at'.state
  descriptors : d.session.activeDescriptors = at'.descriptors
  control : d.session.control = at'.control
  requests : d.session.events SessionEvent.controlRequest = at'.requests
  emitted : d.session.events SessionEvent.emitted = emitted
  pushed : d.session.events SessionEvent.pushed = []
  pumping : d.pumping = false

theorem DaemonAt.of_same {d d' : MockSession} {at' : DaemonView} {emitted : List Frame} (h : DaemonAt d at' emitted)
    (hsame : NetworkSession.SameMain d.session d'.session) (hpumping : d'.pumping = d.pumping) :
    DaemonAt d' at' emitted where
  state := by rw [hsame.lifecycle, h.state]
  descriptors := by rw [hsame.descriptors, h.descriptors]
  control := by rw [hsame.control, h.control]
  requests := by rw [NetworkSession.events_of_trace hsame.trace, h.requests]
  emitted := by rw [NetworkSession.events_of_trace hsame.trace, h.emitted]
  pushed := by rw [NetworkSession.events_of_trace hsame.trace, h.pushed]
  pumping := by rw [hpumping, h.pumping]

/-- A send is booked if it is of an Event. -/
theorem DaemonAt.of_sent {d : MockSession} {at' : DaemonView} {emitted : List Frame} (h : DaemonAt d at' emitted)
    (frame : Frame) (main : MainPc) :
    DaemonAt { d with session := { d.session.record (.sent frame true) with main } } at'
      (emitted ++ (SessionEvent.sent frame true).emitted.toList) where
  state := h.state
  descriptors := h.descriptors
  control := h.control
  requests := (NetworkSession.record_events _ _ _).trans ((List.append_nil _).trans h.requests)
  emitted := h.emitted ▸ NetworkSession.record_events _ _ _
  pushed := (NetworkSession.record_events _ _ _).trans ((List.append_nil _).trans h.pushed)
  pumping := h.pumping

def Encodes (bytes : List UInt8) (f : Frame) : Prop := f.encode = some bytes

/-- The Events that a later SET_CONFIGURATION will cause. -/
def owed (keycodes : List UInt8) (control : ControlState) : Nat :=
  if control.activeConfiguration = 0 then 2 * keycodes.length else 0

/-- A request the daemon answers with `response`, and with `events` behind it. -/
structure Exchange (cfg : SessionConfig) where
  request : Frame
  response : Frame
  events : List Frame
  before : DaemonView
  after : DaemonView
  response_encodes : ∃ bytes, response.encode = some bytes
  response_frameType : response.frameType ≠ .event
  events_frameType : ∀ f ∈ events, f.frameType = .event ∧ ∃ bytes, f.encode = some bytes
  answers : ∀ s : NetworkSession, s.lifecycle.state = before.state → s.activeDescriptors = before.descriptors →
    s.control = before.control → NetworkSession.Becomes (s.handleFrame cfg true request) after.state after.descriptors
      after.control (.sending response .breakLoop events false)
  requests_eq : after.requests = before.requests ++ (SessionEvent.received request).controlRequest.toList
  owed_le : events.length + owed cfg.mockHidKeycodes after.control ≤ owed cfg.mockHidKeycodes before.control
  attached : request.frameType = .request → before.state = .attached

namespace ClientDaemon

inductive Exchanging {cfg : SessionConfig} (x : Exchange cfg) (s : ClientDaemon) : Prop where
  | requested {bytes} (hrequest : Encodes bytes x.request) (htoDaemon : s.toDaemon = [bytes])
      (htoClient : s.toClient = []) (hmain : s.daemon.session.main = .select) (hat : DaemonAt s.daemon x.before [])
  | answering (htoDaemon : s.toDaemon = []) (htoClient : s.toClient = [])
      (hmain : s.daemon.session.main = .sending x.response .breakLoop x.events false)
      (hat : DaemonAt s.daemon x.after [])
  | answered {sent rest bytes sentBytes} (hevents : x.events = sent ++ rest) (hresponse : Encodes bytes x.response)
      (hsent : Forall₂ Encodes sentBytes sent) (htoDaemon : s.toDaemon = [])
      (htoClient : s.toClient = bytes :: sentBytes) (hmain : s.daemon.session.main = .sendingEach rest)
      (hat : DaemonAt s.daemon x.after sent)

def daemonRank (cfg : SessionConfig) (s : ClientDaemon) : Nat :=
  2 * s.toDaemon.length + s.daemon.session.main.pending.length + owed cfg.mockHidKeycodes s.daemon.session.control

section
variable {ccfg : ClientConfig} {cfg : SessionConfig} {x : Exchange cfg} {s s' : ClientDaemon} {a : MockSessionAct}

theorem Exchanging.main (h : Exchanging x s) : s.daemon.session.main = .select ∨
    ∃ f onError rest, s.daemon.session.main = .sending f onError rest false := by
  cases h with
  | requested hrequest htoDaemon htoClient hmain hat => exact Or.inl hmain
  | answering htoDaemon htoClient hmain hat => exact Or.inr ⟨_, _, _, hmain⟩
  | answered hevents hresponse hsent htoDaemon htoClient hmain hat =>
    rename_i sent rest bytes sentBytes
    cases rest with
    | nil => exact Or.inl hmain
    | cons f rest => exact Or.inr ⟨_, _, _, hmain⟩

theorem Exchanging.at' (h : Exchanging x s) : ∃ at' emitted, DaemonAt s.daemon at' emitted := by
  cases h with
  | requested hrequest htoDaemon htoClient hmain hat => exact ⟨_, _, hat⟩
  | answering htoDaemon htoClient hmain hat => exact ⟨_, _, hat⟩
  | answered hevents hresponse hsent htoDaemon htoClient hmain hat => exact ⟨_, _, hat⟩

theorem Exchanging.of_same (h : Exchanging x s) (hsame : NetworkSession.SameMain s.daemon.session s'.daemon.session)
    (hpumping : s'.daemon.pumping = s.daemon.pumping) (htoDaemon : s'.toDaemon = s.toDaemon)
    (htoClient : s'.toClient = s.toClient) : Exchanging x s' := by
  cases h with
  | requested hrequest hd hc hmain hat =>
    exact .requested hrequest (htoDaemon.trans hd) (htoClient.trans hc) (hsame.main.trans hmain)
      (hat.of_same hsame hpumping)
  | answering hd hc hmain hat =>
    exact .answering (htoDaemon.trans hd) (htoClient.trans hc) (hsame.main.trans hmain) (hat.of_same hsame hpumping)
  | answered hevents hresponse hsent hd hc hmain hat =>
    exact .answered hevents hresponse hsent (htoDaemon.trans hd) (htoClient.trans hc) (hsame.main.trans hmain)
      (hat.of_same hsame hpumping)

theorem Exchanging.daemonReceive {bytes : List UInt8} {toDaemon : List (List UInt8)} {driverOk : Bool}
    {daemon : MockSession} (h : Exchanging x s) (hhead : s.toDaemon = bytes :: toDaemon)
    (hstep : s.daemon.step cfg (.session (.receive bytes driverOk)) = some daemon) :
    Exchanging x { s with daemon, toDaemon } ∧ daemonRank cfg { s with daemon, toDaemon } < daemonRank cfg s := by
  cases h with
  | answering htoDaemon htoClient hmain hat => rw [htoDaemon] at hhead; cases hhead
  | answered hevents hresponse hsent htoDaemon htoClient hmain hat => rw [htoDaemon] at hhead; cases hhead
  | requested hrequest htoDaemon htoClient hmain hat =>
    rw [htoDaemon] at hhead
    obtain ⟨rfl, rfl⟩ := List.cons.inj hhead
    cases MockSession.step_stepped hstep with
    | session hleaves hsession =>
      obtain rfl : driverOk = true := hleaves
      cases NetworkSession.step_stepped hsession with
      | malformed _ hdecode =>
        rw [Frame.decode_of_encode hrequest] at hdecode
        cases hdecode
      | receive _ hdecode =>
        rw [Frame.decode_of_encode hrequest] at hdecode
        obtain rfl := Except.ok.inj hdecode
        obtain ⟨hstate, hdescriptors, hcontrol, hmain'⟩ := x.answers
          (s.daemon.session.record (.received x.request)) hat.state hat.descriptors hat.control
        have htrace := NetworkSession.received_trace cfg s.daemon.session true x.request
        refine ⟨.answering rfl htoClient hmain' ⟨hstate, hdescriptors, hcontrol, ?_, ?_, ?_, hat.pumping⟩, ?_⟩
        · rw [NetworkSession.events_of_trace htrace, NetworkSession.record_events, hat.requests, x.requests_eq]
        · rw [NetworkSession.events_of_trace htrace, NetworkSession.record_events, hat.emitted]
          rfl
        · rw [NetworkSession.events_of_trace htrace, NetworkSession.record_events, hat.pushed]
          rfl
        · have howed := x.owed_le
          unfold daemonRank
          rw [htoDaemon, hmain, hmain', hcontrol, hat.control]
          simp only [MainPc.pending, List.length_cons, List.length_nil]
          omega

theorem Exchanging.daemonSend {ok : Bool} {daemon : MockSession} (h : Exchanging x s) (hok : ok = true)
    (hstep : s.daemon.step cfg (.session (.send ok)) = some daemon) :
    Exchanging x { s with daemon, toClient := s.toClient ++ if ok then s.daemon.session.main.outgoing.toList else [] } ∧
      daemonRank cfg { s with daemon, toClient := s.toClient ++
        if ok then s.daemon.session.main.outgoing.toList else [] } < daemonRank cfg s := by
  subst hok
  cases MockSession.step_stepped hstep with
  | session hleaves hsession =>
    cases h with
    | requested hrequest htoDaemon htoClient hmain hat =>
      cases NetworkSession.step_stepped hsession with
      | send hsending hencode => rw [hmain] at hsending; cases hsending
      | sendPanics hsending hencode => rw [hmain] at hsending; cases hsending
      | forward hforwarding => rw [hmain] at hforwarding; cases hforwarding
    | answering htoDaemon htoClient hmain hat =>
      cases NetworkSession.step_stepped hsession with
      | forward hforwarding => rw [hmain] at hforwarding; cases hforwarding
      | sendPanics hsending hencode =>
        rw [hmain] at hsending
        cases hsending
        obtain ⟨bytes, hbytes⟩ := x.response_encodes
        rw [hencode] at hbytes
        cases hbytes
      | send hsending hencode =>
        rename_i frame onError rest thenBreak bytes
        rw [hmain] at hsending
        cases hsending
        have hout : s.daemon.session.main.outgoing = some bytes := by rw [hmain]; exact hencode
        have hemitted : (SessionEvent.sent x.response true).emitted = none := if_neg x.response_frameType
        have hat' := hat.of_sent x.response (.afterSend .breakLoop x.events false true)
        rw [hemitted] at hat'
        refine ⟨.answered (List.nil_append _).symm hencode .nil htoDaemon ?_ rfl hat', ?_⟩
        · simp only [htoClient, hout, if_true, Option.toList_some, List.nil_append]
        · have hpending : (MainPc.afterSend .breakLoop x.events false true).pending = x.events :=
            NetworkSession.sendingEach_pending _
          unfold daemonRank
          simp only [htoDaemon, hmain, hpending]
          simp only [MainPc.pending, List.length_cons, NetworkSession.record_control]
          omega
    | answered hevents hresponse hsent htoDaemon htoClient hmain hat =>
      rename_i sent rest response sentBytes
      cases rest with
      | nil =>
        cases NetworkSession.step_stepped hsession with
        | send hsending hencode => rw [hmain] at hsending; cases hsending
        | sendPanics hsending hencode => rw [hmain] at hsending; cases hsending
        | forward hforwarding => rw [hmain] at hforwarding; cases hforwarding
      | cons f rest =>
        obtain ⟨hframeType, encoded, hencoded⟩ := x.events_frameType f (by simp [hevents])
        cases NetworkSession.step_stepped hsession with
        | forward hforwarding => rw [hmain] at hforwarding; cases hforwarding
        | sendPanics hsending hencode =>
          rw [hmain] at hsending
          cases hsending
          rw [hencode] at hencoded
          cases hencoded
        | send hsending hencode =>
          rename_i frame onError rest' thenBreak bytes
          rw [hmain] at hsending
          cases hsending
          have hout : s.daemon.session.main.outgoing = some bytes := by rw [hmain]; exact hencode
          have hemitted : (SessionEvent.sent f true).emitted = some f := if_pos hframeType
          have hsent' : Forall₂ Encodes (sentBytes ++ [bytes]) (sent ++ [f]) :=
            List.rel_append hsent (.cons hencode .nil)
          have hat' := hat.of_sent f (.afterSend .skipRest rest false true)
          rw [hemitted] at hat'
          refine ⟨.answered ?_ hresponse hsent' htoDaemon ?_ rfl hat', ?_⟩
          · rw [hevents, List.append_assoc, List.singleton_append]
          · simp only [htoClient, hout, if_true, Option.toList_some, List.cons_append]
          · have hpending : (MainPc.afterSend .skipRest rest false true).pending = rest :=
              NetworkSession.sendingEach_pending _
            unfold daemonRank
            simp only [htoDaemon, hmain, hpending]
            simp only [MainPc.sendingEach, MainPc.pending, List.length_cons, NetworkSession.record_control]
            omega

/-- During an exchange the daemon's steps leave the client as it is, and all but the worker's bring the end nearer. -/
theorem Exchanging.daemon_step (h : Exchanging x s) (hprovenance : s.daemon.Provenance)
    (hclient : s.client.main.gone = false) (hstep : step ccfg cfg s (.daemon a) = some s') :
    s'.client = s.client ∧ Exchanging x s' ∧
      daemonRank cfg s' + (if a.isWorker then 0 else 1) ≤ daemonRank cfg s := by
  cases daemonStep_stepped hstep with
  | daemonReceive hhead hdaemon =>
    obtain ⟨h', hrank⟩ := h.daemonReceive hhead hdaemon
    exact ⟨rfl, h', hrank⟩
  | daemonSend hok hdaemon =>
    obtain ⟨h', hrank⟩ := h.daemonSend (hok.resolve_right (by simp [hclient])) hdaemon
    exact ⟨rfl, h', hrank⟩
  | daemonEnd hgone hdaemon =>
    rw [hclient] at hgone
    cases hgone
  | daemonLocal hlocal hdaemon =>
    obtain ⟨at', emitted, hat⟩ := h.at'
    have hworker := MockSession.step_quiet hprovenance hat.pushed hat.pumping h.main hlocal hdaemon
    obtain ⟨hsame, hpumping⟩ := MockSession.step_worker hworker hdaemon
    refine ⟨rfl, h.of_same hsame hpumping rfl rfl, ?_⟩
    unfold daemonRank
    dsimp only
    rw [hworker, if_pos rfl, hsame.main, hsame.control]
    exact Nat.le_refl _

end

end ClientDaemon

end WhyUsb
