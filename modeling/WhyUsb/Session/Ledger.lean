import WhyUsb.Session.DetachLimit
import WhyUsb.Session.EndToEnd

/-!
# Client and daemon with their books

The two sessions over their transport, with the books of the client and the
bytes it was given. The books refuse no step. What one side takes the other has
sent, in this order, and each Response that reaches the client has a Request of
its id to itself.
-/

namespace WhyUsb

open List Lts Matching

structure ClientDaemonRun where
  client : ClientRun
  daemon : MockSession
  toDaemon : List (List UInt8)
  toClient : List (List UInt8)
  /-- What the client has received. -/
  delivered : List (List UInt8)

def ClientAct.received : ClientAct → List (List UInt8)
  | receive bytes => [bytes]
  | _ => []

/-! ## Ids -/

def Frame.idOf (frameType : FrameType) (f : Frame) : Option UInt64 :=
  if f.frameType = frameType then some f.requestId else none

def responseId (bytes : List UInt8) : Option UInt64 :=
  match Frame.decode bytes with
  | .ok f => f.idOf .response
  | .error _ => none

namespace SessionEvent

def taken : SessionEvent → Option Frame
  | received f => some f
  | _ => none

/-- What a step of the main loop has sent, if the connection took it. -/
def bytes : SessionEvent → Option (List UInt8)
  | sent f _ => f.encode
  | forwarded bytes _ => some bytes
  | _ => none

end SessionEvent

namespace ClientDaemonRun

def system (s : ClientDaemonRun) : ClientDaemon where
  client := s.client.session
  daemon := s.daemon
  toDaemon := s.toDaemon
  toClient := s.toClient

def new : ClientDaemonRun where
  client := .new
  daemon := .new
  toDaemon := []
  toClient := []
  delivered := []

section
variable (ccfg : ClientConfig) (cfg : SessionConfig)

def step (s : ClientDaemonRun) (a : ClientDaemonAct) : Option ClientDaemonRun :=
  (s.system.step ccfg cfg a).bind fun system =>
    match a with
    | .client a => (s.client.step ccfg a).map fun client =>
      { client
        daemon := system.daemon
        toDaemon := system.toDaemon
        toClient := system.toClient
        delivered := s.delivered ++ a.received }
    | .daemon _ => some
      { s with
        daemon := system.daemon
        toDaemon := system.toDaemon
        toClient := system.toClient }

variable {ccfg cfg} {s s' : ClientDaemonRun}

/-! ## The books refuse no step -/

theorem client_step {a : ClientAct} {system : ClientDaemon} (h : s.system.step ccfg cfg (.client a) = some system) :
    ∃ client, s.client.step ccfg a = some client ∧ client.session = system.client := by
  cases ClientDaemon.clientStep_stepped h with
  | clientSend hok hsend =>
    rename_i ok bytes session
    have hsession : s.client.session.send ccfg ok = some (bytes, session) := hsend
    exact ⟨_, congrArg (Option.map _) hsession, rfl⟩
  | clientReceive hhead hreceive =>
    rename_i bytes toClient session
    have hsession : s.client.session.receive ccfg bytes = some session := hreceive
    exact ⟨_, congrArg (Option.map _) hsession, rfl⟩
  | clientEnd hgone hend =>
    have hsession : s.client.session.step ccfg .endOfStream = some _ := hend
    exact ⟨_, congrArg (Option.map _) hsession, rfl⟩
  | clientLocal hlocal hclient =>
    obtain ⟨client, hstep, hsession⟩ := ClientRun.step_of_session (s := s.client) hclient
    exact ⟨client, hstep, hsession⟩

theorem step_client {a : ClientAct} (h : step ccfg cfg s (.client a) = some s') :
    s.system.step ccfg cfg (.client a) = some s'.system ∧ s.client.step ccfg a = some s'.client ∧
      s'.delivered = s.delivered ++ a.received := by
  obtain ⟨system, hsystem, hmap⟩ := Option.bind_eq_some_iff.mp h
  obtain ⟨client, hclient, rfl⟩ := Option.map_eq_some_iff.mp hmap
  obtain ⟨client', hclient', hsession⟩ := client_step hsystem
  obtain rfl := Option.some.inj (hclient.symm.trans hclient')
  refine ⟨?_, hclient, rfl⟩
  rw [hsystem, Option.some.injEq]
  unfold ClientDaemonRun.system
  rw [hsession]

theorem step_daemon {a : MockSessionAct} (h : step ccfg cfg s (.daemon a) = some s') :
    s.system.step ccfg cfg (.daemon a) = some s'.system ∧ s'.client = s.client ∧ s'.delivered = s.delivered := by
  obtain ⟨system, hsystem, hsome⟩ := Option.bind_eq_some_iff.mp h
  obtain rfl := Option.some.inj hsome
  have hsame : system.client = s.client.session := by
    cases ClientDaemon.daemonStep_stepped hsystem with
    | _ => rfl
  refine ⟨?_, rfl, rfl⟩
  rw [hsystem, Option.some.injEq]
  unfold ClientDaemonRun.system
  rw [← hsame]

theorem step_system {a : ClientDaemonAct} (h : step ccfg cfg s a = some s') :
    s.system.step ccfg cfg a = some s'.system := by
  cases a with
  | client a => exact (step_client h).1
  | daemon a => exact (step_daemon h).1

theorem exists_step {a : ClientDaemonAct} {system : ClientDaemon} (h : s.system.step ccfg cfg a = some system) :
    ∃ s', step ccfg cfg s a = some s' ∧ s'.system = system := by
  have hstep : ∃ s', step ccfg cfg s a = some s' := by
    unfold step
    rw [h, Option.bind_some]
    cases a with
    | client a =>
      obtain ⟨client, hclient, -⟩ := client_step h
      exact ⟨_, congrArg (Option.map _) hclient⟩
    | daemon a => exact ⟨_, rfl⟩
  obtain ⟨s', hs'⟩ := hstep
  exact ⟨s', hs', Option.some.inj ((step_system hs').symm.trans h)⟩

/-- Every run of the system is one with the books. -/
theorem exists_run : ∀ {acts : List ClientDaemonAct} {s : ClientDaemonRun} {system : ClientDaemon},
    run (ClientDaemon.step ccfg cfg) s.system acts = some system →
      ∃ s', run (step ccfg cfg) s acts = some s' ∧ s'.system = system
  | [], s, system, h => ⟨s, rfl, Option.some.inj h⟩
  | a :: acts, s, system, h => by
    rw [run_cons] at h
    obtain ⟨system₁, hfirst, hrest⟩ := Option.bind_eq_some_iff.mp h
    obtain ⟨s₁, hs₁, rfl⟩ := exists_step hfirst
    obtain ⟨s', hs', hsystem⟩ := exists_run hrest
    exact ⟨s', by rw [run_cons_of_step _ hs₁, hs'], hsystem⟩

end

/-! ## The transport -/

/-- Frames and bytes arrive in the order in which they were sent, each once at most. -/
structure Carried (s : ClientDaemonRun) : Prop where
  toDaemon : ∃ inFlight, Forall₂ Encodes s.toDaemon inFlight ∧
    s.daemon.session.events SessionEvent.taken ++ inFlight <+ s.client.sent
  toClient : s.delivered ++ s.toClient <+ s.daemon.session.events SessionEvent.bytes

end ClientDaemonRun

/-! ## What a step of the daemon books -/

def SessionAct.taken : SessionAct → List Frame
  | receive bytes _ =>
    match Frame.decode bytes with
    | .ok f => [f]
    | .error _ => []
  | _ => []

def MockSessionAct.taken : MockSessionAct → List Frame
  | session a => a.taken
  | _ => []

namespace NetworkSession

def sends (s : NetworkSession) : SessionAct → List (List UInt8)
  | .send _ => s.main.outgoing.toList
  | _ => []

section
variable {cfg : SessionConfig} {s s' : NetworkSession} {a : SessionAct}

theorem step_taken (h : step cfg s a = some s') :
    s'.events SessionEvent.taken = s.events SessionEvent.taken ++ a.taken := by
  cases step_stepped h with
  | receive hmain hdecode =>
    rw [events_of_trace (received_trace cfg s _ _), record_events, SessionAct.taken, hdecode]
    rfl
  | malformed hmain hdecode =>
    rw [SessionAct.taken, hdecode]
    exact (List.append_nil _).symm
  | send hmain hencode => exact record_events s (.sent _ _) _
  | forward hmain => exact record_events s (.forwarded _ _) _
  | pushRx hmain hpop hencode =>
    rename_i failed transfer queues bytes ok
    exact record_events { s with queues } (.pushRx transfer.frame ok) _
  | _ => exact (List.append_nil _).symm

theorem step_bytes (h : step cfg s a = some s') :
    s'.events SessionEvent.bytes = s.events SessionEvent.bytes ++ s.sends a := by
  cases step_stepped h with
  | receive hmain hdecode =>
    rw [events_of_trace (received_trace cfg s _ _)]
    exact record_events s _ SessionEvent.bytes
  | send hmain hencode =>
    rw [sends, hmain]
    exact record_events s (.sent _ _) _
  | sendPanics hmain hencode =>
    rw [sends, hmain, MainPc.outgoing, hencode]
    exact (List.append_nil _).symm
  | forward hmain =>
    rw [sends, hmain]
    exact record_events s (.forwarded _ _) _
  | pushRx hmain hpop hencode =>
    rename_i failed transfer queues bytes ok
    exact record_events { s with queues } (.pushRx transfer.frame ok) _
  | _ => exact (List.append_nil _).symm

end

/-- What the worker has made and the main loop has not sent. -/
def waiting (s : NetworkSession) : List (List UInt8) := s.main.forwardingBytes ++ (s.channel ++ s.worker.held)

theorem produced_eq (s : NetworkSession) : s.produced = s.events SessionEvent.forwardedBytes ++ s.waiting := rfl

theorem request_ids (s : NetworkSession) : (s.events SessionEvent.request).map (·.requestId) =
    (s.events SessionEvent.taken).filterMap (Frame.idOf .request) := by
  unfold events
  rw [List.map_filterMap, List.filterMap_filterMap]
  congr 1
  funext e
  cases e.2 with
  | received f => by_cases hf : f.frameType = .request <;> simp [SessionEvent.request, SessionEvent.taken, Frame.idOf, hf]
  | _ => rfl

theorem direct_id {f : Frame} {bytes : List UInt8} {r : UInt64} (h : f.encode = some bytes)
    (hid : responseId bytes = some r) : f.frameType = .response ∧ f.requestId = r := by
  rw [responseId, Frame.decode_of_encode h] at hid
  exact (Option.ite_none_right_eq_some.mp hid).imp_right Option.some.inj

theorem bytes_ids (s : NetworkSession) : (s.events SessionEvent.bytes).filterMap responseId <+~
    (s.events SessionEvent.direct).map (·.requestId) ++
      (s.events SessionEvent.forwardedBytes).filterMap responseId := by
  have hbytes : (s.events SessionEvent.bytes).filterMap responseId =
      s.trace.filterMap fun e => e.2.bytes.bind responseId := List.filterMap_filterMap
  have hdirect : (s.events SessionEvent.direct).map (·.requestId) =
      s.trace.filterMap fun e => e.2.direct.map (·.requestId) := List.map_filterMap
  have hforwarded : (s.events SessionEvent.forwardedBytes).filterMap responseId =
      s.trace.filterMap fun e => e.2.forwardedBytes.bind responseId := List.filterMap_filterMap
  rw [hbytes, hdirect, hforwarded]
  refine subperm_filterMap_append (fun e r h => ?_) s.trace
  cases hevent : e.2 with
  | sent f ok =>
    rw [hevent] at h
    obtain ⟨bytes, hencode, hid⟩ := Option.bind_eq_some_iff.mp h
    obtain ⟨hframe, rfl⟩ := direct_id hencode hid
    exact Or.inl (by rw [SessionEvent.direct, if_pos hframe]; rfl)
  | forwarded bytes ok =>
    rw [hevent] at h
    exact Or.inr h
  | _ =>
    rw [hevent] at h
    cases h

end NetworkSession

/-! ## Responses and Requests by their ids -/

namespace MockSession

def sends (s : MockSession) : MockSessionAct → List (List UInt8)
  | .session a => s.session.sends a
  | _ => []

section
variable {cfg : SessionConfig} {s s' : MockSession} {a : MockSessionAct}

theorem step_books (h : step cfg s a = some s') :
    s'.session.events SessionEvent.taken = s.session.events SessionEvent.taken ++ a.taken ∧
      s'.session.events SessionEvent.bytes = s.session.events SessionEvent.bytes ++ s.sends a := by
  cases step_stepped h with
  | session hleaves hsession => exact ⟨NetworkSession.step_taken hsession, NetworkSession.step_bytes hsession⟩
  | panics hbytes hsession => exact ⟨NetworkSession.step_taken hsession, NetworkSession.step_bytes hsession⟩
  | pushRxBytes hbytes hpush hsession =>
    exact ⟨NetworkSession.step_taken hsession, NetworkSession.step_bytes hsession⟩
  | pumpNothing hidle hpop hsession => exact ⟨NetworkSession.step_taken hsession, NetworkSession.step_bytes hsession⟩
  | pumpReturn hpumping hproducer hsession =>
    exact ⟨NetworkSession.step_taken hsession, NetworkSession.step_bytes hsession⟩
  | pollReturn hpolling hconsumer hsession =>
    exact ⟨NetworkSession.step_taken hsession, NetworkSession.step_bytes hsession⟩
  | _ => exact ⟨(List.append_nil _).symm, (List.append_nil _).symm⟩

theorem taken_local (ha : a.isLocal = true) : a.taken = [] := by
  cases a with
  | session b =>
    cases b with
    | receive bytes driverOk => cases ha
    | _ => rfl
  | _ => rfl

/-- The Responses of the main loop and all that the worker has made have Requests of their ids to themselves. -/
theorem Provenance.ids (h : Provenance s) : (s.session.events SessionEvent.direct).map (·.requestId) ++
    s.session.produced.filterMap responseId <+~ (s.session.events SessionEvent.request).map (·.requestId) := by
  obtain ⟨answered, hanswers, honce⟩ := h.answered
  obtain ⟨requests, hrequests, hsub⟩ := sublistForall₂_iff.mp h.echoes
  have hdirect : (s.session.events SessionEvent.direct).map (·.requestId) = answered.map (·.requestId) :=
    map_eq_of_forall₂ (fun response request hanswer => hanswer.2) hanswers
  have hproduced : s.session.produced.filterMap responseId = requests.map (·.requestId) := by
    refine filterMap_eq_of_forall₂ (fun bytes request hecho => ?_) hrequests
    obtain ⟨response, hdecode, hecho⟩ := hecho
    rw [responseId, hdecode]
    exact (if_pos hecho.frameType).trans (congrArg some hecho.requestId)
  rw [hdirect, hproduced, ← List.map_append]
  exact subperm_map _ ((hsub.append_left answered).subperm.trans honce)

end

end MockSession

theorem ClientSession.send_encodes {cfg : ClientConfig} {s s' : ClientSession} {ok : Bool}
    {bytes : Option (List UInt8)} (h : s.send cfg ok = some (bytes, s')) :
    Forall₂ Encodes bytes.toList (ClientRun.sentFrame cfg s).toList := by
  unfold ClientSession.send at h
  unfold ClientRun.sentFrame
  cases hout : s.outgoing cfg with
  | none =>
    rw [hout] at h
    cases h
  | some out =>
    rw [hout] at h
    cases out with
    | error e =>
      obtain ⟨rfl, -⟩ := Prod.mk.inj (Option.some.inj h)
      exact .nil
    | ok frame =>
      dsimp only at h ⊢
      cases hencode : frame.encode with
      | none =>
        rw [hencode] at h
        obtain ⟨rfl, -⟩ := Prod.mk.inj (Option.some.inj h)
        exact .nil
      | some encoded =>
        rw [hencode] at h
        obtain ⟨rfl, -⟩ := Prod.mk.inj (Option.some.inj h)
        exact .cons hencode .nil

namespace ClientDaemonRun

section
variable {ccfg : ClientConfig} {cfg : SessionConfig} {s s' : ClientDaemonRun}

/-! ## What a step carries -/

/-- A client step puts frames it books on the way, and takes what it receives from the front. -/
structure ClientCarries (s : ClientDaemonRun) (a : ClientAct) (s' : ClientDaemonRun) : Prop where
  daemon : s'.daemon = s.daemon
  sends : ∃ bytes frames sent, s'.toDaemon = s.toDaemon ++ bytes ∧ Forall₂ Encodes bytes frames ∧ frames <+ sent ∧
    s'.client.sent = s.client.sent ++ sent
  receives : s.toClient = a.received ++ s'.toClient

/-- A daemon step takes the frame it receives from the front, and puts on the way what it books as sent. -/
structure DaemonCarries (s : ClientDaemonRun) (a : MockSessionAct) (s' : ClientDaemonRun) : Prop where
  receives : ∃ bytes, s.toDaemon = bytes ++ s'.toDaemon ∧ ∀ frames, Forall₂ Encodes bytes frames → frames = a.taken
  sends : ∃ sent, s'.toClient = s.toClient ++ sent ∧ sent <+ s.daemon.sends a

theorem client_carries {a : ClientAct} (h : step ccfg cfg s (.client a) = some s') : ClientCarries s a s' := by
  obtain ⟨hsystem, hclient, -⟩ := step_client h
  have hsession := ClientRun.step_session hclient
  generalize hnext : s'.system = system at hsystem
  have hdaemon : s'.daemon = system.daemon := congrArg ClientDaemon.daemon hnext
  have htoDaemon : s'.toDaemon = system.toDaemon := congrArg ClientDaemon.toDaemon hnext
  have htoClient : s'.toClient = system.toClient := congrArg ClientDaemon.toClient hnext
  have hquiet : (∀ ok, a ≠ .send ok) → system.toDaemon = s.toDaemon → ∃ bytes frames sent,
      s'.toDaemon = s.toDaemon ++ bytes ∧ Forall₂ Encodes bytes frames ∧ frames <+ sent ∧
        s'.client.sent = s.client.sent ++ sent := by
    intro ha hsame
    obtain ⟨ok, -, hsend, -⟩ | ⟨-, hsent⟩ := hsession
    · exact absurd hsend (ha ok)
    · refine ⟨[], [], [], ?_, .nil, List.Sublist.refl _, ?_⟩
      · rw [List.append_nil, htoDaemon, hsame]
      · rw [List.append_nil, hsent]
  cases ClientDaemon.clientStep_stepped hsystem with
  | clientSend hok hsend =>
    rename_i ok bytes session
    obtain ⟨ok', bytes', hact, -, hsent⟩ | ⟨hstep, -⟩ := hsession
    · refine ⟨hdaemon, ?_, htoClient.symm⟩
      have hencodes := ClientSession.send_encodes hsend
      refine ⟨if ok then bytes.toList else [], if ok then (ClientRun.sentFrame ccfg s.client.session).toList else [],
        _, htoDaemon, ?_, ?_, hsent⟩
      · cases ok with
        | true => exact hencodes
        | false => exact .nil
      · cases ok with
        | true => exact List.Sublist.refl _
        | false => exact nil_sublist _
    · cases hstep
  | clientReceive hhead hreceive =>
    refine ⟨hdaemon, hquiet nofun rfl, ?_⟩
    rw [htoClient]
    exact hhead
  | clientEnd hgone hend => exact ⟨hdaemon, hquiet nofun rfl, htoClient.symm⟩
  | clientLocal hlocal hlocalStep =>
    cases a with
    | send ok => cases hlocal
    | receive bytes => cases hlocal
    | _ => exact ⟨hdaemon, hquiet nofun rfl, htoClient.symm⟩

theorem daemon_carries {a : MockSessionAct} (h : step ccfg cfg s (.daemon a) = some s') :
    DaemonCarries s a s' ∧ s.daemon.step cfg a = some s'.daemon := by
  obtain ⟨hsystem, -, -⟩ := step_daemon h
  generalize hnext : s'.system = system at hsystem
  have hdaemon : s'.daemon = system.daemon := congrArg ClientDaemon.daemon hnext
  have htoDaemon : s'.toDaemon = system.toDaemon := congrArg ClientDaemon.toDaemon hnext
  have htoClient : s'.toClient = system.toClient := congrArg ClientDaemon.toClient hnext
  have hquiet : system.toClient = s.toClient → ∃ sent, s'.toClient = s.toClient ++ sent ∧ sent <+ s.daemon.sends a := by
    intro hsame
    exact ⟨[], by rw [List.append_nil, htoClient, hsame], nil_sublist _⟩
  have hdeaf : system.toDaemon = s.toDaemon → a.taken = [] → ∃ bytes, s.toDaemon = bytes ++ s'.toDaemon ∧
      ∀ frames, Forall₂ Encodes bytes frames → frames = a.taken := by
    intro hsame hnone
    refine ⟨[], by rw [List.nil_append, htoDaemon, hsame], fun frames hframes => ?_⟩
    cases hframes
    exact hnone.symm
  cases ClientDaemon.daemonStep_stepped hsystem with
  | daemonReceive hhead hstep =>
    rename_i bytes toDaemon driverOk daemon
    refine ⟨⟨⟨[bytes], ?_, fun frames hframes => ?_⟩, hquiet rfl⟩, hdaemon ▸ hstep⟩
    · rw [htoDaemon]
      exact hhead
    · cases hframes with
      | cons hencode hnil =>
        cases hnil
        rw [MockSessionAct.taken, SessionAct.taken, Frame.decode_of_encode hencode]
  | daemonSend hok hstep =>
    rename_i ok daemon
    refine ⟨⟨hdeaf rfl rfl, _, htoClient, ?_⟩, hdaemon ▸ hstep⟩
    cases ok with
    | true => exact List.Sublist.refl _
    | false => exact nil_sublist _
  | daemonEnd hgone hstep => exact ⟨⟨hdeaf rfl rfl, hquiet rfl⟩, hdaemon ▸ hstep⟩
  | daemonLocal hlocal hstep =>
    exact ⟨⟨hdeaf rfl (MockSession.taken_local hlocal), hquiet rfl⟩, hdaemon ▸ hstep⟩

/-! ## Every run -/

theorem new_carried : Carried new where
  toDaemon := ⟨[], .nil, List.Sublist.refl _⟩
  toClient := List.Sublist.refl _

theorem step_carried {a : ClientDaemonAct} (h : Carried s) (hstep : step ccfg cfg s a = some s') : Carried s' := by
  obtain ⟨inFlight, hencodes, htaken⟩ := h.toDaemon
  cases a with
  | client a =>
    obtain ⟨-, -, hdelivered⟩ := step_client hstep
    obtain ⟨hdaemon, ⟨bytes, frames, sent, htoDaemon, hframes, hsub, hsent⟩, hreceives⟩ := client_carries hstep
    refine ⟨⟨inFlight ++ frames, ?_, ?_⟩, ?_⟩
    · rw [htoDaemon]
      exact rel_append hencodes hframes
    · rw [hdaemon, hsent, ← List.append_assoc]
      exact htaken.append hsub
    · rw [hdelivered, hdaemon, List.append_assoc, ← hreceives]
      exact h.toClient
  | daemon a =>
    obtain ⟨-, hclient, hdelivered⟩ := step_daemon hstep
    obtain ⟨⟨⟨bytes, hreceives, htakes⟩, sent, hsends, hsub⟩, hdaemon⟩ := daemon_carries hstep
    obtain ⟨htakenBooks, hbytesBooks⟩ := MockSession.step_books hdaemon
    refine ⟨?_, ?_⟩
    · rw [hreceives] at hencodes
      obtain ⟨frames, inFlight', hframes, hrest, rfl⟩ := forall₂_append_split hencodes
      refine ⟨inFlight', hrest, ?_⟩
      rw [htakenBooks, hclient, ← htakes frames hframes, List.append_assoc]
      exact htaken
    · rw [hdelivered, hsends, hbytesBooks, ← List.append_assoc]
      exact h.toClient.append hsub

theorem Carried.ids (h : Carried s) (hprovenance : s.daemon.Provenance) :
    (s.delivered ++ s.toClient).filterMap responseId ++ s.daemon.session.waiting.filterMap responseId <+~
      s.client.sent.filterMap (Frame.idOf .request) := by
  obtain ⟨inFlight, -, htaken⟩ := h.toDaemon
  have hbytes : (s.delivered ++ s.toClient).filterMap responseId ++ s.daemon.session.waiting.filterMap responseId <+~
      (s.daemon.session.events SessionEvent.direct).map (·.requestId) ++
        s.daemon.session.produced.filterMap responseId := by
    rw [NetworkSession.produced_eq, List.filterMap_append (l := s.daemon.session.events _), ← List.append_assoc]
    exact (subperm_append_right _).mpr
      ((h.toClient.filterMap responseId).subperm.trans s.daemon.session.bytes_ids)
  have hrequests : (s.daemon.session.events SessionEvent.request).map (·.requestId) <+
      s.client.sent.filterMap (Frame.idOf .request) := by
    rw [NetworkSession.request_ids]
    exact ((sublist_append_left _ inFlight).trans htaken).filterMap _
  exact (hbytes.trans hprovenance.ids).trans hrequests.subperm

structure Reached (cfg : SessionConfig) (s : ClientDaemonRun) : Prop where
  system : ClientDaemon.Reached cfg s.system
  carried : Carried s

theorem new_reached (cfg : SessionConfig) : Reached cfg new where
  system := ClientDaemon.new_reached cfg
  carried := new_carried

theorem step_reached {a : ClientDaemonAct} (h : Reached cfg s) (hstep : step ccfg cfg s a = some s') :
    Reached cfg s' where
  system := ClientDaemon.step_reached h.system (step_system hstep)
  carried := step_carried h.carried hstep

end

/-- In every run of client and daemon: the daemon takes the client's frames in the order in which they were sent, the
client is given the daemon's bytes in theirs, each once at most; and of each id the client is given at most as many
Responses as it has sent Requests. -/
theorem responses_matched (ccfg : ClientConfig) (cfg : SessionConfig) (acts : List ClientDaemonAct)
    (s : ClientDaemonRun) (h : run (step ccfg cfg) new acts = some s) :
    s.daemon.session.events SessionEvent.taken <+ s.client.sent ∧
      s.delivered <+ s.daemon.session.events SessionEvent.bytes ∧
      s.delivered.filterMap responseId <+~ s.client.sent.filterMap (Frame.idOf .request) := by
  have hreached : Reached cfg s := run_invariant (fun _ _ _ hs hstep => step_reached hs hstep) (new_reached cfg) h
  obtain ⟨inFlight, -, htaken⟩ := hreached.carried.toDaemon
  refine ⟨(sublist_append_left _ inFlight).trans htaken, ?_, ?_⟩
  · exact (sublist_append_left _ s.toClient).trans hreached.carried.toClient
  · refine Subperm.trans ?_ (hreached.carried.ids hreached.system.provenance)
    rw [List.filterMap_append, List.append_assoc]
    exact (sublist_append_left _ _).subperm

/-- The bulk transfer of a client whose only one it is, through both rings and back, and the detach request behind it. -/
def transferRun (request : Frame) (ringSteps : Nat) : List ClientDaemonAct :=
  [.client .mockLocalUsb, .client .receiveTx, .client (.send true),
    .daemon (.session (.receive (request.encode.getD []) true)), .daemon .pushRxBytes, .daemon .pumpOnce] ++
    List.replicate ringSteps (.daemon .pumpStep) ++
    [.daemon .pumpReturn, .daemon (.session .flushed), .daemon (.session .checkCancelled), .daemon .pollTxFrame] ++
    List.replicate ringSteps (.daemon .pollStep) ++
    [.daemon .pollReturn, .daemon (.session .blockingSend), .daemon (.session .receiveTx),
      .daemon (.session (.send true)), .client (.receive ((request.mockResponse request.payload).encode.getD [])),
      .client .injectUrb, .client (.send true)]

def boundedRun : List ClientDaemonAct :=
  ClientDaemon.handshakeRun ⟨none, [4], []⟩ ++ transferRun ((Frame.mockBulkRequest 7 1).getD (.mockRequest 7 [])) 53

theorem responses_matched_bounded : ∃ s, run (step ⟨.mock, some 1, some 1⟩ ⟨none, [4], []⟩) new boundedRun = some s ∧
    s.delivered.filterMap responseId = [2, 3, 4, 5, 6, 7] ∧
    s.delivered <+ s.daemon.session.events SessionEvent.bytes ∧
    s.delivered.filterMap responseId <+~ s.client.sent.filterMap (Frame.idOf .request) := by
  have hrun : (run (step ⟨.mock, some 1, some 1⟩ ⟨none, [4], []⟩) new boundedRun).map
      (fun s => s.delivered.filterMap responseId) = some [2, 3, 4, 5, 6, 7] := by decide +kernel
  obtain ⟨s, hs, hids⟩ := Option.map_eq_some_iff.mp hrun
  exact ⟨s, hs, hids, (responses_matched _ _ boundedRun s hs).2⟩

end ClientDaemonRun

end WhyUsb
