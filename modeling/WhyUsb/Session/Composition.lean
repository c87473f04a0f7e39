import WhyUsb.Session.Client
import WhyUsb.Session.Provenance

/-!
# The client and the daemon

Both sessions over a transport that keeps every frame and their order. A side
sees the end of the stream, or a send that fails, only when the other has left.
-/

namespace WhyUsb

open List Lts

structure ClientDaemon where
  client : ClientSession
  daemon : MockSession
  toDaemon : List (List UInt8)
  toClient : List (List UInt8)

inductive ClientDaemonAct where
  | client (a : ClientAct)
  | daemon (a : MockSessionAct)

def ClientAct.isLocal : ClientAct → Bool
  | .send _ => false
  | .receive _ => false
  | .endOfStream => false
  | _ => true

def MockSessionAct.isLocal : MockSessionAct → Bool
  | .session (.receive _ _) => false
  | .session (.send _) => false
  | .session .endOfStream => false
  | _ => true

def MockSessionAct.isWorker : MockSessionAct → Bool
  | .session .checkCancelled => true
  | .session .blockingSend => true
  | .session .waitForTxFrame => true
  | .pollTxFrame => true
  | .pollStep => true
  | .pollReturn => true
  | _ => false

def ClientDaemonAct.isWorker : ClientDaemonAct → Bool
  | client _ => false
  | daemon a => a.isWorker

def ClientPc.gone : ClientPc → Bool
  | failed => true
  | panicked => true
  | closed => true
  | _ => false

def MainPc.gone : MainPc → Bool
  | finished => true
  | panicked => true
  | _ => false

def MainPc.outgoing : MainPc → Option (List UInt8)
  | sending frame _ _ _ => frame.encode
  | forwarding bytes => some bytes
  | _ => none

namespace ClientDaemon

def new : ClientDaemon where
  client := .new
  daemon := .new
  toDaemon := []
  toClient := []

section
variable (ccfg : ClientConfig) (cfg : SessionConfig)

def clientSend (s : ClientDaemon) (ok : Bool) : Option ClientDaemon :=
  if ok = true ∨ s.daemon.session.main.gone = true then
    (s.client.send ccfg ok).map fun sent =>
      { s with client := sent.2, toDaemon := s.toDaemon ++ if ok then sent.1.toList else [] }
  else none

def clientReceive (s : ClientDaemon) (bytes : List UInt8) : Option ClientDaemon :=
  match s.toClient with
  | [] => none
  | head :: toClient =>
    if head = bytes then (s.client.receive ccfg bytes).map fun client => { s with client, toClient } else none

def daemonReceive (s : ClientDaemon) (bytes : List UInt8) (driverOk : Bool) : Option ClientDaemon :=
  match s.toDaemon with
  | [] => none
  | head :: toDaemon =>
    if head = bytes then
      (s.daemon.step cfg (.session (.receive bytes driverOk))).map fun daemon => { s with daemon, toDaemon }
    else none

def daemonSend (s : ClientDaemon) (ok : Bool) : Option ClientDaemon :=
  if ok = true ∨ s.client.main.gone = true then
    (s.daemon.step cfg (.session (.send ok))).map fun daemon =>
      { s with daemon, toClient := s.toClient ++ if ok then s.daemon.session.main.outgoing.toList else [] }
  else none

def step (s : ClientDaemon) : ClientDaemonAct → Option ClientDaemon
  | .client (.send ok) => s.clientSend ccfg ok
  | .client (.receive bytes) => s.clientReceive ccfg bytes
  | .client .endOfStream =>
    if s.daemon.session.main.gone = true ∧ s.toClient = [] then
      s.client.endOfStream.map fun client => { s with client }
    else none
  | .client a => (s.client.step ccfg a).map fun client => { s with client }
  | .daemon (.session (.receive bytes driverOk)) => s.daemonReceive cfg bytes driverOk
  | .daemon (.session (.send ok)) => s.daemonSend cfg ok
  | .daemon (.session .endOfStream) =>
    if s.client.main.gone = true ∧ s.toDaemon = [] then
      (s.daemon.step cfg (.session .endOfStream)).map fun daemon => { s with daemon }
    else none
  | .daemon a => (s.daemon.step cfg a).map fun daemon => { s with daemon }

inductive Stepped (s : ClientDaemon) : ClientDaemonAct → ClientDaemon → Prop where
  | clientSend {ok bytes client} (hok : ok = true ∨ s.daemon.session.main.gone = true)
      (hsend : s.client.send ccfg ok = some (bytes, client)) :
      Stepped s (.client (.send ok)) { s with client, toDaemon := s.toDaemon ++ if ok then bytes.toList else [] }
  | clientReceive {bytes toClient client} (hhead : s.toClient = bytes :: toClient)
      (hreceive : s.client.receive ccfg bytes = some client) :
      Stepped s (.client (.receive bytes)) { s with client, toClient }
  | clientEnd {client} (hgone : s.daemon.session.main.gone = true) (hend : s.client.endOfStream = some client) :
      Stepped s (.client .endOfStream) { s with client }
  | clientLocal {a client} (ha : a.isLocal = true) (hstep : s.client.step ccfg a = some client) :
      Stepped s (.client a) { s with client }
  | daemonReceive {bytes toDaemon driverOk daemon} (hhead : s.toDaemon = bytes :: toDaemon)
      (hstep : s.daemon.step cfg (.session (.receive bytes driverOk)) = some daemon) :
      Stepped s (.daemon (.session (.receive bytes driverOk))) { s with daemon, toDaemon }
  | daemonSend {ok daemon} (hok : ok = true ∨ s.client.main.gone = true)
      (hstep : s.daemon.step cfg (.session (.send ok)) = some daemon) :
      Stepped s (.daemon (.session (.send ok)))
        { s with daemon, toClient := s.toClient ++ if ok then s.daemon.session.main.outgoing.toList else [] }
  | daemonEnd {daemon} (hgone : s.client.main.gone = true)
      (hstep : s.daemon.step cfg (.session .endOfStream) = some daemon) :
      Stepped s (.daemon (.session .endOfStream)) { s with daemon }
  | daemonLocal {a daemon} (ha : a.isLocal = true) (hstep : s.daemon.step cfg a = some daemon) :
      Stepped s (.daemon a) { s with daemon }

variable {ccfg cfg} {s s' : ClientDaemon} {a : ClientDaemonAct}

theorem clientStep_stepped {a : ClientAct} (h : step ccfg cfg s (.client a) = some s') :
    Stepped ccfg cfg s (.client a) s' := by
  cases a with
  | send ok =>
    simp only [step, ClientDaemon.clientSend, Option.ite_none_right_eq_some, Option.map_eq_some_iff] at h
    obtain ⟨hok, ⟨bytes, client⟩, hsend, rfl⟩ := h
    exact .clientSend hok hsend
  | receive bytes =>
    simp only [step, ClientDaemon.clientReceive] at h
    split at h
    · cases h
    · rename_i head toClient hhead
      simp only [Option.ite_none_right_eq_some, Option.map_eq_some_iff] at h
      obtain ⟨rfl, client, hreceive, rfl⟩ := h
      exact .clientReceive hhead hreceive
  | endOfStream =>
    simp only [step, Option.ite_none_right_eq_some, Option.map_eq_some_iff] at h
    obtain ⟨⟨hgone, -⟩, client, hend, rfl⟩ := h
    exact .clientEnd hgone hend
  | _ =>
    simp only [step, Option.map_eq_some_iff] at h
    obtain ⟨client, hstep, rfl⟩ := h
    exact .clientLocal rfl hstep

theorem daemonStep_stepped {a : MockSessionAct} (h : step ccfg cfg s (.daemon a) = some s') :
    Stepped ccfg cfg s (.daemon a) s' := by
  unfold step at h
  split at h <;> rename_i hact
  · cases hact
  · cases hact
  · cases hact
  · cases hact
  · obtain rfl := ClientDaemonAct.daemon.inj hact
    unfold ClientDaemon.daemonReceive at h
    split at h
    · cases h
    · rename_i hhead
      simp only [Option.ite_none_right_eq_some, Option.map_eq_some_iff] at h
      obtain ⟨rfl, daemon, hstep, rfl⟩ := h
      exact .daemonReceive hhead hstep
  · obtain rfl := ClientDaemonAct.daemon.inj hact
    simp only [ClientDaemon.daemonSend, Option.ite_none_right_eq_some, Option.map_eq_some_iff] at h
    obtain ⟨hok, daemon, hstep, rfl⟩ := h
    exact .daemonSend hok hstep
  · obtain rfl := ClientDaemonAct.daemon.inj hact
    simp only [Option.ite_none_right_eq_some, Option.map_eq_some_iff] at h
    obtain ⟨⟨hgone, -⟩, daemon, hstep, rfl⟩ := h
    exact .daemonEnd hgone hstep
  · rename_i hreceive hsend hend
    obtain rfl := ClientDaemonAct.daemon.inj hact
    obtain ⟨daemon, hstep, rfl⟩ := Option.map_eq_some_iff.mp h
    refine .daemonLocal ?_ hstep
    unfold MockSessionAct.isLocal
    split
    · exact absurd rfl (hreceive _ _)
    · exact absurd rfl (hsend _)
    · exact absurd rfl hend
    · rfl

theorem step_stepped (h : step ccfg cfg s a = some s') : Stepped ccfg cfg s a s' := by
  cases a with
  | client a => exact clientStep_stepped h
  | daemon a => exact daemonStep_stepped h

end

end ClientDaemon

end WhyUsb
