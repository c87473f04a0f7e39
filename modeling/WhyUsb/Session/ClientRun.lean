import WhyUsb.Lib.Lts
import WhyUsb.Session.Client

/-!
# Runs of the client alone

The client against any server: whatever bytes arrive, any send may fail, and the
branches of the select come in any order. The run books the frames handed to the
connection, and the map of the bulk payloads that wait for their echo.
-/

namespace WhyUsb

open Lts

/-- An entry of `pending_bulk_payloads`, with the number of its insertion. -/
structure PendingBulk where
  payload : MockBulkPayload
  entry : Nat
  deriving DecidableEq, Repr

/-- A call of `inject_urb`: the response, and the payload it was compared with. -/
structure InjectedUrb where
  response : Frame
  expected : Option MockBulkPayload
  deriving DecidableEq, Repr

/-- The map, how often it was inserted to, the entries that responses have taken out, and the calls of `inject_urb`. -/
structure BulkBook where
  pendingBulkPayloads : UInt64 → Option PendingBulk
  inserted : Nat
  used : List Nat
  injected : List InjectedUrb

namespace BulkBook

def new : BulkBook where
  pendingBulkPayloads := fun _ => none
  inserted := 0
  used := []
  injected := []

/-- A frame from the channel, before it is sent. -/
def queueFrame (frame : Frame) (b : BulkBook) : BulkBook :=
  match MockBulkPayload.decode frame.payload with
  | .ok payload =>
    { b with
      pendingBulkPayloads := Function.update b.pendingBulkPayloads frame.requestId (some ⟨payload, b.inserted⟩)
      inserted := b.inserted + 1 }
  | .error _ => b

/-- What `handle_network_frame` does to the map: a response takes its entry out. Unless its status is a failure it goes
on to `inject_urb`, the mismatched and the malformed payload like the validated one. -/
def handleNetworkFrame (bytes : List UInt8) (b : BulkBook) : BulkBook :=
  match Frame.decode bytes with
  | .error _ => b
  | .ok frame =>
    if frame.frameType = .response then
      let expected := b.pendingBulkPayloads frame.requestId
      let b := { b with
        pendingBulkPayloads := Function.update b.pendingBulkPayloads frame.requestId none
        used := b.used ++ (expected.map (·.entry)).toList }
      if frame.status ≠ 0 then b
      else { b with injected := b.injected ++ [⟨frame, expected.map (·.payload)⟩] }
    else b

end BulkBook

structure ClientRun where
  session : ClientSession
  sent : List Frame
  bulk : BulkBook

namespace ClientRun

def new : ClientRun where
  session := .new
  sent := []
  bulk := .new

section
variable (cfg : ClientConfig)

/-- The frame that a send hands to the connection. -/
def sentFrame (s : ClientSession) : Option Frame :=
  match s.outgoing cfg with
  | some (.ok frame) => if frame.encode.isSome then some frame else none
  | _ => none

def receive (bytes : List UInt8) (s : ClientRun) : Option ClientRun :=
  (s.session.receive cfg bytes).map fun session =>
    { s with
      session := session
      bulk := if s.session.main = .select then s.bulk.handleNetworkFrame bytes else s.bulk }

def receiveTx (s : ClientRun) : Option ClientRun :=
  s.session.receiveTx.map fun session =>
    { s with
      session := session
      bulk := match s.session.channel with
        | frame :: _ => s.bulk.queueFrame frame
        | [] => s.bulk }

def step (s : ClientRun) : ClientAct → Option ClientRun
  | .send ok => (s.session.send cfg ok).map fun sent =>
    { s with
      session := sent.2
      sent := s.sent ++ (sentFrame cfg s.session).toList }
  | .receive bytes => s.receive cfg bytes
  | .receiveTx => s.receiveTx
  | a => (s.session.step cfg a).map fun session => { s with session }

end

/-- A server that accepts the attach and answers the five control requests. -/
def attached : List ClientAct :=
  [.send true, .receive ((Frame.attachResponse (.attachRequest 1) 0).encode.getD [])] ++
    [2, 3, 4, 5, 6].flatMap fun requestId =>
      [.send true, .receive ((Frame.controlResponse (.controlRequest requestId (.setAddress 1)) 0 []).encode.getD [])]

section
variable {cfg : ClientConfig} {s s' : ClientRun} {a : ClientAct}

/-- The book moves with the select alone: a response of the network, or a frame of the channel. -/
theorem step_bulk (h : step cfg s a = some s') : s'.bulk = s.bulk ∨
    (∃ bytes, a = .receive bytes ∧ s.session.main = .select ∧ s'.bulk = s.bulk.handleNetworkFrame bytes) ∨
      ∃ frame, s'.bulk = s.bulk.queueFrame frame := by
  cases a with
  | receive bytes =>
    obtain ⟨session, -, rfl⟩ := Option.map_eq_some_iff.mp h
    by_cases hmain : s.session.main = .select
    · exact Or.inr (Or.inl ⟨bytes, rfl, hmain, if_pos hmain⟩)
    · exact Or.inl (if_neg hmain)
  | receiveTx =>
    obtain ⟨session, -, rfl⟩ := Option.map_eq_some_iff.mp h
    cases hchannel : s.session.channel with
    | nil => exact Or.inl rfl
    | cons frame channel => exact Or.inr (Or.inr ⟨frame, rfl⟩)
  | send ok =>
    obtain ⟨sent, -, rfl⟩ := Option.map_eq_some_iff.mp h
    exact Or.inl rfl
  | _ =>
    obtain ⟨session, -, rfl⟩ := Option.map_eq_some_iff.mp h
    exact Or.inl rfl

theorem step_session (h : step cfg s a = some s') : (∃ ok bytes, a = .send ok ∧
    s.session.send cfg ok = some (bytes, s'.session) ∧ s'.sent = s.sent ++ (sentFrame cfg s.session).toList) ∨
      (s.session.step cfg a = some s'.session ∧ s'.sent = s.sent) := by
  cases a with
  | send ok =>
    obtain ⟨sent, hsend, rfl⟩ := Option.map_eq_some_iff.mp h
    exact Or.inl ⟨ok, sent.1, rfl, hsend, rfl⟩
  | _ =>
    obtain ⟨session, hsession, rfl⟩ := Option.map_eq_some_iff.mp h
    exact Or.inr ⟨hsession, rfl⟩

end

end ClientRun

end WhyUsb
