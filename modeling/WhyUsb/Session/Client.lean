import WhyUsb.Descriptor.Basic
import WhyUsb.Protocol.Requests

/-!
# The client

`run_client_session` from the attach request on: the two waiting loops of the
handshake, which ignore frames they do not expect, and the main loop with its
handler. Every `await` on the connection or on a channel is a step; the frames
of both loops are booked.
-/

namespace WhyUsb

inductive VhciBackendKind where
  | mock
  | linux
  deriving DecidableEq, Repr

structure ClientConfig where
  vhciBackend : VhciBackendKind
  mockFrameLimit : Option UInt64
  mockBulkPayloadLen : Option Nat

inductive ClientState where
  | connected
  | attached
  | detaching
  | closed
  deriving DecidableEq, Repr

/-! ## The enumeration -/

/-- The control requests of `run_mock_enumeration`. -/
inductive EnumerationStep where
  | deviceDescriptor
  | configurationDescriptor
  | reportDescriptor
  | setAddress
  | setConfiguration
  deriving DecidableEq, Repr

namespace EnumerationStep

def next : EnumerationStep → Option EnumerationStep
  | deviceDescriptor => some configurationDescriptor
  | configurationDescriptor => some reportDescriptor
  | reportDescriptor => some setAddress
  | setAddress => some setConfiguration
  | setConfiguration => none

def expectedReportDescriptor : Option UsbDescriptorSet → DecodeM (Option (List UInt8))
  | none => .ok none
  | some descriptors => (descriptors.reportDescriptorBytes 0 0 0).map some

def reportDescriptorLen (expected : Option (List UInt8)) : UInt16 :=
  (expected.map fun descriptor => UInt16.ofNat descriptor.length).getD 255

def setup (descriptors : Option UsbDescriptorSet) : EnumerationStep → DecodeM UsbControlSetup
  | deviceDescriptor => .ok (.getDescriptor .device 0 18)
  | configurationDescriptor => .ok (.getDescriptor .configuration 0 255)
  | reportDescriptor => (expectedReportDescriptor descriptors).map fun expected =>
      .getInterfaceDescriptor .report 0 0 (reportDescriptorLen expected)
  | setAddress => .ok (.setAddress 1)
  | setConfiguration => .ok (.setConfiguration 1)

/-- What is checked of the answer: the report descriptor is the one of the attach response. -/
def accepts (descriptors : Option UsbDescriptorSet) (control : UsbControlTransfer) : EnumerationStep → Bool
  | reportDescriptor =>
    match expectedReportDescriptor descriptors with
    | .ok (some expected) => control.data == expected
    | .ok none => true
    | .error _ => false
  | _ => true

end EnumerationStep

/-- The standard request and the descriptor type that `send_control_request` reads from the setup packet. -/
def UsbControlSetup.readable (setup : UsbControlSetup) : DecodeM Unit := do
  let standardRequest ← setup.standardRequest
  if standardRequest = .getDescriptor then
    let _ ← setup.descriptorType
    .ok ()
  else .ok ()

/-! ## The session -/

inductive ClientPc where
  | sendAttach
  | awaitAttach
  | sendControl (step : EnumerationStep)
  | awaitControl (step : EnumerationStep) (requestId : UInt64)
  | select
  | sendFrame (frame : Frame)
  | sendDetach
  | inject (payload : List UInt8)
  | failed
  | panicked
  | closed
  deriving DecidableEq, Repr

structure ClientSession where
  state : ClientState
  main : ClientPc
  descriptors : Option UsbDescriptorSet
  nextRequestId : UInt64
  /-- Of the task that makes the mock frames. -/
  requestId : UInt64
  sentFrames : UInt64
  taskEnded : Bool
  channel : List Frame
  dataResponses : UInt64
  detachSent : Bool
  urbs : List (List UInt8)
  /-- The responses `send_control_request` returned, the frames that the waiting loops ignored, the reports handled. -/
  answered : List Frame
  ignored : List Frame
  reports : List Frame

def clientChannelCapacity : Nat := 100

def mockUrbText : List UInt8 :=
  [77, 111, 99, 107, 32, 85, 82, 66, 32, 102, 114, 111, 109, 32, 76, 105, 110, 117, 120, 32, 67, 108, 105, 101, 110, 116]

inductive ClientAct where
  | send (ok : Bool)
  | receive (bytes : List UInt8)
  | endOfStream
  | mockLocalUsb
  | receiveTx
  | receiveUrb
  | injectUrb

namespace ClientSession

def new : ClientSession where
  state := .connected
  main := .sendAttach
  descriptors := none
  nextRequestId := 2
  requestId := 0
  sentFrames := 0
  taskEnded := false
  channel := []
  dataResponses := 0
  detachSent := false
  urbs := []
  answered := []
  ignored := []
  reports := []

def fail (s : ClientSession) : ClientSession := { s with main := .failed }

/-- After the main loop the task is aborted. -/
def close (s : ClientSession) : ClientSession := { s with state := .closed, main := .closed }

/-! ## Sending -/

section
variable (cfg : ClientConfig)

def detachRequestId (s : ClientSession) : UInt64 :=
  match cfg.mockFrameLimit with
  | some limit => s.nextRequestId + limit
  | none => 0 - 1

/-- The frame of a send; the setup packet of a control request is read first. -/
def outgoing (s : ClientSession) : Option (DecodeM Frame) :=
  match s.main with
  | .sendAttach => some (.ok (.attachRequest 1))
  | .sendControl step => some do
    let setup ← step.setup s.descriptors
    setup.readable
    .ok (.controlRequest s.nextRequestId setup)
  | .sendFrame frame => some (.ok frame)
  | .sendDetach => some (.ok (.detachRequest (s.detachRequestId cfg)))
  | _ => none

def sent (ok : Bool) (s : ClientSession) : ClientSession :=
  match s.main with
  | .sendAttach => if ok then { s with main := .awaitAttach } else s.fail
  | .sendControl step =>
    if ok then { s with main := .awaitControl step s.nextRequestId, nextRequestId := s.nextRequestId + 1 } else s.fail
  | .sendFrame _ => if ok then { s with main := .select } else s.close
  | .sendDetach => if ok then { s with main := .select, detachSent := true } else s.close
  | _ => s

def send (ok : Bool) (s : ClientSession) : Option (Option (List UInt8) × ClientSession) :=
  match s.outgoing cfg with
  | none => none
  | some (.error _) => some (none, s.fail)
  | some (.ok frame) =>
    match frame.encode with
    | none => some (none, { s with main := .panicked })
    | some bytes => some (some bytes, s.sent ok)

/-! ## The handshake -/

def waitForLifecycleResponse (bytes : List UInt8) (s : ClientSession) : ClientSession :=
  match Frame.decode bytes with
  | .error _ => s.fail
  | .ok frame =>
    if frame.frameType ≠ .attachResponse then { s with ignored := s.ignored ++ [frame] }
    else if frame.status ≠ 0 then s.fail
    else if frame.payload = [] then { s with main := .sendControl .deviceDescriptor }
    else
      match UsbDescriptorSet.decode frame.payload with
      | .error _ => s.fail
      | .ok descriptors => { s with descriptors := some descriptors, main := .sendControl .deviceDescriptor }

/-- The next request, or the main loop with the task started. -/
def enumerated (step : EnumerationStep) (s : ClientSession) : ClientSession :=
  match step.next with
  | some step => { s with main := .sendControl step }
  | none => { s with state := .attached, main := .select, requestId := s.nextRequestId }

def waitForControlResponse (step : EnumerationStep) (requestId : UInt64) (bytes : List UInt8) (s : ClientSession) :
    ClientSession :=
  match Frame.decode bytes with
  | .error _ => s.fail
  | .ok response =>
    if response.requestId ≠ requestId ∨ response.frameType ≠ .response then
      { s with ignored := s.ignored ++ [response] }
    else if response.status ≠ 0 then s.fail
    else
      match UsbControlTransfer.decode response.payload with
      | .error _ => s.fail
      | .ok control =>
        if step.accepts s.descriptors control then { s with answered := s.answered ++ [response] }.enumerated step
        else s.fail

/-! ## The main loop -/

/-- `NetworkFrameAction::DataResponse`. -/
def dataResponse (s : ClientSession) : ClientSession :=
  if s.detachSent = false ∧ cfg.mockFrameLimit = some (s.dataResponses + 1) then
    { s with dataResponses := s.dataResponses + 1, main := .sendDetach }
  else { s with dataResponses := s.dataResponses + 1, main := .select }

def handleNetworkFrame (bytes : List UInt8) (s : ClientSession) : ClientSession :=
  match Frame.decode bytes with
  | .error _ => s
  | .ok frame =>
    match frame.frameType with
    | .response => if frame.status ≠ 0 then s.dataResponse cfg else { s with main := .inject frame.payload }
    | .detachResponse => if frame.status ≠ 0 then s else s.close
    | .cancelResponse => s.dataResponse cfg
    | .event =>
      if frame.transferType = .interrupt ∧ frame.endpoint = 0x81 then
        match HidKeyboardInputReport.decode frame.payload with
        | .ok _ => { s with reports := s.reports ++ [frame] }
        | .error _ => s
      else s
    | _ => s

def receive (bytes : List UInt8) (s : ClientSession) : Option ClientSession :=
  match s.main with
  | .awaitAttach => some (s.waitForLifecycleResponse bytes)
  | .awaitControl step requestId => some (s.waitForControlResponse step requestId bytes)
  | .select => some (s.handleNetworkFrame cfg bytes)
  | _ => none

def endOfStream (s : ClientSession) : Option ClientSession :=
  match s.main with
  | .awaitAttach => some s.fail
  | .awaitControl _ _ => some s.fail
  | .select => some s.close
  | _ => none

/-- `inject_urb`; the Linux backend refuses, and the response is not counted. -/
def injectUrb (s : ClientSession) : Option ClientSession :=
  match s.main with
  | .inject payload =>
    match cfg.vhciBackend with
    | .linux => some { s with main := .select }
    | .mock =>
      if s.urbs.length < clientChannelCapacity then some ({ s with urbs := s.urbs ++ [payload] }.dataResponse cfg)
      else none
  | _ => none

def receiveUrb (s : ClientSession) : Option ClientSession :=
  match s.main, s.urbs with
  | .select, _ :: urbs => some { s with urbs }
  | _, _ => none

def receiveTx (s : ClientSession) : Option ClientSession :=
  match s.main, s.channel with
  | .select, frame :: channel => some { s with channel, main := .sendFrame frame }
  | _, _ => none

/-! ## The task -/

def mockFrame (requestId : UInt64) : Option Frame :=
  match cfg.mockBulkPayloadLen with
  | some payloadLen => Frame.mockBulkRequest requestId payloadLen
  | none => some (.mockRequest requestId mockUrbText)

def mockLocalUsb (s : ClientSession) : Option ClientSession :=
  if s.state ≠ .attached ∨ s.taskEnded then none
  else if cfg.mockFrameLimit.any fun limit => limit ≤ s.sentFrames then some { s with taskEnded := true }
  else if s.channel.length < clientChannelCapacity then
    match mockFrame cfg s.requestId with
    | none => some { s with taskEnded := true }
    | some frame =>
      some { s with
        requestId := s.requestId + 1
        sentFrames := s.sentFrames + 1
        channel := s.channel ++ [frame] }
  else none

def step (s : ClientSession) : ClientAct → Option ClientSession
  | .send _ => none
  | .receive bytes => s.receive cfg bytes
  | .endOfStream => s.endOfStream
  | .mockLocalUsb => s.mockLocalUsb cfg
  | .receiveTx => s.receiveTx
  | .receiveUrb => s.receiveUrb
  | .injectUrb => s.injectUrb cfg

end

end ClientSession

end WhyUsb
