import WhyUsb.Driver.Mock
import WhyUsb.Lib.Lts
import WhyUsb.Queue.Basic
import WhyUsb.Session.Control
import WhyUsb.Session.Lifecycle

/-!
# The network session

`run_single_client` as two parties: the main loop, with its cleanup, and the
worker that carries the driver's frames into the channel `tx`. A step is one
call that the other party, the network or the driver can come between; the
outcomes of the calls are part of the action. The trace records what was
received, pushed and sent, each with the session state at the time.
-/

namespace WhyUsb

inductive MockTransferOutcome where
  | status (status : TransferStatus)
  | shortPacket (len : Nat)
  deriving DecidableEq, Repr

structure MockTransferOutcomeRule where
  requestId : UInt64
  outcome : MockTransferOutcome
  deriving DecidableEq, Repr

/-- What `run_single_client` is given besides the stream and the driver. -/
structure SessionConfig where
  attachDevice : Option DeviceAttachRequest
  mockHidKeycodes : List UInt8
  mockTransferOutcomes : List MockTransferOutcomeRule

def mockResponseText : List UInt8 :=
  [77, 111, 99, 107, 32, 114, 101, 115, 112, 111, 110, 115, 101, 32, 102, 114, 111, 109, 32, 100, 97, 101, 109, 111,
    110, 32, 100, 114, 105, 118, 101, 114]

/-- `none` is the panic of `MockBulkPayload::encode`. -/
def outboundNetworkFrame (frame : Frame) : Option Frame :=
  if frame.frameType = .request then
    match MockBulkPayload.decode frame.payload with
    | .ok payload => payload.encode.map frame.mockResponse
    | .error _ => some (frame.mockResponse mockResponseText)
  else some frame

def mockTransferOutcomeResponse (frame : Frame) (outcomes : List MockTransferOutcomeRule) : Option Frame :=
  (outcomes.find? fun rule => rule.requestId == frame.requestId).map fun rule =>
    match rule.outcome with
    | .status status => frame.statusResponse status
    | .shortPacket len => frame.mockResponse (mockResponseText.take len)

def handleCancelRequest (frame : Frame) (state : SessionState) (queues : EndpointTransferQueues) :
    Frame × EndpointTransferQueues :=
  if state ≠ .attached then (frame.cancelResponse .failed, queues)
  else
    match queues.cancel frame.requestId with
    | (some _, queues) => (frame.cancelResponse .cancelled, queues)
    | (none, queues) => (frame.cancelResponse .failed, queues)

def handleResetRequest (frame : Frame) (state : SessionState) (queues : EndpointTransferQueues) :
    List Frame × EndpointTransferQueues :=
  if state ≠ .attached then ([frame.resetResponse .failed], queues)
  else
    let (dropped, queues) := queues.resetEndpoint (EndpointKey.fromFrame frame)
    (frame.resetResponse .ok :: dropped.map fun transfer => transfer.frame.statusResponse .reset, queues)

def Frame.attachResponseWithDescriptors (f : Frame) (status : Int32) (descriptors : UsbDescriptorSet) :
    Except ProtocolError Frame :=
  descriptors.encode.map (f.lifecycleResponse .attachResponse status)

/-! ## What the answers are -/

section
variable {frame f : Frame} {state : SessionState} {queues : EndpointTransferQueues}

theorem mockTransferOutcomeResponse_response {outcomes : List MockTransferOutcomeRule}
    (h : mockTransferOutcomeResponse frame outcomes = some f) :
    f.frameType = .response ∧ f.requestId = frame.requestId := by
  obtain ⟨rule, -, rfl⟩ := Option.map_eq_some_iff.mp h
  cases rule.outcome <;> exact ⟨rfl, rfl⟩

theorem handleCancelRequest_frameType : (handleCancelRequest frame state queues).1.frameType = .cancelResponse := by
  unfold handleCancelRequest
  repeat' split
  all_goals rfl

/-- A reset is answered itself, and so is every transfer it drops. -/
theorem mem_handleResetRequest (h : f ∈ (handleResetRequest frame state queues).1) :
    f.frameType = .resetResponse ∨
      (f.frameType = .response ∧ ∃ transfer ∈ (queues.resetEndpoint (EndpointKey.fromFrame frame)).1,
        f.requestId = transfer.frame.requestId) := by
  unfold handleResetRequest at h
  split at h
  · rw [List.mem_singleton.mp h]
    exact Or.inl rfl
  · rcases List.mem_cons.mp h with rfl | h
    · exact Or.inl rfl
    · obtain ⟨transfer, htransfer, rfl⟩ := List.mem_map.mp h
      exact Or.inr ⟨rfl, transfer, htransfer, rfl⟩

theorem mem_handleControlRequest {descriptors : Option UsbDescriptorSet} {keycodes : List UInt8} {st : ControlState}
    (h : f ∈ (handleControlRequest frame descriptors keycodes st).1.events) : f.frameType = .event := by
  rcases handleControlRequest_events frame descriptors keycodes st with hnone | hevents
  · rw [hnone] at h
    cases h
  · rw [hevents] at h
    obtain ⟨report, rfl⟩ := mem_mockHidKeyboardEvents h
    rfl

end

/-! ## The parties -/

/-- What follows a send that fails: the session loop is left, or only the loop over the frames. -/
inductive OnError where
  | breakLoop
  | skipRest
  deriving DecidableEq, Repr

inductive MainPc where
  | select
  | sending (frame : Frame) (onError : OnError) (rest : List Frame) (thenBreak : Bool)
  | forwarding (bytes : List UInt8)
  | flushing (failed : List Frame)
  | pumping (failed : List Frame)
  | leaving
  | cleaned
  | joining
  | finished
  | panicked
  deriving DecidableEq, Repr

def MainPc.inLoop : MainPc → Bool
  | select => true
  | sending _ _ _ _ => true
  | forwarding _ => true
  | flushing _ => true
  | pumping _ => true
  | _ => false

/-- The frames the main loop has yet to send. -/
def MainPc.pending : MainPc → List Frame
  | sending frame _ rest _ => frame :: rest
  | flushing failed => failed
  | pumping failed => failed
  | _ => []

def MainPc.sendingEach : List Frame → MainPc
  | [] => .select
  | frame :: rest => .sending frame .skipRest rest false

/-- After a send: frames that follow are those of a loop, whatever a failure of this one means. -/
def MainPc.afterSend (onError : OnError) (rest : List Frame) (thenBreak ok : Bool) : MainPc :=
  if thenBreak then .leaving
  else if ok then .sendingEach rest
  else
    match onError with
    | .breakLoop => .leaving
    | .skipRest => .select

inductive WorkerPc where
  | check
  | poll
  | send (bytes : List UInt8)
  | wait
  | ended
  deriving DecidableEq, Repr

inductive SessionEvent where
  | received (frame : Frame)
  | pushRx (frame : Frame) (ok : Bool)
  | sent (frame : Frame) (ok : Bool)
  | forwarded (bytes : List UInt8) (ok : Bool)
  deriving DecidableEq, Repr

def SessionEvent.sentFrame : SessionEvent → Option Frame
  | sent f _ => some f
  | _ => none

abbrev Trace := List (SessionState × SessionEvent)

structure NetworkSession where
  lifecycle : Lifecycle
  activeDescriptors : Option UsbDescriptorSet
  control : ControlState
  queues : EndpointTransferQueues
  main : MainPc
  worker : WorkerPc
  channel : List (List UInt8)
  txCancelled : Bool
  trace : Trace

def txCapacity : Nat := 100

inductive SessionAct where
  | receive (bytes : List UInt8) (driverOk : Bool)
  | endOfStream
  | receiveTx
  | send (ok : Bool)
  | flushed
  | pushRx (ok : Bool)
  | pumpOnce (ok : Bool)
  | cleanup (driverOk : Bool)
  | cancelWorker
  | join
  | checkCancelled
  | pollTx (result : Except DriverError (Option Frame))
  | blockingSend
  | waitForTxFrame

namespace NetworkSession

def new : NetworkSession where
  lifecycle := .new
  activeDescriptors := none
  control := .new
  queues := .default
  main := .select
  worker := .check
  channel := []
  txCancelled := false
  trace := []

def record (s : NetworkSession) (event : SessionEvent) : NetworkSession :=
  { s with trace := s.trace ++ [(s.lifecycle.state, event)] }

/-- `framed.send(response)` and `continue`; a failure leaves the loop. -/
def reply (s : NetworkSession) (response : Frame) : NetworkSession :=
  { s with main := .sending response .breakLoop [] false }

def sendEach (s : NetworkSession) (frames : List Frame) : NetworkSession := { s with main := .sendingEach frames }

/-! ## Requests -/

section
variable (cfg : SessionConfig)

def handleAttachRequest (driverOk : Bool) (frame : Frame) (s : NetworkSession) : NetworkSession :=
  let (status, lifecycle) := attachSession driverOk cfg.attachDevice s.lifecycle
  if status = 0 then
    let descriptors := descriptorSetForAttach cfg.attachDevice
    let response :=
      match frame.attachResponseWithDescriptors status descriptors with
      | .ok response => response
      | .error _ => frame.attachResponse (-1)
    { s with lifecycle, activeDescriptors := some descriptors }.reply response
  else { s with lifecycle }.reply (frame.attachResponse status)

def handleDetachRequest (driverOk : Bool) (frame : Frame) (s : NetworkSession) : NetworkSession :=
  let (status, lifecycle) := detachSession driverOk s.lifecycle
  { s with lifecycle, main := .sending (frame.detachResponse status) .breakLoop [] true }

def handleDataRequest (frame : Frame) (s : NetworkSession) : NetworkSession :=
  if s.lifecycle.state ≠ .attached then s.reply (frame.statusResponse .failed)
  else if frame.transferType = .control ∧ frame.endpoint = 0 then
    let (controlResponse, control) :=
      handleControlRequest frame s.activeDescriptors cfg.mockHidKeycodes s.control
    { s with control, main := .sending controlResponse.response .breakLoop controlResponse.events false }
  else
    match mockTransferOutcomeResponse frame cfg.mockTransferOutcomes with
    | some response => s.reply response
    | none =>
      match s.queues.enqueue frame with
      | (.error _, queues) => { s with queues }
      | (.ok _, queues) => { s with queues, main := .flushing [] }

def handleFrame (driverOk : Bool) (frame : Frame) (s : NetworkSession) : NetworkSession :=
  match frame.frameType with
  | .attachRequest => s.handleAttachRequest cfg driverOk frame
  | .detachRequest => s.handleDetachRequest driverOk frame
  | .cancelRequest =>
    let answered := handleCancelRequest frame s.lifecycle.state s.queues
    { s with queues := answered.2 }.reply answered.1
  | .resetRequest =>
    let answered := handleResetRequest frame s.lifecycle.state s.queues
    { s with queues := answered.2 }.sendEach answered.1
  | .request => s.handleDataRequest cfg frame
  | _ => s

/-! ## The main loop -/

def receive (bytes : List UInt8) (driverOk : Bool) (s : NetworkSession) : Option NetworkSession :=
  match s.main with
  | .select =>
    match Frame.decode bytes with
    | .ok frame => some ((s.record (.received frame)).handleFrame cfg driverOk frame)
    | .error _ => some s
  | _ => none

/-- `None` or `Some(Err(e))` from the stream. -/
def endOfStream (s : NetworkSession) : Option NetworkSession :=
  match s.main with
  | .select => some { s with main := .leaving }
  | _ => none

def receiveTx (s : NetworkSession) : Option NetworkSession :=
  match s.main, s.channel with
  | .select, bytes :: channel => some { s with channel, main := .forwarding bytes }
  | _, _ => none

def send (ok : Bool) (s : NetworkSession) : Option NetworkSession :=
  match s.main with
  | .sending frame onError rest thenBreak =>
    match frame.encode with
    | none => some { s with main := .panicked }
    | some _ => some { s.record (.sent frame ok) with main := .afterSend onError rest thenBreak ok }
  | .forwarding bytes => some { s.record (.forwarded bytes ok) with main := if ok then .select else .leaving }
  | _ => none

/-- The loop of `flush_endpoint_transfers` ends, and its frames are sent. -/
def flushed (s : NetworkSession) : Option NetworkSession :=
  match s.main with
  | .flushing failed =>
    match s.queues.popNext with
    | (none, queues) => some ({ s with queues }.sendEach failed)
    | (some _, _) => none
  | _ => none

def pushRx (ok : Bool) (s : NetworkSession) : Option NetworkSession :=
  match s.main with
  | .flushing failed =>
    match s.queues.popNext with
    | (none, _) => none
    | (some transfer, queues) =>
      match transfer.frame.encode with
      | none => some { s with queues, main := .panicked }
      | some _ =>
        some { { s with queues }.record (.pushRx transfer.frame ok) with
          main :=
            if ok then .pumping failed
            else .flushing (failed ++ [transfer.frame.statusResponse .failed]) }
  | _ => none

/-- Both outcomes of `pump_once` go on with the loop. -/
def pumpOnce (s : NetworkSession) : Option NetworkSession :=
  match s.main with
  | .pumping failed => some { s with main := .flushing failed }
  | _ => none

/-- After the loop: the state is overwritten, the device detached, the queues cleared. -/
def cleanup (driverOk : Bool) (s : NetworkSession) : Option NetworkSession :=
  match s.main with
  | .leaving =>
    some { s with
      lifecycle := (detachSession driverOk { s.lifecycle with state := .detaching }).2
      queues := s.queues.clear.2
      main := .cleaned }
  | _ => none

def cancelWorker (s : NetworkSession) : Option NetworkSession :=
  match s.main with
  | .cleaned => some { s with txCancelled := true, main := .joining }
  | _ => none

def join (s : NetworkSession) : Option NetworkSession :=
  match s.main, s.worker with
  | .joining, .ended => some { s with lifecycle := { s.lifecycle with state := .closed }, main := .finished }
  | _, _ => none

/-! ## The worker -/

/-- The receiver is dropped when `run_single_client` returns or unwinds, not before. -/
def receiverAlive (s : NetworkSession) : Bool :=
  match s.main with
  | .finished => false
  | .panicked => false
  | _ => true

def checkCancelled (s : NetworkSession) : Option NetworkSession :=
  match s.worker with
  | .check => some { s with worker := if s.txCancelled then .ended else .poll }
  | _ => none

def pollTx (result : Except DriverError (Option Frame)) (s : NetworkSession) : Option NetworkSession :=
  match s.worker with
  | .poll =>
    match result with
    | .ok (some frame) =>
      match (outboundNetworkFrame frame).bind Frame.encode with
      | some bytes => some { s with worker := .send bytes }
      | none => some { s with worker := .ended }
    | .ok none => some { s with worker := .wait }
    | .error _ => some { s with worker := .check }
  | _ => none

/-- `blocking_send`: it blocks while the channel is full and has a receiver. -/
def blockingSend (s : NetworkSession) : Option NetworkSession :=
  match s.worker with
  | .send bytes =>
    if s.receiverAlive then
      if s.channel.length < txCapacity then some { s with channel := s.channel ++ [bytes], worker := .check }
      else none
    else some { s with worker := .ended }
  | _ => none

def waitForTxFrame (s : NetworkSession) : Option NetworkSession :=
  match s.worker with
  | .wait => some { s with worker := .check }
  | _ => none

def step (s : NetworkSession) : SessionAct → Option NetworkSession
  | .receive bytes driverOk => s.receive cfg bytes driverOk
  | .endOfStream => s.endOfStream
  | .receiveTx => s.receiveTx
  | .send ok => s.send ok
  | .flushed => s.flushed
  | .pushRx ok => s.pushRx ok
  | .pumpOnce _ => s.pumpOnce
  | .cleanup driverOk => s.cleanup driverOk
  | .cancelWorker => s.cancelWorker
  | .join => s.join
  | .checkCancelled => s.checkCancelled
  | .pollTx result => s.pollTx result
  | .blockingSend => s.blockingSend
  | .waitForTxFrame => s.waitForTxFrame

end

/-! ## What a handler leaves alone -/

section
variable {cfg : SessionConfig} {s : NetworkSession}

@[simp] theorem record_lifecycle (event : SessionEvent) : (s.record event).lifecycle = s.lifecycle := rfl
@[simp] theorem record_control (event : SessionEvent) : (s.record event).control = s.control := rfl
@[simp] theorem record_queues (event : SessionEvent) : (s.record event).queues = s.queues := rfl
@[simp] theorem record_main (event : SessionEvent) : (s.record event).main = s.main := rfl
@[simp] theorem record_worker (event : SessionEvent) : (s.record event).worker = s.worker := rfl
@[simp] theorem record_channel (event : SessionEvent) : (s.record event).channel = s.channel := rfl
@[simp] theorem record_txCancelled (event : SessionEvent) : (s.record event).txCancelled = s.txCancelled := rfl
@[simp] theorem record_trace (event : SessionEvent) :
    (s.record event).trace = s.trace ++ [(s.lifecycle.state, event)] := rfl

structure SameWorker (s s' : NetworkSession) : Prop where
  worker : s'.worker = s.worker
  channel : s'.channel = s.channel
  txCancelled : s'.txCancelled = s.txCancelled
  trace : s'.trace = s.trace

theorem handleFrame_sameWorker (driverOk : Bool) (frame : Frame) : SameWorker s (s.handleFrame cfg driverOk frame) := by
  unfold handleFrame
  cases frame.frameType with
  | attachRequest =>
    dsimp only
    unfold handleAttachRequest
    dsimp only
    split <;> exact ⟨rfl, rfl, rfl, rfl⟩
  | request =>
    dsimp only
    unfold handleDataRequest
    repeat' split
    all_goals exact ⟨rfl, rfl, rfl, rfl⟩
  | _ => exact ⟨rfl, rfl, rfl, rfl⟩

/-- Of a frame received only that is recorded; the sends are steps of their own. -/
theorem received_trace (cfg : SessionConfig) (s : NetworkSession) (driverOk : Bool) (frame : Frame) :
    ((s.record (.received frame)).handleFrame cfg driverOk frame).trace = (s.record (.received frame)).trace :=
  (handleFrame_sameWorker driverOk frame).trace

theorem sendingEach_inLoop (frames : List Frame) : (MainPc.sendingEach frames).inLoop = true := by
  cases frames <;> rfl

theorem sendingEach_pending (frames : List Frame) : (MainPc.sendingEach frames).pending = frames := by
  cases frames <;> rfl

theorem afterSend_pending {onError : OnError} {rest : List Frame} {thenBreak ok : Bool} {f : Frame}
    (h : f ∈ (MainPc.afterSend onError rest thenBreak ok).pending) : f ∈ rest := by
  cases thenBreak with
  | true => cases h
  | false =>
    cases ok with
    | true => exact sendingEach_pending rest ▸ h
    | false => cases onError <;> cases h

theorem handleFrame_inLoop (h : s.main = .select) (driverOk : Bool) (frame : Frame) :
    (s.handleFrame cfg driverOk frame).main.inLoop = true := by
  unfold handleFrame
  cases frame.frameType with
  | attachRequest =>
    dsimp only
    unfold handleAttachRequest
    dsimp only
    split <;> rfl
  | request =>
    dsimp only
    unfold handleDataRequest
    repeat' split
    all_goals simp [reply, h, MainPc.inLoop]
  | resetRequest => exact sendingEach_inLoop _
  | detachRequest => rfl
  | cancelRequest => rfl
  | _ => simp [h, MainPc.inLoop]

end

/-! ## What a step does -/

section
variable (cfg : SessionConfig)

inductive Stepped (s : NetworkSession) : SessionAct → NetworkSession → Prop where
  | receive {bytes frame driverOk} (hmain : s.main = .select) (hdecode : Frame.decode bytes = .ok frame) :
      Stepped s (.receive bytes driverOk) ((s.record (.received frame)).handleFrame cfg driverOk frame)
  | malformed {bytes error driverOk} (hmain : s.main = .select) (hdecode : Frame.decode bytes = .error error) :
      Stepped s (.receive bytes driverOk) s
  | endOfStream (hmain : s.main = .select) : Stepped s .endOfStream { s with main := .leaving }
  | receiveTx {bytes channel} (hmain : s.main = .select) (hchannel : s.channel = bytes :: channel) :
      Stepped s .receiveTx { s with channel, main := .forwarding bytes }
  | send {frame onError rest thenBreak bytes ok} (hmain : s.main = .sending frame onError rest thenBreak)
      (hencode : frame.encode = some bytes) :
      Stepped s (.send ok) { s.record (.sent frame ok) with main := .afterSend onError rest thenBreak ok }
  | sendPanics {frame onError rest thenBreak ok} (hmain : s.main = .sending frame onError rest thenBreak)
      (hencode : frame.encode = none) : Stepped s (.send ok) { s with main := .panicked }
  | forward {bytes ok} (hmain : s.main = .forwarding bytes) :
      Stepped s (.send ok) { s.record (.forwarded bytes ok) with main := if ok then .select else .leaving }
  | flushed {failed queues} (hmain : s.main = .flushing failed) (hpop : s.queues.popNext = (none, queues)) :
      Stepped s .flushed { s with queues, main := .sendingEach failed }
  | pushRx {failed transfer queues bytes ok} (hmain : s.main = .flushing failed)
      (hpop : s.queues.popNext = (some transfer, queues)) (hencode : transfer.frame.encode = some bytes) :
      Stepped s (.pushRx ok) { { s with queues }.record (.pushRx transfer.frame ok) with
        main := if ok then .pumping failed else .flushing (failed ++ [transfer.frame.statusResponse .failed]) }
  | pushRxPanics {failed transfer queues ok} (hmain : s.main = .flushing failed)
      (hpop : s.queues.popNext = (some transfer, queues)) (hencode : transfer.frame.encode = none) :
      Stepped s (.pushRx ok) { s with queues, main := .panicked }
  | pumpOnce {failed ok} (hmain : s.main = .pumping failed) :
      Stepped s (.pumpOnce ok) { s with main := .flushing failed }
  | cleanup {driverOk} (hmain : s.main = .leaving) :
      Stepped s (.cleanup driverOk) { s with
        lifecycle := (detachSession driverOk { s.lifecycle with state := .detaching }).2
        queues := s.queues.clear.2
        main := .cleaned }
  | cancelWorker (hmain : s.main = .cleaned) : Stepped s .cancelWorker { s with txCancelled := true, main := .joining }
  | join (hmain : s.main = .joining) (hworker : s.worker = .ended) :
      Stepped s .join { s with lifecycle := { s.lifecycle with state := .closed }, main := .finished }
  | checkCancelled (hworker : s.worker = .check) :
      Stepped s .checkCancelled { s with worker := if s.txCancelled then .ended else .poll }
  | pollFrame {frame bytes} (hworker : s.worker = .poll)
      (hout : (outboundNetworkFrame frame).bind Frame.encode = some bytes) :
      Stepped s (.pollTx (.ok (some frame))) { s with worker := .send bytes }
  | pollPanics {frame} (hworker : s.worker = .poll)
      (hout : (outboundNetworkFrame frame).bind Frame.encode = none) :
      Stepped s (.pollTx (.ok (some frame))) { s with worker := .ended }
  | pollNone (hworker : s.worker = .poll) : Stepped s (.pollTx (.ok none)) { s with worker := .wait }
  | pollError {error} (hworker : s.worker = .poll) : Stepped s (.pollTx (.error error)) { s with worker := .check }
  | blockingSend {bytes} (hworker : s.worker = .send bytes) (halive : s.receiverAlive = true)
      (hroom : s.channel.length < txCapacity) :
      Stepped s .blockingSend { s with channel := s.channel ++ [bytes], worker := .check }
  | blockingSendClosed {bytes} (hworker : s.worker = .send bytes) (hclosed : s.receiverAlive = false) :
      Stepped s .blockingSend { s with worker := .ended }
  | waitForTxFrame (hworker : s.worker = .wait) : Stepped s .waitForTxFrame { s with worker := .check }

variable {cfg} {s s' : NetworkSession} {a : SessionAct}

theorem step_stepped (h : step cfg s a = some s') : Stepped cfg s a s' := by
  cases a with
  | receive bytes driverOk =>
    simp only [step, NetworkSession.receive] at h
    split at h
    · rename_i hmain
      split at h <;> cases h
      · exact .receive hmain (by assumption)
      · exact .malformed hmain (by assumption)
    · cases h
  | endOfStream =>
    simp only [step, NetworkSession.endOfStream] at h
    split at h <;> cases h
    exact .endOfStream (by assumption)
  | receiveTx =>
    simp only [step, NetworkSession.receiveTx] at h
    split at h <;> cases h
    exact .receiveTx (by assumption) (by assumption)
  | send ok =>
    simp only [step, NetworkSession.send] at h
    split at h
    · rename_i hmain
      split at h <;> cases h
      · exact .sendPanics hmain (by assumption)
      · exact .send hmain (by assumption)
    · cases h
      exact .forward (by assumption)
    · cases h
  | flushed =>
    simp only [step, NetworkSession.flushed] at h
    split at h
    · rename_i hmain
      split at h <;> cases h
      exact .flushed hmain (by assumption)
    · cases h
  | pushRx ok =>
    simp only [step, NetworkSession.pushRx] at h
    split at h
    · rename_i hmain
      split at h
      · cases h
      · rename_i hpop
        split at h <;> cases h
        · exact .pushRxPanics hmain hpop (by assumption)
        · exact .pushRx hmain hpop (by assumption)
    · cases h
  | pumpOnce ok =>
    simp only [step, NetworkSession.pumpOnce] at h
    split at h <;> cases h
    exact .pumpOnce (by assumption)
  | cleanup driverOk =>
    simp only [step, NetworkSession.cleanup] at h
    split at h <;> cases h
    exact .cleanup (by assumption)
  | cancelWorker =>
    simp only [step, NetworkSession.cancelWorker] at h
    split at h <;> cases h
    exact .cancelWorker (by assumption)
  | join =>
    simp only [step, NetworkSession.join] at h
    split at h <;> cases h
    exact .join (by assumption) (by assumption)
  | checkCancelled =>
    simp only [step, NetworkSession.checkCancelled] at h
    split at h <;> cases h
    exact .checkCancelled (by assumption)
  | pollTx result =>
    simp only [step, NetworkSession.pollTx] at h
    split at h
    · rename_i hworker
      split at h
      · split at h <;> cases h
        · exact .pollFrame hworker (by assumption)
        · exact .pollPanics hworker (by assumption)
      · cases h
        exact .pollNone hworker
      · cases h
        exact .pollError hworker
    · cases h
  | blockingSend =>
    simp only [step, NetworkSession.blockingSend] at h
    split at h
    · rename_i hworker
      split at h
      · rename_i halive
        split at h <;> cases h
        exact .blockingSend hworker halive (by assumption)
      · rename_i hclosed
        cases h
        exact .blockingSendClosed hworker (Bool.not_eq_true _ ▸ hclosed)
    · cases h
  | waitForTxFrame =>
    simp only [step, NetworkSession.waitForTxFrame] at h
    split at h <;> cases h
    exact .waitForTxFrame (by assumption)

/-- A step records one event at most; a frame received is the one the step received. -/
theorem step_trace (h : step cfg s a = some s') : s'.trace = s.trace ∨
    ∃ event, s'.trace = s.trace ++ [(s.lifecycle.state, event)] ∧
      ∀ f, event = .received f → ∃ bytes driverOk, a = .receive bytes driverOk ∧ s.main = .select ∧
        Frame.decode bytes = .ok f := by
  cases step_stepped h with
  | receive hmain hdecode =>
    refine Or.inr ⟨_, (handleFrame_sameWorker _ _).trace, fun f hf => ?_⟩
    obtain rfl := SessionEvent.received.inj hf
    exact ⟨_, _, rfl, hmain, hdecode⟩
  | send hmain hencode => exact Or.inr ⟨_, rfl, fun f hf => nomatch hf⟩
  | forward hmain => exact Or.inr ⟨_, rfl, fun f hf => nomatch hf⟩
  | pushRx hmain hpop hencode => exact Or.inr ⟨_, rfl, fun f hf => nomatch hf⟩
  | _ => exact Or.inl rfl

end

end NetworkSession

end WhyUsb
