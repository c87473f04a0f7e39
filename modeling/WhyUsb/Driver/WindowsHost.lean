import WhyUsb.Driver.Mock
import WhyUsb.Driver.Records

/-!
# The daemon and the driver on one host

`WindowsDriverBackend` with the driver it opens. The daemon makes IOCTLs and
works on the rings through its view of the section; the driver answers, and
works on the same rings through the kernel's. The books hold what went through
the rings since they were made.
-/

namespace WhyUsb

/-! ## The backend's part in the IOCTLs -/

/-- The fields of `WindowsDriverBackend` that `open` and `map_shared_memory` fill. -/
structure OpenBackend where
  sessionId : UInt64
  maxFrameSize : UInt32
  sharedMemory : Option SharedMemoryMapping

def sessionOpenStatusMessage (status : UInt32) : String := "SESSION_OPEN returned status " ++ Nat.repr status.toNat

namespace OpenBackend

/-- `open` up to its `get_status`. -/
def ofResponse (c : Completion) : Except WindowsDriverError OpenBackend := do
  let bytes ← DeviceHandle.ioctl (ctlCode 0x801) sessionOpenResponseSize c
  let response := SessionOpenResponse.read bytes
  validateHeader response.header sessionOpenResponseSize
  if response.status ≠ 0 then throw (.mapping (.abi (sessionOpenStatusMessage response.status)))
  return ⟨response.sessionId, response.maxFrameSize, none⟩

def getStatus (c : Completion) : Except WindowsDriverError StatusResponse := do
  let bytes ← DeviceHandle.ioctl (ctlCode 0x806) statusResponseSize c
  let response := StatusResponse.read bytes
  validateHeader response.header statusResponseSize
  return response

def getSharedMemoryInfo (c : Completion) : Except WindowsDriverError SharedMemoryInfo := do
  let bytes ← DeviceHandle.ioctl (ctlCode 0x803) sharedMemoryInfoSize c
  let info := SharedMemoryInfo.read bytes
  validateHeader info.header sharedMemoryInfoSize
  return info

end OpenBackend

inductive WindowsPollError where
  | driver (error : WindowsDriverError)
  | malformedTxFrame (error : ProtocolError)
  deriving DecidableEq, Repr

namespace WindowsDriverBackend

/-- The pop of `poll_tx_frame`. -/
def popTxBytes (maxFrameSize : Nat) (b : WindowsDriverBackend) :
    Except WindowsDriverError (Option (List UInt8)) × WindowsDriverBackend :=
  match b.sharedMemory with
  | none => (.ok none, b)
  | some m =>
    match m.txRing with
    | .error e => (.error (.mapping e), b)
    | .ok r =>
      match Mapped.popFrame (b.rings r.base) maxFrameSize with
      | (.error e, ring) =>
        (.error (.mapping (.mappedRing e.toString)), { b with rings := Function.update b.rings r.base ring })
      | (.ok bytes, ring) => (.ok bytes, { b with rings := Function.update b.rings r.base ring })

def pollTxFrame (maxFrameSize : Nat) (b : WindowsDriverBackend) :
    Except WindowsPollError (Option Frame) × WindowsDriverBackend :=
  match b.popTxBytes maxFrameSize with
  | (.error e, b) => (.error (.driver e), b)
  | (.ok none, b) => (.ok none, b)
  | (.ok (some bytes), b) =>
    match Frame.decode bytes with
    | .ok frame => (.ok (some frame), b)
    | .error e => (.error (.malformedTxFrame e), b)

def stores (bytes : List UInt8) (b : WindowsDriverBackend) : Bool :=
  match b.sharedMemory.map SharedMemoryMapping.rxRing with
  | some (.ok r) => (Mapped.pushFrame (b.rings r.base) bytes).1.isOk
  | _ => false

def takes (maxFrameSize : Nat) (b : WindowsDriverBackend) : List (List UInt8) :=
  match (b.popTxBytes maxFrameSize).1 with
  | .ok bytes => bytes.toList
  | .error _ => []

end WindowsDriverBackend

/-! ## The host -/

structure ViewAddress where
  address : Nat
  nonnull : address ≠ 0
  aligned : address % 8 = 0

/-- The frames that went into a ring and out of it. -/
structure RingBook where
  pushed : List (List UInt8)
  popped : List (List UInt8)

def RingBook.new : RingBook := ⟨[], []⟩

structure WindowsHost where
  driver : Driver
  backend : Option OpenBackend
  tx : RingBook
  rx : RingBook

inductive WindowsAct where
  | open (created : Bool) (sessionOpen getStatus : Kernel)
  | mapSharedMemory (kernel : Kernel) (view : Option ViewAddress)
  | attachDevice (kernel : Kernel)
  | detachDevice (kernel : Kernel)
  | pushRxBytes (bytes : List UInt8) (setEvent : Bool)
  | pollTxFrame
  | drop (kernel : Kernel)
  | interceptUrb (urb : List UInt8)
  | mockDriverPumpOnce

namespace Driver

def rings (d : Driver) : Option SharedMemoryLayout := d.gSharedMemory.map d.memory

def setRings (m : SharedMemoryLayout) (d : Driver) : Driver :=
  match d.gSharedMemory with
  | none => d
  | some address => { d with memory := Function.update d.memory address m }

/-- What a view of the section shows. -/
def «section» (d : Driver) : SharedMemoryLayout := d.memory (d.context.sectionView.getD 0)

def setSection (m : SharedMemoryLayout) (d : Driver) : Driver :=
  { d with memory := Function.update d.memory (d.context.sectionView.getD 0) m }

end Driver

namespace WindowsHost

/-- What the IOCTL leaves; rings that are made or taken away begin anew. -/
def ioctl (code : UInt32) (k : Kernel) (s : WindowsHost) : Completion × WindowsHost :=
  let (c, d) := s.driver.evtIoDeviceControl code k
  if d.gSharedMemory = s.driver.gSharedMemory ∧ d.context.sharedMemoryReady = s.driver.context.sharedMemoryReady then
    (c, { s with driver := d })
  else
    (c, { s with
      driver := d
      tx := .new
      rx := .new })

/-- `created` is whether `CreateFileW` gives a handle. A backend that cannot query the status is dropped. -/
def «open» (created : Bool) (sessionOpen getStatus : Kernel) (s : WindowsHost) :
    Except WindowsDriverError Unit × WindowsHost :=
  if created then
    let (c, s) := s.ioctl (ctlCode 0x801) sessionOpen
    match OpenBackend.ofResponse c with
    | .error e => (.error e, s)
    | .ok b =>
      let (c, s) := s.ioctl (ctlCode 0x806) getStatus
      match OpenBackend.getStatus c with
      | .error e => (.error e, (s.ioctl (ctlCode 0x802) getStatus).2)
      | .ok _ => (.ok (), { s with backend := some b })
  else (.error (.mapping (.windowsIo "CreateFileW")), s)

def mapSharedMemory (k : Kernel) (view : Option ViewAddress) (b : OpenBackend) (s : WindowsHost) :
    Except WindowsDriverError Unit × WindowsHost :=
  match b.sharedMemory with
  | some _ => (.ok (), s)
  | none =>
    let (c, s) := s.ioctl (ctlCode 0x803) k
    match OpenBackend.getSharedMemoryInfo c with
    | .error e => (.error e, s)
    | .ok info =>
      match SharedMemoryMapping.map info
          (view.map fun v => ⟨v.address, s.driver.section.header, v.nonnull, v.aligned⟩) with
      | .error e => (.error (.mapping e), s)
      | .ok m => (.ok (), { s with backend := some { b with sharedMemory := some m } })

def attachDevice (k : Kernel) (s : WindowsHost) : Except WindowsDriverError Unit × WindowsHost :=
  let (c, s) := s.ioctl (ctlCode 0x804) k
  (DeviceHandle.ioctlNoOutput c, s)

def detachDevice (k : Kernel) (s : WindowsHost) : Except WindowsDriverError Unit × WindowsHost :=
  let (c, s) := s.ioctl (ctlCode 0x805) k
  (DeviceHandle.ioctlNoOutput c, s)

def view (b : OpenBackend) (m : SharedMemoryLayout) : WindowsDriverBackend where
  sharedMemory := b.sharedMemory
  rings := fun base =>
    if b.sharedMemory.map (fun mapping => mapping.view.address + SharedMemoryLayout.rxRingOffset) = some base then m.rxRing
    else m.txRing

/-- What the section holds after the backend has worked on it. -/
def written (b : WindowsDriverBackend) (m : SharedMemoryLayout) : SharedMemoryLayout :=
  match b.sharedMemory with
  | none => m
  | some mapping =>
    { m with
      txRing := b.rings (mapping.view.address + SharedMemoryLayout.txRingOffset)
      rxRing := b.rings (mapping.view.address + SharedMemoryLayout.rxRingOffset) }

/-- A push of the daemon; the frame is stored also where it cannot be signalled. -/
def pushRxBytes (bytes : List UInt8) (setEvent : Bool) (b : OpenBackend) (s : WindowsHost) :
    Except WindowsDriverError Unit × WindowsHost :=
  let backend := view b s.driver.section
  let (result, after) := backend.pushRxBytes setEvent bytes
  (result, { s with
    driver := s.driver.setSection (written after s.driver.section)
    rx := { s.rx with pushed := s.rx.pushed ++ if backend.stores bytes then [bytes] else [] } })

def pollTxFrame (b : OpenBackend) (s : WindowsHost) : Except WindowsPollError (Option Frame) × WindowsHost :=
  let backend := view b s.driver.section
  let (result, after) := backend.pollTxFrame b.maxFrameSize.toNat
  (result, { s with
    driver := s.driver.setSection (written after s.driver.section)
    tx := { s.tx with popped := s.tx.popped ++ backend.takes b.maxFrameSize.toNat } })

/-- `intercept_urb` of the driver. -/
def interceptUrb (urb : List UInt8) (s : WindowsHost) : Bool × WindowsHost :=
  match s.driver.rings with
  | none => (false, s)
  | some m =>
    let (ok, ring) := Spsc.pushFrame m.txRing urb
    (ok, { s with
      driver := s.driver.setRings { m with txRing := ring }
      tx := { s.tx with pushed := s.tx.pushed ++ if ok then [urb] else [] } })

/-- `mock_driver_pump_once` of the driver. -/
def mockDriverPumpOnce (s : WindowsHost) : Bool × WindowsHost :=
  match s.driver.rings with
  | none => (false, s)
  | some m =>
    match Spsc.popFrame m.rxRing pumpBufferSize with
    | (none, rxRing) => (false, { s with driver := s.driver.setRings { m with rxRing } })
    | (some frame, rxRing) =>
      let (ok, txRing) := Spsc.pushFrame m.txRing frame
      (ok, { s with
        driver := s.driver.setRings { m with txRing, rxRing }
        rx := { s.rx with popped := s.rx.popped ++ [frame] }
        tx := { s.tx with pushed := s.tx.pushed ++ if ok then [frame] else [] } })

/-- The daemon opens one backend at a time, and calls it until it is dropped. -/
def step (s : WindowsHost) : WindowsAct → Option WindowsHost
  | .open created sessionOpen getStatus =>
    match s.backend with
    | none => some (s.open created sessionOpen getStatus).2
    | some _ => none
  | .mapSharedMemory k view => s.backend.map fun b => (s.mapSharedMemory k view b).2
  | .attachDevice k => s.backend.map fun _ => (s.attachDevice k).2
  | .detachDevice k => s.backend.map fun _ => (s.detachDevice k).2
  | .pushRxBytes bytes setEvent => s.backend.map fun b => (s.pushRxBytes bytes setEvent b).2
  | .pollTxFrame => s.backend.map fun b => (s.pollTxFrame b).2
  | .drop k => s.backend.map fun _ => { (s.ioctl (ctlCode 0x802) k).2 with backend := none }
  | .interceptUrb urb => some (s.interceptUrb urb).2
  | .mockDriverPumpOnce => some s.mockDriverPumpOnce.2

end WindowsHost

end WhyUsb
