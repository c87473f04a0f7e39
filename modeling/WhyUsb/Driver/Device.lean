import WhyUsb.Driver.Abi
import WhyUsb.Lib.Lts

/-!
# The driver's sessions

`EvtIoDeviceControl` and what it works on: the session state, the pointer to
the memory of the rings with its ownership flag, and the context of the device.
Handles and pointers are options, `none` the null of either; the answers of the
kernel to one request are part of it. What the memory holds is part of it too,
since others write to the rings between two requests.
-/

namespace WhyUsb

abbrev NtStatus := Int32

abbrev NtSuccess (status : NtStatus) : Prop := 0 ≤ status

def statusSuccess : NtStatus := 0
/-- As `vhci.h` defines it. -/
def statusUnsuccessful : NtStatus := -1
def statusInvalidDeviceState : NtStatus := (0xc0000184 : UInt32).toInt32
def statusInvalidDeviceRequest : NtStatus := (0xc0000010 : UInt32).toInt32

/-! ## The memory of the rings -/

/-- `SharedMemoryContext`, with the header in front of the rings. -/
structure SharedMemoryLayout where
  header : SharedMemoryHeader
  txRing : Ring
  rxRing : Ring

namespace SharedMemoryLayout

/-- `offsetof(SharedMemoryContext, tx_ring)`: the header, up to the alignment of the cursors. -/
def txRingOffset : Nat := 32

def rxRingOffset : Nat := txRingOffset + ringMappingSize

def size : Nat := rxRingOffset + ringMappingSize

/-- The header both constructors write, in `ring_buffer.h` and in `InitializeSharedMemoryContext`. -/
def initialHeader : SharedMemoryHeader where
  magic := sharedMemoryMagic
  version := sharedMemoryVersion
  headerSize := UInt16.ofNat sharedMemoryHeaderSize
  mappingSize := UInt32.ofNat size
  txRingOffset := UInt32.ofNat txRingOffset
  rxRingOffset := UInt32.ofNat rxRingOffset
  txRingSize := UInt32.ofNat ringMappingSize
  rxRingSize := UInt32.ofNat ringMappingSize

def initial : SharedMemoryLayout where
  header := initialHeader
  txRing := { head := 0, tail := 0, data := fun _ => 0 }
  rxRing := { head := 0, tail := 0, data := fun _ => 0 }

end SharedMemoryLayout

/-- The globals of `vhci.cpp`, and what the memory at each address holds. -/
structure Vhci where
  gSharedMemory : Option UInt64
  gOwnsSharedMemory : Bool
  memory : UInt64 → SharedMemoryLayout

namespace Vhci

def releaseOwnedSharedMemory (v : Vhci) : Vhci :=
  { v with
    gSharedMemory := none
    gOwnsSharedMemory := false }

/-- `allocation` is what `new SharedMemoryContext()` returns. -/
def initVhciDriver (allocation : Option UInt64) (v : Vhci) : NtStatus × Vhci :=
  let v := v.releaseOwnedSharedMemory
  match allocation with
  | none => (statusUnsuccessful, v)
  | some address =>
    (statusSuccess,
      { gSharedMemory := some address
        gOwnsSharedMemory := true
        memory := Function.update v.memory address .initial })

def useExternalSharedMemoryContext (context : Option UInt64) (v : Vhci) : Vhci :=
  { v.releaseOwnedSharedMemory with gSharedMemory := context }

def getSharedMemoryInfo (v : Vhci) : Option SharedMemoryInfo :=
  v.gSharedMemory.map fun address =>
    let header := (v.memory address).header
    { header := .new sharedMemoryInfoSize
      sectionHandle := 0
      txEventHandle := 0
      rxEventHandle := 0
      mappingSize := header.mappingSize
      txRingSize := header.txRingSize
      rxRingSize := header.rxRingSize
      txRingOffset := header.txRingOffset
      rxRingOffset := header.rxRingOffset }

def getDriverStatus (v : Vhci) : Option StatusResponse :=
  v.gSharedMemory.map fun address =>
    let m := v.memory address
    { header := .new statusResponseSize
      sessionId := 1
      status := 0
      sessionState := 1
      txQueuedBytes := (m.txRing.head - m.txRing.tail).toUInt32
      rxQueuedBytes := (m.rxRing.head - m.rxRing.tail).toUInt32 }

end Vhci

/-! ## The device -/

inductive WhyUsbSessionState where
  | sessionClosed
  | sessionOpen
  | sessionAttached
  deriving DecidableEq, Repr

def WhyUsbSessionState.asU32 : WhyUsbSessionState → UInt32
  | sessionClosed => 0
  | sessionOpen => 1
  | sessionAttached => 2

def whyUsbStatusUnsupported : UInt32 := 1

structure DeviceContext where
  sectionHandle : Option UInt64
  txEventHandle : Option UInt64
  rxEventHandle : Option UInt64
  sectionView : Option UInt64
  sharedMemoryReady : Bool
  sharedMemoryInfo : SharedMemoryInfo

/-- The context as the framework zeroes it, and as `CloseSharedResources` leaves it. -/
def DeviceContext.zeroed : DeviceContext where
  sectionHandle := none
  txEventHandle := none
  rxEventHandle := none
  sectionView := none
  sharedMemoryReady := false
  sharedMemoryInfo := ⟨⟨0, 0, 0⟩, 0, 0, 0, 0, 0, 0, 0, 0⟩

structure Driver extends Vhci where
  gSessionState : WhyUsbSessionState
  context : DeviceContext

/-- The outcome of a kernel call, and what it hands out when it succeeds. -/
structure KernelCall where
  status : NtStatus
  out : UInt64
  deriving DecidableEq, Repr

/-- The answers of the kernel while one request is handled. -/
structure Kernel where
  allocation : Option UInt64
  zwCreateSection : KernelCall
  zwMapViewOfSection : KernelCall
  zwCreateTxEvent : KernelCall
  zwCreateRxEvent : KernelCall
  retrieveOutputBuffer : NtStatus
  deriving DecidableEq, Repr

inductive IoctlOutput where
  | sessionOpen (response : SessionOpenResponse)
  | sharedMemory (info : SharedMemoryInfo)
  | status (response : StatusResponse)
  deriving DecidableEq, Repr

structure Completion where
  status : NtStatus
  output : Option IoctlOutput
  deriving DecidableEq, Repr

namespace Driver

/-- `g_SessionId`, which is never assigned. -/
def gSessionId : UInt64 := 1

/-- `DriverEntry` and `EvtDriverDeviceAdd`. -/
def driverEntry (allocation : Option UInt64) (memory : UInt64 → SharedMemoryLayout) : NtStatus × Driver :=
  let (status, v) := Vhci.initVhciDriver allocation ⟨none, false, memory⟩
  (status,
    { toVhci := v
      gSessionState := .sessionClosed
      context := .zeroed })

def ensureDriverMemoryContext (k : Kernel) (d : Driver) : NtStatus × Driver :=
  match d.getDriverStatus with
  | some _ => (statusSuccess, d)
  | none =>
    let (status, v) := d.initVhciDriver k.allocation
    (status, { d with toVhci := v })

def closeSharedResources (d : Driver) : Driver :=
  { d with
    toVhci := d.useExternalSharedMemoryContext none
    context := .zeroed }

def createSharedResources (k : Kernel) (d : Driver) : NtStatus × Driver :=
  if ¬ NtSuccess k.zwCreateSection.status then (k.zwCreateSection.status, d)
  else
    let d := { d with context := { d.context with
      sectionHandle := some k.zwCreateSection.out
      sectionView := none } }
    if ¬ NtSuccess k.zwMapViewOfSection.status then (k.zwMapViewOfSection.status, d)
    else
      let view := k.zwMapViewOfSection.out
      let v := { d.toVhci with memory := Function.update d.memory view .initial }
      let d := { d with
        toVhci := v.useExternalSharedMemoryContext (some view)
        context := { d.context with sectionView := some view } }
      if ¬ NtSuccess k.zwCreateTxEvent.status then (k.zwCreateTxEvent.status, d)
      else
        let d := { d with context := { d.context with txEventHandle := some k.zwCreateTxEvent.out } }
        if ¬ NtSuccess k.zwCreateRxEvent.status then (k.zwCreateRxEvent.status, d)
        else
          (k.zwCreateRxEvent.status,
            { d with context := { d.context with rxEventHandle := some k.zwCreateRxEvent.out } })

def handleToU64 (handle : Option UInt64) : UInt64 := handle.getD 0

def ensureSharedResources (k : Kernel) (d : Driver) : NtStatus × Driver :=
  if d.context.sharedMemoryReady then (statusSuccess, d)
  else
    let (status, d) := d.createSharedResources k
    if ¬ NtSuccess status then (status, d.closeSharedResources)
    else
      match d.getSharedMemoryInfo with
      | none => (statusInvalidDeviceState, d.closeSharedResources)
      | some info =>
        (statusSuccess, { d with context := { d.context with
          sharedMemoryInfo := { info with
            sectionHandle := handleToU64 d.context.sectionHandle
            txEventHandle := handleToU64 d.context.txEventHandle
            rxEventHandle := handleToU64 d.context.rxEventHandle }
          sharedMemoryReady := true } })

/-! ## Requests -/

/-- `WdfRequestCompleteWithInformation` without output. -/
def complete (status : NtStatus) : Completion := ⟨status, none⟩

def completeWithStruct (k : Kernel) (value : IoctlOutput) : Completion :=
  if ¬ NtSuccess k.retrieveOutputBuffer then complete k.retrieveOutputBuffer
  else ⟨statusSuccess, some value⟩

def sessionOpen (k : Kernel) (d : Driver) : Completion × Driver :=
  let (status, d) := d.ensureDriverMemoryContext k
  if ¬ NtSuccess status then (complete status, d)
  else
    (completeWithStruct k (.sessionOpen
        { header := .new sessionOpenResponseSize
          sessionId := gSessionId
          status := 0
          maxFrameSize := 64 * 1024 }),
      { d with gSessionState := .sessionOpen })

def sessionClose (d : Driver) : Completion × Driver :=
  (complete statusSuccess, { d with gSessionState := .sessionClosed }.closeSharedResources)

def getSharedMemory (k : Kernel) (d : Driver) : Completion × Driver :=
  let (status, d) := d.ensureSharedResources k
  if ¬ NtSuccess status then (complete status, d)
  else (completeWithStruct k (.sharedMemory d.context.sharedMemoryInfo), d)

def attachDevice (d : Driver) : Completion × Driver :=
  (complete statusSuccess, { d with gSessionState := .sessionAttached })

def detachDevice (d : Driver) : Completion × Driver :=
  (complete statusSuccess, { d with gSessionState := .sessionOpen })

def getStatus (k : Kernel) (d : Driver) : Completion × Driver :=
  match d.getDriverStatus with
  | none => (complete statusInvalidDeviceState, d)
  | some response =>
    let response := { response with
      sessionId := gSessionId
      sessionState := d.gSessionState.asU32 }
    let response :=
      if d.context.sharedMemoryReady = false ∧ d.gSessionState ≠ .sessionClosed then
        { response with status := whyUsbStatusUnsupported }
      else response
    (completeWithStruct k (.status response), d)

def evtIoDeviceControl (code : UInt32) (k : Kernel) (d : Driver) : Completion × Driver :=
  match IoControlCode.ofCode code with
  | .sessionOpen => d.sessionOpen k
  | .sessionClose => d.sessionClose
  | .getSharedMemory => d.getSharedMemory k
  | .attachDevice => d.attachDevice
  | .detachDevice => d.detachDevice
  | .getStatus => d.getStatus k
  | .unknown => (complete statusInvalidDeviceRequest, d)

end Driver

/-- A request, with the kernel's answers and what the memory holds when it arrives. -/
structure Ioctl where
  code : UInt32
  kernel : Kernel
  memory : UInt64 → SharedMemoryLayout

namespace Driver

def handle (d : Driver) (io : Ioctl) : Completion × Driver :=
  { d with memory := io.memory }.evtIoDeviceControl io.code io.kernel

def step (d : Driver) (io : Ioctl) : Option Driver := some (d.handle io).2

end Driver

end WhyUsb
