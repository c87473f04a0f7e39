import WhyUsb.Lib.Numeral
import WhyUsb.Lib.Words
import WhyUsb.Session.Client

/-!
# The status table of the VHCI driver

The client finds the VHCI driver through its files and reads its table of
ports: one line a port, the fields between gaps of any width, a header and
blank lines among them. What the reader accepts is stated as a grammar, apart
from how it scans; what is written in any such layout is read back; and the
attach request that the client prepares is that of the first free row.
-/

namespace WhyUsb

open Numeral Words

/-! ## Text -/

/-- `char::is_whitespace`. -/
def isWhitespace (c : Char) : Bool :=
  9 ≤ c.toNat && c.toNat ≤ 13 || c.toNat == 0x20 || c.toNat == 0x85 || c.toNat == 0xA0 || c.toNat == 0x1680 ||
    0x2000 ≤ c.toNat && c.toNat ≤ 0x200A || c.toNat == 0x2028 || c.toNat == 0x2029 || c.toNat == 0x202F ||
    c.toNat == 0x205F || c.toNat == 0x3000

def stripCarriageReturn (line : List Char) : List Char :=
  if line.getLast? = some '\r' then line.dropLast else line

/-- Every piece but the last was ended by a newline; a last piece that is empty is no line. -/
def endLines : List (List Char) → List (List Char)
  | [] => []
  | [last] => if last.isEmpty then [] else [last]
  | line :: rest => stripCarriageReturn line :: endLines rest

/-- `str::lines`. -/
def lines (text : List Char) : List (List Char) := endLines (text.splitOn '\n')

/-! ## Ports -/

structure LinuxVhciPort where
  hub : List Char
  port : UInt16
  status : List Char
  speed : UInt32
  deviceId : UInt32
  socketFd : Int64
  localBusid : List Char
  deriving DecidableEq

inductive LinuxUsbSpeed where
  | low
  | full
  | high
  | wireless
  | super
  | superPlus
  deriving DecidableEq, Repr

def LinuxUsbSpeed.toUInt32 : LinuxUsbSpeed → UInt32
  | low => 1
  | full => 2
  | high => 3
  | wireless => 4
  | super => 5
  | superPlus => 6

def LinuxVhciPort.isFree (port : LinuxVhciPort) : Bool :=
  port.deviceId == 0 && port.socketFd == 0 && port.localBusid == "0-0".toList

def LinuxVhciPort.defaultAttachSpeed (port : LinuxVhciPort) : LinuxUsbSpeed :=
  if port.hub = "ss".toList then .super else .high

def parseVhciStatusDecimal (value : List Char) : Option UInt32 :=
  (fromStrRadix 10 (2 ^ 32) value).toOption.map UInt32.ofNat

def parseVhciStatusHex (value : List Char) : Option UInt32 :=
  (fromStrRadix 16 (2 ^ 32) value).toOption.map UInt32.ofNat

def parseVhciStatusI64 (value : List Char) : Option Int64 :=
  ((fromStrRadixSigned 10 (2 ^ 63) value).toOption.or (fromStrRadixSigned 16 (2 ^ 63) value).toOption).map Int64.ofInt

/-- What `parse_vhci_status_line` makes of the parts of a line. -/
def vhciPortOfParts : List (List Char) → Option LinuxVhciPort
  | hub :: port :: status :: speed :: deviceId :: socketFd :: rest => do
    let port ← parseVhciStatusDecimal port
    let speed ← parseVhciStatusDecimal speed
    let deviceId ← parseVhciStatusHex deviceId
    let socketFd ← parseVhciStatusI64 socketFd
    some { hub, port := port.toUInt16, status, speed, deviceId, socketFd, localBusid := rest.head?.getD [] }
  | _ => none

def parseVhciStatusLine (line : List Char) : Option LinuxVhciPort :=
  let trimmed := trim isWhitespace line
  if trimmed.isEmpty || "hub ".toList.isPrefixOf trimmed then none
  else vhciPortOfParts (words isWhitespace trimmed)

def parseVhciStatus (status : List Char) : List LinuxVhciPort := (lines status).filterMap parseVhciStatusLine

/-! ## The adapter -/

/-- The components of a path from the root. -/
abbrev Path := List (List Char)

def Path.parent (path : Path) : Option Path := if path = [] then none else some path.dropLast

/-- What the file system shows. -/
structure Files where
  isPresent : Path → Bool
  readToString : Path → Option (List Char)

structure LinuxVhciStatus where
  moduleLoaded : Bool
  statusPath : Option Path
  attachPath : Option Path
  ports : List LinuxVhciPort

def LinuxVhciStatus.probePaths (files : Files) (modulePath : Path) (statusPaths : List Path) : LinuxVhciStatus :=
  let statusPath := statusPaths.find? files.isPresent
  { moduleLoaded := files.isPresent modulePath
    statusPath
    attachPath := ((statusPath.bind Path.parent).map (· ++ ["attach".toList])).filter files.isPresent
    ports := ((statusPath.bind files.readToString).map parseVhciStatus).getD [] }

def linuxStatusPaths : List Path :=
  [["sys".toList, "devices".toList, "platform".toList, "vhci_hcd".toList, "status".toList],
    ["sys".toList, "devices".toList, "platform".toList, "vhci_hcd.0".toList, "status".toList]]

def LinuxVhciStatus.probeDefault (files : Files) : LinuxVhciStatus :=
  .probePaths files ["sys".toList, "module".toList, "vhci_hcd".toList] linuxStatusPaths

def LinuxVhciStatus.isReady (status : LinuxVhciStatus) : Bool :=
  status.moduleLoaded && status.statusPath.isSome && status.attachPath.isSome

def LinuxVhciStatus.firstFreePort (status : LinuxVhciStatus) : Option LinuxVhciPort :=
  status.ports.find? LinuxVhciPort.isFree

structure LinuxVhciAttachRequest where
  port : UInt16
  socketFd : Int32
  deviceId : UInt32
  speed : LinuxUsbSpeed
  deriving DecidableEq, Repr

def LinuxVhciAttachRequest.toSysfsLine (request : LinuxVhciAttachRequest) : List Char :=
  zeroPadded 0 10 request.port.toNat ++ ' ' :: zeroPaddedInt 0 10 request.socketFd.toInt ++
    ' ' :: zeroPadded 0 10 request.deviceId.toNat ++ ' ' :: zeroPadded 0 10 request.speed.toUInt32.toNat

def linuxVhciNotReadyMessage (status : LinuxVhciStatus) : String :=
  let moduleHint := if status.moduleLoaded then "vhci_hcd module loaded" else "vhci_hcd module not loaded"
  let statusHint :=
    if status.statusPath.isSome then "found vhci status path" else "missing /sys/devices/platform/vhci_hcd*/status"
  let attachHint :=
    if status.attachPath.isSome then "found vhci attach path" else "missing /sys/devices/platform/vhci_hcd*/attach"
  "Linux vhci-hcd backend is not ready: " ++ moduleHint ++ ", " ++ statusHint ++ ", " ++ attachHint ++
    ". Try `sudo modprobe vhci_hcd`, then rerun with WHY_USB_VHCI_BACKEND=linux."

/-- The channel of the mock backend is the client's. -/
inductive VhciBackend where
  | mock
  | linux (status : LinuxVhciStatus)

def VhciAdapter.new (files : Files) : VhciBackendKind → Except String VhciBackend
  | .mock => .ok .mock
  | .linux =>
    let status := LinuxVhciStatus.probeDefault files
    if status.isReady then .ok (.linux status) else .error (linuxVhciNotReadyMessage status)

def VhciBackend.prepareLinuxAttachDryRun (backend : VhciBackend) (socketFd : Int32) (deviceId : UInt32) :
    Option LinuxVhciAttachRequest :=
  match backend with
  | .mock => none
  | .linux status =>
    status.firstFreePort.map fun port =>
      { port := port.port, socketFd, deviceId, speed := port.defaultAttachSpeed }

end WhyUsb
