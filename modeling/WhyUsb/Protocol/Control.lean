import WhyUsb.Protocol.Basic

/-!
# Control transfers

The eight-byte setup packet with its standard-request view, and the payload of
a control transfer: a setup packet followed by data.
-/

namespace WhyUsb

open Endian

/-- `[u8; N]`. -/
abbrev ByteArrayN (n : Nat) := { bytes : List UInt8 // bytes.length = n }

def usbDescDevice : UInt8 := 0x01
def usbDescConfiguration : UInt8 := 0x02
def usbDescString : UInt8 := 0x03
def usbDescInterface : UInt8 := 0x04
def usbDescEndpoint : UInt8 := 0x05
def usbDescHidReport : UInt8 := 0x22

inductive UsbDescriptorType where
  | device
  | configuration
  | string
  | interface
  | endpoint
  | report
  deriving DecidableEq, Repr

def UsbDescriptorType.tryFrom (value : UInt8) : Except ProtocolError UsbDescriptorType :=
  if value = usbDescDevice then .ok .device
  else if value = usbDescConfiguration then .ok .configuration
  else if value = usbDescString then .ok .string
  else if value = usbDescInterface then .ok .interface
  else if value = usbDescEndpoint then .ok .endpoint
  else if value = usbDescHidReport then .ok .report
  else .error (.invalidControlTransfer "unsupported descriptor type")

inductive UsbStandardRequest where
  | setAddress
  | getDescriptor
  | setConfiguration
  deriving DecidableEq, Repr

def UsbStandardRequest.tryFrom (value : UInt8) : Except ProtocolError UsbStandardRequest :=
  match value with
  | 0x05 => .ok .setAddress
  | 0x06 => .ok .getDescriptor
  | 0x09 => .ok .setConfiguration
  | _ => .error (.invalidControlTransfer "unsupported standard request")

structure UsbControlSetup where
  requestType : UInt8
  request : UInt8
  value : UInt16
  index : UInt16
  length : UInt16
  deriving DecidableEq, Repr

namespace UsbControlSetup

def len : Nat := 8

def standardRequest (setup : UsbControlSetup) : Except ProtocolError UsbStandardRequest :=
  UsbStandardRequest.tryFrom setup.request

def descriptorType (setup : UsbControlSetup) : Except ProtocolError UsbDescriptorType :=
  UsbDescriptorType.tryFrom (setup.value >>> 8).toUInt8

def descriptorIndex (setup : UsbControlSetup) : UInt8 := (setup.value &&& 0xff).toUInt8

def transferDirection (setup : UsbControlSetup) : Direction :=
  if setup.requestType &&& 0x80 ≠ 0 then .deviceToHost else .hostToDevice

def encode (setup : UsbControlSetup) : List UInt8 :=
  setup.requestType :: setup.request :: (u16Le setup.value ++ (u16Le setup.index ++ u16Le setup.length))

def decode (bytes : List UInt8) : Except ProtocolError UsbControlSetup :=
  if bytes.length ≠ len then .error (.invalidControlTransfer "setup packet must be 8 bytes")
  else
    .ok {
      requestType := byteAt bytes 0
      request := byteAt bytes 1
      value := readU16Le bytes 2
      index := readU16Le bytes 4
      length := readU16Le bytes 6 }

@[simp] theorem encode_length (setup : UsbControlSetup) : setup.encode.length = len := by
  simp [encode, len]

end UsbControlSetup

structure UsbControlTransfer where
  setup : UsbControlSetup
  data : List UInt8
  deriving DecidableEq, Repr

namespace UsbControlTransfer

def encode (transfer : UsbControlTransfer) : List UInt8 := transfer.setup.encode ++ transfer.data

def decode (bytes : List UInt8) : Except ProtocolError UsbControlTransfer :=
  if bytes.length < UsbControlSetup.len then
    .error (.invalidControlTransfer "control transfer payload too short")
  else
    match UsbControlSetup.decode (slice bytes 0 UsbControlSetup.len) with
    | .error e => .error e
    | .ok setup => .ok { setup, data := bytes.drop UsbControlSetup.len }

end UsbControlTransfer

/-! ## Round trips -/

theorem readU16Le_cons_succ (b : UInt8) (bytes : List UInt8) (i : Nat) :
    readU16Le (b :: bytes) (i + 1) = readU16Le bytes i := by
  rw [readU16Le, readU16Le, slice, slice, List.drop_succ_cons]
  congr 3
  omega

namespace UsbControlSetup

theorem decode_encode (setup : UsbControlSetup) : decode setup.encode = .ok setup := by
  have hvalue : readU16Le setup.encode 2 = setup.value := by
    rw [encode, readU16Le_cons_succ, readU16Le_cons_succ, readU16Le_u16Le]
  have hindex : readU16Le setup.encode 4 = setup.index := by
    rw [encode, readU16Le_cons_succ, readU16Le_cons_succ, readU16Le_skip (by simp), u16Le_length, readU16Le_u16Le]
  have hlength : readU16Le setup.encode 6 = setup.length := by
    rw [encode, readU16Le_cons_succ, readU16Le_cons_succ, readU16Le_skip (by simp), readU16Le_skip (by simp),
      u16Le_length, u16Le_length, ← List.append_nil (u16Le setup.length), readU16Le_u16Le]
  rw [decode, if_neg (by simp), hvalue, hindex, hlength]
  rfl

theorem decode_ok {bytes : List UInt8} (h : bytes.length = len) : ∃ setup, decode bytes = .ok setup := by
  rw [decode, if_neg (by simpa using h)]
  exact ⟨_, rfl⟩

end UsbControlSetup

namespace UsbControlTransfer

theorem decode_encode (transfer : UsbControlTransfer) : decode transfer.encode = .ok transfer := by
  have hlen : ¬ (transfer.setup.encode ++ transfer.data).length < UsbControlSetup.len := by simp
  rw [encode, decode, if_neg hlen, slice_append_take (UsbControlSetup.encode_length _),
    UsbControlSetup.decode_encode, List.drop_left' (UsbControlSetup.encode_length _)]

end UsbControlTransfer

end WhyUsb
