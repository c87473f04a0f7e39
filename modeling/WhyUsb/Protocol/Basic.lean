import WhyUsb.Lib.Endian

/-!
# Protocol constants, enumerations and readers

The enumerations have explicit discriminants; `tryFrom` is their `TryFrom` and
`asU8`, `asI32`, `asU32` the cast back. The readers index without a check, as
in the source, where every caller has tested the length.
-/

namespace WhyUsb

open Endian

inductive FrameType where
  | request
  | response
  | event
  | attachRequest
  | attachResponse
  | detachRequest
  | detachResponse
  | cancelRequest
  | cancelResponse
  | resetRequest
  | resetResponse
  deriving DecidableEq, Repr

inductive TransferStatus where
  | ok
  | failed
  | cancelled
  | timeout
  | stall
  | reset
  deriving DecidableEq, Repr

inductive Direction where
  | hostToDevice
  | deviceToHost
  deriving DecidableEq, Repr

inductive TransferType where
  | control
  | bulk
  | interrupt
  | isochronous
  deriving DecidableEq, Repr

inductive UsbIpCommand where
  | cmdSubmit
  | cmdUnlink
  | retSubmit
  | retUnlink
  deriving DecidableEq, Repr

inductive UsbIpDirection where
  | out
  | in
  deriving DecidableEq, Repr

inductive ProtocolError where
  | truncatedHeader (actual expected : Nat)
  | invalidMagic
  | unsupportedVersion (version : UInt8)
  | invalidFrameType (value : UInt8)
  | invalidDirection (value : UInt8)
  | invalidTransferType (value : UInt8)
  | invalidTransferStatus (value : Int32)
  | invalidPayloadLength (actual expected : Nat)
  | invalidDescriptorSet (message : String)
  | invalidControlTransfer (message : String)
  | invalidBulkPayload (message : String)
  | invalidUsbIpPacket (message : String)
  | invalidHidReport (message : String)
  deriving DecidableEq, Repr

section
variable {ε α β : Type}

theorem bind_eq_ok {x : Except ε α} {k : α → Except ε β} {b : β} :
    (x >>= k) = .ok b ↔ ∃ a, x = .ok a ∧ k a = .ok b := by
  cases x with
  | error e => exact ⟨fun h => (nomatch h), fun ⟨_, h, _⟩ => (nomatch h)⟩
  | ok a => exact ⟨fun h => ⟨a, rfl, h⟩, fun ⟨_, ha, hk⟩ => by cases ha; exact hk⟩

theorem ok_bind (a : α) (k : α → Except ε β) : ((.ok a : Except ε α) >>= k) = k a := rfl

theorem ite_error_eq_ok {p : Prop} [Decidable p] {e : ε} {x : Except ε α} {a : α} :
    (if p then .error e else x) = .ok a ↔ ¬ p ∧ x = .ok a := by
  split <;> simp [*]

end

/-! ## Discriminants -/

def FrameType.asU8 : FrameType → UInt8
  | .request => 1
  | .response => 2
  | .event => 3
  | .attachRequest => 4
  | .attachResponse => 5
  | .detachRequest => 6
  | .detachResponse => 7
  | .cancelRequest => 8
  | .cancelResponse => 9
  | .resetRequest => 10
  | .resetResponse => 11

def FrameType.tryFrom (value : UInt8) : Except ProtocolError FrameType :=
  match value with
  | 1 => .ok .request
  | 2 => .ok .response
  | 3 => .ok .event
  | 4 => .ok .attachRequest
  | 5 => .ok .attachResponse
  | 6 => .ok .detachRequest
  | 7 => .ok .detachResponse
  | 8 => .ok .cancelRequest
  | 9 => .ok .cancelResponse
  | 10 => .ok .resetRequest
  | 11 => .ok .resetResponse
  | other => .error (.invalidFrameType other)

def TransferStatus.asI32 : TransferStatus → Int32
  | .ok => 0
  | .failed => -1
  | .cancelled => -2
  | .timeout => -3
  | .stall => -4
  | .reset => -5

def Direction.asU8 : Direction → UInt8
  | .hostToDevice => 1
  | .deviceToHost => 2

def Direction.tryFrom (value : UInt8) : Except ProtocolError Direction :=
  match value with
  | 1 => .ok .hostToDevice
  | 2 => .ok .deviceToHost
  | other => .error (.invalidDirection other)

def TransferType.asU8 : TransferType → UInt8
  | .control => 1
  | .bulk => 2
  | .interrupt => 3
  | .isochronous => 4

def TransferType.tryFrom (value : UInt8) : Except ProtocolError TransferType :=
  match value with
  | 1 => .ok .control
  | 2 => .ok .bulk
  | 3 => .ok .interrupt
  | 4 => .ok .isochronous
  | other => .error (.invalidTransferType other)

def UsbIpCommand.asU32 : UsbIpCommand → UInt32
  | .cmdSubmit => 1
  | .cmdUnlink => 2
  | .retSubmit => 3
  | .retUnlink => 4

def UsbIpCommand.tryFrom (value : UInt32) : Except ProtocolError UsbIpCommand :=
  match value with
  | 1 => .ok .cmdSubmit
  | 2 => .ok .cmdUnlink
  | 3 => .ok .retSubmit
  | 4 => .ok .retUnlink
  | _ => .error (.invalidUsbIpPacket "unsupported command")

def UsbIpDirection.asU32 : UsbIpDirection → UInt32
  | .out => 0
  | .in => 1

def UsbIpDirection.tryFrom (value : UInt32) : Except ProtocolError UsbIpDirection :=
  match value with
  | 0 => .ok .out
  | 1 => .ok .in
  | _ => .error (.invalidUsbIpPacket "unsupported direction")

@[simp] theorem FrameType.tryFrom_asU8 (t : FrameType) : FrameType.tryFrom t.asU8 = .ok t := by
  cases t <;> rfl

@[simp] theorem Direction.tryFrom_asU8 (d : Direction) : Direction.tryFrom d.asU8 = .ok d := by
  cases d <;> rfl

@[simp] theorem TransferType.tryFrom_asU8 (t : TransferType) : TransferType.tryFrom t.asU8 = .ok t := by
  cases t <;> rfl

@[simp] theorem UsbIpCommand.tryFrom_asU32 (c : UsbIpCommand) : UsbIpCommand.tryFrom c.asU32 = .ok c := by
  cases c <;> rfl

@[simp] theorem UsbIpDirection.tryFrom_asU32 (d : UsbIpDirection) : UsbIpDirection.tryFrom d.asU32 = .ok d := by
  cases d <;> rfl

/-! A discriminant is accepted from its own value only. -/

theorem FrameType.tryFrom_ok {value : UInt8} {t : FrameType} (h : FrameType.tryFrom value = .ok t) : t.asU8 = value := by
  unfold FrameType.tryFrom at h
  split at h <;> cases h <;> rfl

theorem Direction.tryFrom_ok {value : UInt8} {d : Direction} (h : Direction.tryFrom value = .ok d) : d.asU8 = value := by
  unfold Direction.tryFrom at h
  split at h <;> cases h <;> rfl

theorem TransferType.tryFrom_ok {value : UInt8} {t : TransferType} (h : TransferType.tryFrom value = .ok t) :
    t.asU8 = value := by
  unfold TransferType.tryFrom at h
  split at h <;> cases h <;> rfl

theorem UsbIpCommand.tryFrom_ok {value : UInt32} {c : UsbIpCommand} (h : UsbIpCommand.tryFrom value = .ok c) :
    c.asU32 = value := by
  unfold UsbIpCommand.tryFrom at h
  split at h <;> cases h <;> rfl

theorem UsbIpDirection.tryFrom_ok {value : UInt32} {d : UsbIpDirection} (h : UsbIpDirection.tryFrom value = .ok d) :
    d.asU32 = value := by
  unfold UsbIpDirection.tryFrom at h
  split at h <;> cases h <;> rfl

/-! ## Integers in byte strings -/

def u8TryFrom (n : Nat) : Option UInt8 := if n < 2 ^ 8 then some (UInt8.ofNat n) else none

def u16TryFrom (n : Nat) : Option UInt16 := if n < 2 ^ 16 then some (UInt16.ofNat n) else none

def u32TryFrom (n : Nat) : Option UInt32 := if n < 2 ^ 32 then some (UInt32.ofNat n) else none

def readU16Le (bytes : List UInt8) (offset : Nat) : UInt16 :=
  UInt16.ofNat (leNat (slice bytes offset (offset + 2)))

def readU32Be (bytes : List UInt8) (offset : Nat) : UInt32 :=
  UInt32.ofNat (beNat (slice bytes offset (offset + 4)))

def u16Le (n : UInt16) : List UInt8 := leBytes 2 n.toNat

def u32Be (n : UInt32) : List UInt8 := beBytes 4 n.toNat

def i32Be (n : Int32) : List UInt8 := u32Be n.toUInt32

@[simp] theorem u16Le_length (n : UInt16) : (u16Le n).length = 2 := leBytes_length 2 _

@[simp] theorem u32Be_length (n : UInt32) : (u32Be n).length = 4 := beBytes_length 4 _

@[simp] theorem i32Be_length (n : Int32) : (i32Be n).length = 4 := beBytes_length 4 _

theorem u32TryFrom_eq_some {n : Nat} {x : UInt32} : u32TryFrom n = some x ↔ x.toNat = n := by
  unfold u32TryFrom
  rw [Option.ite_none_right_eq_some, Option.some.injEq]
  constructor
  · rintro ⟨h, rfl⟩
    rw [UInt32.toNat_ofNat', Nat.mod_eq_of_lt h]
  · rintro rfl
    exact ⟨x.toNat_lt, UInt32.ofNat_toNat⟩

theorem ofNat_beNat_u32Be (n : UInt32) : UInt32.ofNat (beNat (u32Be n)) = n := by
  rw [u32Be, beNat_beBytes_of_lt n.toNat_lt, UInt32.ofNat_toNat]

theorem ofNat_leNat_u16Le (n : UInt16) : UInt16.ofNat (leNat (u16Le n)) = n := by
  rw [u16Le, leNat_leBytes_of_lt n.toNat_lt, UInt16.ofNat_toNat]

theorem readU32Be_skip {xs ys : List UInt8} {offset : Nat} (h : xs.length ≤ offset) :
    readU32Be (xs ++ ys) offset = readU32Be ys (offset - xs.length) := by
  rw [readU32Be, readU32Be, slice_append_skip h, Nat.sub_add_comm h]

theorem readU32Be_u32Be (n : UInt32) (ys : List UInt8) : readU32Be (u32Be n ++ ys) 0 = n := by
  rw [readU32Be, slice_append_take (u32Be_length n), ofNat_beNat_u32Be]

theorem readU16Le_skip {xs ys : List UInt8} {offset : Nat} (h : xs.length ≤ offset) :
    readU16Le (xs ++ ys) offset = readU16Le ys (offset - xs.length) := by
  rw [readU16Le, readU16Le, slice_append_skip h, Nat.sub_add_comm h]

theorem readU16Le_u16Le (n : UInt16) (ys : List UInt8) : readU16Le (u16Le n ++ ys) 0 = n := by
  rw [readU16Le, slice_append_take (u16Le_length n), ofNat_leNat_u16Le]

theorem u32Be_readU32Be {bytes : List UInt8} {offset : Nat} (h : offset + 4 ≤ bytes.length) :
    u32Be (readU32Be bytes offset) = slice bytes offset (offset + 4) := by
  have hlen : (slice bytes offset (offset + 4)).length = 4 := by rw [slice_length h, Nat.add_sub_cancel_left]
  have hlt := beNat_lt (slice bytes offset (offset + 4))
  have hbytes := beBytes_beNat (slice bytes offset (offset + 4))
  rw [hlen] at hlt hbytes
  rw [readU32Be, u32Be, UInt32.toNat_ofNat', Nat.mod_eq_of_lt (by simpa using hlt), hbytes]

end WhyUsb
