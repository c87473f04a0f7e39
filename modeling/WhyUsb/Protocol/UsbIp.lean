import WhyUsb.Protocol.Control

/-!
# USB/IP packets

Every packet starts with 48 bytes: the 20-byte basic header and 28 bytes that
depend on the command. A submit to the device and the answer to a submit carry
a payload behind them, whose length stands at byte 24. What an `encode`
returns, the `decode` of the same packet reads back.
-/

namespace WhyUsb

open Endian

def usbIpHeaderLen : Nat := 48
def usbIpNoIsoPackets : UInt32 := 0xffffffff

structure UsbIpHeaderBasic where
  command : UsbIpCommand
  seqnum : UInt32
  devid : UInt32
  direction : UsbIpDirection
  endpoint : UInt32
  deriving DecidableEq, Repr

namespace UsbIpHeaderBasic

def len : Nat := 20

def encode (header : UsbIpHeaderBasic) : List UInt8 :=
  u32Be header.command.asU32 ++ (u32Be header.seqnum ++ (u32Be header.devid ++
    (u32Be header.direction.asU32 ++ u32Be header.endpoint)))

def decode (bytes : List UInt8) : Except ProtocolError UsbIpHeaderBasic :=
  if bytes.length < len then .error (.invalidUsbIpPacket "basic header too short")
  else do
    let command ← UsbIpCommand.tryFrom (readU32Be bytes 0)
    let direction ← UsbIpDirection.tryFrom (readU32Be bytes 12)
    .ok {
      command
      seqnum := readU32Be bytes 4
      devid := readU32Be bytes 8
      direction
      endpoint := readU32Be bytes 16 }

@[simp] theorem encode_length (header : UsbIpHeaderBasic) : header.encode.length = len := by
  simp [encode, len]

end UsbIpHeaderBasic

/-! ## Packets of the host -/

structure UsbIpCmdSubmit where
  header : UsbIpHeaderBasic
  transferFlags : UInt32
  transferBufferLength : UInt32
  startFrame : UInt32
  numberOfPackets : UInt32
  interval : UInt32
  setup : ByteArrayN 8
  transferBuffer : List UInt8
  deriving DecidableEq

namespace UsbIpCmdSubmit

def encode (submit : UsbIpCmdSubmit) : Except ProtocolError (List UInt8) :=
  if submit.header.command ≠ .cmdSubmit then .error (.invalidUsbIpPacket "submit header command mismatch")
  else if submit.header.direction = .out ∧ submit.transferBuffer.length ≠ submit.transferBufferLength.toNat then
    .error (.invalidUsbIpPacket "OUT transfer length mismatch")
  else if submit.header.direction = .in ∧ submit.transferBuffer ≠ [] then
    .error (.invalidUsbIpPacket "IN submit must not carry a transfer buffer")
  else
    .ok (submit.header.encode ++ (u32Be submit.transferFlags ++ (u32Be submit.transferBufferLength ++
      (u32Be submit.startFrame ++ (u32Be submit.numberOfPackets ++ (u32Be submit.interval ++
        (submit.setup.val ++ submit.transferBuffer)))))))

def decode (bytes : List UInt8) : Except ProtocolError UsbIpCmdSubmit :=
  if hlen : bytes.length < usbIpHeaderLen then .error (.invalidUsbIpPacket "submit too short")
  else do
    let header ← UsbIpHeaderBasic.decode (slice bytes 0 UsbIpHeaderBasic.len)
    if header.command ≠ .cmdSubmit then .error (.invalidUsbIpPacket "submit command mismatch")
    else
      let transferBufferLength := readU32Be bytes 24
      let expectedPayloadLen := if header.direction = .out then transferBufferLength.toNat else 0
      if bytes.length ≠ usbIpHeaderLen + expectedPayloadLen then
        .error (.invalidUsbIpPacket "submit payload length mismatch")
      else
        .ok {
          header
          transferFlags := readU32Be bytes 20
          transferBufferLength
          startFrame := readU32Be bytes 28
          numberOfPackets := readU32Be bytes 32
          interval := readU32Be bytes 36
          setup := ⟨slice bytes 40 48, by
            rw [slice, List.length_take, List.length_drop]
            rw [usbIpHeaderLen] at hlen
            omega⟩
          transferBuffer := bytes.drop usbIpHeaderLen }

end UsbIpCmdSubmit

structure UsbIpCmdUnlink where
  header : UsbIpHeaderBasic
  unlinkSeqnum : UInt32
  deriving DecidableEq, Repr

namespace UsbIpCmdUnlink

def encode (unlink : UsbIpCmdUnlink) : List UInt8 :=
  unlink.header.encode ++ (u32Be unlink.unlinkSeqnum ++ List.replicate 24 0)

def decode (bytes : List UInt8) : Except ProtocolError UsbIpCmdUnlink :=
  if bytes.length ≠ usbIpHeaderLen then .error (.invalidUsbIpPacket "unlink length mismatch")
  else do
    let header ← UsbIpHeaderBasic.decode (slice bytes 0 UsbIpHeaderBasic.len)
    if header.command ≠ .cmdUnlink then .error (.invalidUsbIpPacket "unlink command mismatch")
    else .ok { header, unlinkSeqnum := readU32Be bytes 20 }

end UsbIpCmdUnlink

/-! ## Packets of the device -/

structure UsbIpRetSubmit where
  header : UsbIpHeaderBasic
  status : Int32
  actualLength : UInt32
  startFrame : UInt32
  numberOfPackets : UInt32
  errorCount : UInt32
  transferBuffer : List UInt8
  deriving DecidableEq, Repr

namespace UsbIpRetSubmit

def okFor (submit : UsbIpCmdSubmit) (transferBuffer : List UInt8) : UsbIpRetSubmit where
  header := { command := .retSubmit, seqnum := submit.header.seqnum, devid := 0, direction := .out, endpoint := 0 }
  status := 0
  actualLength := UInt32.ofNat transferBuffer.length
  startFrame := 0
  numberOfPackets := usbIpNoIsoPackets
  errorCount := 0
  transferBuffer := transferBuffer

def encode (ret : UsbIpRetSubmit) : Except ProtocolError (List UInt8) :=
  if ret.header.command ≠ .retSubmit then .error (.invalidUsbIpPacket "ret submit header command mismatch")
  else if ret.transferBuffer.length ≠ ret.actualLength.toNat then
    .error (.invalidUsbIpPacket "ret submit actual length mismatch")
  else
    .ok (ret.header.encode ++ (i32Be ret.status ++ (u32Be ret.actualLength ++ (u32Be ret.startFrame ++
      (u32Be ret.numberOfPackets ++ (u32Be ret.errorCount ++ (List.replicate 8 0 ++ ret.transferBuffer)))))))

def decode (bytes : List UInt8) : Except ProtocolError UsbIpRetSubmit :=
  if bytes.length < usbIpHeaderLen then .error (.invalidUsbIpPacket "ret submit too short")
  else do
    let header ← UsbIpHeaderBasic.decode (slice bytes 0 UsbIpHeaderBasic.len)
    if header.command ≠ .retSubmit then .error (.invalidUsbIpPacket "ret submit command mismatch")
    else
      let actualLength := readU32Be bytes 24
      if bytes.length ≠ usbIpHeaderLen + actualLength.toNat then
        .error (.invalidUsbIpPacket "ret submit payload length mismatch")
      else
        .ok {
          header
          status := (readU32Be bytes 20).toInt32
          actualLength
          startFrame := readU32Be bytes 28
          numberOfPackets := readU32Be bytes 32
          errorCount := readU32Be bytes 36
          transferBuffer := bytes.drop usbIpHeaderLen }

end UsbIpRetSubmit

structure UsbIpRetUnlink where
  header : UsbIpHeaderBasic
  status : Int32
  deriving DecidableEq, Repr

namespace UsbIpRetUnlink

def new (seqnum : UInt32) (status : Int32) : UsbIpRetUnlink where
  header := { command := .retUnlink, seqnum := seqnum, devid := 0, direction := .out, endpoint := 0 }
  status := status

def encode (ret : UsbIpRetUnlink) : List UInt8 := ret.header.encode ++ (i32Be ret.status ++ List.replicate 24 0)

def decode (bytes : List UInt8) : Except ProtocolError UsbIpRetUnlink :=
  if bytes.length ≠ usbIpHeaderLen then .error (.invalidUsbIpPacket "ret unlink length mismatch")
  else do
    let header ← UsbIpHeaderBasic.decode (slice bytes 0 UsbIpHeaderBasic.len)
    if header.command ≠ .retUnlink then .error (.invalidUsbIpPacket "ret unlink command mismatch")
    else .ok { header, status := (readU32Be bytes 20).toInt32 }

end UsbIpRetUnlink

/-! ## Round trips -/

theorem readU32Be_at {xs ys : List UInt8} {n : UInt32} {offset : Nat} (h : xs.length = offset) :
    readU32Be (xs ++ (u32Be n ++ ys)) offset = n := by
  rw [readU32Be_skip (Nat.le_of_eq h), h, Nat.sub_self, readU32Be_u32Be]

theorem readU32Be_u32Be_skip (n : UInt32) (ys : List UInt8) {offset : Nat} (h : 4 ≤ offset) :
    readU32Be (u32Be n ++ ys) offset = readU32Be ys (offset - 4) := by
  rw [readU32Be_skip (by rwa [u32Be_length]), u32Be_length]

theorem readU32Be_slice {bytes : List UInt8} {n offset : Nat} (h : offset + 4 ≤ n) :
    readU32Be (slice bytes 0 n) offset = readU32Be bytes offset := by
  rw [readU32Be, readU32Be, slice, slice, slice, List.drop_zero, Nat.sub_zero, List.drop_take, List.take_take]
  congr 3
  omega

namespace UsbIpHeaderBasic

theorem decode_append (header : UsbIpHeaderBasic) (rest : List UInt8) :
    decode (header.encode ++ rest) = .ok header := by
  have hlen : ¬ (header.encode ++ rest).length < len := by simp
  have hcommand : readU32Be (header.encode ++ rest) 0 = header.command.asU32 := by
    simp only [encode, List.append_assoc, readU32Be_u32Be]
  have hseqnum : readU32Be (header.encode ++ rest) 4 = header.seqnum := by
    simp [encode, List.append_assoc, readU32Be_u32Be_skip, readU32Be_u32Be]
  have hdevid : readU32Be (header.encode ++ rest) 8 = header.devid := by
    simp [encode, List.append_assoc, readU32Be_u32Be_skip, readU32Be_u32Be]
  have hdirection : readU32Be (header.encode ++ rest) 12 = header.direction.asU32 := by
    simp [encode, List.append_assoc, readU32Be_u32Be_skip, readU32Be_u32Be]
  have hendpoint : readU32Be (header.encode ++ rest) 16 = header.endpoint := by
    simp [encode, List.append_assoc, readU32Be_u32Be_skip, readU32Be_u32Be]
  rw [decode, if_neg hlen, hcommand, hseqnum, hdevid, hdirection, hendpoint, UsbIpCommand.tryFrom_asU32,
    UsbIpDirection.tryFrom_asU32, ok_bind, ok_bind]

theorem decode_slice_append (header : UsbIpHeaderBasic) (rest : List UInt8) :
    decode (slice (header.encode ++ rest) 0 len) = .ok header := by
  rw [slice_append_take header.encode_length, ← List.append_nil header.encode, decode_append]

theorem decode_ok {bytes : List UInt8} {header : UsbIpHeaderBasic} (h : decode (slice bytes 0 len) = .ok header) :
    UsbIpCommand.tryFrom (readU32Be bytes 0) = .ok header.command ∧
      UsbIpDirection.tryFrom (readU32Be bytes 12) = .ok header.direction ∧ header.seqnum = readU32Be bytes 4 := by
  unfold decode at h
  rw [ite_error_eq_ok] at h
  obtain ⟨-, h⟩ := h
  obtain ⟨command, hcommand, h⟩ := bind_eq_ok.mp h
  obtain ⟨direction, hdirection, h⟩ := bind_eq_ok.mp h
  rw [readU32Be_slice (by decide)] at hcommand hdirection
  rw [Except.ok.injEq] at h
  subst h
  exact ⟨hcommand, hdirection, readU32Be_slice (by decide)⟩

end UsbIpHeaderBasic

theorem UsbIpDirection.tryFrom_out {value : UInt32} {direction : UsbIpDirection}
    (h : UsbIpDirection.tryFrom value = .ok direction) : direction = .out ↔ value = 0 := by
  unfold UsbIpDirection.tryFrom at h
  split at h
  · cases h
    exact ⟨fun _ => rfl, fun _ => rfl⟩
  · cases h
    exact ⟨fun h => (nomatch h), fun h => (nomatch h)⟩
  · cases h

/-- The 48 bytes of a packet: the basic header, five words and eight bytes. -/
theorem packet_decode {bytes : List UInt8} {header : UsbIpHeaderBasic} {a b c d e : UInt32} {last payload : List UInt8}
    (hbytes : bytes = header.encode ++ (u32Be a ++ (u32Be b ++ (u32Be c ++ (u32Be d ++ (u32Be e ++
      (last ++ payload)))))))
    (hlast : last.length = 8) :
    bytes.length = usbIpHeaderLen + payload.length ∧
      UsbIpHeaderBasic.decode (slice bytes 0 UsbIpHeaderBasic.len) = .ok header ∧
      readU32Be bytes 20 = a ∧ readU32Be bytes 24 = b ∧ readU32Be bytes 28 = c ∧ readU32Be bytes 32 = d ∧
      readU32Be bytes 36 = e ∧ slice bytes 40 48 = last ∧ bytes.drop usbIpHeaderLen = payload := by
  subst hbytes
  have hskip : header.encode.length = 20 := header.encode_length
  refine ⟨?_, header.decode_slice_append _, ?_, ?_, ?_, ?_, ?_, ?_, ?_⟩
  · simp only [List.length_append, hskip, u32Be_length, hlast, usbIpHeaderLen]
    omega
  · exact readU32Be_at hskip
  · rw [readU32Be_skip (by omega), hskip, readU32Be_u32Be_skip _ _ (by decide), readU32Be_u32Be]
  · rw [readU32Be_skip (by omega), hskip]
    simp [readU32Be_u32Be_skip, readU32Be_u32Be]
  · rw [readU32Be_skip (by omega), hskip]
    simp [readU32Be_u32Be_skip, readU32Be_u32Be]
  · rw [readU32Be_skip (by omega), hskip]
    simp [readU32Be_u32Be_skip, readU32Be_u32Be]
  · simp only [← List.append_assoc]
    rw [List.append_assoc _ last, slice_append_skip (by simp [UsbIpHeaderBasic.len])]
    simpa [UsbIpHeaderBasic.len] using slice_append_take hlast
  · simp only [← List.append_assoc]
    exact List.drop_left' (by simp [UsbIpHeaderBasic.len, hlast, usbIpHeaderLen])

namespace UsbIpCmdSubmit

/-- What a submit must satisfy to be encoded, and the bytes it is encoded to. -/
theorem encode_ok {submit : UsbIpCmdSubmit} {bytes : List UInt8} (h : submit.encode = .ok bytes) :
    submit.header.command = .cmdSubmit ∧
      submit.transferBuffer.length = (if submit.header.direction = .out then submit.transferBufferLength.toNat else 0) ∧
      bytes = submit.header.encode ++ (u32Be submit.transferFlags ++ (u32Be submit.transferBufferLength ++
        (u32Be submit.startFrame ++ (u32Be submit.numberOfPackets ++ (u32Be submit.interval ++
          (submit.setup.val ++ submit.transferBuffer)))))) := by
  unfold encode at h
  rw [ite_error_eq_ok, ite_error_eq_ok, ite_error_eq_ok, Decidable.not_not, Except.ok.injEq] at h
  obtain ⟨hcommand, hout, hin, rfl⟩ := h
  refine ⟨hcommand, ?_, rfl⟩
  cases hdir : submit.header.direction with
  | out => simpa [hdir] using hout
  | «in» => simpa [hdir] using hin

theorem decode_encode {submit : UsbIpCmdSubmit} {bytes : List UInt8} (h : submit.encode = .ok bytes) :
    decode bytes = .ok submit := by
  obtain ⟨hcommand, hpayload, hbytes⟩ := encode_ok h
  obtain ⟨hlen, hheader, hflags, hlength, hstart, hpackets, hinterval, hsetup, hbuffer⟩ :=
    packet_decode hbytes submit.setup.property
  rw [decode, dif_neg (by omega), hheader, ok_bind]
  simp only [hcommand, hflags, hlength, hstart, hpackets, hinterval, hsetup, hbuffer, ne_eq, not_true_eq_false, if_false,
    hlen, hpayload]

end UsbIpCmdSubmit

namespace UsbIpCmdUnlink

theorem layout (unlink : UsbIpCmdUnlink) : unlink.encode = unlink.header.encode ++ (u32Be unlink.unlinkSeqnum ++
    (u32Be 0 ++ (u32Be 0 ++ (u32Be 0 ++ (u32Be 0 ++ (List.replicate 8 0 ++ [])))))) := by
  rw [encode]
  congr 2

theorem decode_encode {unlink : UsbIpCmdUnlink} (h : unlink.header.command = .cmdUnlink) :
    decode unlink.encode = .ok unlink := by
  obtain ⟨hlen, hheader, hseqnum, -⟩ := packet_decode unlink.layout List.length_replicate
  rw [decode, if_neg (by simpa using hlen), hheader, ok_bind, if_neg (by simpa using h), hseqnum]

end UsbIpCmdUnlink

namespace UsbIpRetSubmit

theorem encode_ok {ret : UsbIpRetSubmit} {bytes : List UInt8} (h : ret.encode = .ok bytes) :
    ret.header.command = .retSubmit ∧ ret.transferBuffer.length = ret.actualLength.toNat ∧
      bytes = ret.header.encode ++ (i32Be ret.status ++ (u32Be ret.actualLength ++ (u32Be ret.startFrame ++
        (u32Be ret.numberOfPackets ++ (u32Be ret.errorCount ++ (List.replicate 8 0 ++ ret.transferBuffer)))))) := by
  unfold encode at h
  rw [ite_error_eq_ok, ite_error_eq_ok, Decidable.not_not, Decidable.not_not, Except.ok.injEq] at h
  exact ⟨h.1, h.2.1, h.2.2.symm⟩

theorem decode_encode {ret : UsbIpRetSubmit} {bytes : List UInt8} (h : ret.encode = .ok bytes) :
    decode bytes = .ok ret := by
  obtain ⟨hcommand, hpayload, hbytes⟩ := encode_ok h
  obtain ⟨hlen, hheader, hstatus, hlength, hstart, hpackets, herrors, -, hbuffer⟩ :=
    packet_decode hbytes List.length_replicate
  rw [decode, if_neg (by omega), hheader, ok_bind, if_neg (by simpa using hcommand), hlength]
  dsimp only
  rw [if_neg (by simpa [hpayload] using hlen), hstatus, hstart, hpackets, herrors, hbuffer, Int32.toInt32_toUInt32]

end UsbIpRetSubmit

namespace UsbIpRetUnlink

theorem layout (ret : UsbIpRetUnlink) : ret.encode = ret.header.encode ++ (i32Be ret.status ++
    (u32Be 0 ++ (u32Be 0 ++ (u32Be 0 ++ (u32Be 0 ++ (List.replicate 8 0 ++ [])))))) := by
  rw [encode]
  congr 2

theorem decode_encode {ret : UsbIpRetUnlink} (h : ret.header.command = .retUnlink) :
    decode ret.encode = .ok ret := by
  obtain ⟨hlen, hheader, hstatus, -⟩ := packet_decode ret.layout List.length_replicate
  rw [decode, if_neg (by simpa using hlen), hheader, ok_bind, if_neg (by simpa using h), hstatus,
    Int32.toInt32_toUInt32]

end UsbIpRetUnlink

end WhyUsb
