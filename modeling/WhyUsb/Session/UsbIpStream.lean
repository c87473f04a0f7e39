import WhyUsb.Lib.Framing
import WhyUsb.Session.Lifecycle
import WhyUsb.Session.UsbIpSubmit

/-!
# The USB/IP session

`run_single_usbip_client` over a byte stream. The reader takes the length of a
packet from the raw header, the decoders take it from the decoded fields;
they agree on every header, so the session answers the packets of a stream one
by one. `UsbIpEnv` says which calls outside the session succeed, and the trace
records what the loop reads, drops and writes.
-/

namespace WhyUsb

open Endian

/-! ## Reading packets -/

inductive IoError where
  | unexpectedEof
  | invalidData (error : ProtocolError)
  | other
  deriving DecidableEq, Repr

/-- The bytes still to come, and what a read beyond them fails with. -/
structure Stream where
  bytes : List UInt8
  ending : IoError
  deriving DecidableEq, Repr

def Stream.readExact (s : Stream) (n : Nat) : Except IoError (List UInt8) × Stream :=
  if n ≤ s.bytes.length then (.ok (s.bytes.take n), { s with bytes := s.bytes.drop n })
  else (.error s.ending, { s with bytes := [] })

def submitIsOut (header : List UInt8) : Bool := readU32Be header 12 == 0

def submitTransferBufferLen (header : List UInt8) : Nat := (readU32Be header 24).toNat

def packetPayloadLen (basic : UsbIpHeaderBasic) (header : List UInt8) : Nat :=
  if basic.command = .cmdSubmit ∧ submitIsOut header = true then submitTransferBufferLen header else 0

def readUsbipPacket (s : Stream) : Except IoError (Option (List UInt8)) × Stream :=
  match s.readExact usbIpHeaderLen with
  | (.error .unexpectedEof, s) => (.ok none, s)
  | (.error e, s) => (.error e, s)
  | (.ok header, s) =>
    match UsbIpHeaderBasic.decode (slice header 0 UsbIpHeaderBasic.len) with
    | .error e => (.error (.invalidData e), s)
    | .ok basic =>
      if packetPayloadLen basic header > 0 then
        match s.readExact (packetPayloadLen basic header) with
        | (.error e, s) => (.error e, s)
        | (.ok payload, s) => (.ok (some (header ++ payload)), s)
      else (.ok (some header), s)

/-! ## The loop -/

inductive UsbIpEvent where
  | received (packet : List UInt8)
  | droppedHeader (error : ProtocolError)
  | droppedSubmit (error : ProtocolError)
  | droppedUnlink (error : ProtocolError)
  | unexpectedCommand (command : UsbIpCommand)
  | wrote (bytes : List UInt8)
  deriving DecidableEq, Repr

/-- Why the loop ended; `encodeFailed` is the `?` of `response.encode()?`. -/
inductive UsbIpExit where
  | disconnected
  | readFailed (error : IoError)
  | writeFailed
  | encodeFailed (error : ProtocolError)
  deriving DecidableEq, Repr

/-- The outcomes of `set_nodelay`, of the driver's calls and of the `n`th `write_all`. -/
structure UsbIpEnv where
  setNodelay : Bool
  attachOk : Bool
  detachOk : Bool
  writeOk : Nat → Bool

structure UsbIpLoop where
  stream : Stream
  submit : SubmitState
  writes : Nat
  trace : List UsbIpEvent

namespace UsbIpLoop

def log (s : UsbIpLoop) (event : UsbIpEvent) : UsbIpLoop := { s with trace := s.trace ++ [event] }

def writeAll (env : UsbIpEnv) (bytes : List UInt8) (s : UsbIpLoop) : Option UsbIpExit × UsbIpLoop :=
  if env.writeOk s.writes then
    (none, { s with writes := s.writes + 1, trace := s.trace ++ [.wrote bytes] })
  else (some .writeFailed, { s with writes := s.writes + 1 })

def handlePacket (env : UsbIpEnv) (descriptors : UsbDescriptorSet) (mockHidKeycodes packet : List UInt8)
    (s : UsbIpLoop) : Option UsbIpExit × UsbIpLoop :=
  match UsbIpHeaderBasic.decode (slice packet 0 UsbIpHeaderBasic.len) with
  | .error e => (none, s.log (.droppedHeader e))
  | .ok header =>
    match header.command with
    | .cmdSubmit =>
      match UsbIpCmdSubmit.decode packet with
      | .error e => (none, s.log (.droppedSubmit e))
      | .ok submit =>
        let handled := handleSubmit submit descriptors mockHidKeycodes s.submit
        match handled.1.encode with
        | .error e => (some (.encodeFailed e), { s with submit := handled.2 })
        | .ok bytes => writeAll env bytes { s with submit := handled.2 }
    | .cmdUnlink =>
      match UsbIpCmdUnlink.decode packet with
      | .error e => (none, s.log (.droppedUnlink e))
      | .ok unlink => writeAll env (UsbIpRetUnlink.new unlink.header.seqnum 0).encode s
    | other => (none, s.log (.unexpectedCommand other))

/-- One iteration of the loop, with its exit if it is the last. -/
def iteration (env : UsbIpEnv) (descriptors : UsbDescriptorSet) (mockHidKeycodes : List UInt8) (s : UsbIpLoop) :
    Option UsbIpExit × UsbIpLoop :=
  match readUsbipPacket s.stream with
  | (.ok (some packet), stream) =>
    handlePacket env descriptors mockHidKeycodes packet ({ s with stream }.log (.received packet))
  | (.ok none, stream) => (some .disconnected, { s with stream })
  | (.error e, stream) => (some (.readFailed e), { s with stream })

/-- `none` is a loop of more than `n` iterations. -/
def loop (env : UsbIpEnv) (descriptors : UsbDescriptorSet) (mockHidKeycodes : List UInt8) :
    Nat → UsbIpLoop → Option (UsbIpExit × UsbIpLoop)
  | 0, _ => none
  | n + 1, s =>
    match iteration env descriptors mockHidKeycodes s with
    | (some exit, s) => some (exit, s)
    | (none, s) => loop env descriptors mockHidKeycodes n s

end UsbIpLoop

/-! ## The session -/

inductive UsbIpResult where
  | ok
  | setNodelayFailed
  | attachFailed
  | encodeFailed (error : ProtocolError)
  deriving DecidableEq, Repr

structure UsbIpRun where
  result : UsbIpResult
  lifecycle : Lifecycle
  trace : List UsbIpEvent

def runSingleUsbipClient (env : UsbIpEnv) (attachDevice : Option DeviceAttachRequest) (mockHidKeycodes : List UInt8)
    (stream : Stream) : Option UsbIpRun :=
  if env.setNodelay = false then some { result := .setNodelayFailed, lifecycle := .new, trace := [] }
  else
    let attached := attachSession env.attachOk attachDevice .new
    if attached.1 ≠ 0 then some { result := .attachFailed, lifecycle := attached.2, trace := [] }
    else
      -- every iteration that goes on has read a header
      let s : UsbIpLoop := { stream, submit := .new, writes := 0, trace := [] }
      (s.loop env (descriptorSetForAttach attachDevice) mockHidKeycodes (stream.bytes.length + 1)).map fun
        | (.encodeFailed e, s) => { result := .encodeFailed e, lifecycle := attached.2, trace := s.trace }
        | (_, s) =>
          let detached := (detachSession env.detachOk { attached.2 with state := .detaching }).2
          { result := .ok, lifecycle := { detached with state := .closed }, trace := s.trace }

/-! ## Reading agrees with decoding -/

theorem Stream.readExact_append (xs ys : List UInt8) (ending : IoError) {n : Nat} (h : xs.length = n) :
    Stream.readExact ⟨xs ++ ys, ending⟩ n = (.ok xs, ⟨ys, ending⟩) := by
  rw [readExact, if_pos (by rw [List.length_append]; omega), List.take_left' h, List.drop_left' h]

theorem Stream.readExact_ok {s s' : Stream} {n : Nat} {bytes : List UInt8} (h : s.readExact n = (.ok bytes, s')) :
    bytes.length = n ∧ s.bytes.length = n + s'.bytes.length := by
  unfold readExact at h
  split at h
  · cases h
    rw [List.length_take, List.length_drop]
    omega
  · cases h

/-- The payload length the reader takes from the raw header is the one the submit's decoder expects. -/
theorem packetPayloadLen_eq {bytes : List UInt8} {header : UsbIpHeaderBasic}
    (h : UsbIpHeaderBasic.decode (slice bytes 0 UsbIpHeaderBasic.len) = .ok header) :
    packetPayloadLen header bytes =
      if header.command = .cmdSubmit ∧ header.direction = .out then (readU32Be bytes 24).toNat else 0 := by
  have hout : submitIsOut bytes = true ↔ header.direction = .out := by
    rw [submitIsOut, beq_iff_eq, UsbIpDirection.tryFrom_out (UsbIpHeaderBasic.decode_ok h).2.1]
  simp only [packetPayloadLen, hout, submitTransferBufferLen]

theorem slice_header_append {front : List UInt8} (h : front.length = usbIpHeaderLen) (payload : List UInt8) :
    slice (front ++ payload) 0 UsbIpHeaderBasic.len = slice front 0 UsbIpHeaderBasic.len := by
  rw [slice, slice, List.drop_zero, List.drop_zero, List.take_append_of_le_length]
  rw [h]
  decide

theorem packetPayloadLen_append (basic : UsbIpHeaderBasic) {front : List UInt8} (h : front.length = usbIpHeaderLen)
    (payload : List UInt8) : packetPayloadLen basic (front ++ payload) = packetPayloadLen basic front := by
  have hat : ∀ offset, offset + 4 ≤ usbIpHeaderLen →
      readU32Be (front ++ payload) offset = readU32Be front offset := fun offset ho => by
    rw [← @readU32Be_slice (front ++ payload) _ _ ho, slice_append_take h]
  rw [packetPayloadLen, packetPayloadLen, submitIsOut, submitIsOut, submitTransferBufferLen,
    submitTransferBufferLen, hat 12 (by decide), hat 24 (by decide)]

/-- What a returned packet is: a header that decodes and the payload it announces. -/
theorem readUsbipPacket_ok {s s' : Stream} {packet : List UInt8} (h : readUsbipPacket s = (.ok (some packet), s')) :
    s.bytes.length = packet.length + s'.bytes.length ∧ ∃ header,
      UsbIpHeaderBasic.decode (slice packet 0 UsbIpHeaderBasic.len) = .ok header ∧
      packet.length = usbIpHeaderLen + packetPayloadLen header packet := by
  unfold readUsbipPacket at h
  split at h
  · cases h
  · cases h
  · rename_i header s₁ hheader
    obtain ⟨hlen, hs⟩ := Stream.readExact_ok hheader
    split at h
    · cases h
    · rename_i basic hbasic
      split at h
      · split at h
        · cases h
        · rename_i payload s₂ hpayload
          obtain ⟨hplen, hs₁⟩ := Stream.readExact_ok hpayload
          cases h
          refine ⟨by rw [List.length_append]; omega, basic, slice_header_append hlen payload ▸ hbasic, ?_⟩
          rw [List.length_append, hlen, hplen, packetPayloadLen_append basic hlen]
      · cases h
        exact ⟨by omega, basic, hbasic, by omega⟩

theorem readUsbipPacket_decodes {s s' : Stream} {packet : List UInt8}
    (h : readUsbipPacket s = (.ok (some packet), s')) : ∃ header,
      UsbIpHeaderBasic.decode (slice packet 0 UsbIpHeaderBasic.len) = .ok header ∧
      (header.command = .cmdSubmit → ∃ submit, UsbIpCmdSubmit.decode packet = .ok submit) ∧
      (header.command = .cmdUnlink → ∃ unlink, UsbIpCmdUnlink.decode packet = .ok unlink) := by
  obtain ⟨-, header, hheader, hlen⟩ := readUsbipPacket_ok h
  rw [packetPayloadLen_eq hheader] at hlen
  refine ⟨header, hheader, fun hcommand => ?_, fun hcommand => ?_⟩
  · rw [UsbIpCmdSubmit.decode, dif_neg (by omega), hheader, ok_bind, if_neg (by simpa using hcommand)]
    dsimp only
    simp only [hcommand, true_and] at hlen
    rw [if_neg (by simpa using hlen)]
    exact ⟨_, rfl⟩
  · rw [if_neg (by rw [hcommand]; simp)] at hlen
    rw [UsbIpCmdUnlink.decode, if_neg (by simpa using hlen), hheader, ok_bind, if_neg (by simpa using hcommand)]
    exact ⟨_, rfl⟩

theorem readUsbipPacket_append {packet : List UInt8} {header : UsbIpHeaderBasic} (rest : List UInt8)
    (ending : IoError) (hheader : UsbIpHeaderBasic.decode (slice packet 0 UsbIpHeaderBasic.len) = .ok header)
    (hlen : packet.length = usbIpHeaderLen + packetPayloadLen header packet) :
    readUsbipPacket ⟨packet ++ rest, ending⟩ = (.ok (some packet), ⟨rest, ending⟩) := by
  obtain ⟨front, payload, rfl, hfront⟩ : ∃ front payload, packet = front ++ payload ∧ front.length = usbIpHeaderLen :=
    ⟨packet.take usbIpHeaderLen, packet.drop usbIpHeaderLen, (List.take_append_drop _ _).symm, by
      rw [List.length_take]
      omega⟩
  have hpayload : payload.length = packetPayloadLen header front := by
    rw [List.length_append, hfront, packetPayloadLen_append header hfront] at hlen
    omega
  rw [slice_header_append hfront] at hheader
  unfold readUsbipPacket
  rw [List.append_assoc, Stream.readExact_append _ _ _ hfront]
  dsimp only
  rw [hheader]
  dsimp only
  split
  · rw [Stream.readExact_append _ _ _ hpayload]
  · have hnil : payload = [] := List.length_eq_zero_iff.mp (by omega)
    rw [hnil, List.nil_append, List.append_nil]

end WhyUsb
