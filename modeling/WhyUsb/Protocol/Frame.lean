import WhyUsb.Protocol.Control

/-!
# Frames

A frame is a 28-byte header and its payload. `encode` is `none` where the
source panics: the payload is longer than its length field can say. What
`encode` returns, `decode` reads back.
-/

namespace WhyUsb

open Endian

def magic : List UInt8 := [0x57, 0x48, 0x59, 0x31]
def version : UInt8 := 1
def headerLen : Nat := 28

structure Frame where
  requestId : UInt64
  frameType : FrameType
  direction : Direction
  transferType : TransferType
  endpoint : UInt8
  status : Int32
  payload : List UInt8
  deriving DecidableEq, Repr

/-! ## Keyboard reports -/

structure HidKeyboardInputReport where
  modifiers : UInt8
  reserved : UInt8
  keycodes : ByteArrayN 6
  deriving DecidableEq

namespace HidKeyboardInputReport

def empty : HidKeyboardInputReport where
  modifiers := 0
  reserved := 0
  keycodes := ⟨[0, 0, 0, 0, 0, 0], rfl⟩

def keyPress (keycode : UInt8) : HidKeyboardInputReport :=
  { empty with keycodes := ⟨empty.keycodes.val.set 0 keycode, by rw [List.length_set]; rfl⟩ }

def encode (report : HidKeyboardInputReport) : List UInt8 :=
  report.modifiers :: report.reserved :: report.keycodes.val

def decode (bytes : List UInt8) : Except ProtocolError HidKeyboardInputReport :=
  if bytes.length ≠ 8 then .error (.invalidHidReport "keyboard input report must be 8 bytes")
  else
    .ok {
      modifiers := byteAt bytes 0
      reserved := byteAt bytes 1
      keycodes := ⟨[byteAt bytes 2, byteAt bytes 3, byteAt bytes 4, byteAt bytes 5, byteAt bytes 6, byteAt bytes 7],
        rfl⟩ }

end HidKeyboardInputReport

/-! ## Bulk payloads -/

def mockBulkMagic : List UInt8 := [0x57, 0x42, 0x55, 0x4c]
def mockBulkVersion : UInt8 := 1
def mockBulkHeaderLen : Nat := 16

def checksum (bytes : List UInt8) : UInt32 :=
  bytes.foldl (fun acc byte => ((acc <<< 5) ||| (acc >>> 27)) + byte.toUInt32) 0

structure MockBulkPayload where
  data : List UInt8
  deriving DecidableEq, Repr

namespace MockBulkPayload

/-- `none` is the panic of `expect("mock bulk payload too large")`. -/
def encode (payload : MockBulkPayload) : Option (List UInt8) :=
  (u32TryFrom payload.data.length).map fun dataLen =>
    mockBulkMagic ++ mockBulkVersion :: 0 :: 0 :: 0 ::
      (u32Be dataLen ++ (u32Be (checksum payload.data) ++ payload.data))

def decode (bytes : List UInt8) : Except ProtocolError MockBulkPayload :=
  if bytes.length < mockBulkHeaderLen then .error (.invalidBulkPayload "payload too short")
  else if slice bytes 0 4 ≠ mockBulkMagic then .error (.invalidBulkPayload "invalid magic")
  else if byteAt bytes 4 ≠ mockBulkVersion then .error (.invalidBulkPayload "unsupported version")
  else
    let dataLen := (readU32Be bytes 8).toNat
    let expectedChecksum := readU32Be bytes 12
    if bytes.length ≠ mockBulkHeaderLen + dataLen then .error (.invalidBulkPayload "data length mismatch")
    else
      let data := bytes.drop mockBulkHeaderLen
      if checksum data ≠ expectedChecksum then .error (.invalidBulkPayload "checksum mismatch")
      else .ok { data }

end MockBulkPayload

/-! ## Responses -/

namespace Frame

def mockResponse (f : Frame) (payload : List UInt8) : Frame :=
  { f with frameType := .response, direction := .deviceToHost, status := 0, payload }

def statusResponse (f : Frame) (status : TransferStatus) : Frame :=
  { f with frameType := .response, direction := .deviceToHost, status := status.asI32, payload := [] }

def controlResponse (f : Frame) (status : Int32) (data : List UInt8) : Frame where
  requestId := f.requestId
  frameType := .response
  direction := f.direction
  transferType := .control
  endpoint := 0
  status := status
  payload :=
    match UsbControlTransfer.decode f.payload with
    | .ok control => UsbControlTransfer.encode { setup := control.setup, data }
    | .error _ => data

def hidKeyboardInputEvent (requestId : UInt64) (report : HidKeyboardInputReport) : Frame where
  requestId := requestId
  frameType := .event
  direction := .deviceToHost
  transferType := .interrupt
  endpoint := 0x81
  status := 0
  payload := report.encode

/-- `attach_response` and `detach_response`, with the payload `attach_response_with_descriptors` adds. -/
def lifecycleResponse (f : Frame) (frameType : FrameType) (status : Int32) (payload : List UInt8) : Frame where
  requestId := f.requestId
  frameType := frameType
  direction := .deviceToHost
  transferType := .control
  endpoint := 0
  status := status
  payload := payload

def attachResponse (f : Frame) (status : Int32) : Frame := f.lifecycleResponse .attachResponse status []

def detachResponse (f : Frame) (status : Int32) : Frame := f.lifecycleResponse .detachResponse status []

/-- `cancel_response` and `reset_response`. -/
def transferControlResponse (f : Frame) (frameType : FrameType) (status : TransferStatus) : Frame :=
  { f with frameType, direction := .deviceToHost, status := status.asI32, payload := [] }

def cancelResponse (f : Frame) (status : TransferStatus) : Frame := f.transferControlResponse .cancelResponse status

def resetResponse (f : Frame) (status : TransferStatus) : Frame := f.transferControlResponse .resetResponse status

/-! ## The codec -/

/-- `none` is the panic of `expect("payload too large")`. -/
def encode (f : Frame) : Option (List UInt8) :=
  (u32TryFrom f.payload.length).map fun payloadLen =>
    magic ++ version :: f.frameType.asU8 :: f.direction.asU8 :: f.transferType.asU8 ::
      (beBytes 8 f.requestId.toNat ++ f.endpoint :: 0 :: 0 :: 0 ::
        (i32Be f.status ++ (u32Be payloadLen ++ f.payload)))

def decode (bytes : List UInt8) : Except ProtocolError Frame :=
  if bytes.length < headerLen then .error (.truncatedHeader bytes.length headerLen)
  else if slice bytes 0 4 ≠ magic then .error .invalidMagic
  else if byteAt bytes 4 ≠ version then .error (.unsupportedVersion (byteAt bytes 4))
  else do
    let frameType ← FrameType.tryFrom (byteAt bytes 5)
    let direction ← Direction.tryFrom (byteAt bytes 6)
    let transferType ← TransferType.tryFrom (byteAt bytes 7)
    let payloadLen := (readU32Be bytes 24).toNat
    if bytes.length ≠ headerLen + payloadLen then
      .error (.invalidPayloadLength (bytes.length - headerLen) payloadLen)
    else
      .ok {
        requestId := UInt64.ofNat (beNat (slice bytes 8 16))
        frameType, direction, transferType
        endpoint := byteAt bytes 16
        status := (readU32Be bytes 20).toInt32
        payload := bytes.drop headerLen }

theorem encode_length {f : Frame} {bytes : List UInt8} (h : f.encode = some bytes) :
    bytes.length = headerLen + f.payload.length := by
  obtain ⟨len, -, rfl⟩ := Option.map_eq_some_iff.mp h
  simp only [magic, List.length_cons, List.length_append, beBytes_length, i32Be_length, u32Be_length, headerLen,
    List.length_nil]
  omega

theorem decode_of_encode {f : Frame} {bytes : List UInt8} (h : f.encode = some bytes) : decode bytes = .ok f := by
  have hlen := encode_length h
  obtain ⟨len, hpl, rfl⟩ := Option.map_eq_some_iff.mp h
  rw [u32TryFrom_eq_some] at hpl
  generalize hb : magic ++ version :: f.frameType.asU8 :: f.direction.asU8 :: f.transferType.asU8 ::
      (beBytes 8 f.requestId.toNat ++ f.endpoint :: 0 :: 0 :: 0 ::
        (i32Be f.status ++ (u32Be len ++ f.payload))) = bytes at hlen ⊢
  -- the fixed fields, then the rest behind the first eight and the first twenty bytes
  have hid : bytes = (magic ++ [version, f.frameType.asU8, f.direction.asU8, f.transferType.asU8]) ++
      (beBytes 8 f.requestId.toNat ++ ([f.endpoint, 0, 0, 0] ++ (i32Be f.status ++ (u32Be len ++ f.payload)))) :=
    hb.symm
  have hrest : bytes = (magic ++ [version, f.frameType.asU8, f.direction.asU8, f.transferType.asU8] ++
      beBytes 8 f.requestId.toNat ++ [f.endpoint, 0, 0, 0]) ++ (i32Be f.status ++ (u32Be len ++ f.payload)) := by
    rw [hid]
    simp only [List.append_assoc]
  have hrequest : slice bytes 8 16 = beBytes 8 f.requestId.toNat := by
    rw [hid, slice_append_skip (by simp [magic])]
    exact slice_append_take (beBytes_length _ _)
  have hendpoint : byteAt bytes 16 = f.endpoint := by
    rw [hid, byteAt_append_skip (by simp [magic]), byteAt_append_skip (by simp [magic])]
    simp [magic, byteAt]
  have hstatus : readU32Be bytes 20 = f.status.toUInt32 := by
    rw [hrest, readU32Be_skip (by simp [magic]), i32Be]
    simpa [magic] using readU32Be_u32Be f.status.toUInt32 (u32Be len ++ f.payload)
  have hpayloadLen : readU32Be bytes 24 = len := by
    rw [hrest, readU32Be_skip (by simp [magic]), readU32Be_skip (by simp [magic])]
    simpa [magic] using readU32Be_u32Be len f.payload
  have hpayload : bytes.drop headerLen = f.payload := by
    have hsplit : bytes = (magic ++ [version, f.frameType.asU8, f.direction.asU8, f.transferType.asU8] ++
        beBytes 8 f.requestId.toNat ++ [f.endpoint, 0, 0, 0] ++ i32Be f.status ++ u32Be len) ++ f.payload := by
      rw [hrest]
      simp only [List.append_assoc]
    rw [hsplit, List.drop_left' (by simp [magic, headerLen])]
  have hmagic : slice bytes 0 4 = magic := by
    rw [hid, List.append_assoc]
    exact slice_append_take rfl
  have hbytes : byteAt bytes 4 = version ∧ byteAt bytes 5 = f.frameType.asU8 ∧ byteAt bytes 6 = f.direction.asU8 ∧
      byteAt bytes 7 = f.transferType.asU8 := by
    subst hb
    simp [magic, byteAt]
  rw [decode, if_neg (by omega), hmagic, if_neg (by simp), hbytes.1, if_neg (by simp), hbytes.2.1, hbytes.2.2.1,
    hbytes.2.2.2, FrameType.tryFrom_asU8, Direction.tryFrom_asU8, TransferType.tryFrom_asU8, ok_bind, ok_bind,
    ok_bind, hpayloadLen, hpl, if_neg (by simpa using hlen), hrequest, hendpoint, hstatus, hpayload,
    beNat_beBytes_of_lt f.requestId.toNat_lt, UInt64.ofNat_toNat, Int32.toInt32_toUInt32]

theorem decode_ok {bytes : List UInt8} {f : Frame} (h : decode bytes = .ok f) :
    bytes.length = headerLen + f.payload.length ∧ f.payload = bytes.drop headerLen ∧ f.payload.length < 2 ^ 32 := by
  unfold decode at h
  rw [ite_error_eq_ok, ite_error_eq_ok, ite_error_eq_ok] at h
  obtain ⟨hmin, -, -, h⟩ := h
  obtain ⟨ft, -, h⟩ := bind_eq_ok.mp h
  obtain ⟨d, -, h⟩ := bind_eq_ok.mp h
  obtain ⟨tt, -, h⟩ := bind_eq_ok.mp h
  dsimp only at h
  rw [ite_error_eq_ok, Decidable.not_not, Except.ok.injEq] at h
  obtain ⟨hlen, rfl⟩ := h
  have hlt := (readU32Be bytes 24).toNat_lt
  exact ⟨by rw [List.length_drop]; omega, rfl, by rw [List.length_drop]; omega⟩

/-- Frames with a payload their length field can say do not panic. -/
theorem encode_ok {f : Frame} (h : f.payload.length < 2 ^ 32) : ∃ bytes, f.encode = some bytes := by
  rw [encode, u32TryFrom, if_pos h]
  exact ⟨_, rfl⟩

end Frame

end WhyUsb
