import WhyUsb.Protocol.Frame
import WhyUsb.Protocol.UsbIp

/-!
# What the decoders accept

Encoding what a decoder returned gives back the bytes it was given, except that
the reserved bytes are zero. So a decoder accepts exactly its format, and a
byte string is a packet of one kind at most.
-/

namespace WhyUsb

open Endian

def zeroed (bytes : List UInt8) (start stop : Nat) : List UInt8 :=
  bytes.take start ++ (List.replicate (stop - start) 0 ++ bytes.drop stop)

/-! ## Frames -/

namespace Frame

/-- The byte strings of the format. -/
structure Format (bytes : List UInt8) : Prop where
  length : bytes.length = headerLen + (readU32Be bytes 24).toNat
  magic : slice bytes 0 4 = magic
  version : byteAt bytes 4 = version
  frameType : 1 ≤ byteAt bytes 5 ∧ byteAt bytes 5 ≤ 11
  direction : 1 ≤ byteAt bytes 6 ∧ byteAt bytes 6 ≤ 2
  transferType : 1 ≤ byteAt bytes 7 ∧ byteAt bytes 7 ≤ 4

theorem decode_fields {bytes : List UInt8} {f : Frame} (h : decode bytes = .ok f) :
    slice bytes 0 4 = WhyUsb.magic ∧ byteAt bytes 4 = WhyUsb.version ∧ f.frameType.asU8 = byteAt bytes 5 ∧
      f.direction.asU8 = byteAt bytes 6 ∧ f.transferType.asU8 = byteAt bytes 7 ∧
      bytes.length = headerLen + (readU32Be bytes 24).toNat ∧
      f.requestId = UInt64.ofNat (beNat (slice bytes 8 16)) ∧ f.endpoint = byteAt bytes 16 ∧
      f.status = (readU32Be bytes 20).toInt32 ∧ f.payload = bytes.drop headerLen := by
  unfold decode at h
  rw [ite_error_eq_ok, ite_error_eq_ok, ite_error_eq_ok, Decidable.not_not, Decidable.not_not] at h
  obtain ⟨-, hmagic, hversion, h⟩ := h
  obtain ⟨ft, hft, h⟩ := bind_eq_ok.mp h
  obtain ⟨d, hd, h⟩ := bind_eq_ok.mp h
  obtain ⟨tt, htt, h⟩ := bind_eq_ok.mp h
  dsimp only at h
  rw [ite_error_eq_ok, Decidable.not_not, Except.ok.injEq] at h
  obtain ⟨hlen, rfl⟩ := h
  exact ⟨hmagic, hversion, FrameType.tryFrom_ok hft, Direction.tryFrom_ok hd, TransferType.tryFrom_ok htt, hlen, rfl,
    rfl, rfl, rfl⟩

theorem asU8_frameType_range (t : FrameType) : 1 ≤ t.asU8 ∧ t.asU8 ≤ 11 := by
  cases t <;> decide

theorem asU8_direction_range (d : Direction) : 1 ≤ d.asU8 ∧ d.asU8 ≤ 2 := by
  cases d <;> decide

theorem asU8_transferType_range (t : TransferType) : 1 ≤ t.asU8 ∧ t.asU8 ≤ 4 := by
  cases t <;> decide

theorem decode_format {bytes : List UInt8} {f : Frame} (h : decode bytes = .ok f) : Format bytes := by
  obtain ⟨hmagic, hversion, hft, hd, htt, hlen, -⟩ := decode_fields h
  exact {
    length := hlen
    magic := hmagic
    version := hversion
    frameType := hft ▸ asU8_frameType_range f.frameType
    direction := hd ▸ asU8_direction_range f.direction
    transferType := htt ▸ asU8_transferType_range f.transferType }

theorem tryFrom_frameType_of_range {value : UInt8} (h : 1 ≤ value ∧ value ≤ 11) :
    ∃ t, FrameType.tryFrom value = .ok t := by
  unfold FrameType.tryFrom
  split <;> first | exact ⟨_, rfl⟩ | grind

theorem tryFrom_direction_of_range {value : UInt8} (h : 1 ≤ value ∧ value ≤ 2) :
    ∃ d, Direction.tryFrom value = .ok d := by
  unfold Direction.tryFrom
  split <;> first | exact ⟨_, rfl⟩ | grind

theorem tryFrom_transferType_of_range {value : UInt8} (h : 1 ≤ value ∧ value ≤ 4) :
    ∃ t, TransferType.tryFrom value = .ok t := by
  unfold TransferType.tryFrom
  split <;> first | exact ⟨_, rfl⟩ | grind

theorem decode_of_format {bytes : List UInt8} (h : Format bytes) : ∃ f, decode bytes = .ok f := by
  obtain ⟨ft, hft⟩ := tryFrom_frameType_of_range h.frameType
  obtain ⟨d, hd⟩ := tryFrom_direction_of_range h.direction
  obtain ⟨tt, htt⟩ := tryFrom_transferType_of_range h.transferType
  have hlen := h.length
  rw [decode, if_neg (by omega), if_neg (by simpa using h.magic), if_neg (by simpa using h.version), hft, hd, htt,
    ok_bind, ok_bind, ok_bind]
  dsimp only
  rw [if_neg (by simpa using hlen)]
  exact ⟨_, rfl⟩

theorem zeroed_eq {bytes : List UInt8} (h : headerLen ≤ bytes.length) :
    zeroed bytes 17 20 = slice bytes 0 4 ++ byteAt bytes 4 :: byteAt bytes 5 :: byteAt bytes 6 :: byteAt bytes 7 ::
      (slice bytes 8 16 ++ byteAt bytes 16 :: 0 :: 0 :: 0 ::
        (slice bytes 20 24 ++ (slice bytes 24 28 ++ bytes.drop headerLen))) := by
  rw [headerLen] at h
  have hbyte : ∀ i, i < 28 → slice bytes i (i + 1) = [byteAt bytes i] := fun i hi => slice_succ (by omega)
  have hfront : bytes.take 17 = slice bytes 0 4 ++ ([byteAt bytes 4] ++ ([byteAt bytes 5] ++ ([byteAt bytes 6] ++
      ([byteAt bytes 7] ++ (slice bytes 8 16 ++ [byteAt bytes 16]))))) := by
    rw [← hbyte 4 (by decide), ← hbyte 5 (by decide), ← hbyte 6 (by decide), ← hbyte 7 (by decide),
      ← hbyte 16 (by decide), slice_append_slice bytes (by decide) (by decide),
      slice_append_slice bytes (by decide) (by decide), slice_append_slice bytes (by decide) (by decide),
      slice_append_slice bytes (by decide) (by decide), slice_append_slice bytes (by decide) (by decide),
      slice_append_slice bytes (by decide) (by decide), slice_zero]
  have hback : bytes.drop 20 = slice bytes 20 24 ++ (slice bytes 24 28 ++ bytes.drop 28) := by
    rw [slice_append_drop bytes (by decide), slice_append_drop bytes (by decide)]
  rw [zeroed, hfront, hback, headerLen]
  simp only [List.append_assoc, List.cons_append, List.nil_append]
  rfl

theorem encode_of_decode {bytes : List UInt8} {f : Frame} (h : decode bytes = .ok f) :
    f.encode = some (zeroed bytes 17 20) := by
  obtain ⟨hmagic, hversion, hft, hd, htt, hlen, hid, hendpoint, hstatus, hpayload⟩ := decode_fields h
  have hmin : headerLen ≤ bytes.length := by omega
  have hpayloadLen : u32TryFrom f.payload.length = some (readU32Be bytes 24) := by
    rw [u32TryFrom_eq_some, hpayload, List.length_drop]
    omega
  have hrequest : beBytes 8 f.requestId.toNat = slice bytes 8 16 := by
    have hslice : (slice bytes 8 16).length = 8 := slice_length (by rw [headerLen] at hmin; omega)
    have hlt := beNat_lt (slice bytes 8 16)
    have hbytes := beBytes_beNat (slice bytes 8 16)
    rw [hslice] at hlt hbytes
    rw [hid, UInt64.toNat_ofNat', Nat.mod_eq_of_lt (by simpa using hlt), hbytes]
  have hword : ∀ offset, offset + 4 ≤ headerLen →
      u32Be (readU32Be bytes offset) = slice bytes offset (offset + 4) := fun offset ho => u32Be_readU32Be (by omega)
  have hstatusBytes : i32Be f.status = slice bytes 20 24 := by
    rw [hstatus, i32Be, UInt32.toUInt32_toInt32]
    exact hword 20 (by decide)
  rw [encode, hpayloadLen, Option.map_some, hrequest, hstatusBytes, hword 24 (by decide), hft, hd, htt, hendpoint,
    hpayload, zeroed_eq hmin, hmagic, hversion]

/-- The frame codec is exact: what is encoded is decoded, what is decoded is encoded to the same bytes with the reserved
ones zeroed, exactly the format is accepted, and no two frames share an encoding. -/
theorem codec_exact :
    (∀ f : Frame, f.payload.length < 2 ^ 32 → ∃ bytes, f.encode = some bytes ∧ decode bytes = .ok f) ∧
      (∀ bytes f, decode bytes = .ok f → f.encode = some (zeroed bytes 17 20)) ∧
      (∀ bytes, (∃ f, decode bytes = .ok f) ↔ Format bytes) ∧
      ∀ (f g : Frame) bytes, f.encode = some bytes → g.encode = some bytes → f = g := by
  refine ⟨fun f hf => ?_, fun _ _ => encode_of_decode, fun bytes => ⟨fun ⟨_, h⟩ => decode_format h, decode_of_format⟩,
    fun f g bytes hf hg => ?_⟩
  · obtain ⟨bytes, hbytes⟩ := encode_ok hf
    exact ⟨bytes, hbytes, decode_of_encode hbytes⟩
  · have hfg := (decode_of_encode hf).symm.trans (decode_of_encode hg)
    rwa [Except.ok.injEq] at hfg

end Frame

/-! ## USB/IP packets -/

theorem UsbIpHeaderBasic.encode_of_decode {bytes : List UInt8} {header : UsbIpHeaderBasic}
    (hlen : len ≤ bytes.length) (h : decode (slice bytes 0 len) = .ok header) : header.encode = slice bytes 0 len := by
  have hword : ∀ offset, offset + 4 ≤ len →
      u32Be (readU32Be (slice bytes 0 len) offset) = slice bytes offset (offset + 4) := fun offset ho => by
    rw [readU32Be_slice ho, u32Be_readU32Be (by omega)]
  unfold decode at h
  rw [ite_error_eq_ok] at h
  obtain ⟨-, h⟩ := h
  obtain ⟨command, hcommand, h⟩ := bind_eq_ok.mp h
  obtain ⟨direction, hdirection, h⟩ := bind_eq_ok.mp h
  rw [Except.ok.injEq] at h
  subst h
  rw [encode, UsbIpCommand.tryFrom_ok hcommand, UsbIpDirection.tryFrom_ok hdirection, hword 0 (by decide),
    hword 4 (by decide), hword 8 (by decide), hword 12 (by decide), hword 16 (by decide),
    slice_append_slice bytes (by decide) (by decide), slice_append_slice bytes (by decide) (by decide),
    slice_append_slice bytes (by decide) (by decide), slice_append_slice bytes (by decide) (by decide)]
  rfl

theorem packet_front {bytes : List UInt8} (h : usbIpHeaderLen ≤ bytes.length) (rest : List UInt8) :
    slice bytes 0 UsbIpHeaderBasic.len ++ (u32Be (readU32Be bytes 20) ++ (u32Be (readU32Be bytes 24) ++
      (u32Be (readU32Be bytes 28) ++ (u32Be (readU32Be bytes 32) ++ (u32Be (readU32Be bytes 36) ++ rest))))) =
        bytes.take 40 ++ rest := by
  rw [usbIpHeaderLen] at h
  have hword : ∀ offset, offset + 4 ≤ 48 → u32Be (readU32Be bytes offset) = slice bytes offset (offset + 4) :=
    fun offset ho => u32Be_readU32Be (by omega)
  rw [hword 20 (by decide), hword 24 (by decide), hword 28 (by decide), hword 32 (by decide), hword 36 (by decide),
    UsbIpHeaderBasic.len]
  simp only [← List.append_assoc]
  rw [slice_append_slice bytes (by decide) (by decide), slice_append_slice bytes (by decide) (by decide),
    slice_append_slice bytes (by decide) (by decide), slice_append_slice bytes (by decide) (by decide),
    slice_append_slice bytes (by decide) (by decide), slice_zero]

/-- The decoder of a packet checks its command first. -/
def UsbIpCommand.Accepts : UsbIpCommand → List UInt8 → Prop
  | .cmdSubmit, bytes => ∃ submit, UsbIpCmdSubmit.decode bytes = .ok submit
  | .cmdUnlink, bytes => ∃ unlink, UsbIpCmdUnlink.decode bytes = .ok unlink
  | .retSubmit, bytes => ∃ ret, UsbIpRetSubmit.decode bytes = .ok ret
  | .retUnlink, bytes => ∃ ret, UsbIpRetUnlink.decode bytes = .ok ret

theorem UsbIpCmdSubmit.encode_of_decode {bytes : List UInt8} {submit : UsbIpCmdSubmit} (h : decode bytes = .ok submit) :
    submit.encode = .ok bytes ∧
      UsbIpHeaderBasic.decode (slice bytes 0 UsbIpHeaderBasic.len) = .ok submit.header ∧
      submit.header.command = .cmdSubmit := by
  unfold decode at h
  split at h
  · cases h
  · rename_i hmin
    obtain ⟨header, hheader, h⟩ := bind_eq_ok.mp h
    dsimp only at h
    rw [ite_error_eq_ok, ite_error_eq_ok, Decidable.not_not, Decidable.not_not, Except.ok.injEq] at h
    obtain ⟨hcommand, hlen, rfl⟩ := h
    refine ⟨?_, hheader, hcommand⟩
    have hmin' : usbIpHeaderLen ≤ bytes.length := Nat.le_of_not_lt hmin
    have hpayload : (bytes.drop usbIpHeaderLen).length =
        if header.direction = .out then (readU32Be bytes 24).toNat else 0 := by
      rw [List.length_drop]
      omega
    have hout : ¬ (header.direction = .out ∧ (bytes.drop usbIpHeaderLen).length ≠ (readU32Be bytes 24).toNat) := by
      rintro ⟨hdir, hne⟩
      rw [if_pos hdir] at hpayload
      exact hne hpayload
    have hin : ¬ (header.direction = .in ∧ bytes.drop usbIpHeaderLen ≠ []) := by
      rintro ⟨hdir, hne⟩
      rw [if_neg (by rw [hdir]; decide), List.length_eq_zero_iff] at hpayload
      exact hne hpayload
    have hback : slice bytes 40 48 ++ bytes.drop usbIpHeaderLen = bytes.drop 40 :=
      slice_append_drop bytes (by decide)
    rw [encode, if_neg (by simpa using hcommand), if_neg hout, if_neg hin]
    dsimp only
    rw [UsbIpHeaderBasic.encode_of_decode (Nat.le_trans (by decide) hmin') hheader, packet_front hmin', hback,
      List.take_append_drop]

theorem UsbIpRetSubmit.encode_of_decode {bytes : List UInt8} {ret : UsbIpRetSubmit} (h : decode bytes = .ok ret) :
    ret.encode = .ok (zeroed bytes 40 48) ∧
      UsbIpHeaderBasic.decode (slice bytes 0 UsbIpHeaderBasic.len) = .ok ret.header ∧
      ret.header.command = .retSubmit := by
  unfold decode at h
  rw [ite_error_eq_ok] at h
  obtain ⟨hmin, h⟩ := h
  obtain ⟨header, hheader, h⟩ := bind_eq_ok.mp h
  dsimp only at h
  rw [ite_error_eq_ok, ite_error_eq_ok, Decidable.not_not, Decidable.not_not, Except.ok.injEq] at h
  obtain ⟨hcommand, hlen, rfl⟩ := h
  refine ⟨?_, hheader, hcommand⟩
  have hmin' : usbIpHeaderLen ≤ bytes.length := Nat.le_of_not_lt hmin
  have hpayload : ¬ (bytes.drop usbIpHeaderLen).length ≠ (readU32Be bytes 24).toNat := by
    rw [List.length_drop]
    omega
  rw [encode, if_neg (by simpa using hcommand), if_neg hpayload]
  dsimp only
  rw [i32Be, UInt32.toUInt32_toInt32, UsbIpHeaderBasic.encode_of_decode (Nat.le_trans (by decide) hmin') hheader,
    packet_front hmin', zeroed]
  rfl

theorem unlink_bytes {bytes : List UInt8} {header : UsbIpHeaderBasic} (hlen : bytes.length = usbIpHeaderLen)
    (h : UsbIpHeaderBasic.decode (slice bytes 0 UsbIpHeaderBasic.len) = .ok header) :
    header.encode ++ (u32Be (readU32Be bytes 20) ++ List.replicate 24 0) = zeroed bytes 24 48 := by
  rw [usbIpHeaderLen] at hlen
  rw [UsbIpHeaderBasic.encode_of_decode (hlen ▸ by decide) h, u32Be_readU32Be (by omega), ← List.append_assoc,
    UsbIpHeaderBasic.len, slice_append_slice bytes (by decide) (by decide), slice_zero, zeroed,
    List.drop_eq_nil_of_le (Nat.le_of_eq hlen), List.append_nil]

theorem UsbIpCmdUnlink.encode_of_decode {bytes : List UInt8} {unlink : UsbIpCmdUnlink} (h : decode bytes = .ok unlink) :
    unlink.encode = zeroed bytes 24 48 ∧
      UsbIpHeaderBasic.decode (slice bytes 0 UsbIpHeaderBasic.len) = .ok unlink.header ∧
      unlink.header.command = .cmdUnlink := by
  unfold decode at h
  rw [ite_error_eq_ok, Decidable.not_not] at h
  obtain ⟨hlen, h⟩ := h
  obtain ⟨header, hheader, h⟩ := bind_eq_ok.mp h
  rw [ite_error_eq_ok, Decidable.not_not, Except.ok.injEq] at h
  obtain ⟨hcommand, rfl⟩ := h
  exact ⟨unlink_bytes hlen hheader, hheader, hcommand⟩

theorem UsbIpRetUnlink.encode_of_decode {bytes : List UInt8} {ret : UsbIpRetUnlink} (h : decode bytes = .ok ret) :
    ret.encode = zeroed bytes 24 48 ∧
      UsbIpHeaderBasic.decode (slice bytes 0 UsbIpHeaderBasic.len) = .ok ret.header ∧
      ret.header.command = .retUnlink := by
  unfold decode at h
  rw [ite_error_eq_ok, Decidable.not_not] at h
  obtain ⟨hlen, h⟩ := h
  obtain ⟨header, hheader, h⟩ := bind_eq_ok.mp h
  rw [ite_error_eq_ok, Decidable.not_not, Except.ok.injEq] at h
  obtain ⟨hcommand, rfl⟩ := h
  refine ⟨?_, hheader, hcommand⟩
  rw [encode, i32Be, UInt32.toUInt32_toInt32]
  exact unlink_bytes hlen hheader

theorem UsbIpCommand.Accepts.command {c : UsbIpCommand} {bytes : List UInt8} (h : c.Accepts bytes) : ∃ header,
    UsbIpHeaderBasic.decode (slice bytes 0 UsbIpHeaderBasic.len) = .ok header ∧ header.command = c := by
  cases c with
  | cmdSubmit =>
    obtain ⟨submit, h⟩ := h
    exact ⟨submit.header, (UsbIpCmdSubmit.encode_of_decode h).2⟩
  | cmdUnlink =>
    obtain ⟨unlink, h⟩ := h
    exact ⟨unlink.header, (UsbIpCmdUnlink.encode_of_decode h).2⟩
  | retSubmit =>
    obtain ⟨ret, h⟩ := h
    exact ⟨ret.header, (UsbIpRetSubmit.encode_of_decode h).2⟩
  | retUnlink =>
    obtain ⟨ret, h⟩ := h
    exact ⟨ret.header, (UsbIpRetUnlink.encode_of_decode h).2⟩

/-- The four packet codecs are exact, and a byte string is accepted by one of them at most. -/
theorem usbIpCodecs_exact :
    ((∀ (submit : UsbIpCmdSubmit) bytes, submit.encode = .ok bytes → UsbIpCmdSubmit.decode bytes = .ok submit) ∧
        ∀ bytes submit, UsbIpCmdSubmit.decode bytes = .ok submit → submit.encode = .ok bytes) ∧
      ((∀ (ret : UsbIpRetSubmit) bytes, ret.encode = .ok bytes → UsbIpRetSubmit.decode bytes = .ok ret) ∧
        ∀ bytes ret, UsbIpRetSubmit.decode bytes = .ok ret → ret.encode = .ok (zeroed bytes 40 48)) ∧
      ((∀ unlink : UsbIpCmdUnlink, unlink.header.command = .cmdUnlink →
          UsbIpCmdUnlink.decode unlink.encode = .ok unlink) ∧
        ∀ bytes unlink, UsbIpCmdUnlink.decode bytes = .ok unlink → unlink.encode = zeroed bytes 24 48) ∧
      ((∀ ret : UsbIpRetUnlink, ret.header.command = .retUnlink → UsbIpRetUnlink.decode ret.encode = .ok ret) ∧
        ∀ bytes ret, UsbIpRetUnlink.decode bytes = .ok ret → ret.encode = zeroed bytes 24 48) ∧
      ∀ (c c' : UsbIpCommand) bytes, c.Accepts bytes → c'.Accepts bytes → c = c' := by
  refine ⟨⟨fun _ _ => UsbIpCmdSubmit.decode_encode, fun _ _ h => (UsbIpCmdSubmit.encode_of_decode h).1⟩,
    ⟨fun _ _ => UsbIpRetSubmit.decode_encode, fun _ _ h => (UsbIpRetSubmit.encode_of_decode h).1⟩,
    ⟨fun _ => UsbIpCmdUnlink.decode_encode, fun _ _ h => (UsbIpCmdUnlink.encode_of_decode h).1⟩,
    ⟨fun _ => UsbIpRetUnlink.decode_encode, fun _ _ h => (UsbIpRetUnlink.encode_of_decode h).1⟩, ?_⟩
  intro c c' bytes h h'
  obtain ⟨header, hheader, hc⟩ := h.command
  obtain ⟨header', hheader', hc'⟩ := h'.command
  rw [hheader, Except.ok.injEq] at hheader'
  rw [← hc, ← hc', hheader']

end WhyUsb
