import WhyUsb.Lib.Checksum
import WhyUsb.Protocol.Exact

/-!
# The integrity of bulk payloads

The checksum rotates what it has and adds the next byte, so both can be told
from the result. What `decode` accepts is its encoding up to the reserved bytes,
so a change of the header changes the data as well or is refused; a change of
one data byte changes the checksum.
-/

namespace WhyUsb

open Endian

/-! ## The checksum -/

def checksumStep (acc : UInt32) (byte : UInt8) : UInt32 := ((acc <<< 5) ||| (acc >>> 27)) + byte.toUInt32

theorem rotateLeft_injective : Function.Injective fun acc : UInt32 => (acc <<< 5) ||| (acc >>> 27) := by
  intro a b h
  have hbits := congrArg UInt32.toBitVec h
  simp only [UInt32.toBitVec_or, UInt32.toBitVec_shiftLeft, UInt32.toBitVec_shiftRight] at hbits
  apply UInt32.toBitVec_inj.mp
  apply BitVec.eq_of_getLsbD_eq
  intro i hi
  by_cases hlow : i < 27
  · have hhigh : ∀ x : BitVec 32, x.getLsbD (27 + (i + 5)) = false := fun x => x.getLsbD_of_ge _ (by omega)
    have hbit := congrArg (fun x => x.getLsbD (i + 5)) hbits
    simpa [hhigh, hi, show i + 5 < 32 by omega] using hbit
  · have hbit := congrArg (fun x => x.getLsbD (i - 27)) hbits
    simpa [show i - 27 < 5 by omega, show 27 + (i - 27) = i by omega] using hbit

theorem checksumStep_injective_acc (byte : UInt8) : Function.Injective fun acc => checksumStep acc byte := by
  intro a b h
  exact rotateLeft_injective (UInt32.add_left_inj _ |>.mp h)

theorem checksumStep_injective_byte (acc : UInt32) : Function.Injective (checksumStep acc) := by
  intro a b h
  have hbytes : a.toUInt32 = b.toUInt32 := (UInt32.add_right_inj _).mp h
  have hnat := congrArg UInt32.toNat hbytes
  rwa [UInt8.toNat_toUInt32, UInt8.toNat_toUInt32, UInt8.toNat_inj] at hnat

/-- No change of a single byte goes unnoticed. -/
theorem checksum_set_ne {data : List UInt8} {i : Nat} {b : UInt8} (hi : i < data.length) (hb : data[i] ≠ b) :
    checksum (data.set i b) ≠ checksum data :=
  Checksum.foldl_set_ne checksumStep_injective_acc checksumStep_injective_byte hi hb 0

/-! ## The codec -/

namespace MockBulkPayload

theorem encode_length {payload : MockBulkPayload} {bytes : List UInt8} (h : payload.encode = some bytes) :
    bytes.length = mockBulkHeaderLen + payload.data.length := by
  obtain ⟨len, -, rfl⟩ := Option.map_eq_some_iff.mp h
  simp only [mockBulkMagic, List.length_cons, List.length_append, u32Be_length, mockBulkHeaderLen, List.length_nil]
  omega

theorem decode_of_encode {payload : MockBulkPayload} {bytes : List UInt8} (h : payload.encode = some bytes) :
    decode bytes = .ok payload := by
  have hlen := encode_length h
  obtain ⟨len, hdata, rfl⟩ := Option.map_eq_some_iff.mp h
  rw [u32TryFrom_eq_some] at hdata
  generalize hb : mockBulkMagic ++ mockBulkVersion :: 0 :: 0 :: 0 ::
      (u32Be len ++ (u32Be (checksum payload.data) ++ payload.data)) = bytes at hlen ⊢
  have hfront : bytes = (mockBulkMagic ++ [mockBulkVersion, 0, 0, 0]) ++
      (u32Be len ++ (u32Be (checksum payload.data) ++ payload.data)) := hb.symm
  have hmagic : slice bytes 0 4 = mockBulkMagic := by
    rw [hfront, List.append_assoc]
    exact slice_append_take rfl
  have hversion : byteAt bytes 4 = mockBulkVersion := by
    rw [hfront]
    simp [mockBulkMagic, byteAt]
  have hdataLen : readU32Be bytes 8 = len := by
    rw [hfront, readU32Be_skip (by simp [mockBulkMagic])]
    exact readU32Be_u32Be len _
  have hchecksum : readU32Be bytes 12 = checksum payload.data := by
    rw [hfront, readU32Be_skip (by simp [mockBulkMagic]), readU32Be_skip (by simp [mockBulkMagic])]
    simpa [mockBulkMagic] using readU32Be_u32Be (checksum payload.data) payload.data
  have hrest : bytes.drop mockBulkHeaderLen = payload.data := by
    have hsplit : bytes = (mockBulkMagic ++ [mockBulkVersion, 0, 0, 0] ++ u32Be len ++
        u32Be (checksum payload.data)) ++ payload.data := by
      rw [hfront]
      simp only [List.append_assoc]
    rw [hsplit, List.drop_left' (by simp [mockBulkMagic, mockBulkHeaderLen])]
  rw [decode, if_neg (by omega), hmagic, if_neg (by simp), hversion, if_neg (by simp), hdataLen, hchecksum, hrest]
  dsimp only
  rw [if_neg (by omega), if_neg (by simp)]

theorem decode_fields {bytes : List UInt8} {payload : MockBulkPayload} (h : decode bytes = .ok payload) :
    slice bytes 0 4 = mockBulkMagic ∧ byteAt bytes 4 = mockBulkVersion ∧
      bytes.length = mockBulkHeaderLen + (readU32Be bytes 8).toNat ∧ checksum payload.data = readU32Be bytes 12 ∧
      payload.data = bytes.drop mockBulkHeaderLen := by
  unfold decode at h
  simp only [ite_error_eq_ok, Decidable.not_not, Except.ok.injEq] at h
  obtain ⟨-, hmagic, hversion, hlen, hchecksum, rfl⟩ := h
  exact ⟨hmagic, hversion, hlen, hchecksum, rfl⟩

theorem zeroed_eq {bytes : List UInt8} (h : mockBulkHeaderLen ≤ bytes.length) :
    zeroed bytes 5 8 = slice bytes 0 4 ++ byteAt bytes 4 :: 0 :: 0 :: 0 ::
      (slice bytes 8 12 ++ (slice bytes 12 16 ++ bytes.drop mockBulkHeaderLen)) := by
  rw [mockBulkHeaderLen] at h
  have hfront : bytes.take 5 = slice bytes 0 4 ++ [byteAt bytes 4] := by
    rw [← slice_succ (by omega), slice_append_slice bytes (by decide) (by decide), slice_zero]
  have hback : bytes.drop 8 = slice bytes 8 12 ++ (slice bytes 12 16 ++ bytes.drop 16) := by
    rw [slice_append_drop bytes (by decide), slice_append_drop bytes (by decide)]
  rw [zeroed, hfront, hback, mockBulkHeaderLen, List.append_assoc]
  rfl

theorem encode_of_decode {bytes : List UInt8} {payload : MockBulkPayload} (h : decode bytes = .ok payload) :
    payload.encode = some (zeroed bytes 5 8) := by
  obtain ⟨hmagic, hversion, hlen, hchecksum, hdata⟩ := decode_fields h
  have hmin : mockBulkHeaderLen ≤ bytes.length := by omega
  have hdataLen : u32TryFrom payload.data.length = some (readU32Be bytes 8) := by
    rw [u32TryFrom_eq_some, hdata, List.length_drop]
    omega
  have hword : ∀ offset, offset + 4 ≤ mockBulkHeaderLen →
      u32Be (readU32Be bytes offset) = slice bytes offset (offset + 4) := fun offset ho => u32Be_readU32Be (by omega)
  rw [encode, hdataLen, Option.map_some, hchecksum, hword 8 (by decide), hword 12 (by decide), hdata,
    zeroed_eq hmin, hmagic, hversion]

/-! ## A changed byte -/

theorem getElem?_zeroed {bytes : List UInt8} {start stop i : Nat} (hstart : start ≤ stop) (hstop : stop ≤ bytes.length)
    (hi : i < start ∨ stop ≤ i) : (zeroed bytes start stop)[i]? = bytes[i]? := by
  have hlen : (bytes.take start).length = start := by
    rw [List.length_take]
    omega
  unfold zeroed
  by_cases hfront : i < start
  · rw [List.getElem?_append_left (by omega), List.getElem?_take_of_lt hfront]
  · have hback : stop ≤ i := hi.resolve_left hfront
    rw [List.getElem?_append_right (by omega), List.getElem?_append_right (by rw [List.length_replicate]; omega),
      List.length_replicate, hlen, List.getElem?_drop]
    congr 1
    omega

/-- Only the reserved bytes of an accepted string can be changed without a change of the data. -/
theorem set_header_refused {bytes : List UInt8} {payload : MockBulkPayload} (h : decode bytes = .ok payload) {i : Nat}
    {b : UInt8} (hi : i < mockBulkHeaderLen) (hreserved : ¬ (5 ≤ i ∧ i < 8)) (hb : bytes[i]? ≠ some b)
    (other : MockBulkPayload) : decode (bytes.set i b) ≠ .ok other := by
  intro hset
  have hmin : mockBulkHeaderLen ≤ bytes.length := by
    have := (decode_fields h).2.2.1
    omega
  -- the data is the same, so both strings are its encoding
  have hdata : other = payload := by
    rw [MockBulkPayload.mk.injEq, (decode_fields hset).2.2.2.2, (decode_fields h).2.2.2.2, List.drop_set_of_lt hi]
  have hsame := (encode_of_decode hset).symm.trans (hdata ▸ encode_of_decode h)
  rw [Option.some.injEq] at hsame
  have hat : (zeroed (bytes.set i b) 5 8)[i]? = (zeroed bytes 5 8)[i]? := by rw [hsame]
  rw [getElem?_zeroed (by decide) (by rw [List.length_set]; exact Nat.le_trans (by decide) hmin) (by omega),
    getElem?_zeroed (by decide) (Nat.le_trans (by decide) hmin) (by omega), List.getElem?_set_self (by omega)] at hat
  exact hb hat.symm

theorem set_data_refused {bytes : List UInt8} {payload : MockBulkPayload} (h : decode bytes = .ok payload) {i : Nat}
    {b : UInt8} (hi : mockBulkHeaderLen ≤ i) (hlen : i < bytes.length) (hb : bytes[i] ≠ b)
    (other : MockBulkPayload) : decode (bytes.set i b) ≠ .ok other := by
  intro hset
  obtain ⟨-, -, -, hchecksum, hdata⟩ := decode_fields h
  obtain ⟨-, -, -, hchecksumSet, hdataSet⟩ := decode_fields hset
  have hfield : readU32Be (bytes.set i b) 12 = readU32Be bytes 12 := by
    rw [mockBulkHeaderLen] at hi
    rw [readU32Be, readU32Be, slice, slice, List.drop_set, if_neg (by omega), List.take_set_of_le (by omega)]
  rw [hfield, ← hchecksum, hdata, hdataSet, List.drop_set, if_neg (by omega)] at hchecksumSet
  exact checksum_set_ne (by rw [List.length_drop]; omega) (by simpa [Nat.add_sub_cancel' hi] using hb) hchecksumSet

theorem set_refused {payload : MockBulkPayload} {bytes : List UInt8} (h : payload.encode = some bytes) {i : Nat}
    {b : UInt8} (hi : i < bytes.length) (hreserved : ¬ (5 ≤ i ∧ i < 8)) (hb : bytes[i] ≠ b) :
    ∃ e, decode (bytes.set i b) = .error e := by
  have hdecode := decode_of_encode h
  cases hset : decode (bytes.set i b) with
  | error e => exact ⟨e, rfl⟩
  | ok other =>
    by_cases hheader : i < mockBulkHeaderLen
    · have hat : bytes[i]? ≠ some b := by rwa [List.getElem?_eq_getElem hi, ne_eq, Option.some.injEq]
      exact absurd hset (set_header_refused hdecode hheader hreserved hat other)
    · exact absurd hset (set_data_refused hdecode (Nat.le_of_not_lt hheader) hi hb other)

theorem encode_ok {payload : MockBulkPayload} (h : payload.data.length < 2 ^ 32 - 16) :
    ∃ bytes, payload.encode = some bytes := by
  rw [encode, u32TryFrom, if_pos (by omega)]
  exact ⟨_, rfl⟩

/-- What is encoded is decoded, what is decoded is encoded to the same bytes with the reserved ones zeroed, and a change
of any other byte of an encoding is refused. -/
theorem integrity :
    (∀ payload : MockBulkPayload, payload.data.length < 2 ^ 32 - 16 →
        ∃ bytes, payload.encode = some bytes ∧ decode bytes = .ok payload) ∧
      (∀ bytes payload, decode bytes = .ok payload → payload.encode = some (zeroed bytes 5 8)) ∧
      ∀ (payload : MockBulkPayload) bytes, payload.encode = some bytes → ∀ (i : Nat) (b : UInt8) (hi : i < bytes.length),
        ¬ (5 ≤ i ∧ i < 8) → bytes[i] ≠ b → ∃ e, decode (bytes.set i b) = .error e := by
  refine ⟨?_, ?_, ?_⟩
  · intro payload hlen
    obtain ⟨bytes, hbytes⟩ := encode_ok hlen
    exact ⟨bytes, hbytes, decode_of_encode hbytes⟩
  · intro bytes payload h
    exact encode_of_decode h
  · intro payload bytes h i b hi hreserved hb
    exact set_refused h hi hreserved hb

end MockBulkPayload

end WhyUsb
