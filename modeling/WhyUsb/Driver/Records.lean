import WhyUsb.Driver.WindowsBackend
import WhyUsb.Lib.Packed

/-!
# The records of the IOCTLs

The driver copies a record of `ioctl.h` into the output buffer, and the daemon
takes the bytes for the record of `ioctl.rs`, once their number is right. Both
lay out the same fields in the same order.
-/

namespace WhyUsb

open Packed

/-! ## The driver's side -/

def AbiHeader.fields (h : AbiHeader) : List (Nat × Nat) := [(4, h.magic.toNat), (2, h.version.toNat), (2, h.size.toNat)]

def SessionOpenResponse.fields (r : SessionOpenResponse) : List (Nat × Nat) :=
  r.header.fields ++ [(8, r.sessionId.toNat), (4, r.status.toNat), (4, r.maxFrameSize.toNat)]

def SharedMemoryInfo.fields (info : SharedMemoryInfo) : List (Nat × Nat) :=
  info.header.fields ++
    [(8, info.sectionHandle.toNat), (8, info.txEventHandle.toNat), (8, info.rxEventHandle.toNat),
      (4, info.mappingSize.toNat), (4, info.txRingSize.toNat), (4, info.rxRingSize.toNat),
      (4, info.txRingOffset.toNat), (4, info.rxRingOffset.toNat)]

def StatusResponse.fields (r : StatusResponse) : List (Nat × Nat) :=
  r.header.fields ++
    [(8, r.sessionId.toNat), (4, r.status.toNat), (4, r.sessionState.toNat), (4, r.txQueuedBytes.toNat),
      (4, r.rxQueuedBytes.toNat)]

/-- What `CompleteWithStruct` copies. -/
def IoctlOutput.bytes : IoctlOutput → List UInt8
  | sessionOpen response => pack response.fields
  | sharedMemory info => pack info.fields
  | status response => pack response.fields

/-! ## The daemon's side -/

def AbiHeader.read (bytes : List UInt8) : AbiHeader where
  magic := .ofNat (field bytes 0 4)
  version := .ofNat (field bytes 4 2)
  size := .ofNat (field bytes 6 2)

def SessionOpenResponse.read (bytes : List UInt8) : SessionOpenResponse where
  header := .read bytes
  sessionId := .ofNat (field bytes 8 8)
  status := .ofNat (field bytes 16 4)
  maxFrameSize := .ofNat (field bytes 20 4)

def SharedMemoryInfo.read (bytes : List UInt8) : SharedMemoryInfo where
  header := .read bytes
  sectionHandle := .ofNat (field bytes 8 8)
  txEventHandle := .ofNat (field bytes 16 8)
  rxEventHandle := .ofNat (field bytes 24 8)
  mappingSize := .ofNat (field bytes 32 4)
  txRingSize := .ofNat (field bytes 36 4)
  rxRingSize := .ofNat (field bytes 40 4)
  txRingOffset := .ofNat (field bytes 44 4)
  rxRingOffset := .ofNat (field bytes 48 4)

def StatusResponse.read (bytes : List UInt8) : StatusResponse where
  header := .read bytes
  sessionId := .ofNat (field bytes 8 8)
  status := .ofNat (field bytes 16 4)
  sessionState := .ofNat (field bytes 20 4)
  txQueuedBytes := .ofNat (field bytes 24 4)
  rxQueuedBytes := .ofNat (field bytes 28 4)

def AbiHeader.validate (h : AbiHeader) (expectedSize : Nat) : Except AbiError Unit :=
  if h.magic ≠ abiMagic then .error (.invalidMagic h.magic)
  else if h.version ≠ abiVersion then .error (.unsupportedVersion h.version)
  else if h.size.toNat ≠ expectedSize then .error (.invalidSize h.size (UInt16.ofNat expectedSize))
  else .ok ()

def validateHeader (h : AbiHeader) (expectedSize : Nat) : Except WindowsDriverError Unit :=
  match h.validate expectedSize with
  | .error e => .error (.mapping (.abi e.toString))
  | .ok () => .ok ()

namespace DeviceHandle

/-- What `DeviceIoControl` has returned, `none` where it fails. -/
def returned (c : Completion) : Option (List UInt8) :=
  if NtSuccess c.status then some ((c.output.map IoctlOutput.bytes).getD []) else none

/-- `ioctl` and `ioctl_no_input`; the driver reads no input. -/
def ioctl (code : UInt32) (size : Nat) (c : Completion) : Except WindowsDriverError (List UInt8) :=
  match returned c with
  | none => .error (.mapping (.windowsIo "DeviceIoControl"))
  | some bytes =>
    if bytes.length ≠ size then
      .error (.mapping (.abi ("IOCTL 0x" ++ hex8 code ++ " returned " ++ Nat.repr bytes.length ++ " bytes, expected " ++
        Nat.repr size)))
    else .ok bytes

def ioctlNoOutput (c : Completion) : Except WindowsDriverError Unit :=
  match returned c with
  | none => .error (.mapping (.windowsIo "DeviceIoControl"))
  | some _ => .ok ()

end DeviceHandle

/-! ## What is written is read -/

theorem AbiHeader.read_fields (h : AbiHeader) (rest : List (Nat × Nat)) :
    AbiHeader.read (pack (h.fields ++ rest)) = h := by
  have hmagic := h.magic.toNat_lt
  have hversion := h.version.toNat_lt
  have hsize := h.size.toNat_lt
  simp [AbiHeader.read, AbiHeader.fields, field_pack_here, field_pack_skip, hmagic, hversion, hsize]

theorem field_fields {h : AbiHeader} {rest : List (Nat × Nat)} {offset width : Nat} (hoffset : 8 ≤ offset) :
    field (pack (h.fields ++ rest)) offset width = field (pack rest) (offset - 8) width := by
  have hmagic : 4 ≤ offset := by omega
  have hversion : 2 ≤ offset - 4 := by omega
  have hsize : 2 ≤ offset - 4 - 2 := by omega
  rw [AbiHeader.fields, List.cons_append, List.cons_append, List.cons_append, List.nil_append, field_pack_skip hmagic,
    field_pack_skip hversion, field_pack_skip hsize]
  rfl

theorem SessionOpenResponse.read_bytes (r : SessionOpenResponse) :
    SessionOpenResponse.read (IoctlOutput.sessionOpen r).bytes = r := by
  have hsessionId := r.sessionId.toNat_lt
  have hstatus := r.status.toNat_lt
  have hmaxFrameSize := r.maxFrameSize.toNat_lt
  rw [IoctlOutput.bytes, SessionOpenResponse.fields, SessionOpenResponse.read, AbiHeader.read_fields]
  simp [field_fields, field_pack_here, field_pack_skip, hsessionId, hstatus, hmaxFrameSize]

theorem SharedMemoryInfo.read_bytes (info : SharedMemoryInfo) :
    SharedMemoryInfo.read (IoctlOutput.sharedMemory info).bytes = info := by
  have hsection := info.sectionHandle.toNat_lt
  have htxEvent := info.txEventHandle.toNat_lt
  have hrxEvent := info.rxEventHandle.toNat_lt
  have hmappingSize := info.mappingSize.toNat_lt
  have htxSize := info.txRingSize.toNat_lt
  have hrxSize := info.rxRingSize.toNat_lt
  have htxOffset := info.txRingOffset.toNat_lt
  have hrxOffset := info.rxRingOffset.toNat_lt
  rw [IoctlOutput.bytes, SharedMemoryInfo.fields, SharedMemoryInfo.read, AbiHeader.read_fields]
  simp [field_fields, field_pack_here, field_pack_skip, hsection, htxEvent, hrxEvent, hmappingSize, htxSize, hrxSize,
    htxOffset, hrxOffset]

theorem StatusResponse.read_bytes (r : StatusResponse) : StatusResponse.read (IoctlOutput.status r).bytes = r := by
  have hsessionId := r.sessionId.toNat_lt
  have hstatus := r.status.toNat_lt
  have hstate := r.sessionState.toNat_lt
  have htxQueued := r.txQueuedBytes.toNat_lt
  have hrxQueued := r.rxQueuedBytes.toNat_lt
  rw [IoctlOutput.bytes, StatusResponse.fields, StatusResponse.read, AbiHeader.read_fields]
  simp [field_fields, field_pack_here, field_pack_skip, hsessionId, hstatus, hstate, htxQueued, hrxQueued]

/-- The sizes both sides give to a record are those of its fields. -/
theorem IoctlOutput.bytes_length (output : IoctlOutput) : output.bytes.length = match output with
    | sessionOpen _ => sessionOpenResponseSize
    | sharedMemory _ => sharedMemoryInfoSize
    | status _ => statusResponseSize := by
  cases output with
  | _ => rw [IoctlOutput.bytes, pack_length]; rfl

theorem AbiHeader.new_validate {size : Nat} (h : size < 2 ^ 16) : (AbiHeader.new size).validate size = .ok () := by
  have hsize : (UInt16.ofNat size).toNat = size := by
    rw [UInt16.toNat_ofNat', Nat.mod_eq_of_lt h]
  simp [AbiHeader.validate, AbiHeader.new, hsize]

namespace DeviceHandle

section
variable {code : UInt32} {size : Nat} {c : Completion} {k : Kernel}

/-- Bytes that are returned are those of the output, of the right number. -/
theorem ioctl_ok_iff {bytes : List UInt8} : ioctl code size c = .ok bytes ↔
    NtSuccess c.status ∧ bytes = (c.output.map IoctlOutput.bytes).getD [] ∧ bytes.length = size := by
  unfold ioctl returned
  by_cases hsuccess : NtSuccess c.status
  · rw [if_pos hsuccess]
    dsimp only
    by_cases hsize : ((c.output.map IoctlOutput.bytes).getD []).length ≠ size
    · rw [if_pos hsize]
      refine iff_of_false nofun ?_
      rintro ⟨-, rfl, hlength⟩
      exact hsize hlength
    · rw [if_neg hsize, Except.ok.injEq]
      refine ⟨?_, fun h => h.2.1.symm⟩
      rintro rfl
      exact ⟨hsuccess, rfl, not_not.mp hsize⟩
  · rw [if_neg hsuccess]
    exact iff_of_false nofun fun h => hsuccess h.1

end

end DeviceHandle

end WhyUsb
