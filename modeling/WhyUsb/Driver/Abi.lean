import WhyUsb.Protocol.Basic
import WhyUsb.Ring.Basic

/-!
# The IOCTL interface

The records the driver and the daemon exchange (`ioctl.h`, `ioctl.rs`) and the
header at the front of the shared memory, which describes its layout once more.
-/

namespace WhyUsb

def abiMagic : UInt32 := 0x31594857
def abiVersion : UInt16 := 1
def sharedMemoryMagic : UInt32 := 0x4d535957
def sharedMemoryVersion : UInt16 := 1

def ringHeaderSize : Nat := 16
def ringAlignment : UInt32 := 8

/-- `WHY_USB_RING_MAPPING_SIZE`, also `sizeof(SPSC_RingBuffer)`. -/
def ringMappingSize : Nat := ringHeaderSize + ringBufferSize

/-! ## I/O control codes -/

/-- `CTL_CODE` with `FILE_DEVICE_UNKNOWN`, `METHOD_BUFFERED` and `FILE_ANY_ACCESS`. -/
def ctlCode (function : UInt32) : UInt32 :=
  (0x22 : UInt32) <<< 16 ||| (0 : UInt32) <<< 14 ||| function <<< 2 ||| 0

inductive IoControlCode where
  | sessionOpen
  | sessionClose
  | getSharedMemory
  | attachDevice
  | detachDevice
  | getStatus
  | unknown
  deriving DecidableEq, Repr

def IoControlCode.ofCode (code : UInt32) : IoControlCode :=
  if code = ctlCode 0x801 then .sessionOpen
  else if code = ctlCode 0x802 then .sessionClose
  else if code = ctlCode 0x803 then .getSharedMemory
  else if code = ctlCode 0x804 then .attachDevice
  else if code = ctlCode 0x805 then .detachDevice
  else if code = ctlCode 0x806 then .getStatus
  else .unknown

/-! ## Records -/

structure AbiHeader where
  magic : UInt32
  version : UInt16
  size : UInt16
  deriving DecidableEq, Repr

/-- `PopulateAbiHeader` of the driver, `AbiHeader::new` of the daemon. -/
def AbiHeader.new (size : Nat) : AbiHeader where
  magic := abiMagic
  version := abiVersion
  size := UInt16.ofNat size

def sessionOpenResponseSize : Nat := 24
def sharedMemoryInfoSize : Nat := 52
def sharedMemoryHeaderSize : Nat := 28
def statusResponseSize : Nat := 32

structure SessionOpenResponse where
  header : AbiHeader
  sessionId : UInt64
  status : UInt32
  maxFrameSize : UInt32
  deriving DecidableEq, Repr

structure SharedMemoryInfo where
  header : AbiHeader
  sectionHandle : UInt64
  txEventHandle : UInt64
  rxEventHandle : UInt64
  mappingSize : UInt32
  txRingSize : UInt32
  rxRingSize : UInt32
  txRingOffset : UInt32
  rxRingOffset : UInt32
  deriving DecidableEq, Repr

structure SharedMemoryHeader where
  magic : UInt32
  version : UInt16
  headerSize : UInt16
  mappingSize : UInt32
  txRingOffset : UInt32
  rxRingOffset : UInt32
  txRingSize : UInt32
  rxRingSize : UInt32
  deriving DecidableEq, Repr

structure StatusResponse where
  header : AbiHeader
  sessionId : UInt64
  status : UInt32
  sessionState : UInt32
  txQueuedBytes : UInt32
  rxQueuedBytes : UInt32
  deriving DecidableEq, Repr

/-! ## The daemon's checks -/

inductive AbiError where
  | invalidMagic (magic : UInt32)
  | unsupportedVersion (version : UInt16)
  | invalidSize (actual expected : UInt16)
  | invalidLayout
  deriving DecidableEq, Repr

/-- `u32::saturating_add`. -/
def saturatingAdd (a b : UInt32) : UInt32 := if a.toNat + b.toNat < 2 ^ 32 then a + b else 0xffffffff

def SharedMemoryHeader.validate (h : SharedMemoryHeader) : Except AbiError Unit :=
  if h.magic ≠ sharedMemoryMagic then .error (.invalidMagic h.magic)
  else if h.version ≠ sharedMemoryVersion then .error (.unsupportedVersion h.version)
  else if h.headerSize.toNat ≠ sharedMemoryHeaderSize then
    .error (.invalidSize h.headerSize (UInt16.ofNat sharedMemoryHeaderSize))
  else if h.mappingSize ≤ h.txRingOffset ∨ h.mappingSize ≤ h.rxRingOffset ∨ h.txRingSize = 0 ∨ h.rxRingSize = 0 ∨
      h.txRingOffset % ringAlignment ≠ 0 ∨ h.rxRingOffset % ringAlignment ≠ 0 ∨
      h.mappingSize < saturatingAdd h.txRingOffset h.txRingSize ∨
      h.mappingSize < saturatingAdd h.rxRingOffset h.rxRingSize then
    .error .invalidLayout
  else .ok ()

/-! ## What the layout check bounds -/

/-- In exact integers: the ring starts aligned and ends within the mapping. -/
structure RingWithin (mappingSize offset size : UInt32) : Prop where
  aligned : offset.toNat % 8 = 0
  inside : offset.toNat + size.toNat ≤ mappingSize.toNat

namespace SharedMemoryHeader

/-- What `validate` accepts has both rings within the declared mapping. -/
def RingsWithin (h : SharedMemoryHeader) : Prop :=
  h.validate = .ok () →
    RingWithin h.mappingSize h.txRingOffset h.txRingSize ∧ RingWithin h.mappingSize h.rxRingOffset h.rxRingSize

/-- The mapping takes all 32 bits can say, so a saturated sum is as good as a sum that fits. -/
structure Saturated (h : SharedMemoryHeader) : Prop where
  magic : h.magic = sharedMemoryMagic
  version : h.version = sharedMemoryVersion
  headerSize : h.headerSize.toNat = sharedMemoryHeaderSize
  mappingSize : h.mappingSize.toNat = 2 ^ 32 - 1
  txAligned : h.txRingOffset.toNat % 8 = 0
  rxAligned : h.rxRingOffset.toNat % 8 = 0
  txSize : h.txRingSize ≠ 0
  rxSize : h.rxRingSize ≠ 0
  past : 2 ^ 32 ≤ h.txRingOffset.toNat + h.txRingSize.toNat ∨ 2 ^ 32 ≤ h.rxRingOffset.toNat + h.rxRingSize.toNat

end SharedMemoryHeader

theorem saturatingAdd_toNat (a b : UInt32) : (saturatingAdd a b).toNat = min (a.toNat + b.toNat) (2 ^ 32 - 1) := by
  unfold saturatingAdd
  by_cases h : a.toNat + b.toNat < 2 ^ 32
  · rw [if_pos h, UInt32.toNat_add, Nat.mod_eq_of_lt h]
    omega
  · rw [if_neg h, Nat.min_eq_right (by omega)]
    rfl

theorem mod_ringAlignment {offset : UInt32} : offset % ringAlignment = 0 ↔ offset.toNat % 8 = 0 := by
  rw [← UInt32.toNat_inj, UInt32.toNat_mod]
  rfl

namespace SharedMemoryHeader

theorem validate_ok_iff (h : SharedMemoryHeader) : h.validate = .ok () ↔
    h.magic = sharedMemoryMagic ∧ h.version = sharedMemoryVersion ∧ h.headerSize.toNat = sharedMemoryHeaderSize ∧
      h.txRingOffset.toNat < h.mappingSize.toNat ∧ h.rxRingOffset.toNat < h.mappingSize.toNat ∧
      h.txRingSize ≠ 0 ∧ h.rxRingSize ≠ 0 ∧ h.txRingOffset.toNat % 8 = 0 ∧ h.rxRingOffset.toNat % 8 = 0 ∧
      min (h.txRingOffset.toNat + h.txRingSize.toNat) (2 ^ 32 - 1) ≤ h.mappingSize.toNat ∧
      min (h.rxRingOffset.toNat + h.rxRingSize.toNat) (2 ^ 32 - 1) ≤ h.mappingSize.toNat := by
  unfold validate
  simp only [ite_error_eq_ok, not_or, Decidable.not_not, ne_eq, UInt32.lt_iff_toNat_lt,
    UInt32.le_iff_toNat_le, saturatingAdd_toNat, mod_ringAlignment, and_true, Nat.not_le, Nat.not_lt]

/-- For every header: what `validate` accepts has its rings within the mapping, unless a sum saturates against a
mapping of the largest size. -/
theorem ringsWithin_iff (h : SharedMemoryHeader) : h.RingsWithin ↔ ¬ h.Saturated := by
  have hmax := h.mappingSize.toNat_lt
  constructor
  · intro hwithin hs
    have hmapping := hs.mappingSize
    have htxAligned := hs.txAligned
    have hrxAligned := hs.rxAligned
    have htxOffset := h.txRingOffset.toNat_lt
    have hrxOffset := h.rxRingOffset.toNat_lt
    have hok : h.validate = .ok () := h.validate_ok_iff.mpr ⟨hs.magic, hs.version, hs.headerSize, by omega, by omega,
      hs.txSize, hs.rxSize, htxAligned, hrxAligned, by omega, by omega⟩
    have htx := (hwithin hok).1.inside
    have hrx := (hwithin hok).2.inside
    cases hs.past with
    | inl hpast => omega
    | inr hpast => omega
  · intro hs hok
    obtain ⟨hmagic, hversion, hheader, -, -, htxSize, hrxSize, htxAligned, hrxAligned, htx, hrx⟩ :=
      h.validate_ok_iff.mp hok
    by_cases hpast : 2 ^ 32 ≤ h.txRingOffset.toNat + h.txRingSize.toNat ∨
        2 ^ 32 ≤ h.rxRingOffset.toNat + h.rxRingSize.toNat
    · -- the sum that does not fit is compared as the largest value
      have hmapping : h.mappingSize.toNat = 2 ^ 32 - 1 := by omega
      exact absurd ⟨hmagic, hversion, hheader, hmapping, htxAligned, hrxAligned, htxSize, hrxSize, hpast⟩ hs
    · obtain ⟨htxSum, hrxSum⟩ := not_or.mp hpast
      exact ⟨⟨htxAligned, by omega⟩, ⟨hrxAligned, by omega⟩⟩

/-- A header whose TX ring starts in the last eight bytes of the largest mapping. -/
def pastTheEnd : SharedMemoryHeader where
  magic := sharedMemoryMagic
  version := sharedMemoryVersion
  headerSize := UInt16.ofNat sharedMemoryHeaderSize
  mappingSize := 0xffffffff
  txRingOffset := 0xfffffff8
  rxRingOffset := 32
  txRingSize := UInt32.ofNat ringMappingSize
  rxRingSize := UInt32.ofNat ringMappingSize

theorem pastTheEnd_not_within : ¬ pastTheEnd.RingsWithin := by
  intro h
  obtain ⟨htx, -⟩ := h (by decide)
  exact absurd htx.inside (by decide)

end SharedMemoryHeader

end WhyUsb
