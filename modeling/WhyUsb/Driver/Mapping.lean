import Mathlib.Order.CompletePartialOrder
import Mathlib.Order.Interval.Set.Disjoint
import WhyUsb.Driver.DeviceSessions

/-!
# The daemon's view of the shared memory

The layout is described by the driver's reply and by the header in the memory.
`SharedMemoryMapping::map` validates the header and goes on with the offsets of
the reply; `ring` checks the room behind an offset, nothing that is before it.
-/

namespace WhyUsb

open Set (Ico)

inductive MappingError where
  | abi (message : String)
  | windowsIo (operation : String)
  | mappedRing (message : String)
  deriving DecidableEq, Repr

/-- The `08x` of a format string. -/
def hex8 (n : UInt32) : String :=
  let digits := Nat.toDigits 16 n.toNat
  String.ofList (List.replicate (8 - digits.length) '0' ++ digits)

def AbiError.toString : AbiError → String
  | invalidMagic magic => "invalid ABI magic 0x" ++ hex8 magic
  | unsupportedVersion version => "unsupported ABI version " ++ Nat.repr version.toNat
  | invalidSize actual expected =>
    "invalid ABI size " ++ Nat.repr actual.toNat ++ ", expected " ++ Nat.repr expected.toNat
  | invalidLayout => "invalid shared memory layout"

def MappedRingError.toString : MappedRingError → String
  | nullBase => "ring base pointer is null"
  | misalignedBase => "ring base pointer is not 8-byte aligned"
  | invalidSize actual expected =>
    "invalid ring size " ++ Nat.repr actual ++ ", expected at least " ++ Nat.repr expected
  | full requested available =>
    "ring is full: requested " ++ Nat.repr requested ++ " bytes, available " ++ Nat.repr available
  | frameTooLarge actual max => "frame too large: " ++ Nat.repr actual ++ " bytes, max " ++ Nat.repr max

/-- What `MapViewOfFile` maps: an aligned address, and the header found there. -/
structure MappedView where
  address : Nat
  header : SharedMemoryHeader
  nonnull : address ≠ 0
  aligned : address % 8 = 0

/-- A `MappedRing`: where it starts, and the bytes behind that. -/
structure MappedRing where
  base : Nat
  size : Nat
  deriving DecidableEq, Repr

def MappedRing.new (base size : Nat) : Except MappedRingError MappedRing :=
  if base = 0 then .error .nullBase
  else if size < ringMappingSize then .error (.invalidSize size ringMappingSize)
  else if base % 8 ≠ 0 then .error .misalignedBase
  else .ok ⟨base, size⟩

structure SharedMemoryMapping where
  sectionHandle : UInt64
  txEvent : Option UInt64
  rxEvent : Option UInt64
  view : MappedView
  mappingSize : UInt32
  txRingOffset : UInt32
  rxRingOffset : UInt32

def nonNullHandle (value : UInt64) : Option UInt64 := if value = 0 then none else some value

namespace SharedMemoryMapping

/-- `view` is what `MapViewOfFile` returns for `info.mapping_size` bytes, `none` the null pointer. -/
def map (info : SharedMemoryInfo) (view : Option MappedView) : Except MappingError SharedMemoryMapping :=
  if info.sectionHandle = 0 ∨ info.mappingSize.toNat < sharedMemoryHeaderSize then
    .error (.abi "driver returned invalid shared memory handle or size")
  else
    match view with
    | none => .error (.windowsIo "MapViewOfFile")
    | some view =>
      match view.header.validate with
      | .error e => .error (.abi e.toString)
      | .ok () =>
        .ok
          { sectionHandle := info.sectionHandle
            txEvent := nonNullHandle info.txEventHandle
            rxEvent := nonNullHandle info.rxEventHandle
            view := view
            mappingSize := info.mappingSize
            txRingOffset := info.txRingOffset
            rxRingOffset := info.rxRingOffset }

def ring (m : SharedMemoryMapping) (offset : UInt32) (name : String) : Except MappingError MappedRing :=
  if m.mappingSize ≤ offset then
    .error (.abi (name ++ " ring offset " ++ Nat.repr offset.toNat ++ " is outside mapping"))
  else
    match MappedRing.new (m.view.address + offset.toNat) (m.mappingSize.toNat - offset.toNat) with
    | .error e => .error (.mappedRing e.toString)
    | .ok r => .ok r

def txRing (m : SharedMemoryMapping) : Except MappingError MappedRing := m.ring m.txRingOffset "TX"

def rxRing (m : SharedMemoryMapping) : Except MappingError MappedRing := m.ring m.rxRingOffset "RX"

end SharedMemoryMapping

/-! ## Separate rings -/

def MappedRing.cells (r : MappedRing) : Set Nat := Ico r.base (r.base + ringMappingSize)

/-- The rings lie inside the view, apart from the header and from each other, where the header puts them. -/
structure Separate (mappingSize : Nat) (view : MappedView) (tx rx : MappedRing) : Prop where
  txInside : tx.cells ⊆ Ico view.address (view.address + mappingSize)
  rxInside : rx.cells ⊆ Ico view.address (view.address + mappingSize)
  headerInside : sharedMemoryHeaderSize ≤ mappingSize
  txHeader : Disjoint (Ico view.address (view.address + sharedMemoryHeaderSize)) tx.cells
  rxHeader : Disjoint (Ico view.address (view.address + sharedMemoryHeaderSize)) rx.cells
  rings : Disjoint tx.cells rx.cells
  txDeclared : tx.base = view.address + view.header.txRingOffset.toNat
  rxDeclared : rx.base = view.address + view.header.rxRingOffset.toNat

/-- Whenever the mapping and both rings are made of the reply and the view, they are separate. -/
def SeparateRings (info : SharedMemoryInfo) (view : MappedView) : Prop :=
  ∀ m tx rx, SharedMemoryMapping.map info (some view) = .ok m → m.txRing = .ok tx → m.rxRing = .ok rx →
    Separate info.mappingSize.toNat view tx rx

def RingFits (info : SharedMemoryInfo) (offset : UInt32) : Prop :=
  offset.toNat + ringMappingSize ≤ info.mappingSize.toNat ∧ offset.toNat % 8 = 0

def Admitted (info : SharedMemoryInfo) (header : SharedMemoryHeader) : Prop :=
  info.sectionHandle ≠ 0 ∧ sharedMemoryHeaderSize ≤ info.mappingSize.toNat ∧ header.validate = .ok () ∧
    RingFits info info.txRingOffset ∧ RingFits info info.rxRingOffset

/-- The offsets of the reply are those of the header, behind it and a ring apart. -/
def LaidOut (info : SharedMemoryInfo) (header : SharedMemoryHeader) : Prop :=
  info.txRingOffset = header.txRingOffset ∧ info.rxRingOffset = header.rxRingOffset ∧
    sharedMemoryHeaderSize ≤ info.txRingOffset.toNat ∧ sharedMemoryHeaderSize ≤ info.rxRingOffset.toNat ∧
    (info.txRingOffset.toNat + ringMappingSize ≤ info.rxRingOffset.toNat ∨
      info.rxRingOffset.toNat + ringMappingSize ≤ info.txRingOffset.toNat)

section
variable {info : SharedMemoryInfo} {view : MappedView} {m : SharedMemoryMapping}

theorem map_ok_iff : SharedMemoryMapping.map info (some view) = .ok m ↔
    (info.sectionHandle ≠ 0 ∧ sharedMemoryHeaderSize ≤ info.mappingSize.toNat ∧ view.header.validate = .ok ()) ∧
      m = ⟨info.sectionHandle, nonNullHandle info.txEventHandle, nonNullHandle info.rxEventHandle, view,
        info.mappingSize, info.txRingOffset, info.rxRingOffset⟩ := by
  unfold SharedMemoryMapping.map
  by_cases hinfo : info.sectionHandle = 0 ∨ info.mappingSize.toNat < sharedMemoryHeaderSize
  · rw [if_pos hinfo]
    refine iff_of_false (fun h => nomatch h) (fun h => ?_)
    exact hinfo.elim h.1.1 (Nat.not_lt.mpr h.1.2.1)
  · obtain ⟨hsection, hsize⟩ := not_or.mp hinfo
    rw [if_neg hinfo]
    dsimp only
    cases hvalid : view.header.validate with
    | error e => simp
    | ok _ => simp [hsection, Nat.not_lt.mp hsize, eq_comm]

theorem MappedRing.new_ok_iff {base size : Nat} {r : MappedRing} (hbase : base ≠ 0) :
    MappedRing.new base size = .ok r ↔ (ringMappingSize ≤ size ∧ base % 8 = 0) ∧ r = ⟨base, size⟩ := by
  unfold MappedRing.new
  rw [if_neg hbase]
  by_cases hsize : size < ringMappingSize
  · simp [hsize]
  · by_cases haligned : base % 8 = 0
    · simp [hsize, haligned, Nat.not_lt.mp hsize, eq_comm]
    · simp [hsize, haligned]

theorem ring_ok_iff {offset : UInt32} {name : String} {r : MappedRing} : m.ring offset name = .ok r ↔
    (offset.toNat + ringMappingSize ≤ m.mappingSize.toNat ∧ offset.toNat % 8 = 0) ∧
      r = ⟨m.view.address + offset.toNat, m.mappingSize.toNat - offset.toNat⟩ := by
  have hpositive : 0 < ringMappingSize := by decide
  have hbase : m.view.address + offset.toNat ≠ 0 := fun h => m.view.nonnull (Nat.add_eq_zero_iff.mp h).1
  have haligned : (m.view.address + offset.toNat) % 8 = 0 ↔ offset.toNat % 8 = 0 := by
    have := m.view.aligned
    omega
  unfold SharedMemoryMapping.ring
  by_cases hinside : m.mappingSize ≤ offset
  · have : m.mappingSize.toNat ≤ offset.toNat := UInt32.le_iff_toNat_le.mp hinside
    rw [if_pos hinside]
    exact iff_of_false (fun h => nomatch h) (fun h => by omega)
  · have hlt : offset.toNat < m.mappingSize.toNat := UInt32.lt_iff_toNat_lt.mp (UInt32.not_le.mp hinside)
    have hroom : ringMappingSize ≤ m.mappingSize.toNat - offset.toNat ↔
        offset.toNat + ringMappingSize ≤ m.mappingSize.toNat := by omega
    rw [if_neg hinside, ← hroom, ← haligned, ← MappedRing.new_ok_iff hbase]
    cases MappedRing.new (m.view.address + offset.toNat) (m.mappingSize.toNat - offset.toNat) <;> simp

theorem disjoint_ico_iff {a n b k : Nat} (hn : 0 < n) (hk : 0 < k) :
    Disjoint (Ico a (a + n)) (Ico b (b + k)) ↔ a + n ≤ b ∨ b + k ≤ a := by
  rw [Set.Ico_disjoint_Ico]
  omega

/-- What the checks let through lies inside the view; the rest of the layout is left to the reply. -/
theorem separate_iff {tx rx : MappedRing} (htx : RingFits info info.txRingOffset)
    (hrx : RingFits info info.rxRingOffset) (hheader : sharedMemoryHeaderSize ≤ info.mappingSize.toNat)
    (htxBase : tx.base = view.address + info.txRingOffset.toNat)
    (hrxBase : rx.base = view.address + info.rxRingOffset.toNat) :
    Separate info.mappingSize.toNat view tx rx ↔ LaidOut info view.header := by
  have hring : 0 < ringMappingSize := by decide
  have hfront : 0 < sharedMemoryHeaderSize := by decide
  obtain ⟨htxRoom, -⟩ := htx
  obtain ⟨hrxRoom, -⟩ := hrx
  constructor
  · intro h
    have htxHeader := (disjoint_ico_iff hfront hring).mp h.txHeader
    have hrxHeader := (disjoint_ico_iff hfront hring).mp h.rxHeader
    have hrings := (disjoint_ico_iff hring hring).mp h.rings
    refine ⟨UInt32.toNat_inj.mp (Nat.add_left_cancel (htxBase.symm.trans h.txDeclared)),
      UInt32.toNat_inj.mp (Nat.add_left_cancel (hrxBase.symm.trans h.rxDeclared)), ?_, ?_, ?_⟩
    · omega
    · omega
    · omega
  · rintro ⟨htxDeclared, hrxDeclared, htxBehind, hrxBehind, hapart⟩
    refine ⟨Set.Ico_subset_Ico ?_ ?_, Set.Ico_subset_Ico ?_ ?_, hheader,
      (disjoint_ico_iff hfront hring).mpr ?_, (disjoint_ico_iff hfront hring).mpr ?_,
      (disjoint_ico_iff hring hring).mpr ?_, by rw [htxBase, htxDeclared], by rw [hrxBase, hrxDeclared]⟩
    all_goals omega

end

/-- For every reply and every view: what passes the daemon's checks gives separate rings exactly when the offsets of
the reply are those of the header, behind it and a ring apart. -/
theorem separateRings_iff (info : SharedMemoryInfo) (view : MappedView) :
    SeparateRings info view ↔ (Admitted info view.header → LaidOut info view.header) := by
  constructor
  · rintro h ⟨hsection, hsize, hvalid, htx, hrx⟩
    exact (separate_iff htx hrx hsize rfl rfl).mp
      (h _ _ _ (map_ok_iff.mpr ⟨⟨hsection, hsize, hvalid⟩, rfl⟩) (ring_ok_iff.mpr ⟨htx, rfl⟩)
        (ring_ok_iff.mpr ⟨hrx, rfl⟩))
  · intro h m tx rx hmap htxRing hrxRing
    obtain ⟨⟨hsection, hsize, hvalid⟩, rfl⟩ := map_ok_iff.mp hmap
    obtain ⟨htx, rfl⟩ := ring_ok_iff.mp htxRing
    obtain ⟨hrx, rfl⟩ := ring_ok_iff.mp hrxRing
    exact (separate_iff htx hrx hsize rfl rfl).mpr (h ⟨hsection, hsize, hvalid, htx, hrx⟩)

/-- The driver's header, and a reply that puts both rings behind it. -/
def overlappingInfo : SharedMemoryInfo where
  header := .new sharedMemoryInfoSize
  sectionHandle := 4
  txEventHandle := 0
  rxEventHandle := 0
  mappingSize := SharedMemoryLayout.initialHeader.mappingSize
  txRingSize := SharedMemoryLayout.initialHeader.txRingSize
  rxRingSize := SharedMemoryLayout.initialHeader.rxRingSize
  txRingOffset := SharedMemoryLayout.initialHeader.txRingOffset
  rxRingOffset := SharedMemoryLayout.initialHeader.txRingOffset

def initialView : MappedView where
  address := 0x10000
  header := SharedMemoryLayout.initialHeader
  nonnull := by decide
  aligned := by decide

theorem overlappingInfo_not_separate : ¬ SeparateRings overlappingInfo initialView := by
  intro h
  have hadmitted : Admitted overlappingInfo initialView.header :=
    ⟨by decide, by decide, by rfl, ⟨by decide, by decide⟩, by decide, by decide⟩
  obtain ⟨hsection, hsize, hvalid, htx, hrx⟩ := hadmitted
  have hseparate := h _ _ _ (map_ok_iff.mpr ⟨⟨hsection, hsize, hvalid⟩, rfl⟩) (ring_ok_iff.mpr ⟨htx, rfl⟩)
    (ring_ok_iff.mpr ⟨hrx, rfl⟩)
  obtain ⟨-, -, -, -, hapart⟩ := (separate_iff htx hrx hsize rfl rfl).mp hseparate
  exact absurd hapart (by decide)

/-! ## The layout the driver hands out -/

theorem ensureSharedResources_info {d : Driver} {k : Kernel} (h : d.context.sharedMemoryReady = false)
    (hk : k.CreatesResources) :
    (d.ensureSharedResources k).2.context.sharedMemoryInfo =
      { header := .new sharedMemoryInfoSize
        sectionHandle := k.zwCreateSection.out
        txEventHandle := k.zwCreateTxEvent.out
        rxEventHandle := k.zwCreateRxEvent.out
        mappingSize := SharedMemoryLayout.initialHeader.mappingSize
        txRingSize := SharedMemoryLayout.initialHeader.txRingSize
        rxRingSize := SharedMemoryLayout.initialHeader.rxRingSize
        txRingOffset := SharedMemoryLayout.initialHeader.txRingOffset
        rxRingOffset := SharedMemoryLayout.initialHeader.rxRingOffset } := by
  obtain ⟨hsection, hview, htx, hrx⟩ := hk
  simp [Driver.ensureSharedResources, Driver.createSharedResources, Driver.handleToU64, Vhci.getSharedMemoryInfo,
    Vhci.useExternalSharedMemoryContext, Vhci.releaseOwnedSharedMemory, SharedMemoryLayout.initial, h, hsection,
    hview, htx, hrx]

/-- The daemon admits the driver's own layout, and it is one of separate rings. -/
theorem ensureSharedResources_laidOut {d : Driver} {k : Kernel} (h : d.context.sharedMemoryReady = false)
    (hk : k.CreatesResources) (hsection : k.zwCreateSection.out ≠ 0) :
    Admitted (d.ensureSharedResources k).2.context.sharedMemoryInfo SharedMemoryLayout.initialHeader ∧
      LaidOut (d.ensureSharedResources k).2.context.sharedMemoryInfo SharedMemoryLayout.initialHeader := by
  rw [ensureSharedResources_info h hk]
  have hlayout : sharedMemoryHeaderSize ≤ SharedMemoryLayout.txRingOffset ∧
      SharedMemoryLayout.txRingOffset + ringMappingSize ≤ SharedMemoryLayout.rxRingOffset ∧
      SharedMemoryLayout.rxRingOffset + ringMappingSize ≤ SharedMemoryLayout.size := by decide
  have htx : SharedMemoryLayout.initialHeader.txRingOffset.toNat = SharedMemoryLayout.txRingOffset := by decide
  have hrx : SharedMemoryLayout.initialHeader.rxRingOffset.toNat = SharedMemoryLayout.rxRingOffset := by decide
  have hsize : SharedMemoryLayout.initialHeader.mappingSize.toNat = SharedMemoryLayout.size := by decide
  have htxAligned : SharedMemoryLayout.txRingOffset % 8 = 0 := by decide
  have hrxAligned : SharedMemoryLayout.rxRingOffset % 8 = 0 := by decide
  simp only [Admitted, LaidOut, RingFits, htx, hrx, hsize]
  refine ⟨⟨hsection, ?_, rfl, ⟨?_, htxAligned⟩, ?_, hrxAligned⟩, trivial, trivial, ?_, ?_, Or.inl ?_⟩
  all_goals omega

end WhyUsb
