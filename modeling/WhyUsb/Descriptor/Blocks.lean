import Mathlib.Data.List.Forall2
import WhyUsb.Descriptor.Grammar

/-!
# The configuration blocks of a descriptor set

`configurationBlocks` cuts a descriptor set along the `wTotalLength` of its
blocks and `recordsOf` a block along the `bLength` of its records, neither with
the help of the decoder. `decode_blocks` says what the decoder makes of them.
-/

namespace WhyUsb

open Endian

def blocksOf : Nat → List UInt8 → List (List UInt8)
  | 0, _ => []
  | n + 1, rest =>
    let totalLength := (readU16Le rest 2).toNat
    rest.take totalLength :: blocksOf n (rest.drop totalLength)

/-- The configuration blocks as they stand behind the header and the device record. -/
def configurationBlocks (bytes : List UInt8) : List (List UInt8) := blocksOf (byteAt bytes 5).toNat (bytes.drop 26)

def recordsOf (block : List UInt8) : List (List UInt8) :=
  splitRecords block.length (block.drop UsbConfigurationDescriptor.len)

theorem blocksOf_flatten : ∀ {blocks : List (List UInt8)},
    (∀ block ∈ blocks, 9 ≤ block.length ∧ (readU16Le block 2).toNat = block.length) → ∀ rest : List UInt8,
      blocksOf blocks.length (blocks.flatten ++ rest) = blocks
  | [], _, _ => rfl
  | block :: blocks, h, rest => by
    obtain ⟨⟨hmin, htotal⟩, hblocks⟩ := List.forall_mem_cons.mp h
    have hlen : block.length = (readU16Le (block ++ (blocks.flatten ++ rest)) 2).toNat := by
      rw [readU16Le_append_left (by omega), htotal]
    rw [List.length_cons, List.flatten_cons, List.append_assoc, blocksOf, List.take_left' hlen,
      List.drop_left' hlen, blocksOf_flatten hblocks]

theorem configurationBlocks_image {c : UInt8} {s : UInt16} {device : List UInt8} {blocks sidecars : List (List UInt8)}
    (hdevice : device.length = 18) (hlen : blocks.length = c.toNat)
    (hblocks : ∀ block ∈ blocks, 9 ≤ block.length ∧ (readU16Le block 2).toNat = block.length) :
    configurationBlocks (UsbDescriptorSet.image c s device blocks sidecars) = blocks := by
  obtain ⟨lo, hi, hpair, -⟩ := u16Le_pair s
  have hheader : UsbDescriptorSet.image c s device blocks sidecars =
      [0x57, 0x44, 0x45, 0x53, 1, c, lo, hi] ++ (device ++ (blocks.flatten ++ sidecars.flatten)) := by
    rw [UsbDescriptorSet.image, hpair]
    rfl
  have hdrop : (device ++ (blocks.flatten ++ sidecars.flatten)).drop 18 = blocks.flatten ++ sidecars.flatten :=
    List.drop_left' hdevice
  rw [configurationBlocks, hheader, byteAt_append_left (by simp), List.drop_append]
  dsimp only [List.length_cons, List.length_nil]
  rw [hdrop]
  exact hlen ▸ blocksOf_flatten hblocks sidecars.flatten

section
variable {c : UsbConfiguration} {rs : List (List UInt8)} {block : List UInt8}

theorem recordsOf_append {header : List UInt8} (hheader : header.length = UsbConfigurationDescriptor.len)
    (hrs : ∀ r ∈ rs, IsRecord r) : recordsOf (header ++ rs.flatten) = rs := by
  rw [recordsOf, List.drop_left' hheader]
  exact splitRecords_flatten hrs (by rw [List.length_append]; omega)

theorem UsbConfiguration.BlockOf.recordsOf (h : c.BlockOf rs block) : WhyUsb.recordsOf block = rs := by
  obtain ⟨total, count, hblock, -, -⟩ := h.header
  rw [hblock, recordsOf_append (UsbConfigurationDescriptor.toUsbBytes_length _ _ _) h.records]

end

theorem IsBlock.cut {count : List (List UInt8) → Nat} {block : List UInt8} (h : IsBlock count block) :
    9 ≤ block.length ∧ (readU16Le block 2).toNat = block.length := ⟨h.header.1, h.total⟩

/-- A decoded configuration, up to its report descriptors, is read from the block with its index. -/
theorem decode_blocks {bytes : List UInt8} {d : UsbDescriptorSet} (h : UsbDescriptorSet.decode bytes = .ok d) :
    List.Forall₂ (fun c block => ∃ c' : UsbConfiguration, c'.strip = c.strip ∧ c'.BlockOf (recordsOf block) block)
      d.configurations (configurationBlocks bytes) := by
  obtain ⟨c, s, blocks, sidecars, cs, rfl, hlen, hblocks, hstrip, -, -⟩ := UsbDescriptorSet.decode_parts h
  have hall := forall_isBlock_iff.mpr ⟨cs, hblocks⟩
  rw [configurationBlocks_image (UsbDeviceDescriptor.toUsbBytes_length _ _) hlen fun block hb => (hall block hb).cut]
  have hread : List.Forall₂ (fun stripped block => ∃ c' : UsbConfiguration, c'.strip = stripped ∧
      c'.BlockOf (recordsOf block) block) (cs.map UsbConfiguration.strip) blocks := by
    rw [List.forall₂_map_left_iff]
    refine hblocks.imp ?_
    rintro c block ⟨rs, hblock⟩
    exact ⟨c, rfl, hblock.recordsOf.symm ▸ hblock⟩
  rw [← hstrip, List.forall₂_map_left_iff] at hread
  exact hread

end WhyUsb
