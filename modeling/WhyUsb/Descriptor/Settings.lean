import Mathlib.Data.List.Dedup
import WhyUsb.Descriptor.Blocks

/-!
# Alternate settings

USB counts interfaces in `bNumInterfaces`, this program interface records: one
for each alternate setting. The two counts differ as soon as an interface has
two settings, when encoding and when decoding.
-/

namespace WhyUsb

open Endian

def interfaceNumbers (rs : List (List UInt8)) : List UInt8 := (rs.filter isInterface).map (byteAt · 2)

/-- `bNumInterfaces` as USB counts: an interface counts once, whatever its alternate settings. -/
def distinctInterfaces (rs : List (List UInt8)) : Nat := (interfaceNumbers rs).dedup.length

theorem dedup_length_iff {numbers : List UInt8} : numbers.dedup.length = numbers.length ↔ numbers.Nodup := by
  rw [← List.dedup_eq_self]
  exact ⟨(List.dedup_sublist numbers).eq_of_length, congrArg List.length⟩

theorem distinctInterfaces_eq_iff {rs : List (List UInt8)} :
    distinctInterfaces rs = interfaceRecords rs ↔ (interfaceNumbers rs).Nodup := by
  rw [← dedup_length_iff, distinctInterfaces, interfaceRecords, List.countP_eq_length_filter, interfaceNumbers,
    List.length_map]

/-! ## Blocks by either count -/

section
variable {count count' : List (List UInt8) → Nat}

theorem IsBlock.count_recordsOf {block : List UInt8} (h : IsBlock count block) :
    BodyGrammar (recordsOf block) ∧ block.drop 9 = (recordsOf block).flatten ∧
      count (recordsOf block) = (byteAt block 4).toNat := by
  obtain ⟨rs, hrs, hbody, hcount⟩ := h.body
  have hlen : (block.drop 9).length ≤ block.length := by
    rw [List.length_drop]
    omega
  have heq : recordsOf block = rs := by
    rw [recordsOf, UsbConfigurationDescriptor.len, hrs]
    exact splitRecords_flatten hbody.records (hrs ▸ hlen)
  rw [heq]
  exact ⟨hbody, hrs, hcount⟩

theorem IsBlock.recount {block : List UInt8} (h : IsBlock count block)
    (hcount : count' (recordsOf block) = count (recordsOf block)) : IsBlock count' block := by
  obtain ⟨hbody, hdrop, hannounced⟩ := h.count_recordsOf
  exact ⟨h.header, h.total, recordsOf block, hdrop, hbody, hcount.trans hannounced⟩

namespace UsbDescriptorSet

theorem GrammarBy.blocks {bytes : List UInt8} (h : GrammarBy count bytes) :
    ∀ block ∈ configurationBlocks bytes, IsBlock count block := by
  obtain ⟨c, s, device, blocks, sidecars, rfl, ⟨hdevice, -⟩, ⟨hlen, hblocks⟩, -⟩ := h
  rw [configurationBlocks_image hdevice hlen fun block hb => (hblocks block hb).cut]
  exact hblocks

theorem GrammarBy.recount {bytes : List UInt8} (h : GrammarBy count bytes)
    (hcount : ∀ block ∈ configurationBlocks bytes, count' (recordsOf block) = count (recordsOf block)) :
    GrammarBy count' bytes := by
  obtain ⟨c, s, device, blocks, sidecars, rfl, hdevice, ⟨hlen, hblocks⟩, hsidecars⟩ := h
  rw [configurationBlocks_image hdevice.1 hlen fun block hb => (hblocks block hb).cut] at hcount
  exact ⟨c, s, device, blocks, sidecars, rfl, hdevice,
    ⟨hlen, fun block hb => (hblocks block hb).recount (hcount block hb)⟩, hsidecars⟩

end UsbDescriptorSet

end

namespace UsbDescriptorSet

/-- Each interface record of a block, alternate setting or not, is an interface of the configuration. -/
def Settings (bytes : List UInt8) (d : UsbDescriptorSet) : Prop :=
  List.Forall₂ (fun c block => c.interfaces.map (·.descriptor.key) =
    ((recordsOf block).filter isInterface).map recordKey) d.configurations (configurationBlocks bytes)

theorem decode_settings {bytes : List UInt8} {d : UsbDescriptorSet} (h : decode bytes = .ok d) : Settings bytes d := by
  refine (decode_blocks h).imp ?_
  rintro c block ⟨c', hstrip, hblock⟩
  have hkeys := read_keys hblock.records hblock.read
  have hsame : keysOf [c'.strip] = keysOf [c.strip] := by rw [hstrip]
  have hc := (keysOf_strip [c']).symm.trans (hsame.trans (keysOf_strip [c]))
  rw [keysOf, keysOf, List.map_singleton, List.map_singleton, List.singleton_inj] at hc
  rw [← hc]
  exact hkeys

theorem decode_distinct_iff {bytes : List UInt8} (h : GrammarBy distinctInterfaces bytes) :
    (∃ d, decode bytes = .ok d ∧ Settings bytes d) ↔
      ∀ block ∈ configurationBlocks bytes, (interfaceNumbers (recordsOf block)).Nodup := by
  constructor
  · rintro ⟨d, hd, -⟩ block hblock
    have hgrammar : GrammarBy interfaceRecords bytes := accepts_iff.mp ⟨d, hd⟩
    obtain ⟨-, -, hdistinct⟩ := (h.blocks block hblock).count_recordsOf
    obtain ⟨-, -, hrecords⟩ := (hgrammar.blocks block hblock).count_recordsOf
    exact distinctInterfaces_eq_iff.mp (hdistinct.trans hrecords.symm)
  · intro hnodup
    obtain ⟨d, hd⟩ := accepts_iff.mpr (h.recount fun block hb => (distinctInterfaces_eq_iff.mpr (hnodup block hb)).symm)
    exact ⟨d, hd, decode_settings hd⟩

theorem encoded_count {c : UsbConfiguration} {block : List UInt8} (h : c.toUsbBytes = .ok block) :
    (byteAt block 4).toNat = c.interfaces.length := by
  obtain ⟨hencodable, rfl⟩ := (c.toUsbBytes_ok block).mp h
  have hlen := UsbConfigurationDescriptor.toUsbBytes_length c.descriptor (UInt16.ofNat c.totalLength)
    (UInt8.ofNat c.interfaces.length)
  rw [UsbConfigurationDescriptor.len] at hlen
  rw [UsbConfiguration.block, byteAt_append_left (by omega), (configurationRecord_fields _ _ _).2.2.2,
    UInt8.toNat_ofNat', Nat.mod_eq_of_lt hencodable.count]

/-- Interfaces are counted as USB counts them exactly when no interface has two alternate settings. -/
theorem settings_counted_iff {d : UsbDescriptorSet} {i : UInt8} {c : UsbConfiguration} {block bytes : List UInt8}
    (hc : d.configurations[i.toNat]? = some c) (hblock : d.configurationDescriptorBytes i = .ok block)
    (h : GrammarBy distinctInterfaces bytes) :
    ((byteAt block 4).toNat = (c.interfaces.map (·.descriptor.interfaceNumber)).dedup.length ↔
      (c.interfaces.map (·.descriptor.interfaceNumber)).Nodup) ∧
    ((∃ d, decode bytes = .ok d ∧ Settings bytes d) ↔
      ∀ block ∈ configurationBlocks bytes, (interfaceNumbers (recordsOf block)).Nodup) := by
  refine ⟨?_, decode_distinct_iff h⟩
  rw [configurationDescriptorBytes, hc] at hblock
  rw [encoded_count hblock, ← dedup_length_iff, List.length_map, eq_comm]

theorem settings_counted_iff_mockHidKeyboard :
    let keyboard := mockHidKeyboard 0x1209 1
    ∃ c block, keyboard.configurations[0]? = some c ∧ keyboard.configurationDescriptorBytes 0 = .ok block ∧
      ((byteAt block 4).toNat = (c.interfaces.map (·.descriptor.interfaceNumber)).dedup.length ↔
        (c.interfaces.map (·.descriptor.interfaceNumber)).Nodup) ∧
      ((∃ d, decode keyboard.bytes = .ok d ∧ Settings keyboard.bytes d) ↔
        ∀ block ∈ configurationBlocks keyboard.bytes, (interfaceNumbers (recordsOf block)).Nodup) := by
  obtain ⟨hencodable, hrepresentable⟩ := mockHidKeyboard_wellFormed 0x1209 1
  have hgrammar : GrammarBy interfaceRecords (mockHidKeyboard 0x1209 1).bytes :=
    accepts_iff.mp ⟨_, decode_bytes hencodable hrepresentable⟩
  have hdistinct : ∀ block ∈ configurationBlocks (mockHidKeyboard 0x1209 1).bytes,
      distinctInterfaces (recordsOf block) = interfaceRecords (recordsOf block) := by decide +kernel
  obtain ⟨c, hc⟩ : ∃ c, (mockHidKeyboard 0x1209 1).configurations[(0 : UInt8).toNat]? = some c := ⟨_, rfl⟩
  have hblock : (mockHidKeyboard 0x1209 1).configurationDescriptorBytes 0 = .ok c.block := by
    rw [configurationDescriptorBytes, hc]
    exact (c.toUsbBytes_ok _).mpr ⟨hencodable.configurations c (List.mem_of_getElem? hc), rfl⟩
  exact ⟨c, c.block, hc, hblock, settings_counted_iff hc hblock (hgrammar.recount hdistinct)⟩

/-- A webcam's streaming interface with two alternate settings. -/
def webcam : UsbDescriptorSet where
  device := ⟨0x0200, 0, 0, 0, 64, 0x1209, 1, 0x0100, 1, 2, 3⟩
  configurations := [⟨⟨1, 0, 0x80, 50⟩, [], [⟨⟨0, 0, 14, 2, 0, 0⟩, [], none, []⟩,
    ⟨⟨0, 1, 14, 2, 0, 0⟩, [], none, [⟨0x81, 5, 512, 1⟩]⟩]⟩]

/-- The same as USB has it: one interface. -/
def webcamSet : List UInt8 :=
  descriptorSetMagic ++ [1, 1, 0, 0] ++
    [18, 1, 0, 2, 0, 0, 0, 64, 9, 0x12, 1, 0, 0, 1, 1, 2, 3, 1] ++
    [9, 2, 34, 0, 1, 1, 0, 0x80, 50] ++ [9, 4, 0, 0, 0, 14, 2, 0, 0] ++
    [9, 4, 0, 1, 1, 14, 2, 0, 0] ++ [7, 5, 0x81, 5, 0, 2, 1]

theorem webcam_not_counted :
    (¬ ∀ (d : UsbDescriptorSet) (i : UInt8) (c : UsbConfiguration) (block : List UInt8),
      d.configurations[i.toNat]? = some c → d.configurationDescriptorBytes i = .ok block →
        (byteAt block 4).toNat = (c.interfaces.map (·.descriptor.interfaceNumber)).dedup.length) ∧
    (∀ block ∈ configurationBlocks webcamSet, (byteAt block 4).toNat = distinctInterfaces (recordsOf block)) ∧
      decode webcamSet = .error (.invalidDescriptorSet "interface count mismatch") := by
  refine ⟨fun h => ?_, by decide +kernel, by decide +kernel⟩
  have hcount := h webcam 0 _ ([9, 2, 34, 0, 2, 1, 0, 0x80, 50] ++ [9, 4, 0, 0, 0, 14, 2, 0, 0] ++
    [9, 4, 0, 1, 1, 14, 2, 0, 0] ++ [7, 5, 0x81, 5, 0, 2, 1]) rfl (by decide +kernel)
  revert hcount
  decide +kernel

end UsbDescriptorSet

end WhyUsb
