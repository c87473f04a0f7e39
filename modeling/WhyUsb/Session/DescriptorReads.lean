import WhyUsb.Descriptor.Blocks
import WhyUsb.Session.ControlRuns

/-!
# Reading descriptors over control requests

A client has the descriptors of a device twice: in the attach response and by
GET_DESCRIPTOR. Here the second is read off the first.
-/

namespace WhyUsb

open Endian

/-- A GET_DESCRIPTOR for at most `length` bytes, whatever else is in the frame. -/
def Frame.Asks (frame : Frame) (type : UsbDescriptorType) (index : UInt8) (length : UInt16) : Prop :=
  ∃ control, UsbControlTransfer.decode frame.payload = .ok control ∧
    control.setup.standardRequest = .ok .getDescriptor ∧ control.setup.descriptorType = .ok type ∧
      control.setup.descriptorIndex = index ∧ control.setup.length = length

structure Frame.Answers (response : Frame) (status : TransferStatus) (data : List UInt8) : Prop where
  status : response.status = status.asI32
  data : response.responseData = data

/-! ## Encoded sets and their parts -/

theorem UsbConfiguration.Encodable.cut {c : UsbConfiguration} (h : c.Encodable) :
    9 ≤ c.block.length ∧ (readU16Le c.block 2).toNat = c.block.length := by
  have hheader := UsbConfigurationDescriptor.toUsbBytes_length c.descriptor (UInt16.ofNat c.totalLength)
    (UInt8.ofNat c.interfaces.length)
  rw [UsbConfigurationDescriptor.len] at hheader
  rw [c.block_length]
  refine ⟨by rw [UsbConfiguration.totalLength, UsbConfigurationDescriptor.len]; omega, ?_⟩
  rw [UsbConfiguration.block, readU16Le_append_left (by omega), (configurationRecord_fields _ _ _).2.2.1,
    UInt16.toNat_ofNat', Nat.mod_eq_of_lt h.total]

namespace UsbDescriptorSet

theorem bytes_image (d : UsbDescriptorSet) : d.bytes =
    image (UInt8.ofNat d.configurations.length) (UInt16.ofNat (sidecarsOf 0 d.configurations).length)
      (d.device.toUsbBytes (UInt8.ofNat d.configurations.length)) (d.configurations.map UsbConfiguration.block)
      (sidecarsOf 0 d.configurations) := by
  rw [bytes, image, List.flatMap_def]

section
variable {d : UsbDescriptorSet} {b : List UInt8} (h : d.encode = .ok b)
include h

theorem encode_blocks : configurationBlocks b = d.configurations.map UsbConfiguration.block := by
  obtain ⟨hencodable, rfl⟩ := (encode_ok d b).mp h
  rw [bytes_image]
  refine configurationBlocks_image (UsbDeviceDescriptor.toUsbBytes_length _ _) ?_ ?_
  · rw [List.length_map, UInt8.toNat_ofNat', Nat.mod_eq_of_lt hencodable.count]
  · intro block hblock
    obtain ⟨c, hc, rfl⟩ := List.mem_map.mp hblock
    exact (hencodable.configurations c hc).cut

theorem encode_device : d.deviceDescriptorBytes = .ok (slice b 8 26) := by
  obtain ⟨hencodable, rfl⟩ := (encode_ok d b).mp h
  obtain ⟨lo, hi, hpair, -⟩ := u16Le_pair (UInt16.ofNat (sidecarsOf 0 d.configurations).length)
  have hdevice := UsbDeviceDescriptor.toUsbBytes_length d.device (UInt8.ofNat d.configurations.length)
  have hslice : slice d.bytes 8 26 = d.device.toUsbBytes (UInt8.ofNat d.configurations.length) := by
    rw [bytes, hpair]
    exact List.take_left' hdevice
  rw [hslice, deviceDescriptorBytes, bind_eq_ok]
  exact ⟨_, orTooMany_ok.mpr (u8TryFrom_iff.mpr ⟨hencodable.count, rfl⟩), rfl⟩

theorem encode_configuration (i : UInt8) : (d.configurationDescriptorBytes i).toOption =
    (configurationBlocks b)[i.toNat]? := by
  obtain ⟨hencodable, -⟩ := (encode_ok d b).mp h
  rw [encode_blocks h, List.getElem?_map, configurationDescriptorBytes]
  cases hc : d.configurations[i.toNat]? with
  | none => rfl
  | some c =>
    have hbytes : c.toUsbBytes = .ok c.block :=
      (c.toUsbBytes_ok _).mpr ⟨hencodable.configurations c (List.mem_of_getElem? hc), rfl⟩
    dsimp only
    rw [hbytes]
    rfl

/-! ## Answers -/

variable (keycodes : List UInt8) (st : ControlState) {frame : Frame} {i : UInt8} {length : UInt16}

theorem answers_device (hask : frame.Asks .device i length) :
    (handleControlRequest frame (some d) keycodes st).1.response.Answers .ok ((slice b 8 26).take length.toNat) := by
  obtain ⟨control, hcontrol, hreq, htype, -, rfl⟩ := hask
  have hbytes : d.requested control.setup .device = some (.ok (slice b 8 26)) := congrArg some (encode_device h)
  rw [handleControlRequest_getDescriptor hcontrol hreq htype hbytes]
  exact ⟨rfl, Frame.responseData_controlResponse hcontrol _ _⟩

theorem answers_configuration (hask : frame.Asks .configuration i length) {block : List UInt8}
    (hblock : (configurationBlocks b)[i.toNat]? = some block) :
    (handleControlRequest frame (some d) keycodes st).1.response.Answers .ok (block.take length.toNat) := by
  obtain ⟨control, hcontrol, hreq, htype, rfl, rfl⟩ := hask
  have hbytes : d.requested control.setup .configuration = some (.ok block) := by
    rw [← encode_configuration h] at hblock
    rw [requested]
    cases hd : d.configurationDescriptorBytes control.setup.descriptorIndex with
    | error e =>
      rw [hd] at hblock
      cases hblock
    | ok bytes =>
      rw [hd] at hblock
      cases hblock
      rfl
  rw [handleControlRequest_getDescriptor hcontrol hreq htype hbytes]
  exact ⟨rfl, Frame.responseData_controlResponse hcontrol _ _⟩

theorem answers_out_of_range (hask : frame.Asks .configuration i length)
    (hblock : (configurationBlocks b)[i.toNat]? = none) :
    (handleControlRequest frame (some d) keycodes st).1.response.Answers .stall [] := by
  obtain ⟨control, hcontrol, hreq, htype, rfl, -⟩ := hask
  obtain ⟨e, hbytes⟩ : ∃ e, d.requested control.setup .configuration = some (.error e) := by
    rw [← encode_configuration h] at hblock
    rw [requested]
    cases hd : d.configurationDescriptorBytes control.setup.descriptorIndex with
    | error e => exact ⟨e, rfl⟩
    | ok bytes =>
      rw [hd] at hblock
      cases hblock
  rw [handleControlRequest_missing hcontrol hreq htype hbytes]
  exact ⟨rfl, Frame.responseData_controlResponse_nil frame _⟩

theorem blocks_cut : ∀ block ∈ configurationBlocks b, 9 ≤ block.length ∧ (readU16Le block 2).toNat = block.length := by
  obtain ⟨hencodable, -⟩ := (encode_ok d b).mp h
  rw [encode_blocks h]
  intro block hblock
  obtain ⟨c, hc, rfl⟩ := List.mem_map.mp hblock
  exact (hencodable.configurations c hc).cut

/-- Nine bytes first, and then as many as they announce. -/
theorem answers_in_two_steps {first second : Frame} (st' : ControlState) {block : List UInt8}
    (hblock : (configurationBlocks b)[i.toNat]? = some block) (hfirst : first.Asks .configuration i 9)
    (hsecond : second.Asks .configuration i
      (readU16Le (handleControlRequest first (some d) keycodes st).1.response.responseData 2)) :
    (handleControlRequest second (some d) keycodes st').1.response.Answers .ok block := by
  obtain ⟨hmin, htotal⟩ := blocks_cut h block (List.mem_of_getElem? hblock)
  have hnine : (block.take 9).length = 9 := by
    rw [List.length_take]
    omega
  have hannounced : readU16Le (block.take 9) 2 = readU16Le block 2 := by
    rw [← readU16Le_append_left (by omega) (block.drop 9), List.take_append_drop]
  rw [(answers_configuration h keycodes st hfirst hblock).data] at hsecond
  have hanswer := answers_configuration h keycodes st' hsecond hblock
  have hall : block.take (readU16Le (block.take 9) 2).toNat = block := by
    rw [hannounced, htotal, List.take_length]
  exact hall ▸ hanswer

end

/-- GET_DESCRIPTOR answers with the device record and the configuration blocks of the attach payload. -/
theorem getDescriptor_agrees {d : UsbDescriptorSet} {b : List UInt8} (h : d.encode = .ok b) (keycodes : List UInt8) :
    ((slice b 8 26).length = 18 ∧ ∀ (frame : Frame) (st : ControlState) (i : UInt8) (length : UInt16),
      frame.Asks .device i length →
        (handleControlRequest frame (some d) keycodes st).1.response.Answers .ok ((slice b 8 26).take length.toNat)) ∧
    ((configurationBlocks b).length = d.configurations.length ∧
      ∀ (frame : Frame) (st : ControlState) (i : UInt8) (length : UInt16), frame.Asks .configuration i length →
        (∀ block, (configurationBlocks b)[i.toNat]? = some block → (readU16Le block 2).toNat = block.length ∧
          (handleControlRequest frame (some d) keycodes st).1.response.Answers .ok (block.take length.toNat)) ∧
        (d.configurations.length ≤ i.toNat →
          (handleControlRequest frame (some d) keycodes st).1.response.Answers .stall [])) ∧
    ∀ (first second : Frame) (st st' : ControlState) (i : UInt8) (block : List UInt8),
      (configurationBlocks b)[i.toNat]? = some block → first.Asks .configuration i 9 →
        second.Asks .configuration i
          (readU16Le (handleControlRequest first (some d) keycodes st).1.response.responseData 2) →
          (handleControlRequest second (some d) keycodes st').1.response.Answers .ok block := by
  have hlen : (configurationBlocks b).length = d.configurations.length := by rw [encode_blocks h, List.length_map]
  refine ⟨⟨?_, fun frame st i length => answers_device h keycodes st⟩, ⟨hlen, ?_⟩, ?_⟩
  · obtain ⟨count, -, hdevice⟩ := bind_eq_ok.mp (encode_device h)
    rw [← Except.ok.inj hdevice]
    exact UsbDeviceDescriptor.toUsbBytes_length _ _
  · intro frame st i length hask
    refine ⟨fun block hblock => ?_, fun hout => ?_⟩
    · exact ⟨(blocks_cut h block (List.mem_of_getElem? hblock)).2, answers_configuration h keycodes st hask hblock⟩
    · exact answers_out_of_range h keycodes st hask (List.getElem?_eq_none (hlen ▸ hout))
  · intro first second st st' i block hblock hfirst hsecond
    exact answers_in_two_steps h keycodes st st' hblock hfirst hsecond

/-- The two reads of the keyboard's configuration. -/
theorem getDescriptor_agrees_mockHidKeyboard : ∃ block, (configurationBlocks (mockHidKeyboard 0x1209 1).bytes)[0]? =
    some block ∧ block.length = 34 ∧
      (handleControlRequest (Frame.controlRequest 3 (.getDescriptor .configuration 0 34))
        (some (mockHidKeyboard 0x1209 1)) [4] .new).1.response.Answers .ok block := by
  have hencode : (mockHidKeyboard 0x1209 1).encode = .ok (mockHidKeyboard 0x1209 1).bytes :=
    (encode_ok _ _).mpr ⟨(mockHidKeyboard_wellFormed 0x1209 1).1, rfl⟩
  obtain ⟨block, hblock⟩ : ∃ block, (configurationBlocks (mockHidKeyboard 0x1209 1).bytes)[(0 : UInt8).toNat]? =
    some block := ⟨_, rfl⟩
  have hfirst : (Frame.controlRequest 2 (.getDescriptor .configuration 0 9)).Asks .configuration 0 9 :=
    ⟨_, UsbControlTransfer.decode_encode _, rfl, rfl, rfl, rfl⟩
  have hsecond : (Frame.controlRequest 3 (.getDescriptor .configuration 0 34)).Asks .configuration 0
      (readU16Le (handleControlRequest (Frame.controlRequest 2 (.getDescriptor .configuration 0 9))
        (some (mockHidKeyboard 0x1209 1)) [4] .new).1.response.responseData 2) :=
    ⟨_, UsbControlTransfer.decode_encode _, rfl, rfl, rfl, by decide +kernel⟩
  have hlen : ((configurationBlocks (mockHidKeyboard 0x1209 1).bytes)[(0 : UInt8).toNat]?.map List.length) =
      some 34 := by decide +kernel
  rw [hblock] at hlen
  exact ⟨block, hblock, Option.some.inj hlen,
    (getDescriptor_agrees hencode [4]).2.2 _ _ .new .new 0 block hblock hfirst hsecond⟩

end UsbDescriptorSet

end WhyUsb
