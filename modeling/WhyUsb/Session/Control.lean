import WhyUsb.Descriptor.RoundTrip
import WhyUsb.Protocol.Frame

/-!
# Control requests

`handle_control_request` answers the standard requests of endpoint 0 from a
descriptor set, for the network session and for the USB/IP session. `Accepts`
is the condition on the request and the descriptor set under which a request
does what it names, and `Handled` all that can come of one. Every answer is a
`control_response` of the request; only a GET_DESCRIPTOR carries data, and never
more than the setup packet's length.
-/

namespace WhyUsb

structure ControlState where
  assignedAddress : UInt8
  activeConfiguration : UInt8
  deriving DecidableEq, Repr

def ControlState.new : ControlState where
  assignedAddress := 0
  activeConfiguration := 0

structure ControlResponse where
  response : Frame
  events : List Frame
  deriving DecidableEq, Repr

def ControlResponse.ofResponse (response : Frame) : ControlResponse where
  response := response
  events := []

def mockHidKeyboardEvents (keycodes : List UInt8) : List Frame :=
  keycodes.flatMap fun keycode =>
    [.hidKeyboardInputEvent 0 (.keyPress keycode), .hidKeyboardInputEvent 0 .empty]

/-- The bytes GET_DESCRIPTOR asks for; `none` where the type is not served. -/
def UsbDescriptorSet.requested (descriptors : UsbDescriptorSet) (setup : UsbControlSetup) :
    UsbDescriptorType → Option (DecodeM (List UInt8))
  | .device => some descriptors.deviceDescriptorBytes
  | .configuration => some (descriptors.configurationDescriptorBytes setup.descriptorIndex)
  | .report => some (descriptors.reportDescriptorBytes 0 setup.index.toUInt8 setup.descriptorIndex)
  | _ => none

/-- Some configuration has this value; there is none without descriptors. -/
def supportsConfiguration (descriptors : Option UsbDescriptorSet) (configuration : UInt8) : Bool :=
  configuration == 0 || (descriptors.map fun d =>
    d.configurations.any fun candidate => candidate.descriptor.configurationValue == configuration).getD false

def handleControlRequest (frame : Frame) (descriptors : Option UsbDescriptorSet) (mockHidKeycodes : List UInt8)
    (st : ControlState) : ControlResponse × ControlState :=
  match UsbControlTransfer.decode frame.payload with
  | .error _ => (.ofResponse (frame.controlResponse TransferStatus.failed.asI32 []), st)
  | .ok control =>
    match control.setup.standardRequest with
    | .ok .getDescriptor =>
      match control.setup.descriptorType with
      | .error _ => (.ofResponse (frame.controlResponse TransferStatus.stall.asI32 []), st)
      | .ok descriptorType =>
        match descriptors with
        | none => (.ofResponse (frame.controlResponse TransferStatus.failed.asI32 []), st)
        | some descriptors =>
          match descriptors.requested control.setup descriptorType with
          | none => (.ofResponse (frame.controlResponse TransferStatus.stall.asI32 []), st)
          | some (.ok bytes) =>
            (.ofResponse (frame.controlResponse TransferStatus.ok.asI32 (bytes.take control.setup.length.toNat)), st)
          | some (.error _) => (.ofResponse (frame.controlResponse TransferStatus.stall.asI32 []), st)
    | .ok .setAddress =>
      if control.setup.value > 127 ∨ control.setup.length ≠ 0 then
        (.ofResponse (frame.controlResponse TransferStatus.stall.asI32 []), st)
      else
        (.ofResponse (frame.controlResponse TransferStatus.ok.asI32 []),
          { st with assignedAddress := control.setup.value.toUInt8 })
    | .ok .setConfiguration =>
      let configuration := control.setup.value.toUInt8
      if control.setup.value > 255 ∨ control.setup.length ≠ 0 ∨
          supportsConfiguration descriptors configuration = false then
        (.ofResponse (frame.controlResponse TransferStatus.stall.asI32 []), st)
      else
        ({ response := frame.controlResponse TransferStatus.ok.asI32 []
           events := if configuration ≠ 0 then mockHidKeyboardEvents mockHidKeycodes else [] },
          { st with activeConfiguration := configuration })
    | .error _ => (.ofResponse (frame.controlResponse TransferStatus.stall.asI32 []), st)

/-! ## Accepted and refused requests -/

/-- The set has the descriptor a GET_DESCRIPTOR names, and can encode it. -/
def UsbDescriptorSet.Serves (d : UsbDescriptorSet) (setup : UsbControlSetup) : UsbDescriptorType → Prop
  | .device => d.configurations.length < 2 ^ 8
  | .configuration => ∃ c, d.configurations[setup.descriptorIndex.toNat]? = some c ∧ c.Encodable
  | .report =>
    setup.descriptorIndex = 0 ∧ ∃ c i report, d.configurations[0]? = some c ∧
      (c.interfaces.find? fun i => i.descriptor.interfaceNumber == setup.index.toUInt8) = some i ∧
      i.reportDescriptor = some report
  | _ => False

def UsbControlSetup.Accepts (setup : UsbControlSetup) (descriptors : Option UsbDescriptorSet) : Prop :=
  match setup.standardRequest with
  | .ok .getDescriptor => ∃ d type, descriptors = some d ∧ setup.descriptorType = .ok type ∧ d.Serves setup type
  | .ok .setAddress => setup.value ≤ 127 ∧ setup.length = 0
  | .ok .setConfiguration =>
    setup.value ≤ 255 ∧ setup.length = 0 ∧ supportsConfiguration descriptors setup.value.toUInt8 = true
  | .error _ => False

theorem UsbDescriptorSet.requested_ok (d : UsbDescriptorSet) (setup : UsbControlSetup) (type : UsbDescriptorType) :
    (∃ bytes, d.requested setup type = some (.ok bytes)) ↔ d.Serves setup type := by
  cases type with
  | device =>
    simp only [requested, Option.some.injEq, Serves, deviceDescriptorBytes, bind_eq_ok, orTooMany_ok, u8TryFrom_iff]
    constructor
    · intro h
      obtain ⟨_, _, hcount, _⟩ := h
      exact hcount.1
    · intro h
      exact ⟨_, _, ⟨h, rfl⟩, rfl⟩
  | configuration =>
    simp only [requested, Option.some.injEq, Serves, configurationDescriptorBytes]
    cases d.configurations[setup.descriptorIndex.toNat]? with
    | none => simp
    | some c => simp [UsbConfiguration.toUsbBytes_ok]
  | report =>
    simp only [requested, Option.some.injEq, Serves, reportDescriptorBytes]
    by_cases hindex : setup.descriptorIndex = 0
    · rw [if_neg (not_not_intro hindex)]
      have hzero : (0 : UInt8).toNat = 0 := rfl
      rw [hzero]
      cases d.configurations[0]? with
      | none => simp
      | some c =>
        cases hfind : c.interfaces.find? fun i => i.descriptor.interfaceNumber == setup.index.toUInt8 with
        | none => simp [hfind]
        | some i => cases hreport : i.reportDescriptor <;> simp [hindex, hfind, hreport]
    · rw [if_pos hindex]
      simp [hindex]
  | string => simp [requested, Serves]
  | interface => simp [requested, Serves]
  | endpoint => simp [requested, Serves]

section
variable {frame : Frame} {descriptors : Option UsbDescriptorSet} {keycodes : List UInt8} {st : ControlState}
  {control : UsbControlTransfer}

theorem handleControlRequest_malformed {e : ProtocolError} (h : UsbControlTransfer.decode frame.payload = .error e) :
    handleControlRequest frame descriptors keycodes st =
      (.ofResponse (frame.controlResponse TransferStatus.failed.asI32 []), st) := by
  rw [handleControlRequest, h]

theorem handleControlRequest_getDescriptor {d : UsbDescriptorSet} {type : UsbDescriptorType} {bytes : List UInt8}
    (h : UsbControlTransfer.decode frame.payload = .ok control)
    (hreq : control.setup.standardRequest = .ok .getDescriptor) (htype : control.setup.descriptorType = .ok type)
    (hbytes : d.requested control.setup type = some (.ok bytes)) :
    handleControlRequest frame (some d) keycodes st =
      (.ofResponse (frame.controlResponse TransferStatus.ok.asI32 (bytes.take control.setup.length.toNat)), st) := by
  rw [handleControlRequest, h]
  simp only [hreq, htype, hbytes]

/-- The descriptor is asked for, and is not there or cannot be encoded. -/
theorem handleControlRequest_missing {d : UsbDescriptorSet} {type : UsbDescriptorType} {e : ProtocolError}
    (h : UsbControlTransfer.decode frame.payload = .ok control)
    (hreq : control.setup.standardRequest = .ok .getDescriptor) (htype : control.setup.descriptorType = .ok type)
    (hbytes : d.requested control.setup type = some (.error e)) :
    handleControlRequest frame (some d) keycodes st =
      (.ofResponse (frame.controlResponse TransferStatus.stall.asI32 []), st) := by
  rw [handleControlRequest, h]
  simp only [hreq, htype, hbytes]

theorem handleControlRequest_setAddress (h : UsbControlTransfer.decode frame.payload = .ok control)
    (hreq : control.setup.standardRequest = .ok .setAddress) (hvalue : control.setup.value ≤ 127)
    (hlength : control.setup.length = 0) :
    handleControlRequest frame descriptors keycodes st =
      (.ofResponse (frame.controlResponse TransferStatus.ok.asI32 []),
        { st with assignedAddress := control.setup.value.toUInt8 }) := by
  rw [handleControlRequest, h]
  simp only [hreq]
  rw [if_neg]
  rintro (hgt | hne)
  · exact absurd hgt (UInt16.not_lt.mpr hvalue)
  · exact hne hlength

theorem handleControlRequest_setConfiguration (h : UsbControlTransfer.decode frame.payload = .ok control)
    (hreq : control.setup.standardRequest = .ok .setConfiguration) (hvalue : control.setup.value ≤ 255)
    (hlength : control.setup.length = 0)
    (hsupported : supportsConfiguration descriptors control.setup.value.toUInt8 = true) :
    handleControlRequest frame descriptors keycodes st =
      ({ response := frame.controlResponse TransferStatus.ok.asI32 []
         events := if control.setup.value.toUInt8 ≠ 0 then mockHidKeyboardEvents keycodes else [] },
        { st with activeConfiguration := control.setup.value.toUInt8 }) := by
  rw [handleControlRequest, h]
  simp only [hreq]
  rw [if_neg]
  rintro (hgt | hne | hno)
  · exact absurd hgt (UInt16.not_lt.mpr hvalue)
  · exact hne hlength
  · rw [hsupported] at hno
    cases hno

/-- A request that is not accepted is answered with a failure and nothing else. -/
theorem handleControlRequest_refused (h : UsbControlTransfer.decode frame.payload = .ok control)
    (hrefused : ¬ control.setup.Accepts descriptors) :
    ∃ status : TransferStatus, status ≠ .ok ∧ handleControlRequest frame descriptors keycodes st =
      (.ofResponse (frame.controlResponse status.asI32 []), st) := by
  have hstall : TransferStatus.stall ≠ .ok := by decide
  have hfailed : TransferStatus.failed ≠ .ok := by decide
  unfold handleControlRequest
  unfold UsbControlSetup.Accepts at hrefused
  rw [h]
  dsimp only
  rcases hreq : control.setup.standardRequest with e | _ | _ | _
  · exact ⟨.stall, hstall, rfl⟩
  · rw [hreq] at hrefused
    dsimp only at hrefused ⊢
    rw [if_pos]
    · exact ⟨.stall, hstall, rfl⟩
    · by_cases hvalue : control.setup.value > 127
      · exact Or.inl hvalue
      · exact Or.inr fun hlength => hrefused ⟨UInt16.not_lt.mp hvalue, hlength⟩
  · rw [hreq] at hrefused
    dsimp only at hrefused ⊢
    rcases htype : control.setup.descriptorType with e | type
    · exact ⟨.stall, hstall, rfl⟩
    · cases descriptors with
      | none => exact ⟨.failed, hfailed, rfl⟩
      | some d =>
        dsimp only
        rcases hbytes : d.requested control.setup type with _ | _ | bytes
        · exact ⟨.stall, hstall, rfl⟩
        · exact ⟨.stall, hstall, rfl⟩
        · exact absurd ⟨d, type, rfl, htype, (d.requested_ok control.setup type).mp ⟨bytes, hbytes⟩⟩ hrefused
  · rw [hreq] at hrefused
    dsimp only at hrefused ⊢
    rw [if_pos]
    · exact ⟨.stall, hstall, rfl⟩
    · by_cases hvalue : control.setup.value > 255
      · exact Or.inl hvalue
      · by_cases hlength : control.setup.length = 0
        · refine Or.inr (Or.inr (Bool.eq_false_iff.mpr fun hsupported => hrefused ?_))
          exact ⟨UInt16.not_lt.mp hvalue, hlength, hsupported⟩
        · exact Or.inr (Or.inl hlength)

variable (frame descriptors keycodes st control) in
/-- All that a well-formed control transfer leads to. -/
inductive Handled : ControlResponse × ControlState → Prop
  | refused {status : TransferStatus} (hstatus : status ≠ .ok) (hrefused : ¬ control.setup.Accepts descriptors) :
      Handled (.ofResponse (frame.controlResponse status.asI32 []), st)
  | getDescriptor {d : UsbDescriptorSet} {type : UsbDescriptorType} {bytes : List UInt8}
      (hreq : control.setup.standardRequest = .ok .getDescriptor) (hset : descriptors = some d)
      (htype : control.setup.descriptorType = .ok type) (hbytes : d.requested control.setup type = some (.ok bytes)) :
      Handled (.ofResponse (frame.controlResponse TransferStatus.ok.asI32 (bytes.take control.setup.length.toNat)), st)
  | setAddress (hreq : control.setup.standardRequest = .ok .setAddress) (hvalue : control.setup.value ≤ 127) :
      Handled (.ofResponse (frame.controlResponse TransferStatus.ok.asI32 []),
        { st with assignedAddress := control.setup.value.toUInt8 })
  | setConfiguration (hreq : control.setup.standardRequest = .ok .setConfiguration)
      (hvalue : control.setup.value ≤ 255)
      (hsupported : supportsConfiguration descriptors control.setup.value.toUInt8 = true) :
      Handled ({ response := frame.controlResponse TransferStatus.ok.asI32 []
                 events := if control.setup.value.toUInt8 ≠ 0 then mockHidKeyboardEvents keycodes else [] },
        { st with activeConfiguration := control.setup.value.toUInt8 })

theorem handleControlRequest_handled (h : UsbControlTransfer.decode frame.payload = .ok control) :
    Handled frame descriptors keycodes st control (handleControlRequest frame descriptors keycodes st) := by
  by_cases haccepts : control.setup.Accepts descriptors
  · unfold UsbControlSetup.Accepts at haccepts
    rcases hreq : control.setup.standardRequest with e | _ | _ | _
    · rw [hreq] at haccepts
      exact haccepts.elim
    · rw [hreq] at haccepts
      rw [handleControlRequest_setAddress h hreq haccepts.1 haccepts.2]
      exact .setAddress hreq haccepts.1
    · rw [hreq] at haccepts
      obtain ⟨d, type, rfl, htype, hserves⟩ := haccepts
      obtain ⟨bytes, hbytes⟩ := (d.requested_ok control.setup type).mpr hserves
      rw [handleControlRequest_getDescriptor h hreq htype hbytes]
      exact .getDescriptor hreq rfl htype hbytes
    · rw [hreq] at haccepts
      obtain ⟨hvalue, hlength, hsupported⟩ := haccepts
      rw [handleControlRequest_setConfiguration h hreq hvalue hlength hsupported]
      exact .setConfiguration hreq hvalue hsupported
  · obtain ⟨status, hne, hhandled⟩ := handleControlRequest_refused h haccepts
    rw [hhandled]
    exact .refused hne haccepts

end

/-! ## What is answered -/

/-- The descriptor a request is answered with, before it is cut to the setup packet's length. -/
def descriptorData (descriptors : UsbDescriptorSet) (setup : UsbControlSetup) : List UInt8 :=
  match setup.standardRequest, setup.descriptorType with
  | .ok .getDescriptor, .ok descriptorType =>
    match descriptors.requested setup descriptorType with
    | some (.ok bytes) => bytes
    | _ => []
  | _, _ => []

section
variable {descriptors : UsbDescriptorSet} {setup : UsbControlSetup}

theorem descriptorData_getDescriptor {type : UsbDescriptorType} {bytes : List UInt8}
    (hreq : setup.standardRequest = .ok .getDescriptor) (htype : setup.descriptorType = .ok type)
    (hbytes : descriptors.requested setup type = some (.ok bytes)) : descriptorData descriptors setup = bytes := by
  unfold descriptorData
  simp only [hreq, htype, hbytes]

theorem descriptorData_other (hreq : setup.standardRequest ≠ .ok .getDescriptor) :
    descriptorData descriptors setup = [] := by
  unfold descriptorData
  split
  · exact absurd (by assumption) hreq
  · rfl

theorem descriptorData_refused (h : ¬ setup.Accepts (some descriptors)) : descriptorData descriptors setup = [] := by
  by_cases hreq : setup.standardRequest = .ok .getDescriptor
  · unfold UsbControlSetup.Accepts at h
    unfold descriptorData
    rw [hreq] at h ⊢
    cases htype : setup.descriptorType with
    | error e => rfl
    | ok type =>
      dsimp only
      rcases hbytes : descriptors.requested setup type with _ | _ | bytes
      · rfl
      · rfl
      · exact absurd ⟨descriptors, type, rfl, htype, (descriptors.requested_ok setup type).mp ⟨bytes, hbytes⟩⟩ h
  · exact descriptorData_other hreq

end

/-- The answer is a `control_response`, with data only under status 0: the cut descriptor. -/
theorem handleControlRequest_response (frame : Frame) (descriptors : UsbDescriptorSet) (keycodes : List UInt8)
    (st : ControlState) {control : UsbControlTransfer} (h : UsbControlTransfer.decode frame.payload = .ok control) :
    ∃ status, (handleControlRequest frame (some descriptors) keycodes st).1.response =
        frame.controlResponse status ((descriptorData descriptors control.setup).take control.setup.length.toNat) ∧
      (status ≠ 0 → descriptorData descriptors control.setup = []) := by
  have hhandled := @handleControlRequest_handled frame (some descriptors) keycodes st control h
  generalize handleControlRequest frame (some descriptors) keycodes st = handled at hhandled
  cases hhandled with
  | @refused status hstatus hrefused =>
    rw [descriptorData_refused hrefused, List.take_nil]
    exact ⟨status.asI32, rfl, fun _ => rfl⟩
  | getDescriptor hreq hset htype hbytes =>
    cases hset
    rw [descriptorData_getDescriptor hreq htype hbytes]
    exact ⟨TransferStatus.ok.asI32, rfl, fun hne => absurd rfl hne⟩
  | setAddress hreq hvalue =>
    rw [descriptorData_other (by simp [hreq]), List.take_nil]
    exact ⟨TransferStatus.ok.asI32, rfl, fun _ => rfl⟩
  | setConfiguration hreq hvalue hsupported =>
    rw [descriptorData_other (by simp [hreq]), List.take_nil]
    exact ⟨TransferStatus.ok.asI32, rfl, fun _ => rfl⟩

section
variable (frame : Frame) (descriptors : Option UsbDescriptorSet) (keycodes : List UInt8) (st : ControlState)

theorem handleControlRequest_controlResponse : ∃ status data,
    (handleControlRequest frame descriptors keycodes st).1.response = frame.controlResponse status data := by
  cases hdecode : UsbControlTransfer.decode frame.payload with
  | error e =>
    rw [handleControlRequest_malformed hdecode]
    exact ⟨_, _, rfl⟩
  | ok control =>
    have hhandled := @handleControlRequest_handled frame descriptors keycodes st control hdecode
    generalize handleControlRequest frame descriptors keycodes st = handled at hhandled
    cases hhandled <;> exact ⟨_, _, rfl⟩

theorem handleControlRequest_events : (handleControlRequest frame descriptors keycodes st).1.events = [] ∨
    (handleControlRequest frame descriptors keycodes st).1.events = mockHidKeyboardEvents keycodes := by
  cases hdecode : UsbControlTransfer.decode frame.payload with
  | error e =>
    rw [handleControlRequest_malformed hdecode]
    exact Or.inl rfl
  | ok control =>
    have hhandled := @handleControlRequest_handled frame descriptors keycodes st control hdecode
    generalize handleControlRequest frame descriptors keycodes st = handled at hhandled
    cases hhandled with
    | setConfiguration hreq hvalue hsupported =>
      by_cases hzero : control.setup.value.toUInt8 = 0
      · exact Or.inl (if_neg (not_not_intro hzero))
      · exact Or.inr (if_pos hzero)
    | _ => exact Or.inl rfl

end

theorem mem_mockHidKeyboardEvents {keycodes : List UInt8} {event : Frame} (h : event ∈ mockHidKeyboardEvents keycodes) :
    ∃ report, event = .hidKeyboardInputEvent 0 report := by
  obtain ⟨keycode, -, h⟩ := List.mem_flatMap.mp h
  rcases List.mem_pair.mp h with rfl | rfl
  · exact ⟨_, rfl⟩
  · exact ⟨_, rfl⟩

theorem HidKeyboardInputReport.encode_length (report : HidKeyboardInputReport) : report.encode.length = 8 := by
  rw [encode, List.length_cons, List.length_cons, report.keycodes.property]

end WhyUsb
