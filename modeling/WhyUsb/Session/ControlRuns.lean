import WhyUsb.Protocol.Requests
import WhyUsb.Session.Control

/-!
# What control requests do

A request is accepted, and then does the one thing it names, or it is refused
and does nothing. What is accepted does not depend on `bmRequestType`, which is
where the handler differs from one that serves standard requests only.
-/

namespace WhyUsb

/-- What a response carries besides the setup packet it repeats. -/
def Frame.responseData (f : Frame) : List UInt8 :=
  match UsbControlTransfer.decode f.payload with
  | .ok control => control.data
  | .error _ => f.payload

theorem Frame.responseData_controlResponse {f : Frame} {control : UsbControlTransfer}
    (h : UsbControlTransfer.decode f.payload = .ok control) (status : Int32) (data : List UInt8) :
    (f.controlResponse status data).responseData = data := by
  rw [responseData, controlResponse, h, UsbControlTransfer.decode_encode]

theorem Frame.responseData_controlResponse_nil (f : Frame) (status : Int32) :
    (f.controlResponse status []).responseData = [] := by
  cases h : UsbControlTransfer.decode f.payload with
  | ok control => exact responseData_controlResponse h status []
  | error e =>
    rw [responseData, controlResponse, h]
    rfl

/-! ## Requests that are not standard -/

/-- The type bits say class, vendor or reserved, or the direction is not that of the standard request. -/
def UsbControlSetup.NonStandard (setup : UsbControlSetup) : Prop :=
  setup.requestType &&& 0x60 ≠ 0 ∨
    (setup.standardRequest = .ok .getDescriptor ∧ setup.transferDirection = .hostToDevice) ∨
    (setup.standardRequest = .ok .setAddress ∧ setup.transferDirection = .deviceToHost) ∨
    (setup.standardRequest = .ok .setConfiguration ∧ setup.transferDirection = .deviceToHost)

structure Refused (st : ControlState) (handled : ControlResponse × ControlState) : Prop where
  status : handled.1.response.status ≠ TransferStatus.ok.asI32
  data : handled.1.response.responseData = []
  events : handled.1.events = []
  state : handled.2 = st

theorem TransferStatus.asI32_ne_ok {status : TransferStatus} (h : status ≠ .ok) : status.asI32 ≠ ok.asI32 := by
  cases status with
  | ok => exact absurd rfl h
  | _ => decide

theorem refused_of {frame : Frame} {status : TransferStatus} (h : status ≠ .ok) (st : ControlState) :
    Refused st (.ofResponse (frame.controlResponse status.asI32 []), st) where
  status := TransferStatus.asI32_ne_ok h
  data := frame.responseData_controlResponse_nil status.asI32
  events := rfl
  state := rfl

/-- The type bits change nothing: what is not standard is refused exactly when the like standard request is. -/
theorem nonStandard_refused_iff {frame : Frame} (descriptors : Option UsbDescriptorSet) (keycodes : List UInt8)
    (st : ControlState) {control : UsbControlTransfer} (h : UsbControlTransfer.decode frame.payload = .ok control) :
    (control.setup.NonStandard → Refused st (handleControlRequest frame descriptors keycodes st)) ↔
      (control.setup.NonStandard → ¬ control.setup.Accepts descriptors) := by
  constructor
  · intro hrefused hkind haccepted
    have hstatus := (hrefused hkind).status
    have hhandled := @handleControlRequest_handled frame descriptors keycodes st control h
    generalize handleControlRequest frame descriptors keycodes st = handled at hhandled hstatus
    cases hhandled with
    | refused _ hnot => exact hnot haccepted
    | _ => exact hstatus rfl
  · intro hrefused hkind
    obtain ⟨status, hne, hhandled⟩ := @handleControlRequest_refused frame descriptors keycodes st _ h (hrefused hkind)
    rw [hhandled]
    exact refused_of hne st

/-- The class request SET_REPORT for one byte. -/
def setReport : Frame := .controlRequest 1 ⟨0x21, 0x09, 0x0200, 0, 1⟩

theorem nonStandard_refused_iff_setReport : ∃ control, UsbControlTransfer.decode setReport.payload = .ok control ∧
    ((control.setup.NonStandard →
        Refused .new (handleControlRequest setReport (some (.mockHidKeyboard 0x1209 1)) [] .new)) ↔
      (control.setup.NonStandard → ¬ control.setup.Accepts (some (.mockHidKeyboard 0x1209 1)))) := by
  have h : UsbControlTransfer.decode setReport.payload = .ok ⟨⟨0x21, 0x09, 0x0200, 0, 1⟩, []⟩ := by decide +kernel
  exact ⟨_, h, nonStandard_refused_iff _ _ _ h⟩

/-- A vendor request with the code of SET_CONFIGURATION configures the device. -/
theorem vendorRequest_not_refused :
    ¬ ∀ (frame : Frame) (descriptors : Option UsbDescriptorSet) (keycodes : List UInt8) (st : ControlState)
      (control : UsbControlTransfer), UsbControlTransfer.decode frame.payload = .ok control →
      control.setup.NonStandard → Refused st (handleControlRequest frame descriptors keycodes st) := by
  intro h
  have hrefused := h (.controlRequest 1 ⟨0x40, 0x09, 1, 0, 0⟩) (some (.mockHidKeyboard 0x1209 1)) [] .new
    ⟨⟨0x40, 0x09, 1, 0, 0⟩, []⟩ (by decide +kernel) (Or.inl (by decide))
  have hstate := hrefused.state
  revert hstate
  decide +kernel

/-! ## Runs -/

/-- The control state after some requests, from the state of a new session. -/
def controlRun (descriptors : Option UsbDescriptorSet) (keycodes : List UInt8) (requests : List Frame) : ControlState :=
  requests.foldl (fun st frame => (handleControlRequest frame descriptors keycodes st).2) .new

structure ControlState.Valid (descriptors : Option UsbDescriptorSet) (st : ControlState) : Prop where
  address : st.assignedAddress ≤ 127
  configuration : st.activeConfiguration = 0 ∨ ∃ d c, descriptors = some d ∧ c ∈ d.configurations ∧
    c.descriptor.configurationValue = st.activeConfiguration

theorem supportsConfiguration_iff {descriptors : Option UsbDescriptorSet} {configuration : UInt8} :
    supportsConfiguration descriptors configuration = true ↔ configuration = 0 ∨
      ∃ d c, descriptors = some d ∧ c ∈ d.configurations ∧ c.descriptor.configurationValue = configuration := by
  cases descriptors with
  | none => simp [supportsConfiguration]
  | some d => simp [supportsConfiguration]

theorem toUInt8_le_127 {value : UInt16} (h : value ≤ 127) : value.toUInt8 ≤ 127 := by
  have hvalue : value.toNat ≤ 127 := h
  rw [UInt8.le_iff_toNat_le, UInt16.toNat_toUInt8]
  exact Nat.le_trans (Nat.mod_le _ _) hvalue

/-- What one request does: nothing, or the one thing it names. -/
structure Atomic (frame : Frame) (st : ControlState) (handled : ControlResponse × ControlState) : Prop where
  requestId : handled.1.response.requestId = frame.requestId
  refused : handled.1.response.status ≠ TransferStatus.ok.asI32 → Refused st handled
  accepted : handled.1.response.status = TransferStatus.ok.asI32 →
    ∃ control, UsbControlTransfer.decode frame.payload = .ok control ∧
      match control.setup.standardRequest with
      | .ok .getDescriptor => handled.2 = st
      | .ok .setAddress => handled.2 = { st with assignedAddress := control.setup.value.toUInt8 }
      | .ok .setConfiguration => handled.2 = { st with activeConfiguration := control.setup.value.toUInt8 }
      | .error _ => False
  events : handled.1.events ≠ [] → handled.1.response.status = TransferStatus.ok.asI32 ∧
    ∃ control, UsbControlTransfer.decode frame.payload = .ok control ∧
      control.setup.standardRequest = .ok .setConfiguration ∧ control.setup.value ≠ 0

theorem Refused.atomic {frame : Frame} {st : ControlState} {handled : ControlResponse × ControlState}
    (h : Refused st handled) (hid : handled.1.response.requestId = frame.requestId) : Atomic frame st handled where
  requestId := hid
  refused := fun _ => h
  accepted := fun hok => absurd hok h.status
  events := fun hne => absurd h.events hne

section
variable (frame : Frame) {descriptors : Option UsbDescriptorSet} (keycodes : List UInt8) {st : ControlState}

theorem handleControlRequest_valid (h : st.Valid descriptors) :
    Atomic frame st (handleControlRequest frame descriptors keycodes st) ∧
      (handleControlRequest frame descriptors keycodes st).2.Valid descriptors := by
  cases hdecode : UsbControlTransfer.decode frame.payload with
  | error e =>
    have hfailed : TransferStatus.failed ≠ .ok := by decide
    rw [handleControlRequest_malformed hdecode]
    exact ⟨(refused_of hfailed st).atomic rfl, h⟩
  | ok control =>
    have hhandled := @handleControlRequest_handled frame descriptors keycodes st control hdecode
    generalize handleControlRequest frame descriptors keycodes st = handled at hhandled
    cases hhandled with
    | refused hne _ => exact ⟨(refused_of hne st).atomic rfl, h⟩
    | getDescriptor hreq hset htype hbytes =>
      refine ⟨⟨rfl, fun hne => absurd rfl hne, fun _ => ⟨control, hdecode, ?_⟩, fun hne => absurd rfl hne⟩, h⟩
      rw [hreq]
    | setAddress hreq hvalue =>
      refine ⟨⟨rfl, fun hne => absurd rfl hne, fun _ => ⟨control, hdecode, ?_⟩, fun hne => absurd rfl hne⟩,
        toUInt8_le_127 hvalue, h.configuration⟩
      rw [hreq]
    | setConfiguration hreq hvalue hsupported =>
      refine ⟨⟨rfl, fun hne => absurd rfl hne, fun _ => ⟨control, hdecode, ?_⟩, fun hne => ⟨rfl, control, hdecode,
        hreq, ?_⟩⟩, h.address, supportsConfiguration_iff.mp hsupported⟩
      · rw [hreq]
      · intro hzero
        rw [hzero] at hne
        exact hne rfl

end

theorem controlRun_valid (descriptors : Option UsbDescriptorSet) (keycodes : List UInt8) (requests : List Frame) :
    (controlRun descriptors keycodes requests).Valid descriptors := by
  have hfold : ∀ (requests : List Frame) {st : ControlState}, st.Valid descriptors →
      (requests.foldl (fun st frame => (handleControlRequest frame descriptors keycodes st).2) st).Valid
        descriptors := by
    intro requests
    induction requests with
    | nil => exact id
    | cons frame requests ih => exact fun h => ih (handleControlRequest_valid frame keycodes h).2
  exact hfold requests ⟨by decide, Or.inl rfl⟩

/-- After any requests the control state is valid, and the next request is atomic. -/
theorem controlRun_atomic (descriptors : Option UsbDescriptorSet) (keycodes : List UInt8) (requests : List Frame) :
    (controlRun descriptors keycodes requests).Valid descriptors ∧
      ∀ frame, Atomic frame (controlRun descriptors keycodes requests)
        (handleControlRequest frame descriptors keycodes (controlRun descriptors keycodes requests)) :=
  ⟨controlRun_valid descriptors keycodes requests,
    fun frame => (handleControlRequest_valid frame keycodes (controlRun_valid descriptors keycodes requests)).1⟩

end WhyUsb
