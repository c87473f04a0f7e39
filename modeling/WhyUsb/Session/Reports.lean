import WhyUsb.Lib.Mealy
import WhyUsb.Session.ControlRuns
import WhyUsb.Session.UsbIpSubmit

/-!
# Reports over the USB/IP socket

The keyboard reports of a configured device wait in a queue until interrupt
submits take them. Over any sequence of submits none is lost and none comes
twice.
-/

namespace WhyUsb

/-- The press and the release of each key. -/
def keyReports (keycodes : List UInt8) : List (List UInt8) :=
  keycodes.flatMap fun keycode =>
    [(HidKeyboardInputReport.keyPress keycode).encode, HidKeyboardInputReport.empty.encode]

/-- The report a submit to endpoint 0x81 is answered with, if there was one. -/
def reportTaken (exchange : UsbIpCmdSubmit × UsbIpRetSubmit) : List (List UInt8) :=
  if exchange.1.header.endpoint = 0x81 ∧ exchange.2.transferBuffer ≠ [] then [exchange.2.transferBuffer] else []

def UsbControlSetup.configures (setup : UsbControlSetup) : Bool :=
  decide (setup.standardRequest = .ok .setConfiguration) && setup.value != 0

/-- A SET_CONFIGURATION to another configuration than 0, and it succeeded. -/
def configured (exchange : UsbIpCmdSubmit × UsbIpRetSubmit) : Bool :=
  exchange.1.header.endpoint == 0 && exchange.2.status == 0 &&
    match UsbControlSetup.decode exchange.1.setup.val with
    | .ok setup => setup.configures
    | .error _ => false

def reportsAdded (keycodes : List UInt8) (exchange : UsbIpCmdSubmit × UsbIpRetSubmit) : List (List UInt8) :=
  if configured exchange then keyReports keycodes else []

theorem interruptReports_mockHidKeyboardEvents (keycodes : List UInt8) :
    interruptReports (mockHidKeyboardEvents keycodes) = keyReports keycodes := by
  have hall : (mockHidKeyboardEvents keycodes).filter
      (fun event => event.transferType == .interrupt && event.endpoint == 0x81) = mockHidKeyboardEvents keycodes := by
    refine List.filter_eq_self.mpr fun event hevent => ?_
    obtain ⟨report, rfl⟩ := mem_mockHidKeyboardEvents hevent
    rfl
  rw [interruptReports, hall, mockHidKeyboardEvents, keyReports, List.map_flatMap]
  rfl

theorem toUInt8_ne_zero {value : UInt16} (h : value ≤ 255) : value ≠ 0 ↔ value.toUInt8 ≠ 0 := by
  have hvalue : value.toNat ≤ 255 := h
  rw [not_iff_not, ← UInt16.toNat_inj, ← UInt8.toNat_inj, UInt16.toNat_toUInt8, Nat.mod_eq_of_lt (by omega)]
  rfl

/-- Events come with a successful SET_CONFIGURATION to another configuration than 0, and only then. -/
theorem handleControlRequest_events_eq {frame : Frame} {control : UsbControlTransfer}
    (h : UsbControlTransfer.decode frame.payload = .ok control) (descriptors : Option UsbDescriptorSet)
    (keycodes : List UInt8) (st : ControlState) :
    (handleControlRequest frame descriptors keycodes st).1.events =
      if (handleControlRequest frame descriptors keycodes st).1.response.status = 0 ∧ control.setup.configures = true
      then mockHidKeyboardEvents keycodes else [] := by
  have hother : control.setup.standardRequest ≠ .ok .setConfiguration → control.setup.configures = false :=
    fun hreq => by rw [UsbControlSetup.configures, decide_eq_false hreq, Bool.false_and]
  have hhandled := @handleControlRequest_handled frame descriptors keycodes st control h
  generalize handleControlRequest frame descriptors keycodes st = handled at hhandled
  cases hhandled with
  | refused hne _ =>
    rw [if_neg fun hboth => TransferStatus.asI32_ne_ok hne hboth.1]
    rfl
  | getDescriptor hreq hset htype hbytes =>
    rw [hother (by simp [hreq]), if_neg fun hboth => by cases hboth.2]
    rfl
  | setAddress hreq hvalue =>
    rw [hother (by simp [hreq]), if_neg fun hboth => by cases hboth.2]
    rfl
  | setConfiguration hreq hvalue hsupported =>
    have hconfigures : control.setup.configures = true ↔ control.setup.value.toUInt8 ≠ 0 := by
      rw [← toUInt8_ne_zero hvalue, UsbControlSetup.configures, hreq, decide_eq_true rfl, Bool.true_and, bne_iff_ne]
    by_cases hzero : control.setup.value.toUInt8 = 0
    · rw [if_neg (not_not_intro hzero), if_neg fun hboth => hconfigures.mp hboth.2 hzero]
    · rw [if_pos hzero, if_pos ⟨rfl, hconfigures.mpr hzero⟩]

section
variable (submit : UsbIpCmdSubmit) (descriptors : UsbDescriptorSet) (keycodes : List UInt8)

theorem handleControlSubmit_reports (st : SubmitState) (hendpoint : submit.header.endpoint = 0) :
    (handleControlSubmit submit descriptors keycodes st).2.pendingInterruptReports = st.pendingInterruptReports ++
      reportsAdded keycodes (submit, (handleControlSubmit submit descriptors keycodes st).1) := by
  obtain ⟨setup, hsetup⟩ := UsbControlSetup.decode_ok submit.setup.property
  have hframe : UsbControlTransfer.decode (controlSubmitFrame submit setup).payload =
      .ok { setup, data := submit.transferBuffer } := UsbControlTransfer.decode_encode _
  have hevents := handleControlRequest_events_eq hframe (some descriptors) keycodes st.control
  have hstatus : (handleControlSubmit submit descriptors keycodes st).1.status =
      (handleControlRequest (controlSubmitFrame submit setup) (some descriptors) keycodes
        st.control).1.response.status := by
    rw [handleControlSubmit, hsetup]
    dsimp only
    split <;> rfl
  rw [reportsAdded, configured]
  dsimp only
  rw [hstatus, hsetup, hendpoint, beq_self_eq_true, Bool.true_and]
  dsimp only
  rw [handleControlSubmit, hsetup]
  dsimp only
  rw [hevents]
  dsimp only
  by_cases hok : (handleControlRequest (controlSubmitFrame submit setup) (some descriptors) keycodes
      st.control).1.response.status = 0 ∧ setup.configures = true
  · rw [if_pos hok, if_pos (by rw [hok.1, hok.2]; rfl), interruptReports_mockHidKeyboardEvents]
  · rw [if_neg hok, if_neg (by rw [Bool.and_eq_true, beq_iff_eq]; exact hok)]
    rfl

theorem reportTaken_nil : reportTaken (submit, .okFor submit []) = [] := if_neg fun htaken => htaken.2 rfl

theorem reportTaken_report {submit : UsbIpCmdSubmit} {report : List UInt8} (hendpoint : submit.header.endpoint = 0x81)
    (hne : report ≠ []) : reportTaken (submit, .okFor submit report) = [report] := if_pos ⟨hendpoint, hne⟩

/-- One submit keeps the books. -/
theorem handleSubmit_balanced {st : SubmitState} (h : st.Wf) :
    reportTaken (submit, (handleSubmit submit descriptors keycodes st).1) ++
        (handleSubmit submit descriptors keycodes st).2.pendingInterruptReports =
      st.pendingInterruptReports ++
        reportsAdded keycodes (submit, (handleSubmit submit descriptors keycodes st).1) := by
  by_cases hcontrol : submit.header.endpoint = 0
  · have hother : ¬ submit.header.endpoint = 0x81 := by
      rw [hcontrol]
      decide
    rw [handleSubmit, if_pos hcontrol, reportTaken, if_neg fun htaken => hother htaken.1, List.nil_append]
    exact handleControlSubmit_reports submit descriptors keycodes st hcontrol
  · have hnone : ∀ ret, reportsAdded keycodes (submit, ret) = [] := by
      intro ret
      rw [reportsAdded, configured, beq_eq_false_iff_ne.mpr hcontrol]
      rfl
    rw [handleSubmit, if_neg hcontrol, hnone, List.append_nil]
    by_cases hinterrupt : submit.header.endpoint = 0x81
    · rw [if_pos hinterrupt]
      dsimp only
      cases hpending : st.pendingInterruptReports with
      | nil =>
        rw [List.headD_nil, reportTaken_nil]
        rfl
      | cons report rest =>
        have hne : report ≠ [] := by
          intro hnil
          have hlen := h report (hpending ▸ List.mem_cons_self)
          rw [hnil] at hlen
          cases hlen
        rw [List.headD_cons, reportTaken_report hinterrupt hne]
        rfl
    · rw [if_neg hinterrupt, reportTaken, if_neg fun htaken => hinterrupt htaken.1]
      rfl

end

/-- The reports taken so far and those still waiting are those of each successful configuration so far. -/
theorem reports_conserved (descriptors : UsbDescriptorSet) (keycodes : List UInt8) (control : ControlState)
    (submits : List UsbIpCmdSubmit) :
    let run := Mealy.run (fun submit st => handleSubmit submit descriptors keycodes st)
      { control, pendingInterruptReports := [] } submits
    run.1.flatMap reportTaken ++ run.2.pendingInterruptReports = run.1.flatMap (reportsAdded keycodes) := by
  have hwf : SubmitState.Wf { control, pendingInterruptReports := [] } := SubmitState.new_wf
  have hbalanced := Mealy.run_balanced (fun submit st => handleSubmit_wf submit descriptors keycodes)
    (fun submit st => handleSubmit_balanced submit descriptors keycodes) submits hwf
  exact hbalanced

end WhyUsb
