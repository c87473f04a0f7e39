import WhyUsb.Lib.Matching
import WhyUsb.Session.Reports

/-!
# One device over two transports

The network session and the USB/IP session serve the same device. The control
requests that a client sends over either, in whatever frames or submits they
come and whatever interrupt submits come between them, are answered alike, leave
the device alike and bring forth the same keyboard reports.
-/

namespace WhyUsb

/-- The frame and the submit carry one setup packet. -/
def Carries (frame : Frame) (submit : UsbIpCmdSubmit) : Prop :=
  ∃ control setup, UsbControlTransfer.decode frame.payload = .ok control ∧ control.setup = setup ∧
    UsbControlSetup.decode submit.setup.val = .ok setup

/-- The same status, the same data, and the reports of the submit are the payloads of the events. -/
structure AnsweredAlike (keycodes : List UInt8) (frames : Frame × ControlResponse)
    (submits : UsbIpCmdSubmit × UsbIpRetSubmit) : Prop where
  status : submits.2.status = frames.2.response.status
  data : submits.2.transferBuffer = frames.2.response.responseData
  reports : reportsAdded keycodes submits = frames.2.events.map (·.payload)

/-! ## One request -/

section
variable {frame other : Frame} {control control' : UsbControlTransfer}

/-- What comes of a request is decided by its setup packet. -/
theorem handleControlRequest_setup (h : UsbControlTransfer.decode frame.payload = .ok control)
    (h' : UsbControlTransfer.decode other.payload = .ok control') (hsetup : control.setup = control'.setup)
    (descriptors : Option UsbDescriptorSet) (keycodes : List UInt8) (st : ControlState) :
    (handleControlRequest frame descriptors keycodes st).1.response.status =
        (handleControlRequest other descriptors keycodes st).1.response.status ∧
      (handleControlRequest frame descriptors keycodes st).2 =
        (handleControlRequest other descriptors keycodes st).2 := by
  obtain ⟨setup, data⟩ := control
  obtain ⟨setup', data'⟩ := control'
  obtain rfl : setup = setup' := hsetup
  unfold handleControlRequest
  rw [h, h']
  dsimp only
  cases hreq : setup.standardRequest with
  | error e => exact ⟨rfl, rfl⟩
  | ok request =>
    cases request with
    | getDescriptor =>
      dsimp only
      cases htype : setup.descriptorType with
      | error e => exact ⟨rfl, rfl⟩
      | ok type =>
        cases descriptors with
        | none => exact ⟨rfl, rfl⟩
        | some d =>
          dsimp only
          cases hrequested : d.requested setup type with
          | none => exact ⟨rfl, rfl⟩
          | some bytes => cases bytes <;> exact ⟨rfl, rfl⟩
    | setAddress =>
      dsimp only
      split <;> exact ⟨rfl, rfl⟩
    | setConfiguration =>
      dsimp only
      split <;> exact ⟨rfl, rfl⟩

end

section
variable {frame : Frame} {submit : UsbIpCmdSubmit}

theorem handleControlSubmit_request (descriptors : UsbDescriptorSet) (keycodes : List UInt8) (st : SubmitState)
    {setup : UsbControlSetup} (hsetup : UsbControlSetup.decode submit.setup.val = .ok setup) :
    (handleControlSubmit submit descriptors keycodes st).1.status =
        (handleControlRequest (controlSubmitFrame submit setup) (some descriptors) keycodes
          st.control).1.response.status ∧
      (handleControlSubmit submit descriptors keycodes st).2.control =
        (handleControlRequest (controlSubmitFrame submit setup) (some descriptors) keycodes st.control).2 := by
  rw [handleControlSubmit, hsetup]
  constructor
  · dsimp only
    split <;> rfl
  · rfl

theorem map_payload_mockHidKeyboardEvents (keycodes : List UInt8) :
    (mockHidKeyboardEvents keycodes).map (·.payload) = keyReports keycodes := by
  rw [mockHidKeyboardEvents, keyReports, List.map_flatMap]
  rfl

theorem handleSubmit_alike (h : Carries frame submit) (hendpoint : submit.header.endpoint = 0)
    (descriptors : UsbDescriptorSet) (keycodes : List UInt8) {control : ControlState} {st : SubmitState}
    (hcontrol : control = st.control) :
    AnsweredAlike keycodes (frame, (handleControlRequest frame (some descriptors) keycodes control).1)
        (submit, (handleSubmit submit descriptors keycodes st).1) ∧
      (handleControlRequest frame (some descriptors) keycodes control).2 =
        (handleSubmit submit descriptors keycodes st).2.control := by
  obtain ⟨transfer, setup, hdecode, hsame, hsetup⟩ := h
  obtain rfl := hcontrol
  obtain rfl := hsame
  have hframe : UsbControlTransfer.decode (controlSubmitFrame submit transfer.setup).payload =
      .ok { setup := transfer.setup, data := submit.transferBuffer } := UsbControlTransfer.decode_encode _
  obtain ⟨hstatus, hstate⟩ := handleControlRequest_setup hdecode hframe rfl (some descriptors) keycodes st.control
  obtain ⟨hstatus', hstate'⟩ := handleControlSubmit_request descriptors keycodes st hsetup
  have hboth := hstatus'.trans hstatus.symm
  rw [handleSubmit, if_pos hendpoint]
  refine ⟨⟨hboth, ?_, ?_⟩, hstate.trans hstate'.symm⟩
  · obtain ⟨status, hanswer⟩ := handleControlSubmit_response submit descriptors keycodes st hsetup
    obtain ⟨status', hresponse, -⟩ := handleControlRequest_response frame descriptors keycodes st.control hdecode
    dsimp only
    rw [hanswer, hresponse, Frame.responseData_controlResponse hdecode]
    rfl
  · have hevents := handleControlRequest_events_eq hdecode (some descriptors) keycodes st.control
    have hconfigured : configured (submit, (handleControlSubmit submit descriptors keycodes st).1) = true ↔
        (handleControlRequest frame (some descriptors) keycodes st.control).1.response.status = 0 ∧
          transfer.setup.configures = true := by
      rw [configured, hsetup, hendpoint, ← hboth]
      simp
    dsimp only
    rw [hevents, reportsAdded]
    by_cases hok : (handleControlRequest frame (some descriptors) keycodes st.control).1.response.status = 0 ∧
        transfer.setup.configures = true
    · rw [if_pos hok, if_pos (hconfigured.mpr hok), map_payload_mockHidKeyboardEvents]
    · rw [if_neg hok, if_neg (mt hconfigured.mp hok)]
      rfl

end

/-! ## Every sequence of requests -/

theorem handleSubmit_other {submit : UsbIpCmdSubmit} (h : submit.header.endpoint ≠ 0) (descriptors : UsbDescriptorSet)
    (keycodes : List UInt8) (st : SubmitState) :
    (handleSubmit submit descriptors keycodes st).2.control = st.control := by
  rw [handleSubmit, if_neg h]
  split <;> rfl

theorem reportsAdded_other {keycodes : List UInt8} {exchange : UsbIpCmdSubmit × UsbIpRetSubmit}
    (h : exchange.1.header.endpoint ≠ 0) : reportsAdded keycodes exchange = [] := by
  rw [reportsAdded, configured, beq_eq_false_iff_ne.mpr h]
  rfl

theorem flatMap_filter_of_nil {α β : Type} {p : α → Bool} {f : α → List β} (h : ∀ a, p a = false → f a = [])
    (l : List α) : (l.filter p).flatMap f = l.flatMap f := by
  induction l with
  | nil => rfl
  | cons a l ih =>
    rw [List.filter_cons, List.flatMap_cons]
    by_cases ha : p a
    · rw [if_pos ha, List.flatMap_cons, ih]
    · rw [if_neg ha, h a (Bool.eq_false_iff.mpr ha), List.nil_append, ih]

/-- The requests that reach the device over the network, one by one. -/
def networkControl (descriptors : UsbDescriptorSet) (keycodes : List UInt8) (frames : List Frame) :
    List (Frame × ControlResponse) × ControlState :=
  Mealy.run (fun frame st => handleControlRequest frame (some descriptors) keycodes st) .new frames

def usbIpSubmits (descriptors : UsbDescriptorSet) (keycodes : List UInt8) (submits : List UsbIpCmdSubmit) :
    List (UsbIpCmdSubmit × UsbIpRetSubmit) × SubmitState :=
  Mealy.run (fun submit st => handleSubmit submit descriptors keycodes st) .new submits

/-- The submits to endpoint 0 are answered as the frames with the same setup packets are, in order; the device ends in
one state; and the reports taken and waiting are those of the events. -/
theorem transports_agree (descriptors : UsbDescriptorSet) (keycodes : List UInt8) (frames : List Frame)
    (submits : List UsbIpCmdSubmit)
    (h : List.Forall₂ Carries frames (submits.filter fun submit => submit.header.endpoint == 0)) :
    List.Forall₂ (AnsweredAlike keycodes) (networkControl descriptors keycodes frames).1
        ((usbIpSubmits descriptors keycodes submits).1.filter fun exchange => exchange.1.header.endpoint == 0) ∧
      (networkControl descriptors keycodes frames).2 = (usbIpSubmits descriptors keycodes submits).2.control ∧
      (usbIpSubmits descriptors keycodes submits).1.flatMap reportTaken ++
          (usbIpSubmits descriptors keycodes submits).2.pendingInterruptReports =
        (networkControl descriptors keycodes frames).1.flatMap fun exchange => exchange.2.events.map (·.payload) := by
  have hstart : ControlState.new = SubmitState.new.control := rfl
  obtain ⟨hanswers, hstate⟩ := Mealy.run_agree (R := fun control (st : SubmitState) => control = st.control)
    (fun frame submit control st hcontrol hcarries hseen =>
      @handleSubmit_alike frame submit hcarries (beq_iff_eq.mp hseen) descriptors keycodes control st hcontrol)
    (fun submit control st hcontrol hseen =>
      hcontrol.trans (handleSubmit_other (beq_eq_false_iff_ne.mp hseen) descriptors keycodes st).symm)
    submits h hstart
  refine ⟨hanswers, hstate, ?_⟩
  have hbalanced := Mealy.run_balanced (fun submit st => handleSubmit_wf submit descriptors keycodes)
    (fun submit st => handleSubmit_balanced submit descriptors keycodes) submits SubmitState.new_wf
  have hadded : ∀ exchange : UsbIpCmdSubmit × UsbIpRetSubmit,
      (exchange.1.header.endpoint == 0) = false → reportsAdded keycodes exchange = [] :=
    fun exchange hseen => reportsAdded_other (beq_eq_false_iff_ne.mp hseen)
  have halike : ∀ x y, AnsweredAlike keycodes x y → (x.2.events.map (·.payload)) = reportsAdded keycodes y :=
    fun x y h => h.reports.symm
  have hreports := Matching.map_eq_of_forall₂ halike hanswers
  rw [usbIpSubmits, hbalanced, ← flatMap_filter_of_nil hadded, List.flatMap_def, ← hreports, List.flatMap_def]
  rfl

/-- A submit for one endpoint that carries a setup packet. -/
def submitTo (endpoint : UInt32) (setup : UsbControlSetup) : UsbIpCmdSubmit where
  header := { command := .cmdSubmit, seqnum := 1, devid := 1, direction := .in, endpoint }
  transferFlags := 0
  transferBufferLength := 8
  startFrame := 0
  numberOfPackets := 0
  interval := 0
  setup := ⟨setup.encode, setup.encode_length⟩
  transferBuffer := []

theorem transports_agree_configured :
    (usbIpSubmits (.mockHidKeyboard 0x1209 1) [4]
        [submitTo 0 (.setConfiguration 1), submitTo 0x81 (.setConfiguration 1)]).1.flatMap reportTaken ++
      (usbIpSubmits (.mockHidKeyboard 0x1209 1) [4]
        [submitTo 0 (.setConfiguration 1), submitTo 0x81 (.setConfiguration 1)]).2.pendingInterruptReports =
      [[0, 0, 4, 0, 0, 0, 0, 0], [0, 0, 0, 0, 0, 0, 0, 0]] := by
  have hcarries : Carries (Frame.controlRequest 7 (.setConfiguration 1)) (submitTo 0 (.setConfiguration 1)) :=
    ⟨_, _, UsbControlTransfer.decode_encode _, rfl, by decide +kernel⟩
  have hagree := transports_agree (.mockHidKeyboard 0x1209 1) [4] [Frame.controlRequest 7 (.setConfiguration 1)]
    [submitTo 0 (.setConfiguration 1), submitTo 0x81 (.setConfiguration 1)] (.cons hcarries .nil)
  exact hagree.2.2.trans (by decide +kernel)

end WhyUsb
