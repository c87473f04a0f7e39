import WhyUsb.Session.Bracketing
import WhyUsb.Session.Composition

/-!
# The exchanges of the handshake

What the daemon answers to the attach request and to each request of the
enumeration, and that the client takes every answer.
-/

namespace WhyUsb

open UsbDescriptorSet

namespace EnumerationStep

/-- The setup packet for the descriptors of the mock keyboard. -/
def packet : EnumerationStep → UsbControlSetup
  | deviceDescriptor => .getDescriptor .device 0 18
  | configurationDescriptor => .getDescriptor .configuration 0 255
  | reportDescriptor => .getInterfaceDescriptor .report 0 0 63
  | setAddress => .setAddress 1
  | setConfiguration => .setConfiguration 1

/-- The daemon's address and configuration before and after the step. -/
def before : EnumerationStep → ControlState
  | setConfiguration => ⟨1, 0⟩
  | _ => ⟨0, 0⟩

def after : EnumerationStep → ControlState
  | setAddress => ⟨1, 0⟩
  | setConfiguration => ⟨1, 1⟩
  | _ => ⟨0, 0⟩

def requestId : EnumerationStep → UInt64
  | deviceDescriptor => 2
  | configurationDescriptor => 3
  | reportDescriptor => 4
  | setAddress => 5
  | setConfiguration => 6

def request (step : EnumerationStep) : Frame := .controlRequest step.requestId step.packet

def earlier : EnumerationStep → List EnumerationStep
  | deviceDescriptor => []
  | configurationDescriptor => [deviceDescriptor]
  | reportDescriptor => [deviceDescriptor, configurationDescriptor]
  | setAddress => [deviceDescriptor, configurationDescriptor, reportDescriptor]
  | setConfiguration => [deviceDescriptor, configurationDescriptor, reportDescriptor, setAddress]

def requests : List Frame :=
  [deviceDescriptor.request, configurationDescriptor.request, reportDescriptor.request, setAddress.request,
    setConfiguration.request]

/-- Only the last request causes Events. -/
def events (keycodes : List UInt8) : EnumerationStep → List Frame
  | setConfiguration => mockHidKeyboardEvents keycodes
  | _ => []

theorem setup_eq (vendorId productId : UInt16) (step : EnumerationStep) :
    step.setup (some (mockHidKeyboard vendorId productId)) = .ok step.packet := by
  cases step <;> rfl

theorem packet_readable (step : EnumerationStep) : step.packet.readable = .ok () := by
  cases step <;> rfl

theorem next_before {step next : EnumerationStep} (h : step.next = some next) : next.before = step.after := by
  cases step <;> cases h <;> rfl

theorem next_requestId {step next : EnumerationStep} (h : step.next = some next) :
    step.requestId + 1 = next.requestId := by
  cases step <;> cases h <;> rfl

theorem next_earlier {step next : EnumerationStep} (h : step.next = some next) :
    step.earlier ++ [step] = next.earlier := by
  cases step <;> cases h <;> rfl

theorem next_none {step : EnumerationStep} (h : step.next = none) : step = setConfiguration := by
  cases step <;> first | rfl | cases h

theorem events_of_next {step next : EnumerationStep} (h : step.next = some next) (keycodes : List UInt8) :
    step.events keycodes = [] := by
  cases step <;> cases h <;> rfl

end EnumerationStep

/-! ## Control requests -/

/-- The client takes the response as the answer to the step. -/
structure IsAnswer (descriptors : Option UsbDescriptorSet) (step : EnumerationStep) (response : Frame) : Prop where
  requestId : response.requestId = step.requestId
  frameType : response.frameType = .response
  status : response.status = 0
  payload : ∃ control, UsbControlTransfer.decode response.payload = .ok control ∧
    step.accepts descriptors control = true
  encodes : ∃ bytes, response.encode = some bytes

theorem controlResponse_isAnswer {descriptors : Option UsbDescriptorSet} {step : EnumerationStep} {data : List UInt8}
    (hdata : step.accepts descriptors ⟨step.packet, data⟩ = true) (hlen : data.length ≤ 255) :
    IsAnswer descriptors step ((Frame.controlRequest step.requestId step.packet).controlResponse 0 data) := by
  have hpayload : ((Frame.controlRequest step.requestId step.packet).controlResponse 0 data).payload =
      UsbControlTransfer.encode ⟨step.packet, data⟩ := by
    rw [Frame.controlResponse, Frame.controlRequest, UsbControlTransfer.decode_encode]
    rfl
  refine ⟨rfl, rfl, rfl, ⟨_, by rw [hpayload]; exact UsbControlTransfer.decode_encode _, hdata⟩, Frame.encode_ok ?_⟩
  rw [hpayload, UsbControlTransfer.encode, List.length_append, UsbControlSetup.encode_length, UsbControlSetup.len]
  dsimp only
  omega

theorem handleControlRequest_step (vendorId productId : UInt16) (keycodes : List UInt8) (step : EnumerationStep) :
    ∃ response, handleControlRequest (.controlRequest step.requestId step.packet)
        (some (mockHidKeyboard vendorId productId)) keycodes step.before =
          ({ response, events := step.events keycodes }, step.after) ∧
      IsAnswer (some (mockHidKeyboard vendorId productId)) step response := by
  have hdecode : UsbControlTransfer.decode (Frame.controlRequest step.requestId step.packet).payload =
      .ok (.setupOnly step.packet) := UsbControlTransfer.decode_encode _
  unfold handleControlRequest
  rw [hdecode]
  cases step with
  | deviceDescriptor =>
    refine ⟨_, rfl, controlResponse_isAnswer rfl ?_⟩
    exact (List.length_take_le _ _).trans (by decide)
  | configurationDescriptor =>
    refine ⟨_, rfl, controlResponse_isAnswer rfl ?_⟩
    exact (List.length_take_le _ _).trans (by decide)
  | reportDescriptor =>
    refine ⟨_, rfl, controlResponse_isAnswer ?_ ?_⟩
    · change (hidKeyboardReportDescriptor.take 63 == hidKeyboardReportDescriptor) = true
      decide
    · exact (List.length_take_le _ _).trans (by decide)
  | setAddress => exact ⟨_, rfl, controlResponse_isAnswer rfl (by decide)⟩
  | setConfiguration => exact ⟨_, rfl, controlResponse_isAnswer rfl (by decide)⟩

/-! ## The attach -/

theorem descriptorSetForAttach_eq (attachDevice : Option DeviceAttachRequest) :
    ∃ vendorId productId, descriptorSetForAttach attachDevice = mockHidKeyboard vendorId productId :=
  ⟨_, _, rfl⟩

def attachAnswer (attachDevice : Option DeviceAttachRequest) : Frame :=
  (Frame.attachRequest 1).lifecycleResponse .attachResponse 0 (descriptorSetForAttach attachDevice).bytes

theorem attachAnswer_encodes (attachDevice : Option DeviceAttachRequest) :
    ∃ bytes, (attachAnswer attachDevice).encode = some bytes :=
  attachDescriptors_encode (.attachRequest 1) 0 attachDevice

theorem decode_attachAnswer (attachDevice : Option DeviceAttachRequest) :
    UsbDescriptorSet.decode (attachAnswer attachDevice).payload = .ok (descriptorSetForAttach attachDevice) := by
  obtain ⟨vendorId, productId, h⟩ := descriptorSetForAttach_eq attachDevice
  obtain ⟨hencodable, hrepresentable⟩ := mockHidKeyboard_wellFormed vendorId productId
  rw [attachAnswer, h]
  exact decode_bytes hencodable hrepresentable

namespace NetworkSession

section
variable {cfg : SessionConfig} {s : NetworkSession}

/-- What a frame makes of the state of a session that keeps its books. -/
structure Becomes (s' : NetworkSession) (state : SessionState) (descriptors : Option UsbDescriptorSet)
    (control : ControlState) (main : MainPc) : Prop where
  state : s'.lifecycle.state = state
  descriptors : s'.activeDescriptors = descriptors
  control : s'.control = control
  main : s'.main = main

theorem handleFrame_attach (hstate : s.lifecycle.state ≠ .attached) :
    Becomes (s.handleFrame cfg true (.attachRequest 1)) .attached (some (descriptorSetForAttach cfg.attachDevice))
      s.control (.sending (attachAnswer cfg.attachDevice) .breakLoop [] false) := by
  have hattach : (attachSession true cfg.attachDevice s.lifecycle).1 = 0 ∧
      (attachSession true cfg.attachDevice s.lifecycle).2.state = .attached := by
    unfold attachSession
    rw [if_neg hstate]
    cases cfg.attachDevice <;> exact ⟨rfl, rfl⟩
  have hframe : s.handleFrame cfg true (.attachRequest 1) = s.handleAttachRequest cfg true (.attachRequest 1) := rfl
  rw [hframe]
  unfold handleAttachRequest
  dsimp only
  rw [if_pos hattach.1, attachResponseWithDescriptors_eq, hattach.1]
  exact ⟨hattach.2, rfl, rfl, rfl⟩

theorem handleFrame_control {step : EnumerationStep} {response : Frame} {events : List Frame} {after : ControlState}
    (hstate : s.lifecycle.state = .attached)
    (hanswer : handleControlRequest (.controlRequest step.requestId step.packet) s.activeDescriptors
      cfg.mockHidKeycodes s.control = ({ response, events }, after)) (driverOk : Bool) :
    Becomes (s.handleFrame cfg driverOk (.controlRequest step.requestId step.packet)) .attached s.activeDescriptors
      after (.sending response .breakLoop events false) := by
  have hframe : s.handleFrame cfg driverOk (.controlRequest step.requestId step.packet) =
      s.handleDataRequest cfg (.controlRequest step.requestId step.packet) := rfl
  have hcontrol : (Frame.controlRequest step.requestId step.packet).transferType = .control ∧
      (Frame.controlRequest step.requestId step.packet).endpoint = 0 := ⟨rfl, rfl⟩
  rw [hframe]
  unfold handleDataRequest
  rw [if_neg (by simp [hstate]), if_pos hcontrol, hanswer]
  exact ⟨hstate, rfl, rfl, rfl⟩

end

end NetworkSession

/-! ## The client -/

namespace ClientSession

section
variable {s : ClientSession}

theorem waitForLifecycleResponse_answer {attachDevice : Option DeviceAttachRequest} {bytes : List UInt8}
    (h : (attachAnswer attachDevice).encode = some bytes) :
    s.waitForLifecycleResponse bytes =
      { s with descriptors := some (descriptorSetForAttach attachDevice), main := .sendControl .deviceDescriptor } := by
  have hdecode := decode_attachAnswer attachDevice
  have hpayload : (attachAnswer attachDevice).payload ≠ [] := by
    intro hnil
    rw [hnil] at hdecode
    cases hdecode
  have htype : ¬ (attachAnswer attachDevice).frameType ≠ .attachResponse := not_not.mpr rfl
  have hstatus : ¬ (attachAnswer attachDevice).status ≠ 0 := not_not.mpr rfl
  unfold waitForLifecycleResponse
  rw [Frame.decode_of_encode h]
  dsimp only
  rw [if_neg htype, if_neg hstatus, if_neg hpayload, hdecode]

theorem waitForControlResponse_answer {step : EnumerationStep} {response : Frame} {bytes : List UInt8}
    (h : IsAnswer s.descriptors step response) (hbytes : response.encode = some bytes) :
    s.waitForControlResponse step step.requestId bytes =
      { s with answered := s.answered ++ [response] }.enumerated step := by
  obtain ⟨control, hdecode, haccepts⟩ := h.payload
  have hexpected : ¬ (response.requestId ≠ step.requestId ∨ response.frameType ≠ .response) := by
    simp [h.requestId, h.frameType]
  unfold waitForControlResponse
  rw [Frame.decode_of_encode hbytes]
  dsimp only
  rw [if_neg hexpected, if_neg (by simp [h.status]), hdecode]
  dsimp only
  rw [if_pos haccepts]

end

end ClientSession

end WhyUsb
