import WhyUsb.Protocol.UsbIp
import WhyUsb.Session.Control

/-!
# Submits

`handle_submit` answers a submit from the descriptors of the device, the
control state and the reports waiting on the interrupt endpoint. The data of a
control answer is the descriptor cut to the setup packet's length, the data of
an interrupt answer the first waiting report; neither is compared with the
direction or the length of the submit.
-/

namespace WhyUsb

open Endian

structure SubmitState where
  control : ControlState
  pendingInterruptReports : List (List UInt8)
  deriving DecidableEq, Repr

def SubmitState.new : SubmitState where
  control := .new
  pendingInterruptReports := []

def failedSubmitResponse (submit : UsbIpCmdSubmit) (status : TransferStatus) : UsbIpRetSubmit :=
  { UsbIpRetSubmit.okFor submit [] with status := status.asI32 }

/-- The frame `handle_control_submit` hands to `handle_control_request`. -/
def controlSubmitFrame (submit : UsbIpCmdSubmit) (setup : UsbControlSetup) : Frame where
  requestId := submit.header.seqnum.toUInt64
  frameType := .request
  direction := setup.transferDirection
  transferType := .control
  endpoint := 0
  status := 0
  payload := UsbControlTransfer.encode { setup, data := submit.transferBuffer }

def interruptReports (events : List Frame) : List (List UInt8) :=
  (events.filter fun event => event.transferType == .interrupt && event.endpoint == 0x81).map (·.payload)

def handleControlSubmit (submit : UsbIpCmdSubmit) (descriptors : UsbDescriptorSet) (mockHidKeycodes : List UInt8)
    (st : SubmitState) : UsbIpRetSubmit × SubmitState :=
  match UsbControlSetup.decode submit.setup.val with
  | .error _ => (failedSubmitResponse submit .stall, st)
  | .ok setup =>
    let handled :=
      handleControlRequest (controlSubmitFrame submit setup) (some descriptors) mockHidKeycodes st.control
    let payload :=
      match UsbControlTransfer.decode handled.1.response.payload with
      | .ok transfer => transfer.data
      | .error _ => []
    let response : UsbIpRetSubmit := { UsbIpRetSubmit.okFor submit payload with status := handled.1.response.status }
    (if response.status ≠ 0 then { response with transferBuffer := [], actualLength := 0 } else response,
      { control := handled.2
        pendingInterruptReports := st.pendingInterruptReports ++ interruptReports handled.1.events })

def handleSubmit (submit : UsbIpCmdSubmit) (descriptors : UsbDescriptorSet) (mockHidKeycodes : List UInt8)
    (st : SubmitState) : UsbIpRetSubmit × SubmitState :=
  if submit.header.endpoint = 0 then handleControlSubmit submit descriptors mockHidKeycodes st
  else if submit.header.endpoint = 0x81 then
    (.okFor submit (st.pendingInterruptReports.headD []),
      { st with pendingInterruptReports := st.pendingInterruptReports.tail })
  else (failedSubmitResponse submit .stall, st)

/-! ## The answer -/

section
variable (submit : UsbIpCmdSubmit) (descriptors : UsbDescriptorSet) (keycodes : List UInt8) (st : SubmitState)

theorem handleControlSubmit_response {setup : UsbControlSetup}
    (h : UsbControlSetup.decode submit.setup.val = .ok setup) :
    ∃ status, (handleControlSubmit submit descriptors keycodes st).1 =
      { UsbIpRetSubmit.okFor submit ((descriptorData descriptors setup).take setup.length.toNat) with status } := by
  have hframe : UsbControlTransfer.decode (controlSubmitFrame submit setup).payload =
      .ok { setup, data := submit.transferBuffer } := UsbControlTransfer.decode_encode _
  obtain ⟨status, hresponse, hnone⟩ :=
    handleControlRequest_response (controlSubmitFrame submit setup) descriptors keycodes st.control hframe
  have hpayload : UsbControlTransfer.decode (handleControlRequest (controlSubmitFrame submit setup) (some descriptors)
      keycodes st.control).1.response.payload =
        .ok { setup, data := (descriptorData descriptors setup).take setup.length.toNat } := by
    rw [hresponse, Frame.controlResponse, hframe]
    exact UsbControlTransfer.decode_encode _
  have hstatus : (handleControlRequest (controlSubmitFrame submit setup) (some descriptors)
      keycodes st.control).1.response.status = status := by rw [hresponse, Frame.controlResponse]
  refine ⟨status, ?_⟩
  unfold handleControlSubmit
  rw [h]
  dsimp only
  rw [hpayload, hstatus]
  dsimp only
  split
  · rename_i hne
    rw [hnone hne, List.take_nil]
    rfl
  · rfl

theorem handleSubmit_response : ∃ status data, (handleSubmit submit descriptors keycodes st).1 =
    { UsbIpRetSubmit.okFor submit data with status } ∧
      (data.length ≤ 65535 ∨ data = st.pendingInterruptReports.headD []) := by
  unfold handleSubmit
  split
  · obtain ⟨setup, hsetup⟩ := UsbControlSetup.decode_ok submit.setup.property
    obtain ⟨status, hresponse⟩ := handleControlSubmit_response submit descriptors keycodes st hsetup
    refine ⟨status, _, hresponse, Or.inl ?_⟩
    have hlt := setup.length.toNat_lt
    rw [List.length_take]
    omega
  · split
    · exact ⟨0, _, rfl, Or.inr rfl⟩
    · exact ⟨_, [], rfl, Or.inl (by simp)⟩

end

/-! ## Reports -/

def SubmitState.Wf (st : SubmitState) : Prop := ∀ report ∈ st.pendingInterruptReports, report.length = 8

theorem SubmitState.new_wf : SubmitState.new.Wf := fun _ h => nomatch h

theorem interruptReports_length {events : List Frame} {keycodes : List UInt8}
    (h : events = [] ∨ events = mockHidKeyboardEvents keycodes) :
    ∀ report ∈ interruptReports events, report.length = 8 := by
  intro report hreport
  obtain ⟨event, hevent, rfl⟩ := List.mem_map.mp hreport
  have hmem := (List.mem_filter.mp hevent).1
  rcases h with rfl | rfl
  · exact nomatch hmem
  · obtain ⟨report, rfl⟩ := mem_mockHidKeyboardEvents hmem
    exact report.encode_length

theorem handleSubmit_wf (submit : UsbIpCmdSubmit) (descriptors : UsbDescriptorSet) (keycodes : List UInt8)
    {st : SubmitState} (h : st.Wf) : (handleSubmit submit descriptors keycodes st).2.Wf := by
  unfold handleSubmit
  split
  · unfold handleControlSubmit
    split
    · exact h
    · intro report hreport
      rcases List.mem_append.mp hreport with hold | hnew
      · exact h report hold
      · exact interruptReports_length (handleControlRequest_events ..) report hnew
  · split
    · exact fun report hreport => h report (List.mem_of_mem_tail hreport)
    · exact h

/-- With keyboard reports waiting, the length of an answer's data fits its length field. -/
theorem handleSubmit_encode (submit : UsbIpCmdSubmit) (descriptors : UsbDescriptorSet) (keycodes : List UInt8)
    {st : SubmitState} (h : st.Wf) : ∃ bytes, (handleSubmit submit descriptors keycodes st).1.encode = .ok bytes := by
  obtain ⟨status, data, hresponse, hdata⟩ := handleSubmit_response submit descriptors keycodes st
  have hlen : data.length < 2 ^ 32 := by
    rcases hdata with hle | rfl
    · omega
    · cases hp : st.pendingInterruptReports with
      | nil => simp
      | cons report rest =>
        have := h report (hp ▸ List.mem_cons_self)
        rw [List.headD_cons, this]
        omega
  rw [hresponse, UsbIpRetSubmit.encode, if_neg (by simp [UsbIpRetSubmit.okFor]), if_neg]
  · exact ⟨_, rfl⟩
  · simp only [UsbIpRetSubmit.okFor, UInt32.toNat_ofNat', Nat.mod_eq_of_lt hlen, not_true_eq_false, ne_eq,
      not_false_eq_true]

/-! ## What was asked for -/

/-- Data only for a submit from the device, and no longer than the submit said. -/
def UsbIpRetSubmit.Within (submit : UsbIpCmdSubmit) (ret : UsbIpRetSubmit) : Prop :=
  (ret.transferBuffer ≠ [] → submit.header.direction = .in) ∧ ret.actualLength ≤ submit.transferBufferLength

instance (submit : UsbIpCmdSubmit) (ret : UsbIpRetSubmit) : Decidable (ret.Within submit) :=
  inferInstanceAs (Decidable (_ ∧ _))

/-- The submit has room for `n` bytes: none, or it reads from the device and its length, modulo the field's width. -/
def UsbIpCmdSubmit.HasRoom (submit : UsbIpCmdSubmit) (n : Nat) : Prop :=
  n = 0 ∨ (submit.header.direction = .in ∧ n % 2 ^ 32 ≤ submit.transferBufferLength.toNat)

/-- On endpoint 0 there is room for the cut descriptor a GET_DESCRIPTOR names, on endpoint 0x81 for the first
waiting report. -/
def UsbIpCmdSubmit.HasRoomForReply (submit : UsbIpCmdSubmit) (descriptors : UsbDescriptorSet) (st : SubmitState) :
    Prop :=
  if submit.header.endpoint = 0 then
    ∀ setup descriptorType bytes, UsbControlSetup.decode submit.setup.val = .ok setup →
      setup.standardRequest = .ok .getDescriptor → setup.descriptorType = .ok descriptorType →
      descriptors.requested setup descriptorType = some (.ok bytes) →
      submit.HasRoom (min setup.length.toNat bytes.length)
  else if submit.header.endpoint = 0x81 then
    ∀ report, st.pendingInterruptReports.head? = some report → submit.HasRoom report.length
  else True

/-- An `ok_for` answer stays within the submit when there is room for its data. -/
theorem within_okFor_iff (submit : UsbIpCmdSubmit) (data : List UInt8) (status : Int32) :
    UsbIpRetSubmit.Within submit { UsbIpRetSubmit.okFor submit data with status } ↔ submit.HasRoom data.length := by
  have hle : UInt32.ofNat data.length ≤ submit.transferBufferLength ↔
      data.length % 2 ^ 32 ≤ submit.transferBufferLength.toNat := by
    rw [UInt32.le_iff_toNat_le, UInt32.toNat_ofNat']
  unfold UsbIpRetSubmit.Within UsbIpCmdSubmit.HasRoom
  dsimp only [UsbIpRetSubmit.okFor]
  rw [hle]
  cases data with
  | nil => simp
  | cons b bs => simp

theorem descriptorData_room (submit : UsbIpCmdSubmit) (descriptors : UsbDescriptorSet) (setup : UsbControlSetup) :
    submit.HasRoom ((descriptorData descriptors setup).take setup.length.toNat).length ↔
      ∀ descriptorType bytes, setup.standardRequest = .ok .getDescriptor →
        setup.descriptorType = .ok descriptorType → descriptors.requested setup descriptorType = some (.ok bytes) →
        submit.HasRoom (min setup.length.toNat bytes.length) := by
  have hnil : submit.HasRoom (([] : List UInt8).take setup.length.toNat).length := Or.inl (by simp)
  unfold descriptorData
  rcases hreq : setup.standardRequest with e | _ | _ | _
  · exact iff_of_true hnil fun _ _ h => nomatch h
  · exact iff_of_true hnil fun _ _ h => nomatch h
  · rcases hty : setup.descriptorType with e | descriptorType
    · exact iff_of_true hnil fun _ _ _ h => nomatch h
    · dsimp only
      rcases hbytes : descriptors.requested setup descriptorType with _ | e | bytes
      · refine iff_of_true hnil ?_
        rintro _ _ - ⟨⟩ h
        exact nomatch hbytes.symm.trans h
      · refine iff_of_true hnil ?_
        rintro _ _ - ⟨⟩ h
        exact nomatch hbytes.symm.trans h
      · rw [List.length_take]
        refine ⟨?_, fun h => h descriptorType bytes rfl rfl hbytes⟩
        rintro h _ bytes' - ⟨⟩ hbytes'
        rw [hbytes, Option.some.injEq, Except.ok.injEq] at hbytes'
        exact hbytes' ▸ h
  · exact iff_of_true hnil fun _ _ h => nomatch h

/-- An answer stays within its submit exactly when the submit has room for what the answer is made from. -/
theorem handleSubmit_within_iff (submit : UsbIpCmdSubmit) (descriptors : UsbDescriptorSet) (keycodes : List UInt8)
    (st : SubmitState) :
    (handleSubmit submit descriptors keycodes st).1.Within submit ↔ submit.HasRoomForReply descriptors st := by
  unfold handleSubmit UsbIpCmdSubmit.HasRoomForReply
  split
  · obtain ⟨setup, hsetup⟩ := UsbControlSetup.decode_ok submit.setup.property
    obtain ⟨status, hresponse⟩ := handleControlSubmit_response submit descriptors keycodes st hsetup
    rw [hresponse, within_okFor_iff, descriptorData_room]
    constructor
    · rintro h _ descriptorType bytes hsetup'
      rw [hsetup, Except.ok.injEq] at hsetup'
      exact hsetup' ▸ h descriptorType bytes
    · exact fun h descriptorType bytes => h setup descriptorType bytes hsetup
  · split
    · rw [show UsbIpRetSubmit.okFor submit (st.pendingInterruptReports.headD []) =
        { UsbIpRetSubmit.okFor submit (st.pendingInterruptReports.headD []) with status := 0 } from rfl,
        within_okFor_iff]
      cases st.pendingInterruptReports with
      | nil => exact iff_of_true (Or.inl rfl) fun _ h => nomatch h
      | cons report rest =>
        rw [List.headD_cons, List.head?_cons]
        exact ⟨fun h _ hr => Option.some.inj hr ▸ h, fun h => h report rfl⟩
    · exact iff_of_true ((within_okFor_iff submit [] _).mpr (Or.inl rfl)) trivial

/-- An interrupt submit for four bytes gets the eight of the waiting report. -/
theorem shortSubmit_not_within : ¬ ∀ (descriptors : UsbDescriptorSet) (st : SubmitState) (keycodes bytes : List UInt8)
    (submit : UsbIpCmdSubmit), UsbIpCmdSubmit.decode bytes = .ok submit →
    (handleSubmit submit descriptors keycodes st).1.Within submit := by
  intro h
  have hwithin := h (.mockHidKeyboard 0x1209 0x0001) { control := .new, pendingInterruptReports := [List.replicate 8 0] }
    [] ([0, 0, 0, 1, 0, 0, 0, 9, 0, 0, 0, 0, 0, 0, 0, 1, 0, 0, 0, 0x81, 0, 0, 0, 0, 0, 0, 0, 4] ++ List.replicate 20 0)
    { header := { command := .cmdSubmit, seqnum := 9, devid := 0, direction := .in, endpoint := 0x81 }
      transferFlags := 0
      transferBufferLength := 4
      startFrame := 0
      numberOfPackets := 0
      interval := 0
      setup := ⟨List.replicate 8 0, rfl⟩
      transferBuffer := [] } (by decide +kernel)
  revert hwithin
  decide +kernel

end WhyUsb
