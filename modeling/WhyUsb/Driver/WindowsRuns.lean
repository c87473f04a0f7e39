import WhyUsb.Driver.WindowsRings

/-!
# Runs of the host

Whatever the kernel grants and refuses: a backend that is open has the driver's
session, and a backend that has mapped the section works on the rings of the
driver. What it polls, the driver has pushed, in the same order; what the driver
pumps, it has pushed.
-/

namespace WhyUsb

open Lts

/-- What `GET_STATUS` tells of a driver with the rings `m`. -/
def Driver.statusResponse (m : SharedMemoryLayout) (d : Driver) : StatusResponse where
  header := .new statusResponseSize
  sessionId := Driver.gSessionId
  status := if d.context.sharedMemoryReady = false ∧ d.gSessionState ≠ .sessionClosed then whyUsbStatusUnsupported else 0
  sessionState := d.gSessionState.asU32
  txQueuedBytes := (m.txRing.head - m.txRing.tail).toUInt32
  rxQueuedBytes := (m.rxRing.head - m.rxRing.tail).toUInt32

namespace WindowsHost

/-! ## What the daemon learns from an IOCTL -/

section
variable {c : Completion} {k : Kernel} {d : Driver}

theorem ioctl_complete {code : UInt32} {size : Nat} {status : NtStatus} {bytes : List UInt8} (hsize : size ≠ 0) :
    DeviceHandle.ioctl code size (Driver.complete status) ≠ .ok bytes := by
  intro h
  obtain ⟨-, rfl, hlength⟩ := DeviceHandle.ioctl_ok_iff.mp h
  exact hsize hlength.symm

theorem ioctl_struct {code : UInt32} {size : Nat} {value : IoctlOutput} {bytes : List UInt8} (hsize : size ≠ 0)
    (h : DeviceHandle.ioctl code size (Driver.completeWithStruct k value) = .ok bytes) : bytes = value.bytes := by
  unfold Driver.completeWithStruct at h
  by_cases hbuffer : ¬ NtSuccess k.retrieveOutputBuffer
  · rw [if_pos hbuffer] at h
    exact absurd h (ioctl_complete hsize)
  · rw [if_neg hbuffer] at h
    exact (DeviceHandle.ioctl_ok_iff.mp h).2.1

theorem ofResponse_bytes {b : OpenBackend} (h : OpenBackend.ofResponse c = .ok b) : ∃ bytes,
    DeviceHandle.ioctl (ctlCode 0x801) sessionOpenResponseSize c = .ok bytes ∧
      b = ⟨(SessionOpenResponse.read bytes).sessionId, (SessionOpenResponse.read bytes).maxFrameSize, none⟩ := by
  unfold OpenBackend.ofResponse at h
  cases hioctl : DeviceHandle.ioctl (ctlCode 0x801) sessionOpenResponseSize c with
  | error e =>
    rw [hioctl] at h
    cases h
  | ok bytes =>
    rw [hioctl] at h
    refine ⟨bytes, rfl, ?_⟩
    cases hheader : validateHeader (SessionOpenResponse.read bytes).header sessionOpenResponseSize with
    | error e =>
      simp only [Bind.bind, Except.bind, hheader] at h
      cases h
    | ok _ =>
      simp only [Bind.bind, Except.bind, hheader] at h
      by_cases hstatus : (SessionOpenResponse.read bytes).status ≠ 0
      · rw [if_pos hstatus] at h
        cases h
      · rw [if_neg hstatus] at h
        exact (Except.ok.inj h).symm

/-- An IOCTL whose answer is a record with a header: the record is read from the bytes when its header is valid. -/
theorem ioctl_record_iff {α : Type} {code : UInt32} {size : Nat} {read : List UInt8 → α} {header : α → AbiHeader}
    {value : α} : (do
        let bytes ← DeviceHandle.ioctl code size c
        validateHeader (header (read bytes)) size
        return read bytes) = Except.ok value ↔
      ∃ bytes, DeviceHandle.ioctl code size c = .ok bytes ∧ validateHeader (header (read bytes)) size = .ok () ∧
        value = read bytes := by
  cases hioctl : DeviceHandle.ioctl code size c with
  | error e => exact iff_of_false nofun (by rintro ⟨bytes, hbytes, -⟩; cases hbytes)
  | ok bytes =>
    cases hheader : validateHeader (header (read bytes)) size with
    | error e =>
      simp only [Bind.bind, Except.bind, hheader]
      refine iff_of_false nofun ?_
      rintro ⟨_, hbytes, hvalid, -⟩
      obtain rfl := Except.ok.inj hbytes
      exact nomatch hheader.symm.trans hvalid
    | ok _ =>
      simp only [Bind.bind, Except.bind, hheader]
      constructor
      · intro h
        exact ⟨bytes, rfl, hheader, (Except.ok.inj h).symm⟩
      · rintro ⟨_, hbytes, -, rfl⟩
        obtain rfl := Except.ok.inj hbytes
        rfl

theorem sessionOpen_admitted {b : OpenBackend} (h : OpenBackend.ofResponse (d.sessionOpen k).1 = .ok b) :
    b = ⟨Driver.gSessionId, 64 * 1024, none⟩ ∧ (d.sessionOpen k).2.gSessionState = .sessionOpen := by
  obtain ⟨bytes, hioctl, rfl⟩ := ofResponse_bytes h
  unfold Driver.sessionOpen at hioctl ⊢
  cases hcontext : d.ensureDriverMemoryContext k with
  | mk status d' =>
    rw [hcontext] at hioctl
    dsimp only at hioctl ⊢
    by_cases hsuccess : ¬ NtSuccess status
    · rw [if_pos hsuccess] at hioctl
      exact absurd hioctl (ioctl_complete (by decide))
    · rw [if_neg hsuccess] at hioctl ⊢
      rw [ioctl_struct (by decide) hioctl, SessionOpenResponse.read_bytes]
      exact ⟨rfl, rfl⟩

theorem getSharedMemory_admitted {info : SharedMemoryInfo}
    (h : OpenBackend.getSharedMemoryInfo (d.getSharedMemory k).1 = .ok info) :
    info = (d.getSharedMemory k).2.context.sharedMemoryInfo ∧
      (d.getSharedMemory k).2.context.sharedMemoryReady = true := by
  obtain ⟨bytes, hioctl, -, rfl⟩ := ioctl_record_iff.mp h
  have hready : NtSuccess (d.ensureSharedResources k).1 →
      (d.ensureSharedResources k).2.context.sharedMemoryReady = true := by
    intro hsuccess
    cases hbefore : d.context.sharedMemoryReady with
    | true =>
      rw [Driver.ensureSharedResources_ready hbefore]
      exact hbefore
    | false =>
      by_cases hk : k.CreatesResources
      · exact Driver.ensureSharedResources_readies hbefore hk
      · exact absurd hsuccess (Driver.ensureSharedResources_failed hbefore hk).1
  unfold Driver.getSharedMemory at hioctl ⊢
  cases hensure : d.ensureSharedResources k with
  | mk status d' =>
    rw [hensure] at hioctl hready
    dsimp only at hioctl hready ⊢
    by_cases hsuccess : ¬ NtSuccess status
    · rw [if_pos hsuccess] at hioctl
      exact absurd hioctl (ioctl_complete (by decide))
    · rw [if_neg hsuccess] at hioctl ⊢
      rw [ioctl_struct (by decide) hioctl, SharedMemoryInfo.read_bytes]
      exact ⟨rfl, hready (not_not.mp hsuccess)⟩

theorem getStatus_rings {m : SharedMemoryLayout} (hm : d.rings = some m) :
    (d.getStatus k).1 = Driver.completeWithStruct k (.status (d.statusResponse m)) := by
  cases hpointer : d.gSharedMemory with
  | none =>
    rw [Driver.rings, hpointer] at hm
    cases hm
  | some address =>
    obtain rfl := Option.some.inj ((rings_of_pointer hpointer).symm.trans hm)
    unfold Driver.getStatus Vhci.getDriverStatus Driver.statusResponse
    rw [hpointer]
    dsimp only [Option.map_some]
    split_ifs <;> rfl

theorem getStatus_admitted {response : StatusResponse} : OpenBackend.getStatus (d.getStatus k).1 = .ok response ↔
    NtSuccess k.retrieveOutputBuffer ∧ ∃ m, d.rings = some m ∧ response = d.statusResponse m := by
  refine ioctl_record_iff.trans ?_
  cases hm : d.rings with
  | none =>
    have hcompletion : (d.getStatus k).1 = Driver.complete statusInvalidDeviceState := by
      have hpointer : d.gSharedMemory = none := Option.map_eq_none_iff.mp hm
      unfold Driver.getStatus Vhci.getDriverStatus
      rw [hpointer]
      rfl
    rw [hcompletion]
    refine iff_of_false ?_ ?_
    · rintro ⟨bytes, hioctl, -⟩
      exact ioctl_complete (by decide) hioctl
    · rintro ⟨-, m, hm, -⟩
      cases hm
  | some m =>
    rw [getStatus_rings hm]
    constructor
    · rintro ⟨bytes, hioctl, -, rfl⟩
      have hbuffer : NtSuccess k.retrieveOutputBuffer :=
        Driver.completeWithStruct_success.mp (DeviceHandle.ioctl_ok_iff.mp hioctl).1
      rw [ioctl_struct (by decide) hioctl, StatusResponse.read_bytes]
      exact ⟨hbuffer, m, rfl, rfl⟩
    · rintro ⟨hbuffer, _, hm', rfl⟩
      obtain rfl := Option.some.inj hm'
      refine ⟨IoctlOutput.bytes (.status (d.statusResponse m)), ?_, ?_, (StatusResponse.read_bytes _).symm⟩
      · have hstruct : Driver.completeWithStruct k (.status (d.statusResponse m)) =
            ⟨statusSuccess, some (.status (d.statusResponse m))⟩ := if_neg (not_not.mpr hbuffer)
        have hsuccess : NtSuccess statusSuccess := by decide
        rw [hstruct]
        exact DeviceHandle.ioctl_ok_iff.mpr ⟨hsuccess, rfl, IoctlOutput.bytes_length _⟩
      · rw [StatusResponse.read_bytes, validateHeader]
        have hvalid : (d.statusResponse m).header.validate statusResponseSize = .ok () :=
          AbiHeader.new_validate (by decide)
        rw [hvalid]

end

/-! ## Steps -/

section
variable {s : WindowsHost}

theorem setSection_section (d : Driver) : d.setSection d.section = d := by
  unfold Driver.setSection Driver.section
  rw [Function.update_eq_self]

theorem Kept.section (h : s.Kept) (hready : s.driver.context.sharedMemoryReady = true) :
    s.driver.rings = some s.driver.section ∧ ∀ m, s.driver.setSection m = s.driver.setRings m := by
  obtain ⟨hsome, hview, -⟩ := h.ready hready
  obtain ⟨address, haddress⟩ := Option.ne_none_iff_exists'.mp hsome
  have hsection : s.driver.context.sectionView = some address := hview ▸ haddress
  constructor
  · rw [Driver.rings, Driver.section, haddress, hsection]
    rfl
  · intro m
    rw [Driver.setSection, Driver.setRings, haddress, hsection]
    rfl

theorem Kept.work (h : s.Kept) {m m' : SharedMemoryLayout} {tx rx : RingBook} (hm : s.driver.rings = some m)
    (hheader : m'.header = m.header) (htx : tx.Fills m'.txRing) (hrx : rx.Fills m'.rxRing) :
    Kept { s with
      driver := s.driver.setRings m'
      tx := tx
      rx := rx } := by
  cases haddress : s.driver.gSharedMemory with
  | none =>
    rw [Driver.rings, haddress] at hm
    cases hm
  | some address =>
    have hset : s.driver.setRings m' = { s.driver with memory := Function.update s.driver.memory address m' } := by
      simp only [Driver.setRings, haddress]
    rw [hset]
    refine ⟨h.ready, fun m'' hm'' => ?_, htx.ordered, hrx.ordered⟩
    have hworked := hm''.symm.trans (rings_of_pointer haddress)
    dsimp only at hworked
    rw [Function.update_self] at hworked
    obtain rfl := Option.some.inj hworked
    exact ⟨hheader.trans (h.rings m hm).1, htx, hrx⟩

end

/-- An open backend has the driver's session, and what it maps is ready; without one nothing is, and the device is
not attached. -/
structure Inv (s : WindowsHost) : Prop where
  kept : s.Kept
  idle : s.backend = none →
    s.driver.context.sharedMemoryReady = false ∧ s.driver.gSessionState ≠ .sessionAttached
  opened : ∀ b, s.backend = some b →
    b.sessionId = Driver.gSessionId ∧ b.maxFrameSize = 64 * 1024 ∧ s.driver.gSessionState ≠ .sessionClosed
  mapped : ∀ b mapping, s.backend = some b → b.sharedMemory = some mapping →
    s.driver.context.sharedMemoryReady = true ∧ Maps mapping

section
variable {s s' : WindowsHost} {b : OpenBackend}

theorem Kept.of_same (h : s.Kept) (hdriver : s'.driver = s.driver) (htx : s'.tx = s.tx) (hrx : s'.rx = s.rx) :
    s'.Kept := by
  refine ⟨?_, ?_, ?_, ?_⟩
  · rw [hdriver]
    exact h.ready
  · rw [hdriver, htx, hrx]
    exact h.rings
  · rw [htx]
    exact h.tx
  · rw [hrx]
    exact h.rx

theorem Inv.of_kept (h : s.Inv) (hkept : s'.Kept) (hbackend : s'.backend = s.backend)
    (hcontext : s'.driver.context = s.driver.context) (hsession : s'.driver.gSessionState = s.driver.gSessionState) :
    s'.Inv := by
  refine ⟨hkept, ?_, ?_, ?_⟩
  · rw [hbackend, hcontext, hsession]
    exact h.idle
  · rw [hbackend, hsession]
    exact h.opened
  · rw [hbackend, hcontext]
    exact h.mapped

theorem setRings_session (m : SharedMemoryLayout) (d : Driver) :
    (d.setRings m).context = d.context ∧ (d.setRings m).gSessionState = d.gSessionState := by
  unfold Driver.setRings
  cases d.gSharedMemory with
  | none => exact ⟨rfl, rfl⟩
  | some address => exact ⟨rfl, rfl⟩

theorem Inv.work (h : s.Inv) {m m' : SharedMemoryLayout} {tx rx : RingBook} (hm : s.driver.rings = some m)
    (hheader : m'.header = m.header) (htx : tx.Fills m'.txRing) (hrx : rx.Fills m'.rxRing) :
    Inv { s with
      driver := s.driver.setRings m'
      tx := tx
      rx := rx } := by
  obtain ⟨hcontext, hsession⟩ := setRings_session m' s.driver
  exact h.of_kept (h.kept.work hm hheader htx hrx) rfl hcontext hsession

theorem Inv.pushRxBytes (h : s.Inv) (hb : s.backend = some b) (bytes : List UInt8) (setEvent : Bool) :
    (s.pushRxBytes bytes setEvent b).2.Inv := by
  unfold WindowsHost.pushRxBytes
  dsimp only
  cases hmapping : b.sharedMemory with
  | none =>
    obtain ⟨⟨hwritten, hstores⟩, -⟩ := unmapped_view (m := s.driver.section) hmapping setEvent bytes 0
    rw [hwritten, hstores, setSection_section, if_neg Bool.false_ne_true, List.append_nil]
    exact h
  | some mapping =>
    obtain ⟨hready, hmaps⟩ := h.mapped b mapping hb hmapping
    obtain ⟨hrings, hset⟩ := h.kept.section hready
    obtain ⟨-, htx, hrx⟩ := h.kept.rings _ hrings
    obtain ⟨hwritten, hstores⟩ := pushRxBytes_view (m := s.driver.section) hmapping hmaps setEvent bytes
    rw [hwritten, hstores, hset]
    exact h.work hrings rfl htx (hrx.push bytes)

theorem Inv.pollTxFrame (h : s.Inv) (hb : s.backend = some b) : (s.pollTxFrame b).2.Inv := by
  unfold WindowsHost.pollTxFrame
  dsimp only
  rw [pollTxFrame_popTxBytes]
  cases hmapping : b.sharedMemory with
  | none =>
    obtain ⟨-, hwritten, htakes⟩ := unmapped_view (m := s.driver.section) hmapping false [] b.maxFrameSize.toNat
    rw [hwritten, htakes, setSection_section, List.append_nil]
    exact h
  | some mapping =>
    obtain ⟨hready, hmaps⟩ := h.mapped b mapping hb hmapping
    obtain ⟨hrings, hset⟩ := h.kept.section hready
    obtain ⟨-, htx, hrx⟩ := h.kept.rings _ hrings
    obtain ⟨hwritten, htakes⟩ := popTxBytes_view (m := s.driver.section) hmapping hmaps b.maxFrameSize.toNat
    rw [hwritten, htakes, hset]
    exact h.work hrings rfl (htx.pop _) hrx

theorem Inv.interceptUrb (h : s.Inv) (urb : List UInt8) : (s.interceptUrb urb).2.Inv := by
  unfold WindowsHost.interceptUrb
  cases hm : s.driver.rings with
  | none => exact h
  | some m =>
    obtain ⟨-, htx, hrx⟩ := h.kept.rings m hm
    exact h.work hm rfl (htx.push urb) hrx

theorem Inv.mockDriverPumpOnce (h : s.Inv) : s.mockDriverPumpOnce.2.Inv := by
  unfold WindowsHost.mockDriverPumpOnce
  cases hm : s.driver.rings with
  | none => exact h
  | some m =>
    obtain ⟨-, htx, hrx⟩ := h.kept.rings m hm
    have hpopped := hrx.pop pumpBufferSize
    dsimp only
    cases hpop : Spsc.popFrame m.rxRing pumpBufferSize with
    | mk frame rxRing =>
      rw [hpop] at hpopped
      cases frame with
      | none =>
        rw [Option.toList_none, List.append_nil] at hpopped
        exact h.work hm rfl htx hpopped
      | some frame => exact h.work hm rfl (htx.push frame) hpopped

end

/-! ## The IOCTLs of the backend -/

section
variable {s : WindowsHost} {b : OpenBackend} {k : Kernel}

theorem evtIoDeviceControl_codes (k : Kernel) (d : Driver) :
    d.evtIoDeviceControl (ctlCode 0x801) k = d.sessionOpen k ∧
      d.evtIoDeviceControl (ctlCode 0x802) k = d.sessionClose ∧
      d.evtIoDeviceControl (ctlCode 0x803) k = d.getSharedMemory k ∧
      d.evtIoDeviceControl (ctlCode 0x804) k = d.attachDevice ∧
      d.evtIoDeviceControl (ctlCode 0x805) k = d.detachDevice ∧
      d.evtIoDeviceControl (ctlCode 0x806) k = d.getStatus k := by
  have hcodes : [0x801, 0x802, 0x803, 0x804, 0x805, 0x806].map (fun code => IoControlCode.ofCode (ctlCode code)) =
      [.sessionOpen, .sessionClose, .getSharedMemory, .attachDevice, .detachDevice, .getStatus] := by decide
  simp only [List.map_cons, List.map_nil, List.cons.injEq] at hcodes
  obtain ⟨hopen, hclose, hmap, hattach, hdetach, hstatus, -⟩ := hcodes
  unfold Driver.evtIoDeviceControl
  rw [hopen, hclose, hmap, hattach, hdetach, hstatus]
  exact ⟨rfl, rfl, rfl, rfl, rfl, rfl⟩

theorem ioctl_sessionOpen (k : Kernel) (s : WindowsHost) : (s.ioctl (ctlCode 0x801) k).1 = (s.driver.sessionOpen k).1 ∧
    (s.ioctl (ctlCode 0x801) k).2.driver = (s.driver.sessionOpen k).2 ∧
    (s.ioctl (ctlCode 0x801) k).2.backend = s.backend := by
  rw [← (evtIoDeviceControl_codes k s.driver).1]
  exact ioctl_driver _ _ _

theorem ioctl_getSharedMemory (k : Kernel) (s : WindowsHost) : (s.ioctl (ctlCode 0x803) k).1 = (s.driver.getSharedMemory k).1 ∧
    (s.ioctl (ctlCode 0x803) k).2.driver = (s.driver.getSharedMemory k).2 ∧
    (s.ioctl (ctlCode 0x803) k).2.backend = s.backend := by
  rw [← (evtIoDeviceControl_codes k s.driver).2.2.1]
  exact ioctl_driver _ _ _

theorem sessionOpen_session (k : Kernel) (d : Driver) : (d.sessionOpen k).2.context = d.context ∧
    ((d.sessionOpen k).2.gSessionState = d.gSessionState ∨ (d.sessionOpen k).2.gSessionState = .sessionOpen) := by
  by_cases hmemory : d.gSharedMemory ≠ none ∨ k.allocation ≠ none
  · obtain ⟨hsession, -, hcontext, -⟩ := Driver.sessionOpen_opens hmemory
    exact ⟨hcontext, Or.inr hsession⟩
  · obtain ⟨hd, ha⟩ := not_or.mp hmemory
    obtain ⟨hsession, -, hcontext⟩ := Driver.sessionOpen_failed (not_not.mp hd) (not_not.mp ha)
    exact ⟨hcontext, Or.inl hsession⟩

theorem getSharedMemory_session (k : Kernel) (d : Driver) :
    (d.getSharedMemory k).2.gSessionState = d.gSessionState := by
  rw [Driver.getSharedMemory_state]
  cases hready : d.context.sharedMemoryReady with
  | true => rw [Driver.ensureSharedResources_ready hready]
  | false =>
    by_cases hk : k.CreatesResources
    · exact (Driver.ensureSharedResources_ok hready hk).2.2.2
    · exact (Driver.ensureSharedResources_failed hready hk).2.2.2

theorem closed_inv {d : Driver} (h : s.Kept) (hdriver : s.driver = d.sessionClose.2) (hb : s.backend = none) : s.Inv := by
  refine ⟨h, fun _ => ?_, ?_, ?_⟩
  · rw [hdriver]
    exact ⟨rfl, nofun⟩
  · rw [hb]
    exact nofun
  · rw [hb]
    exact nofun

theorem Inv.open (h : s.Inv) (hb : s.backend = none) (created : Bool) (sessionOpen getStatus : Kernel) :
    (s.open created sessionOpen getStatus).2.Inv := by
  obtain ⟨hcompletion, hdriver, hbackend⟩ := ioctl_sessionOpen sessionOpen s
  obtain ⟨hcontext, hsession⟩ := sessionOpen_session sessionOpen s.driver
  obtain ⟨hready, hidle⟩ := h.idle hb
  have hkept := h.kept.ioctl (ctlCode 0x801) sessionOpen
  unfold WindowsHost.open
  cases created with
  | false => exact h
  | true =>
    dsimp only
    rw [if_pos rfl]
    cases hioctl : s.ioctl (ctlCode 0x801) sessionOpen with
    | mk c opened =>
      rw [hioctl] at hcompletion hdriver hbackend hkept
      dsimp only at hcompletion hdriver hbackend hkept ⊢
      cases hresponse : OpenBackend.ofResponse c with
      | error e =>
        refine ⟨hkept, fun _ => ?_, ?_, ?_⟩
        · rw [hdriver, hcontext]
          refine ⟨hready, fun hattached => ?_⟩
          obtain hsame | hopened := hsession
          · exact hidle (hsame ▸ hattached)
          · exact nomatch hopened.symm.trans hattached
        · rw [hbackend, hb]
          exact nofun
        · rw [hbackend, hb]
          exact nofun
      | ok b =>
        rw [hcompletion] at hresponse
        obtain ⟨rfl, hopened⟩ := sessionOpen_admitted hresponse
        dsimp only
        cases hstatus : opened.ioctl (ctlCode 0x806) getStatus with
        | mk c queried =>
          have hqueried := ioctl_driver (ctlCode 0x806) getStatus opened
          have hkept' := hkept.ioctl (ctlCode 0x806) getStatus
          rw [hstatus, (evtIoDeviceControl_codes getStatus opened.driver).2.2.2.2.2, Driver.getStatus_device] at hqueried
          rw [hstatus] at hkept'
          obtain ⟨-, hdriver', hbackend'⟩ := hqueried
          dsimp only at hdriver' hbackend' hkept' ⊢
          cases OpenBackend.getStatus c with
          | error e =>
            have hclosed := ioctl_driver (ctlCode 0x802) getStatus queried
            rw [(evtIoDeviceControl_codes getStatus queried.driver).2.1] at hclosed
            refine closed_inv (hkept'.ioctl _ _) hclosed.2.1 ?_
            rw [hclosed.2.2, hbackend', hbackend, hb]
          | ok _ =>
            refine ⟨hkept'.of_same rfl rfl rfl, nofun, fun b hb => ?_, fun b mapping hb hmapping => ?_⟩
            · obtain rfl := Option.some.inj hb
              dsimp only
              rw [hdriver', hdriver, hopened]
              exact ⟨rfl, rfl, nofun⟩
            · obtain rfl := Option.some.inj hb
              cases hmapping

theorem Inv.mapSharedMemory (h : s.Inv) (hb : s.backend = some b) (k : Kernel) (view : Option ViewAddress) :
    (s.mapSharedMemory k view b).2.Inv := by
  obtain ⟨hcompletion, hdriver, hbackend⟩ := ioctl_getSharedMemory k s
  have hsession := getSharedMemory_session k s.driver
  have hkept := h.kept.ioctl (ctlCode 0x803) k
  obtain ⟨hid, hsize, hlive⟩ := h.opened b hb
  unfold WindowsHost.mapSharedMemory
  cases hmapping : b.sharedMemory with
  | some mapping => exact h
  | none =>
    dsimp only
    cases hioctl : s.ioctl (ctlCode 0x803) k with
    | mk c described =>
      rw [hioctl] at hcompletion hdriver hbackend hkept
      dsimp only at hcompletion hdriver hbackend hkept ⊢
      have hunmapped : described.Inv := by
        refine ⟨hkept, ?_, fun b' hb' => ?_, fun b' mapping hb' hmapping' => ?_⟩
        · rw [hbackend, hb]
          exact nofun
        · rw [hdriver, hsession]
          exact h.opened b' (hbackend ▸ hb')
        · obtain rfl := Option.some.inj (hb.symm.trans (hbackend ▸ hb'))
          exact nomatch hmapping.symm.trans hmapping'
      cases hinfo : OpenBackend.getSharedMemoryInfo c with
      | error e => exact hunmapped
      | ok info =>
        rw [hcompletion] at hinfo
        obtain ⟨rfl, hready⟩ := getSharedMemory_admitted hinfo
        rw [← hdriver] at hready
        obtain ⟨-, -, hdescribes⟩ := hkept.ready hready
        obtain ⟨hheader, -⟩ := hkept.rings _ (hkept.section hready).1
        rw [← hdriver]
        cases view with
        | none =>
          dsimp only [Option.map_none]
          unfold SharedMemoryMapping.map
          split_ifs <;> exact hunmapped
        | some v =>
          dsimp only [Option.map_some]
          cases hmap : SharedMemoryMapping.map described.driver.context.sharedMemoryInfo
              (some ⟨v.address, described.driver.section.header, v.nonnull, v.aligned⟩) with
          | error e => exact hunmapped
          | ok m =>
            obtain ⟨-, rfl⟩ := map_ok_iff.mp hmap
            refine ⟨hkept.of_same rfl rfl rfl, nofun, fun b' hb' => ?_, fun b' mapping hb' hmapping' => ?_⟩
            · obtain rfl := Option.some.inj hb'
              dsimp only
              rw [hdriver, hsession]
              exact ⟨hid, hsize, hlive⟩
            · obtain rfl := Option.some.inj hb'
              obtain rfl := Option.some.inj hmapping'
              exact ⟨hready, hdescribes.mappingSize, hdescribes.txRingOffset, hdescribes.rxRingOffset, hheader⟩

theorem Inv.attached (h : s.Inv) {code : UInt32} {session : WhyUsbSessionState} (hb : s.backend = some b)
    (hdriver : (s.ioctl code k).2.driver = { s.driver with gSessionState := session })
    (hlive : session ≠ .sessionClosed) : (s.ioctl code k).2.Inv := by
  obtain ⟨-, -, hbackend⟩ := ioctl_driver code k s
  refine ⟨h.kept.ioctl code k, ?_, fun b' hb' => ?_, fun b' mapping hb' hmapping => ?_⟩
  · rw [hbackend, hb]
    exact nofun
  · obtain ⟨hid, hsize, -⟩ := h.opened b' (hbackend ▸ hb')
    rw [hdriver]
    exact ⟨hid, hsize, hlive⟩
  · rw [hdriver]
    exact h.mapped b' mapping (hbackend ▸ hb') hmapping

theorem Inv.attachDevice (h : s.Inv) (hb : s.backend = some b) (k : Kernel) : (s.attachDevice k).2.Inv := by
  have hdriver := (ioctl_driver (ctlCode 0x804) k s).2.1
  rw [(evtIoDeviceControl_codes k s.driver).2.2.2.1] at hdriver
  exact h.attached hb hdriver nofun

theorem Inv.detachDevice (h : s.Inv) (hb : s.backend = some b) (k : Kernel) : (s.detachDevice k).2.Inv := by
  have hdriver := (ioctl_driver (ctlCode 0x805) k s).2.1
  rw [(evtIoDeviceControl_codes k s.driver).2.2.2.2.1] at hdriver
  exact h.attached hb hdriver nofun

theorem Inv.drop (h : s.Inv) (k : Kernel) : Inv { (s.ioctl (ctlCode 0x802) k).2 with backend := none } := by
  have hdriver := (ioctl_driver (ctlCode 0x802) k s).2.1
  rw [(evtIoDeviceControl_codes k s.driver).2.1] at hdriver
  refine ⟨(h.kept.ioctl (ctlCode 0x802) k).of_same rfl rfl rfl, fun _ => ?_, nofun, nofun⟩
  dsimp only
  rw [hdriver]
  exact ⟨rfl, nofun⟩

end

section
variable {s s' : WindowsHost}

theorem step_inv {a : WindowsAct} (h : s.Inv) (hs : step s a = some s') : s'.Inv := by
  cases a with
  | «open» created sessionOpen getStatus =>
    cases hb : s.backend with
    | some b => simp [step, hb] at hs
    | none =>
      obtain rfl : (s.open created sessionOpen getStatus).2 = s' := by simpa [step, hb] using hs
      exact h.open hb created sessionOpen getStatus
  | mapSharedMemory k view =>
    obtain ⟨b, hb, rfl⟩ := Option.map_eq_some_iff.mp hs
    exact h.mapSharedMemory hb k view
  | attachDevice k =>
    obtain ⟨b, hb, rfl⟩ := Option.map_eq_some_iff.mp hs
    exact h.attachDevice hb k
  | detachDevice k =>
    obtain ⟨b, hb, rfl⟩ := Option.map_eq_some_iff.mp hs
    exact h.detachDevice hb k
  | pushRxBytes bytes setEvent =>
    obtain ⟨b, hb, rfl⟩ := Option.map_eq_some_iff.mp hs
    exact h.pushRxBytes hb bytes setEvent
  | pollTxFrame =>
    obtain ⟨b, hb, rfl⟩ := Option.map_eq_some_iff.mp hs
    exact h.pollTxFrame hb
  | drop k =>
    obtain ⟨b, hb, rfl⟩ := Option.map_eq_some_iff.mp hs
    exact h.drop k
  | interceptUrb urb =>
    obtain rfl := Option.some.inj hs
    exact h.interceptUrb urb
  | mockDriverPumpOnce =>
    obtain rfl := Option.some.inj hs
    exact h.mockDriverPumpOnce

end

def start (address : UInt64) (memory : UInt64 → SharedMemoryLayout) : WindowsHost :=
  ⟨(Driver.driverEntry (some address) memory).2, none, .new, .new⟩

theorem start_inv (address : UInt64) (memory : UInt64 → SharedMemoryLayout) : (start address memory).Inv := by
  refine ⟨⟨nofun, fun m hm => ?_, List.prefix_refl _, List.prefix_refl _⟩, fun _ => ⟨rfl, nofun⟩, nofun, nofun⟩
  have hinitial : (start address memory).driver.rings = some .initial := by
    show some (Function.update memory address .initial address) = some .initial
    rw [Function.update_self]
  obtain rfl := Option.some.inj (hinitial.symm.trans hm)
  exact ⟨rfl, RingBook.new_fills⟩

structure Sound (s : WindowsHost) : Prop where
  session : ∀ b, s.backend = some b →
    b.sessionId = Driver.gSessionId ∧ b.maxFrameSize = 64 * 1024 ∧ s.driver.gSessionState ≠ .sessionClosed
  idle : s.backend = none → s.driver.gSessionState ≠ .sessionAttached
  shared : ∀ b mapping, s.backend = some b → b.sharedMemory = some mapping →
    s.driver.rings = some s.driver.section ∧
      ∃ tx rx, mapping.txRing = .ok tx ∧ mapping.rxRing = .ok rx ∧
        Separate mapping.mappingSize.toNat mapping.view tx rx
  rings : ∀ m, s.driver.rings = some m → s.tx.Fills m.txRing ∧ s.rx.Fills m.rxRing
  tx : s.tx.popped <+: s.tx.pushed
  rx : s.rx.popped <+: s.rx.pushed

theorem Inv.sound {s : WindowsHost} (h : s.Inv) : s.Sound where
  session := h.opened
  idle hb := (h.idle hb).2
  shared b mapping hb hmapping := by
    obtain ⟨hready, hmaps⟩ := h.mapped b mapping hb hmapping
    obtain ⟨⟨tx, htx, -⟩, rx, hrx, -⟩ := hmaps.rings
    exact ⟨(h.kept.section hready).1, tx, rx, htx, hrx, hmaps.separate htx hrx⟩
  rings m hm := (h.kept.rings m hm).2
  tx := h.kept.tx
  rx := h.kept.rx

/-- For every run of the daemon and the driver and whatever the kernel answers: an open backend has the driver's
session, a mapped one works on the driver's rings, and neither side takes a frame that the other has not pushed, twice
or out of order. -/
theorem host_sound (address : UInt64) (memory : UInt64 → SharedMemoryLayout) (as : List WindowsAct) (s : WindowsHost)
    (h : run step (start address memory) as = some s) : s.Sound :=
  (run_invariant (P := Inv) (fun _ _ _ hi hs => step_inv hi hs) (start_inv address memory) h).sound

def hostView : ViewAddress where
  address := initialView.address
  nonnull := initialView.nonnull
  aligned := initialView.aligned

/-- A daemon that opens and maps, and a driver that echoes. -/
def echoed : List WindowsAct :=
  [.open true (Driver.grantingKernel statusSuccess) (Driver.grantingKernel statusSuccess),
    .mapSharedMemory (Driver.grantingKernel statusSuccess) (some hostView),
    .attachDevice (Driver.grantingKernel statusSuccess), .interceptUrb [1, 2, 3], .pushRxBytes [4, 5] true,
    .mockDriverPumpOnce, .pollTxFrame, .pollTxFrame]

theorem host_sound_echoed : ∃ s, run step (start 0x1000 fun _ => .initial) echoed = some s ∧
    s.tx.popped = [[1, 2, 3], [4, 5]] ∧ s.Sound := by
  have hpopped : (run step (start 0x1000 fun _ => .initial) echoed).map (fun s => s.tx.popped) =
      some [[1, 2, 3], [4, 5]] := by decide +kernel
  obtain ⟨s, h, htx⟩ := Option.map_eq_some_iff.mp hpopped
  exact ⟨s, h, htx, host_sound _ _ _ _ h⟩

/-! ## The status -/

/-- The session of the driver, and to the byte what was pushed into each ring and not popped. -/
structure Reports (s : WindowsHost) (response : StatusResponse) : Prop where
  session : response.sessionId = Driver.gSessionId ∧ response.sessionState = s.driver.gSessionState.asU32
  mapped : response.status = 0 ↔
    s.driver.context.sharedMemoryReady = true ∨ s.driver.gSessionState = .sessionClosed
  tx : ∃ queued, s.tx.popped ++ queued = s.tx.pushed ∧ response.txQueuedBytes.toNat = (entries queued).length
  rx : ∃ queued, s.rx.popped ++ queued = s.rx.pushed ∧ response.rxQueuedBytes.toNat = (entries queued).length

section
variable {s : WindowsHost}

theorem Inv.reports (h : s.Inv) {m : SharedMemoryLayout} (hm : s.driver.rings = some m) :
    s.Reports (s.driver.statusResponse m) := by
  obtain ⟨-, htx, hrx⟩ := h.kept.rings m hm
  refine ⟨⟨rfl, rfl⟩, ?_, htx.queued, hrx.queued⟩
  unfold Driver.statusResponse
  dsimp only
  have hunsupported : whyUsbStatusUnsupported ≠ 0 := by decide
  by_cases hunmapped : s.driver.context.sharedMemoryReady = false ∧ s.driver.gSessionState ≠ .sessionClosed
  · rw [if_pos hunmapped]
    refine iff_of_false hunsupported ?_
    rintro (hready | hclosed)
    · exact nomatch hunmapped.1.symm.trans hready
    · exact hunmapped.2 hclosed
  · rw [if_neg hunmapped]
    refine iff_of_true rfl ?_
    by_cases hready : s.driver.context.sharedMemoryReady = true
    · exact Or.inl hready
    · refine Or.inr (not_not.mp fun hlive => hunmapped ⟨?_, hlive⟩)
      exact Bool.not_eq_true _ ▸ hready

end

/-- In every run: a status that the daemon is given tells the session and, to the byte, what each ring holds; and it is
given exactly where the driver has rings and the kernel a buffer for it. -/
theorem status_reports (address : UInt64) (memory : UInt64 → SharedMemoryLayout) (as : List WindowsAct)
    (s : WindowsHost) (k : Kernel) (h : run step (start address memory) as = some s) :
    (∀ response, OpenBackend.getStatus (s.ioctl (ctlCode 0x806) k).1 = .ok response → s.Reports response) ∧
      ((∃ response, OpenBackend.getStatus (s.ioctl (ctlCode 0x806) k).1 = .ok response) ↔
        s.driver.gSharedMemory ≠ none ∧ NtSuccess k.retrieveOutputBuffer) := by
  have hinv := run_invariant (P := Inv) (fun _ _ _ hi hs => step_inv hi hs) (start_inv address memory) h
  have hcompletion : (s.ioctl (ctlCode 0x806) k).1 = (s.driver.getStatus k).1 := by
    rw [(ioctl_driver _ _ _).1, (evtIoDeviceControl_codes k s.driver).2.2.2.2.2]
  rw [hcompletion]
  constructor
  · intro response hresponse
    obtain ⟨-, m, hm, rfl⟩ := getStatus_admitted.mp hresponse
    exact hinv.reports hm
  · constructor
    · rintro ⟨response, hresponse⟩
      obtain ⟨hbuffer, m, hm, -⟩ := getStatus_admitted.mp hresponse
      refine ⟨fun hnone => ?_, hbuffer⟩
      rw [Driver.rings, hnone] at hm
      cases hm
    · rintro ⟨hsome, hbuffer⟩
      obtain ⟨pointer, hpointer⟩ := Option.ne_none_iff_exists'.mp hsome
      exact ⟨_, getStatus_admitted.mpr ⟨hbuffer, _, rings_of_pointer hpointer, rfl⟩⟩

/-- A frame of three bytes waits in the TX ring and one of two in the RX ring. -/
theorem status_reports_echoed : ∃ s response, run step (start 0x1000 fun _ => .initial) (echoed.take 5) = some s ∧
    OpenBackend.getStatus (s.ioctl (ctlCode 0x806) (Driver.grantingKernel statusSuccess)).1 = .ok response ∧
    response.status = 0 ∧ response.sessionState = WhyUsbSessionState.sessionAttached.asU32 ∧
    response.txQueuedBytes = 7 ∧ response.rxQueuedBytes = 6 ∧ s.Reports response := by
  have hanswer : (run step (start 0x1000 fun _ => .initial) (echoed.take 5)).map (fun s =>
      (OpenBackend.getStatus (s.ioctl (ctlCode 0x806) (Driver.grantingKernel statusSuccess)).1).toOption.map
        fun response => (response.status, response.sessionState, response.txQueuedBytes, response.rxQueuedBytes)) =
      some (some (0, WhyUsbSessionState.sessionAttached.asU32, 7, 6)) := by
    decide +kernel
  obtain ⟨s, hrun, hs⟩ := Option.map_eq_some_iff.mp hanswer
  have hreports := (status_reports _ _ _ s (Driver.grantingKernel statusSuccess) hrun).1
  cases hcall : OpenBackend.getStatus (s.ioctl (ctlCode 0x806) (Driver.grantingKernel statusSuccess)).1 with
  | error e =>
    rw [hcall] at hs
    cases hs
  | ok response =>
    rw [hcall, Except.toOption, Option.map_some, Option.some.injEq] at hs
    obtain ⟨hstatus, hs⟩ := Prod.mk.inj hs
    obtain ⟨hstate, hs⟩ := Prod.mk.inj hs
    obtain ⟨htx, hrx⟩ := Prod.mk.inj hs
    exact ⟨s, response, hrun, hcall, hstatus, hstate, htx, hrx, hreports response hcall⟩

end WindowsHost

end WhyUsb
