import WhyUsb.Driver.Device

/-!
# The memory of an open session

While the shared memory is ready, the pointer to the rings is the view of the
section; nothing else can be said of an open session. A session that was not
opened can be attached, and resources that cannot be created take the rings of
an open session away. In runs without these requests every open session has its
rings, so that `GET_STATUS` never finds the device in an invalid state.
-/

namespace WhyUsb

open Lts

def Kernel.CreatesResources (k : Kernel) : Prop :=
  NtSuccess k.zwCreateSection.status ∧ NtSuccess k.zwMapViewOfSection.status ∧
    NtSuccess k.zwCreateTxEvent.status ∧ NtSuccess k.zwCreateRxEvent.status

namespace Driver

/-- `GET_STATUS` does not fail for want of a device, whatever memory it finds. -/
def StatusAnswers (d : Driver) : Prop :=
  ∀ io : Ioctl, IoControlCode.ofCode io.code = .getStatus →
    io.kernel.retrieveOutputBuffer ≠ statusInvalidDeviceState → (d.handle io).1.status ≠ statusInvalidDeviceState

/-- The request `code` takes a session from `before` to that of `d'` as the lifecycle allows. -/
structure Sound (before : WhyUsbSessionState) (code : UInt32) (c : Completion) (d' : Driver) : Prop where
  leavesClosed : before = .sessionClosed → d'.gSessionState ≠ .sessionClosed →
    IoControlCode.ofCode code = .sessionOpen ∧ NtSuccess c.status
  entersAttached : d'.gSessionState = .sessionAttached → before = .sessionOpen ∨ before = .sessionAttached
  memory : d'.gSessionState ≠ .sessionClosed →
    d'.gSharedMemory ≠ none ∧ (d'.context.sharedMemoryReady = true → d'.gSharedMemory = d'.context.sectionView)
  status : d'.gSessionState ≠ .sessionClosed → d'.StatusAnswers

def SoundStep (d : Driver) (io : Ioctl) : Prop := Sound d.gSessionState io.code (d.handle io).1 (d.handle io).2

/-- A closed session is neither attached nor detached, nor opened without a buffer for the response; and the
resources that an open one asks for are created. -/
def InOrder (d : Driver) (io : Ioctl) : Prop :=
  match IoControlCode.ofCode io.code with
  | .sessionOpen =>
    d.gSessionState = .sessionClosed → d.gSharedMemory ≠ none ∨ io.kernel.allocation ≠ none →
      NtSuccess io.kernel.retrieveOutputBuffer
  | .getSharedMemory =>
    d.gSessionState ≠ .sessionClosed → d.context.sharedMemoryReady = false → io.kernel.CreatesResources
  | .attachDevice | .detachDevice => d.gSessionState ≠ .sessionClosed
  | .sessionClose | .getStatus | .unknown => True

structure Inv (d : Driver) : Prop where
  ready : d.context.sharedMemoryReady = true → d.gSharedMemory ≠ none ∧ d.gSharedMemory = d.context.sectionView
  live : d.gSessionState ≠ .sessionClosed → d.gSharedMemory ≠ none

section
variable {d : Driver} {k : Kernel}

/-! ## The memory context -/

theorem ensureDriverMemoryContext_ready (h : d.gSharedMemory ≠ none) :
    d.ensureDriverMemoryContext k = (statusSuccess, d) := by
  obtain ⟨address, haddress⟩ := Option.ne_none_iff_exists'.mp h
  simp [ensureDriverMemoryContext, Vhci.getDriverStatus, haddress]

theorem ensureDriverMemoryContext_init (h : d.gSharedMemory = none) {address : UInt64}
    (ha : k.allocation = some address) :
    (d.ensureDriverMemoryContext k).1 = statusSuccess ∧
      (d.ensureDriverMemoryContext k).2.gSharedMemory = some address ∧
      (d.ensureDriverMemoryContext k).2.gSessionState = d.gSessionState ∧
      (d.ensureDriverMemoryContext k).2.context = d.context := by
  simp [ensureDriverMemoryContext, Vhci.getDriverStatus, Vhci.initVhciDriver, h, ha]

theorem ensureDriverMemoryContext_failed (h : d.gSharedMemory = none) (ha : k.allocation = none) :
    (d.ensureDriverMemoryContext k).1 = statusUnsuccessful ∧
      (d.ensureDriverMemoryContext k).2.gSharedMemory = none ∧
      (d.ensureDriverMemoryContext k).2.gSessionState = d.gSessionState ∧
      (d.ensureDriverMemoryContext k).2.context = d.context := by
  simp [ensureDriverMemoryContext, Vhci.getDriverStatus, Vhci.initVhciDriver, Vhci.releaseOwnedSharedMemory, h, ha]

theorem createSharedResources_ok (h : k.CreatesResources) :
    NtSuccess (d.createSharedResources k).1 ∧
      (d.createSharedResources k).2.gSharedMemory = some k.zwMapViewOfSection.out ∧
      (d.createSharedResources k).2.context.sectionView = some k.zwMapViewOfSection.out ∧
      (d.createSharedResources k).2.gSessionState = d.gSessionState := by
  obtain ⟨hsection, hview, htx, hrx⟩ := h
  simp [createSharedResources, Vhci.useExternalSharedMemoryContext, hsection, hview, htx, hrx]

theorem createSharedResources_failed (h : ¬ k.CreatesResources) :
    ¬ NtSuccess (d.createSharedResources k).1 ∧
      (d.createSharedResources k).2.gSessionState = d.gSessionState := by
  by_cases hsection : NtSuccess k.zwCreateSection.status
  · by_cases hview : NtSuccess k.zwMapViewOfSection.status
    · by_cases htx : NtSuccess k.zwCreateTxEvent.status
      · have hrx : ¬ NtSuccess k.zwCreateRxEvent.status := fun hrx => h ⟨hsection, hview, htx, hrx⟩
        simp [createSharedResources, hsection, hview, htx, hrx]
      · simp [createSharedResources, hsection, hview, htx]
    · simp [createSharedResources, hsection, hview]
  · simp [createSharedResources, hsection]

theorem ensureSharedResources_ready (h : d.context.sharedMemoryReady = true) :
    d.ensureSharedResources k = (statusSuccess, d) := by
  simp [ensureSharedResources, h]

theorem ensureSharedResources_ok (h : d.context.sharedMemoryReady = false) (hk : k.CreatesResources) :
    (d.ensureSharedResources k).1 = statusSuccess ∧
      (d.ensureSharedResources k).2.gSharedMemory = some k.zwMapViewOfSection.out ∧
      (d.ensureSharedResources k).2.context.sectionView = some k.zwMapViewOfSection.out ∧
      (d.ensureSharedResources k).2.gSessionState = d.gSessionState := by
  obtain ⟨hok, hmemory, hview, hstate⟩ := createSharedResources_ok (d := d) hk
  simp [ensureSharedResources, Vhci.getSharedMemoryInfo, h, hok, hmemory, hview, hstate]

/-- A failure takes the memory away, also that of a session opened without it. -/
theorem ensureSharedResources_failed (h : d.context.sharedMemoryReady = false) (hk : ¬ k.CreatesResources) :
    ¬ NtSuccess (d.ensureSharedResources k).1 ∧ (d.ensureSharedResources k).2.gSharedMemory = none ∧
      (d.ensureSharedResources k).2.context.sharedMemoryReady = false ∧
      (d.ensureSharedResources k).2.gSessionState = d.gSessionState := by
  obtain ⟨hfailed, hstate⟩ := createSharedResources_failed (d := d) hk
  simp [ensureSharedResources, closeSharedResources, Vhci.useExternalSharedMemoryContext, DeviceContext.zeroed, h,
    hfailed, hstate]

/-! ## Requests -/

theorem completeWithStruct_success {value : IoctlOutput} :
    NtSuccess (completeWithStruct k value).status ↔ NtSuccess k.retrieveOutputBuffer := by
  by_cases h : NtSuccess k.retrieveOutputBuffer
  · simp [completeWithStruct, h, statusSuccess]
  · simp [completeWithStruct, complete, h]

theorem completeWithStruct_valid {value : IoctlOutput} (h : k.retrieveOutputBuffer ≠ statusInvalidDeviceState) :
    (completeWithStruct k value).status ≠ statusInvalidDeviceState := by
  by_cases hk : NtSuccess k.retrieveOutputBuffer
  · simp only [completeWithStruct, hk, not_true, if_false]
    decide
  · simpa [completeWithStruct, complete, hk] using h

/-- An open needs the memory context; the state changes before the response is known to fit. -/
theorem sessionOpen_opens (h : d.gSharedMemory ≠ none ∨ k.allocation ≠ none) :
    (d.sessionOpen k).2.gSessionState = .sessionOpen ∧ (d.sessionOpen k).2.gSharedMemory ≠ none ∧
      (d.sessionOpen k).2.context = d.context ∧
      (d.gSharedMemory ≠ none → (d.sessionOpen k).2.gSharedMemory = d.gSharedMemory) ∧
      (NtSuccess (d.sessionOpen k).1.status ↔ NtSuccess k.retrieveOutputBuffer) := by
  have hsuccess : NtSuccess statusSuccess := by decide
  by_cases hd : d.gSharedMemory = none
  · obtain ⟨address, ha⟩ := Option.ne_none_iff_exists'.mp (h.resolve_left (not_not_intro hd))
    obtain ⟨hok, hmemory, -, hcontext⟩ := ensureDriverMemoryContext_init hd ha
    simp [sessionOpen, hok, hsuccess, hmemory, hcontext, hd, completeWithStruct_success]
  · simp [sessionOpen, ensureDriverMemoryContext_ready hd, hsuccess, hd, completeWithStruct_success]

theorem sessionOpen_failed (h : d.gSharedMemory = none) (ha : k.allocation = none) :
    (d.sessionOpen k).2.gSessionState = d.gSessionState ∧ (d.sessionOpen k).2.gSharedMemory = none ∧
      (d.sessionOpen k).2.context = d.context := by
  obtain ⟨hfailed, hmemory, hstate, hcontext⟩ := ensureDriverMemoryContext_failed h ha
  have hunsuccessful : ¬ NtSuccess statusUnsuccessful := by decide
  simp [sessionOpen, hfailed, hunsuccessful, hmemory, hstate, hcontext]

theorem getSharedMemory_state : (d.getSharedMemory k).2 = (d.ensureSharedResources k).2 := by
  unfold getSharedMemory
  split
  rename_i status d' heq
  rw [heq]
  split <;> rfl

theorem getStatus_device : (d.getStatus k).2 = d := by
  unfold getStatus
  split <;> rfl

theorem statusAnswers_of_memory (h : d.gSharedMemory ≠ none) : d.StatusAnswers := by
  intro io hcode hbuffer
  obtain ⟨address, ha⟩ := Option.ne_none_iff_exists'.mp h
  simp only [handle, evtIoDeviceControl, hcode, getStatus, Vhci.getDriverStatus, ha, Option.map_some]
  exact completeWithStruct_valid hbuffer

end

/-! ## One request -/

section
variable {d d' : Driver} {k : Kernel} {io : Ioctl} {code : UInt32} {c : Completion}

theorem Inv.sound {before : WhyUsbSessionState} (h : Inv d')
    (hleaves : before = .sessionClosed → d'.gSessionState ≠ .sessionClosed →
      IoControlCode.ofCode code = .sessionOpen ∧ NtSuccess c.status)
    (henters : d'.gSessionState = .sessionAttached → before = .sessionOpen ∨ before = .sessionAttached) :
    Sound before code c d' where
  leavesClosed := hleaves
  entersAttached := henters
  memory hlive := ⟨h.live hlive, fun hready => (h.ready hready).2⟩
  status hlive := statusAnswers_of_memory (h.live hlive)

theorem Inv.sound_of_same (h : Inv d') (hstate : d'.gSessionState = d.gSessionState) :
    Sound d.gSessionState code c d' := by
  refine h.sound (fun hclosed hleft => absurd (hstate.trans hclosed) hleft) (fun hattached => Or.inr ?_)
  rw [← hstate, hattached]

theorem sessionOpen_sound (h : Inv d) (hcode : IoControlCode.ofCode code = .sessionOpen)
    (ho : d.gSessionState = .sessionClosed → d.gSharedMemory ≠ none ∨ k.allocation ≠ none →
      NtSuccess k.retrieveOutputBuffer) :
    Sound d.gSessionState code (d.sessionOpen k).1 (d.sessionOpen k).2 ∧ Inv (d.sessionOpen k).2 := by
  by_cases hmemory : d.gSharedMemory ≠ none ∨ k.allocation ≠ none
  · obtain ⟨hstate, hsome, hcontext, hsame, hsuccess⟩ := sessionOpen_opens hmemory
    have hinv : Inv (d.sessionOpen k).2 := by
      refine ⟨fun hready => ⟨hsome, ?_⟩, fun _ => hsome⟩
      rw [hcontext] at hready ⊢
      obtain ⟨hne, hview⟩ := h.ready hready
      rw [hsame hne, hview]
    refine ⟨hinv.sound (fun hclosed _ => ⟨hcode, hsuccess.mpr (ho hclosed hmemory)⟩) (fun hattached => ?_), hinv⟩
    rw [hstate] at hattached
    cases hattached
  · obtain ⟨hd, ha⟩ := not_or.mp hmemory
    obtain ⟨hstate, hnone, hcontext⟩ := sessionOpen_failed (not_not.mp hd) (not_not.mp ha)
    have hinv : Inv (d.sessionOpen k).2 := by
      refine ⟨fun hready => ?_, fun hlive => ?_⟩
      · rw [hcontext] at hready
        exact absurd (h.ready hready).1 hd
      · rw [hstate] at hlive
        exact absurd (h.live hlive) hd
    exact ⟨hinv.sound_of_same hstate, hinv⟩

theorem getSharedMemory_sound (h : Inv d)
    (ho : d.gSessionState ≠ .sessionClosed → d.context.sharedMemoryReady = false → k.CreatesResources) :
    Sound d.gSessionState code (d.getSharedMemory k).1 (d.getSharedMemory k).2 ∧ Inv (d.getSharedMemory k).2 := by
  rw [getSharedMemory_state]
  cases hready : d.context.sharedMemoryReady with
  | true =>
    rw [ensureSharedResources_ready hready]
    exact ⟨h.sound_of_same rfl, h⟩
  | false =>
    by_cases hk : k.CreatesResources
    · obtain ⟨-, hmemory, hview, hstate⟩ := ensureSharedResources_ok hready hk
      have hinv : Inv (d.ensureSharedResources k).2 := by
        constructor <;> simp [hmemory, hview]
      exact ⟨hinv.sound_of_same hstate, hinv⟩
    · obtain ⟨-, hnone, hnotReady, hstate⟩ := ensureSharedResources_failed hready hk
      have hclosed : d.gSessionState = .sessionClosed := by
        by_contra hlive
        exact hk (ho hlive hready)
      have hinv : Inv (d.ensureSharedResources k).2 := by
        constructor <;> simp [hnotReady, hstate, hclosed]
      exact ⟨hinv.sound_of_same hstate, hinv⟩

theorem sessionClose_sound : Sound d.gSessionState code d.sessionClose.1 d.sessionClose.2 ∧ Inv d.sessionClose.2 := by
  have hinv : Inv d.sessionClose.2 := by
    constructor <;> simp [sessionClose, closeSharedResources, DeviceContext.zeroed]
  refine ⟨hinv.sound (fun _ hleft => absurd rfl hleft) (fun hattached => ?_), hinv⟩
  cases hattached

theorem attachDevice_sound (h : Inv d) (ho : d.gSessionState ≠ .sessionClosed) :
    Sound d.gSessionState code d.attachDevice.1 d.attachDevice.2 ∧ Inv d.attachDevice.2 := by
  have hinv : Inv d.attachDevice.2 := ⟨h.ready, fun _ => h.live ho⟩
  refine ⟨hinv.sound (fun hclosed _ => absurd hclosed ho) (fun _ => ?_), hinv⟩
  cases hs : d.gSessionState with
  | sessionClosed => exact absurd hs ho
  | sessionOpen => exact Or.inl rfl
  | sessionAttached => exact Or.inr rfl

theorem detachDevice_sound (h : Inv d) (ho : d.gSessionState ≠ .sessionClosed) :
    Sound d.gSessionState code d.detachDevice.1 d.detachDevice.2 ∧ Inv d.detachDevice.2 := by
  have hinv : Inv d.detachDevice.2 := ⟨h.ready, fun _ => h.live ho⟩
  refine ⟨hinv.sound (fun hclosed _ => absurd hclosed ho) (fun hattached => ?_), hinv⟩
  cases hattached

theorem evtIoDeviceControl_sound (h : Inv d) (ho : InOrder d io) :
    Sound d.gSessionState io.code (d.evtIoDeviceControl io.code io.kernel).1
        (d.evtIoDeviceControl io.code io.kernel).2 ∧
      Inv (d.evtIoDeviceControl io.code io.kernel).2 := by
  unfold InOrder at ho
  unfold evtIoDeviceControl
  cases hcode : IoControlCode.ofCode io.code with
  | sessionOpen =>
    rw [hcode] at ho
    exact sessionOpen_sound h hcode ho
  | sessionClose => exact sessionClose_sound
  | getSharedMemory =>
    rw [hcode] at ho
    exact getSharedMemory_sound h ho
  | attachDevice =>
    rw [hcode] at ho
    exact attachDevice_sound h ho
  | detachDevice =>
    rw [hcode] at ho
    exact detachDevice_sound h ho
  | getStatus =>
    dsimp only
    rw [getStatus_device]
    exact ⟨h.sound_of_same rfl, h⟩
  | unknown => exact ⟨h.sound_of_same rfl, h⟩

/-- A request out of order breaks the lifecycle. -/
theorem inOrder_of_sound (hs : Sound d.gSessionState io.code (d.evtIoDeviceControl io.code io.kernel).1
    (d.evtIoDeviceControl io.code io.kernel).2) : InOrder d io := by
  unfold evtIoDeviceControl at hs
  unfold InOrder
  cases hcode : IoControlCode.ofCode io.code with
  | sessionOpen =>
    intro hclosed hmemory
    rw [hcode] at hs
    obtain ⟨hstate, -, -, -, hsuccess⟩ := sessionOpen_opens hmemory
    refine hsuccess.mp (hs.leavesClosed hclosed ?_).2
    dsimp only
    rw [hstate]
    exact fun h => nomatch h
  | getSharedMemory =>
    intro hlive hready
    rw [hcode] at hs
    by_contra hk
    obtain ⟨-, hnone, -, hstate⟩ := ensureSharedResources_failed hready hk
    have hmemory := hs.memory
    dsimp only at hmemory
    rw [getSharedMemory_state, hstate] at hmemory
    exact (hmemory hlive).1 hnone
  | attachDevice =>
    intro hclosed
    rw [hcode] at hs
    have hopen := (hs.leavesClosed hclosed (fun h => nomatch h)).1
    rw [hcode] at hopen
    cases hopen
  | detachDevice =>
    intro hclosed
    rw [hcode] at hs
    have hopen := (hs.leavesClosed hclosed (fun h => nomatch h)).1
    rw [hcode] at hopen
    cases hopen
  | sessionClose => trivial
  | getStatus => trivial
  | unknown => trivial

theorem soundStep_iff (h : Inv d) : SoundStep d io ↔ InOrder d io :=
  ⟨fun hs => inOrder_of_sound (d := { d with memory := io.memory }) hs,
    fun ho => (evtIoDeviceControl_sound (d := { d with memory := io.memory }) ⟨h.ready, h.live⟩ ho).1⟩

theorem step_inv {d' : Driver} (h : Inv d) (ho : InOrder d io) (hstep : step d io = some d') : Inv d' := by
  rw [step, Option.some.injEq] at hstep
  exact hstep ▸ (evtIoDeviceControl_sound (d := { d with memory := io.memory }) ⟨h.ready, h.live⟩ ho).2

end

theorem driverEntry_inv (address : UInt64) (memory : UInt64 → SharedMemoryLayout) :
    Inv (driverEntry (some address) memory).2 where
  ready hready := nomatch hready
  live hlive := absurd rfl hlive

/-- After a `DriverEntry` that succeeds: all requests of a run keep the lifecycle exactly when all are in order. -/
theorem sessions_sound_iff (address : UInt64) (memory : UInt64 → SharedMemoryLayout) (ios : List Ioctl) :
    Along step SoundStep (driverEntry (some address) memory).2 ios ↔
      Along step InOrder (driverEntry (some address) memory).2 ios := by
  exact along_iff (P := Inv) (fun _ _ h => soundStep_iff h)
    (fun _ _ _ h hs hstep => step_inv h ((soundStep_iff h).mp hs) hstep) (driverEntry_inv address memory)

/-! ## A session that loses its memory -/

/-- A kernel that grants everything but, where `txEvent` is a failure, the TX event. -/
def grantingKernel (txEvent : NtStatus) : Kernel where
  allocation := some 0x1000
  zwCreateSection := ⟨statusSuccess, 4⟩
  zwMapViewOfSection := ⟨statusSuccess, 0x2000⟩
  zwCreateTxEvent := ⟨txEvent, 8⟩
  zwCreateRxEvent := ⟨statusSuccess, 12⟩
  retrieveOutputBuffer := statusSuccess

def statusInsufficientResources : NtStatus := (0xc000009a : UInt32).toInt32

def failedResources (memory : UInt64 → SharedMemoryLayout) : List Ioctl :=
  [⟨ctlCode 0x801, grantingKernel statusSuccess, memory⟩, ⟨ctlCode 0x803, grantingKernel statusInsufficientResources, memory⟩]

/-- After `SESSION_OPEN` and a `GET_SHARED_MEMORY` that fails, `GET_STATUS` fails inside the open session. -/
theorem failedResources_not_sound :
    ∃ d, run step (driverEntry (some 0x1000) fun _ => .initial).2 (failedResources fun _ => .initial) = some d ∧
      d.gSessionState = .sessionOpen ∧
      (d.handle ⟨ctlCode 0x806, grantingKernel statusSuccess, fun _ => .initial⟩).1.status =
        statusInvalidDeviceState ∧
      ¬ Along step SoundStep (driverEntry (some 0x1000) fun _ => .initial).2 (failedResources fun _ => .initial) := by
  refine ⟨_, rfl, by decide, by decide, fun ⟨_, h⟩ => ?_⟩
  exact ((h _ rfl).1.memory (by decide)).1 (by decide)

end Driver

end WhyUsb
