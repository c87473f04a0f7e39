import WhyUsb.Driver.Resources
import WhyUsb.Driver.WindowsRuns

/-!
# The handles that the daemon and the driver share

The driver makes the handles in the context of the daemon's request, and both
keep them: the driver to close them with the session, the backend in the
`DeviceHandle`s of its mapping, which close what they hold when they are
dropped. The backend's own `Drop`, which closes the session, runs before them.
-/

namespace WhyUsb

open Lts Ownership

namespace SharedMemoryMapping

def handles (m : SharedMemoryMapping) : List UInt64 := m.sectionHandle :: (m.txEvent.toList ++ m.rxEvent.toList)

/-- The fields of a dropped mapping, in their order. -/
def dropTrace (m : SharedMemoryMapping) : KernelTrace := m.handles.map fun value => .release (.handle value)

structure Names (m : SharedMemoryMapping) (info : SharedMemoryInfo) : Prop where
  «section» : m.sectionHandle = info.sectionHandle
  tx : m.txEvent = nonNullHandle info.txEventHandle
  rx : m.rxEvent = nonNullHandle info.rxEventHandle

end SharedMemoryMapping

/-- What the fields of a dropped backend close, after its `Drop`. -/
def OpenBackend.dropTrace (b : OpenBackend) : KernelTrace :=
  match b.sharedMemory with
  | none => []
  | some m => m.dropTrace

theorem nonNullHandle_eq_some {value handle : UInt64} (h : nonNullHandle value = some handle) : value = handle := by
  unfold nonNullHandle at h
  split at h
  · cases h
  · exact Option.some.inj h

namespace WindowsHost

/-- The driver keeps its objects in order, and a mapping has the handles that the driver has given. -/
structure Linked (s : WindowsHost) : Prop where
  kept : s.driver.Kept
  mapped : ∀ b m, s.backend = some b → b.sharedMemory = some m → m.Names s.driver.context.sharedMemoryInfo

section
variable {s s' : WindowsHost} {b : OpenBackend} {k : Kernel} {code : UInt32}

theorem Linked.of_unmapped (hkept : s.driver.Kept) (hunmapped : ∀ b, s.backend = some b → b.sharedMemory = none) :
    s.Linked :=
  ⟨hkept, fun b _ hb hm => absurd ((hunmapped b hb).symm.trans hm) (Option.some_ne_none _).symm⟩

theorem Linked.of_closed (hkept : s.driver.Kept) (hnone : s.backend = none) : s.Linked :=
  .of_unmapped hkept fun _ hb => absurd (hnone.symm.trans hb) (Option.some_ne_none _).symm

theorem Linked.of_context (h : s.Linked) (hbackend : s'.backend = s.backend)
    (hcontext : s'.driver.context = s.driver.context) (hmemory : s'.driver.gSharedMemory = s.driver.gSharedMemory)
    (howner : s'.driver.gOwnsSharedMemory = s.driver.gOwnsSharedMemory) : s'.Linked := by
  refine ⟨⟨?_, ?_, ?_⟩, ?_⟩
  · rw [hcontext, hmemory, howner]
    exact h.kept.idle
  · rw [hcontext, hmemory, howner]
    exact h.kept.ready
  · rw [hcontext]
    exact h.kept.given
  · rw [hbackend, hcontext]
    exact h.mapped

theorem ioctl_kept (h : s.driver.Kept) (code : UInt32) (k : Kernel) : (s.ioctl code k).2.driver.Kept := by
  rw [(ioctl_driver code k s).2.1]
  exact (Driver.evtIoDeviceControlTrace_settles h code).2

theorem Linked.setRings (h : s.Linked) (m : SharedMemoryLayout) (tx rx : RingBook) :
    Linked { s with
      driver := s.driver.setRings m
      tx := tx
      rx := rx } := by
  unfold Driver.setRings
  split <;> exact h.of_context rfl rfl rfl rfl

theorem Linked.open (h : s.Linked) (hb : s.backend = none) (created : Bool) (sessionOpen getStatus : Kernel) :
    (s.open created sessionOpen getStatus).2.Linked := by
  have hopened := ioctl_kept h.kept (ctlCode 0x801) sessionOpen
  obtain ⟨hcompletion, -, hbackend⟩ := ioctl_sessionOpen sessionOpen s
  unfold WindowsHost.open
  cases created with
  | false => exact h
  | true =>
    dsimp only
    rw [if_pos rfl]
    cases hioctl : s.ioctl (ctlCode 0x801) sessionOpen with
    | mk c opened =>
      rw [hioctl] at hcompletion hopened hbackend
      dsimp only at hcompletion hopened hbackend ⊢
      cases hresponse : OpenBackend.ofResponse c with
      | error e => exact .of_closed hopened (hbackend.trans hb)
      | ok b =>
        rw [hcompletion] at hresponse
        obtain ⟨rfl, -⟩ := sessionOpen_admitted hresponse
        have hqueried := ioctl_kept hopened (ctlCode 0x806) getStatus
        have hquery := (ioctl_driver (ctlCode 0x806) getStatus opened).2.2
        dsimp only
        cases hstatus : opened.ioctl (ctlCode 0x806) getStatus with
        | mk c queried =>
          rw [hstatus] at hqueried hquery
          dsimp only at hqueried hquery ⊢
          cases OpenBackend.getStatus c with
          | error e =>
            refine .of_closed (ioctl_kept hqueried _ _) ?_
            rw [(ioctl_driver _ _ queried).2.2, hquery, hbackend, hb]
          | ok _ =>
            refine .of_unmapped hqueried fun b' hb' => ?_
            obtain rfl := Option.some.inj hb'
            rfl

theorem Linked.mapSharedMemory (h : s.Linked) (hb : s.backend = some b) (k : Kernel) (view : Option ViewAddress) :
    (s.mapSharedMemory k view b).2.Linked := by
  have hdescribed := ioctl_kept h.kept (ctlCode 0x803) k
  obtain ⟨hcompletion, hdriver, hbackend⟩ := ioctl_getSharedMemory k s
  unfold WindowsHost.mapSharedMemory
  cases hmapping : b.sharedMemory with
  | some mapping => exact h
  | none =>
    dsimp only
    cases hioctl : s.ioctl (ctlCode 0x803) k with
    | mk c described =>
      rw [hioctl] at hcompletion hdriver hbackend hdescribed
      dsimp only at hcompletion hdriver hbackend hdescribed ⊢
      have hunmapped : described.Linked := by
        refine .of_unmapped hdescribed fun b' hb' => ?_
        obtain rfl := Option.some.inj (hb.symm.trans (hbackend ▸ hb'))
        exact hmapping
      cases hinfo : OpenBackend.getSharedMemoryInfo c with
      | error e => exact hunmapped
      | ok info =>
        rw [hcompletion] at hinfo
        obtain ⟨rfl, -⟩ := getSharedMemory_admitted hinfo
        rw [← hdriver]
        cases view with
        | none =>
          dsimp only [Option.map_none]
          unfold SharedMemoryMapping.map
          split_ifs <;> exact hunmapped
        | some v =>
          dsimp only [Option.map_some]
          cases hmap : SharedMemoryMapping.map described.driver.context.sharedMemoryInfo
              (some ⟨v.address, described.driver.section.header, v.nonnull, v.aligned⟩) with
          | error e => exact hunmapped
          | ok m =>
            obtain ⟨-, rfl⟩ := map_ok_iff.mp hmap
            refine ⟨hdescribed, fun b' mapping hb' hmapping' => ?_⟩
            obtain rfl := Option.some.inj hb'
            obtain rfl := Option.some.inj hmapping'
            exact ⟨rfl, rfl, rfl⟩

theorem Linked.attached (h : s.Linked) {session : WhyUsbSessionState}
    (hdriver : (s.ioctl code k).2.driver = { s.driver with gSessionState := session }) : (s.ioctl code k).2.Linked := by
  refine h.of_context (ioctl_driver code k s).2.2 ?_ ?_ ?_ <;> rw [hdriver]

theorem step_linked {a : WindowsAct} (h : s.Linked) (hs : step s a = some s') : s'.Linked := by
  cases a with
  | «open» created sessionOpen getStatus =>
    cases hb : s.backend with
    | some b => simp [step, hb] at hs
    | none =>
      obtain rfl : (s.open created sessionOpen getStatus).2 = s' := by simpa [step, hb] using hs
      exact h.open hb created sessionOpen getStatus
  | mapSharedMemory k view =>
    obtain ⟨b, hb, rfl⟩ := Option.map_eq_some_iff.mp hs
    exact h.mapSharedMemory hb k view
  | attachDevice k =>
    obtain ⟨b, hb, rfl⟩ := Option.map_eq_some_iff.mp hs
    have hdriver := (ioctl_driver (ctlCode 0x804) k s).2.1
    rw [(evtIoDeviceControl_codes k s.driver).2.2.2.1] at hdriver
    exact h.attached hdriver
  | detachDevice k =>
    obtain ⟨b, hb, rfl⟩ := Option.map_eq_some_iff.mp hs
    have hdriver := (ioctl_driver (ctlCode 0x805) k s).2.1
    rw [(evtIoDeviceControl_codes k s.driver).2.2.2.2.1] at hdriver
    exact h.attached hdriver
  | pushRxBytes bytes setEvent =>
    obtain ⟨b, hb, rfl⟩ := Option.map_eq_some_iff.mp hs
    exact h.of_context rfl rfl rfl rfl
  | pollTxFrame =>
    obtain ⟨b, hb, rfl⟩ := Option.map_eq_some_iff.mp hs
    exact h.of_context rfl rfl rfl rfl
  | drop k =>
    obtain ⟨b, hb, rfl⟩ := Option.map_eq_some_iff.mp hs
    exact .of_closed (ioctl_kept h.kept _ _) rfl
  | interceptUrb urb =>
    obtain rfl := Option.some.inj hs
    unfold WindowsHost.interceptUrb
    cases s.driver.rings with
    | none => exact h
    | some m => exact h.setRings _ _ _
  | mockDriverPumpOnce =>
    obtain rfl := Option.some.inj hs
    unfold WindowsHost.mockDriverPumpOnce
    cases s.driver.rings with
    | none => exact h
    | some m =>
      dsimp only
      cases Spsc.popFrame m.rxRing pumpBufferSize with
      | mk frame rxRing =>
        cases frame with
        | none => exact h.setRings _ _ _
        | some frame => exact h.setRings _ _ _

theorem Linked.handles_live (h : s.Linked) (hi : s.Inv) (hb : s.backend = some b) {m : SharedMemoryMapping}
    (hm : b.sharedMemory = some m) : ∀ value ∈ m.handles, .handle value ∈ s.driver.objects := by
  obtain ⟨hsection, htx, hrx⟩ := h.kept.handlesLive (hi.mapped b m hb hm).1
  obtain ⟨hsection', htx', hrx'⟩ := h.mapped b m hb hm
  intro value hvalue
  rw [SharedMemoryMapping.handles, List.mem_cons, List.mem_append, Option.mem_toList, Option.mem_toList] at hvalue
  obtain rfl | hvalue | hvalue := hvalue
  · exact hsection' ▸ hsection
  · exact nonNullHandle_eq_some (htx'.symm.trans hvalue) ▸ htx
  · exact nonNullHandle_eq_some (hrx'.symm.trans hvalue) ▸ hrx

end

theorem start_linked (address : UInt64) (memory : UInt64 → SharedMemoryLayout) : (start address memory).Linked :=
  .of_closed (Driver.driverEntry_kept address memory) rfl

/-- In every run: the handles of a mapping are those of objects the driver has. When the backend is dropped the driver
closes all it has, and the backend then closes the same handles again; it closes none twice exactly where it has not
mapped. -/
theorem handles_shared (address : UInt64) (memory : UInt64 → SharedMemoryLayout) (as : List WindowsAct) (s : WindowsHost)
    (b : OpenBackend) (h : run step (start address memory) as = some s) (hb : s.backend = some b) :
    (∀ m, b.sharedMemory = some m → ∀ value ∈ m.handles, .handle value ∈ s.driver.objects) ∧
      ∀ k s', step s (.drop k) = some s' → s'.driver.objects = [] ∧
        ((run Ownership.step s'.driver.objects.toFinset b.dropTrace).isSome ↔ b.sharedMemory = none) := by
  obtain ⟨hi, hlinked⟩ := run_invariant (P := fun s => Inv s ∧ Linked s)
    (fun _ _ _ hs hstep => ⟨step_inv hs.1 hstep, step_linked hs.2 hstep⟩)
    ⟨start_inv address memory, start_linked address memory⟩ h
  refine ⟨fun m hm => hlinked.handles_live hi hb hm, fun k s' hs => ?_⟩
  obtain ⟨b', -, rfl⟩ := Option.map_eq_some_iff.mp hs
  have hdriver := (ioctl_driver (ctlCode 0x802) k s).2.1
  rw [(evtIoDeviceControl_codes k s.driver).2.1] at hdriver
  have hnone : (s.ioctl (ctlCode 0x802) k).2.driver.objects = [] := hdriver ▸ rfl
  refine ⟨hnone, ?_⟩
  dsimp only
  rw [hnone, OpenBackend.dropTrace]
  cases b.sharedMemory with
  | none => exact iff_of_true rfl rfl
  | some m => exact iff_of_false Bool.false_ne_true (Option.some_ne_none m)

theorem handles_shared_mapped : ∃ s b m, run step (start 0x1000 fun _ => .initial) (echoed.take 2) = some s ∧
    s.backend = some b ∧ b.sharedMemory = some m ∧ m.handles = [4, 8, 12] ∧
    ∀ value ∈ m.handles, .handle value ∈ s.driver.objects := by
  have hhandles : ((run step (start 0x1000 fun _ => .initial) (echoed.take 2)).bind fun s =>
      s.backend.bind fun b => b.sharedMemory.map SharedMemoryMapping.handles) = some [4, 8, 12] := by decide +kernel
  obtain ⟨s, hs, hrest⟩ := Option.bind_eq_some_iff.mp hhandles
  obtain ⟨b, hb, hrest⟩ := Option.bind_eq_some_iff.mp hrest
  obtain ⟨m, hm, hvalues⟩ := Option.map_eq_some_iff.mp hrest
  exact ⟨s, b, m, hs, hb, hm, hvalues, (handles_shared _ _ _ s b hs hb).1 m hm⟩

end WindowsHost

end WhyUsb
