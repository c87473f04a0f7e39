import WhyUsb.Driver.DeviceSessions
import WhyUsb.Lib.Ownership

/-!
# The kernel objects of the driver

Each routine with the calls it makes to get and give back kernel objects: the
handles of the section and the events, the view of the section and the memory
the driver allocates. Their order is that of the source. `DriverEntry` is the
first of them; the context cleanup of the device and the unload are the last.
-/

namespace WhyUsb

open Lts Ownership

inductive KernelObject where
  | handle (value : UInt64)
  | view (address : UInt64)
  | allocation (address : UInt64)
  deriving DecidableEq, Repr

abbrev KernelTrace := List (Event KernelObject)

namespace Vhci

/-- The `delete` of `release_owned_shared_memory`. -/
def releaseOwnedTrace (v : Vhci) : KernelTrace :=
  if v.gOwnsSharedMemory then v.gSharedMemory.toList.map fun address => .release (.allocation address) else []

def initTrace (allocation : Option UInt64) (v : Vhci) : KernelTrace :=
  v.releaseOwnedTrace ++ allocation.toList.map fun address => .acquire (.allocation address)

def cleanupVhciDriver (v : Vhci) : Vhci := v.releaseOwnedSharedMemory

end Vhci

namespace Driver

def closeIfPresent (handle : Option UInt64) : KernelTrace := handle.toList.map fun value => .release (.handle value)

def closeTrace (d : Driver) : KernelTrace :=
  (d.context.sectionView.toList.map fun address => .release (.view address)) ++ d.releaseOwnedTrace ++
    closeIfPresent d.context.sectionHandle ++ closeIfPresent d.context.txEventHandle ++
    closeIfPresent d.context.rxEventHandle

def createTrace (k : Kernel) (d : Driver) : KernelTrace :=
  if ¬ NtSuccess k.zwCreateSection.status then []
  else .acquire (.handle k.zwCreateSection.out) ::
    if ¬ NtSuccess k.zwMapViewOfSection.status then []
    else .acquire (.view k.zwMapViewOfSection.out) :: d.releaseOwnedTrace ++
      if ¬ NtSuccess k.zwCreateTxEvent.status then []
      else .acquire (.handle k.zwCreateTxEvent.out) ::
        if ¬ NtSuccess k.zwCreateRxEvent.status then [] else [.acquire (.handle k.zwCreateRxEvent.out)]

def ensureSharedResourcesTrace (k : Kernel) (d : Driver) : KernelTrace :=
  if d.context.sharedMemoryReady then []
  else
    let (status, created) := d.createSharedResources k
    if ¬ NtSuccess status then d.createTrace k ++ created.closeTrace
    else
      match created.getSharedMemoryInfo with
      | none => d.createTrace k ++ created.closeTrace
      | some _ => d.createTrace k

def ensureDriverMemoryContextTrace (k : Kernel) (d : Driver) : KernelTrace :=
  match d.getDriverStatus with
  | some _ => []
  | none => d.initTrace k.allocation

def evtIoDeviceControlTrace (code : UInt32) (k : Kernel) (d : Driver) : KernelTrace :=
  match IoControlCode.ofCode code with
  | .sessionOpen => d.ensureDriverMemoryContextTrace k
  | .sessionClose => d.closeTrace
  | .getSharedMemory => d.ensureSharedResourcesTrace k
  | .attachDevice | .detachDevice | .getStatus | .unknown => []

/-- The calls of a run of requests, each on what the one before leaves. -/
def runTrace : Driver → List Ioctl → KernelTrace
  | _, [] => []
  | d, io :: ios =>
    { d with memory := io.memory }.evtIoDeviceControlTrace io.code io.kernel ++ runTrace (d.handle io).2 ios

def evtDeviceContextCleanup (d : Driver) : Driver := d.closeSharedResources

def evtDriverUnload (d : Driver) : Driver := { d with toVhci := d.cleanupVhciDriver }

def driverEntryTrace (allocation : Option UInt64) (memory : UInt64 → SharedMemoryLayout) : KernelTrace :=
  Vhci.initTrace allocation ⟨none, false, memory⟩

def removed (d : Driver) : Driver := d.evtDeviceContextCleanup.evtDriverUnload

def removalTrace (d : Driver) : KernelTrace := d.closeTrace ++ d.evtDeviceContextCleanup.releaseOwnedTrace

/-! ## What the driver holds -/

def owned (d : Driver) : List KernelObject :=
  if d.gOwnsSharedMemory then d.gSharedMemory.toList.map .allocation else []

/-- The kernel objects that the driver could still give back. -/
def objects (d : Driver) : List KernelObject :=
  d.context.sectionView.toList.map .view ++ d.owned ++
    (d.context.sectionHandle.toList ++ d.context.txEventHandle.toList ++ d.context.rxEventHandle.toList).map .handle

/-- The rings are memory that the driver has: what it allocated, or the section while it is mapped. -/
def PointerLive (d : Driver) : Prop :=
  ∀ address, d.gSharedMemory = some address →
    if d.gOwnsSharedMemory then .allocation address ∈ d.objects else .view address ∈ d.objects

def HandlesLive (d : Driver) : Prop :=
  d.context.sharedMemoryReady = true →
    .handle d.context.sharedMemoryInfo.sectionHandle ∈ d.objects ∧
      .handle d.context.sharedMemoryInfo.txEventHandle ∈ d.objects ∧
      .handle d.context.sharedMemoryInfo.rxEventHandle ∈ d.objects

structure Kept (d : Driver) : Prop where
  idle : d.context.sharedMemoryReady = false →
    d.context = .zeroed ∧ (d.gOwnsSharedMemory = false → d.gSharedMemory = none)
  ready : d.context.sharedMemoryReady = true →
    d.gOwnsSharedMemory = false ∧ d.gSharedMemory ≠ none ∧ d.gSharedMemory = d.context.sectionView
  given : d.context.sharedMemoryReady = true →
    d.context.sectionHandle = some d.context.sharedMemoryInfo.sectionHandle ∧
      d.context.txEventHandle = some d.context.sharedMemoryInfo.txEventHandle ∧
      d.context.rxEventHandle = some d.context.sharedMemoryInfo.rxEventHandle

section
variable {d : Driver} {k : Kernel}

theorem releaseOwnedTrace_eq (d : Driver) : d.releaseOwnedTrace = d.owned.map .release := by
  unfold Vhci.releaseOwnedTrace owned
  split <;> simp [Function.comp_def]

theorem Kept.pointerLive (h : d.Kept) : d.PointerLive := by
  intro address haddress
  by_cases howned : d.gOwnsSharedMemory = true
  · simp [objects, owned, howned, haddress]
  · cases hready : d.context.sharedMemoryReady with
    | false =>
      have hnone := (h.idle hready).2 (Bool.not_eq_true _ ▸ howned)
      cases hnone.symm.trans haddress
    | true =>
      have hview := (h.ready hready).2.2.symm.trans haddress
      simp [objects, howned, hview]

theorem Kept.handlesLive (h : d.Kept) : d.HandlesLive := by
  intro hready
  obtain ⟨hsection, htx, hrx⟩ := h.given hready
  simp [objects, hsection, htx, hrx]

/-! ## The routines -/

theorem closeSharedResources_kept (d : Driver) : d.closeSharedResources.Kept :=
  ⟨fun _ => ⟨rfl, fun _ => rfl⟩, fun h => absurd h Bool.false_ne_true, fun h => absurd h Bool.false_ne_true⟩

theorem closeTrace_eq (d : Driver) : d.closeTrace = d.objects.map .release := by
  simp [closeTrace, releaseOwnedTrace_eq, closeIfPresent, objects, Function.comp_def]

theorem closeTrace_settles (d : Driver) : Settles d.objects d.closeTrace d.closeSharedResources.objects := by
  have h := settles_releases d.objects []
  rwa [List.append_nil, ← closeTrace_eq] at h

theorem objects_zeroed (hcontext : d.context = .zeroed) : d.objects = d.owned := by
  simp [objects, hcontext, DeviceContext.zeroed]

theorem initTrace_settles {a : Option UInt64} (hnone : d.gSharedMemory = none) (hcontext : d.context = .zeroed) :
    Settles d.objects (d.initTrace a) { d with toVhci := (d.initVhciDriver a).2 }.objects := by
  have howned : d.owned = [] := by simp [owned, hnone]
  have htrace : d.releaseOwnedTrace = [] := by rw [releaseOwnedTrace_eq, howned, List.map_nil]
  rw [objects_zeroed hcontext, howned, Vhci.initTrace, htrace]
  cases a with
  | none =>
    have hafter : ({ d with toVhci := (d.initVhciDriver none).2 } : Driver).objects = [] := objects_zeroed hcontext
    rw [hafter]
    exact settles_nil []
  | some address =>
    have hafter : ({ d with toVhci := (d.initVhciDriver (some address)).2 } : Driver).objects =
        [KernelObject.allocation address] := objects_zeroed hcontext
    rw [hafter]
    exact settles_acquire [] (KernelObject.allocation address)

/-- The driver gives up the rings of its own once the section is mapped, before the events are made. -/
theorem createTrace_settles (hcontext : d.context = .zeroed) :
    Settles d.objects (d.createTrace k) (d.createSharedResources k).2.objects := by
  let s : KernelObject := .handle k.zwCreateSection.out
  let v : KernelObject := .view k.zwMapViewOfSection.out
  let tx : KernelObject := .handle k.zwCreateTxEvent.out
  let rx : KernelObject := .handle k.zwCreateRxEvent.out
  have hsection : Settles d.owned [.acquire s] (d.owned ++ [s]) := settles_acquire d.owned s
  have hview : Settles (d.owned ++ [s]) (.acquire v :: d.releaseOwnedTrace) [v, s] := by
    rw [releaseOwnedTrace_eq]
    refine (settles_acquire _ v).append ((settles_releases d.owned [v, s]).perm ?_)
    rw [List.append_assoc]
    exact (List.Perm.swap v s []).append_left d.owned
  have htx : Settles [v, s] [.acquire tx] [v, s, tx] := settles_acquire [v, s] tx
  have hrx : Settles [v, s, tx] [.acquire rx] [v, s, tx, rx] := settles_acquire [v, s, tx] rx
  rw [objects_zeroed hcontext, createTrace, createSharedResources, hcontext]
  by_cases hs : NtSuccess k.zwCreateSection.status
  · rw [if_neg (not_not.mpr hs), if_neg (not_not.mpr hs)]
    dsimp only
    by_cases hv : NtSuccess k.zwMapViewOfSection.status
    · rw [if_neg (not_not.mpr hv), if_neg (not_not.mpr hv)]
      by_cases ht : NtSuccess k.zwCreateTxEvent.status
      · rw [if_neg (not_not.mpr ht), if_neg (not_not.mpr ht)]
        by_cases hr : NtSuccess k.zwCreateRxEvent.status
        · rw [if_neg (not_not.mpr hr), if_neg (not_not.mpr hr)]
          exact hsection.append (hview.append (htx.append hrx))
        · rw [if_pos hr, if_pos hr]
          exact hsection.append (hview.append htx)
      · rw [if_pos ht, if_pos ht]
        exact hsection.append (hview.append (settles_nil [v, s]))
    · rw [if_pos hv, if_pos hv]
      exact hsection
  · rw [if_pos hs, if_pos hs, objects_zeroed hcontext]
    exact settles_nil d.owned

theorem createSharedResources_handles (hk : k.CreatesResources) :
    (d.createSharedResources k).2.gOwnsSharedMemory = false ∧
      (d.createSharedResources k).2.context.sectionHandle = some k.zwCreateSection.out ∧
      (d.createSharedResources k).2.context.txEventHandle = some k.zwCreateTxEvent.out ∧
      (d.createSharedResources k).2.context.rxEventHandle = some k.zwCreateRxEvent.out := by
  obtain ⟨hsection, hview, htx, hrx⟩ := hk
  simp [createSharedResources, Vhci.useExternalSharedMemoryContext, Vhci.releaseOwnedSharedMemory, hsection, hview, htx,
    hrx]

/-- What was made before a failure is given back. -/
theorem ensureSharedResourcesTrace_settles (h : d.Kept) :
    Settles d.objects (d.ensureSharedResourcesTrace k) (d.ensureSharedResources k).2.objects ∧
      (d.ensureSharedResources k).2.Kept := by
  unfold ensureSharedResourcesTrace ensureSharedResources
  by_cases hready : d.context.sharedMemoryReady = true
  · rw [if_pos hready, if_pos hready]
    exact ⟨settles_nil d.objects, h⟩
  · rw [if_neg hready, if_neg hready]
    have hcreated := createTrace_settles (k := k) (h.idle (Bool.not_eq_true _ ▸ hready)).1
    have hclosed := hcreated.append (closeTrace_settles (d.createSharedResources k).2)
    by_cases hk : k.CreatesResources
    · obtain ⟨hok, hmemory, hview, -⟩ := createSharedResources_ok (d := d) hk
      obtain ⟨howner, hsection, htx, hrx⟩ := createSharedResources_handles (d := d) hk
      dsimp only
      rw [if_neg (not_not.mpr hok), if_neg (not_not.mpr hok)]
      cases hinfo : (d.createSharedResources k).2.getSharedMemoryInfo with
      | none => exact ⟨hclosed, closeSharedResources_kept _⟩
      | some info =>
        refine ⟨hcreated, fun hidle => absurd hidle Bool.true_eq_false_eq_False, fun _ => ⟨howner, ?_, ?_⟩, fun _ => ?_⟩
        · rw [hmemory]
          exact Option.some_ne_none _
        · exact hmemory.trans hview.symm
        · dsimp only
          rw [hsection, htx, hrx]
          exact ⟨rfl, rfl, rfl⟩
    · obtain ⟨hfailed, -⟩ := createSharedResources_failed (d := d) hk
      dsimp only
      rw [if_pos hfailed, if_pos hfailed]
      exact ⟨hclosed, closeSharedResources_kept _⟩

theorem ensureDriverMemoryContextTrace_settles (h : d.Kept) :
    Settles d.objects (d.ensureDriverMemoryContextTrace k) (d.ensureDriverMemoryContext k).2.objects ∧
      (d.ensureDriverMemoryContext k).2.Kept := by
  unfold ensureDriverMemoryContextTrace ensureDriverMemoryContext
  cases hstatus : d.getDriverStatus with
  | some status => exact ⟨settles_nil d.objects, h⟩
  | none =>
    have hnone : d.gSharedMemory = none := Option.map_eq_none_iff.mp hstatus
    have hready : d.context.sharedMemoryReady = false := by
      by_contra hready
      exact (h.ready (Bool.not_eq_false _ ▸ hready)).2.1 hnone
    obtain ⟨hcontext, -⟩ := h.idle hready
    refine ⟨initTrace_settles hnone hcontext, fun _ => ⟨hcontext, fun howner => ?_⟩, fun hset => ?_, fun hset => ?_⟩
    · cases ha : k.allocation with
      | none => rfl
      | some address =>
        rw [ha] at howner
        cases howner
    · cases hready.symm.trans hset
    · cases hready.symm.trans hset

/-! ## Runs -/

theorem evtIoDeviceControlTrace_settles (h : d.Kept) (code : UInt32) :
    Settles d.objects (d.evtIoDeviceControlTrace code k) (d.evtIoDeviceControl code k).2.objects ∧
      (d.evtIoDeviceControl code k).2.Kept := by
  unfold evtIoDeviceControlTrace evtIoDeviceControl
  cases hcode : IoControlCode.ofCode code with
  | sessionOpen =>
    obtain ⟨hsettles, hkept⟩ := ensureDriverMemoryContextTrace_settles (k := k) h
    dsimp only [sessionOpen]
    split
    · exact ⟨hsettles, hkept⟩
    · exact ⟨hsettles, hkept.idle, hkept.ready, hkept.given⟩
  | sessionClose => exact ⟨closeTrace_settles d, closeSharedResources_kept _⟩
  | getSharedMemory =>
    dsimp only
    rw [getSharedMemory_state]
    exact ensureSharedResourcesTrace_settles h
  | attachDevice => exact ⟨settles_nil d.objects, h.idle, h.ready, h.given⟩
  | detachDevice => exact ⟨settles_nil d.objects, h.idle, h.ready, h.given⟩
  | getStatus =>
    dsimp only
    rw [getStatus_device]
    exact ⟨settles_nil d.objects, h⟩
  | unknown => exact ⟨settles_nil d.objects, h⟩

theorem runTrace_settles : ∀ (ios : List Ioctl) {d d' : Driver}, d.Kept → run step d ios = some d' →
    Settles d.objects (d.runTrace ios) d'.objects ∧ d'.Kept
  | [], d, d', h, hrun => by
    rw [run_nil, Option.some.injEq] at hrun
    exact hrun ▸ ⟨settles_nil d.objects, h⟩
  | io :: ios, d, d', h, hrun => by
    have hstep : step d io = some (d.handle io).2 := rfl
    rw [run_cons_of_step step hstep] at hrun
    obtain ⟨hfirst, hkept⟩ := evtIoDeviceControlTrace_settles (d := { d with memory := io.memory }) (k := io.kernel)
      ⟨h.idle, h.ready, h.given⟩ io.code
    obtain ⟨hrest, hlast⟩ := runTrace_settles ios hkept hrun
    exact ⟨hfirst.append hrest, hlast⟩

/-- The unload finds nothing that the cleanup has left. -/
theorem removalTrace_runs (h : d.objects.Nodup) : run Ownership.step d.objects.toFinset d.removalTrace = some ∅ := by
  have htrace : d.removalTrace = d.closeTrace := List.append_nil d.closeTrace
  have hfresh : Fresh d.objects.toFinset d.closeTrace := closeTrace_eq d ▸ fresh_releases _ d.objects
  rw [htrace]
  exact (closeTrace_settles d h hfresh).1

end

theorem driverEntry_kept (address : UInt64) (memory : UInt64 → SharedMemoryLayout) :
    (driverEntry (some address) memory).2.Kept where
  idle _ := ⟨rfl, fun howner => absurd howner Bool.true_eq_false_eq_False⟩
  ready hready := absurd hready Bool.false_ne_true
  given hready := absurd hready Bool.false_ne_true

/-- The calls from `DriverEntry` to the last of the requests. -/
def loadedTrace (address : UInt64) (memory : UInt64 → SharedMemoryLayout) (ios : List Ioctl) : KernelTrace :=
  driverEntryTrace (some address) memory ++ (driverEntry (some address) memory).2.runTrace ios

/-- For every sequence of requests and all answers of a kernel that never hands out what is held: nothing is given back
that is not held, the rings and the daemon's handles are held as long as they are in use, and when the device is removed
and the driver unloaded nothing is held any more. -/
theorem objects_settled (address : UInt64) (memory : UInt64 → SharedMemoryLayout) (ios : List Ioctl) (d : Driver)
    (hrun : run step (driverEntry (some address) memory).2 ios = some d)
    (hkernel : Fresh ∅ (loadedTrace address memory ios)) :
    run Ownership.step ∅ (loadedTrace address memory ios) = some d.objects.toFinset ∧ d.PointerLive ∧ d.HandlesLive ∧
      run Ownership.step ∅ (loadedTrace address memory ios ++ d.removalTrace) = some d.removed.objects.toFinset ∧
      d.removed.objects = [] := by
  have hentry : Settles [] (driverEntryTrace (some address) memory) (driverEntry (some address) memory).2.objects :=
    settles_acquire [] (KernelObject.allocation address)
  obtain ⟨hsettles, hlast⟩ := runTrace_settles ios (driverEntry_kept address memory) hrun
  obtain ⟨hloaded, hdistinct⟩ := hentry.append hsettles List.nodup_nil hkernel
  exact ⟨hloaded, hlast.pointerLive, hlast.handlesLive,
    (run_append_of_run _ hloaded _).trans (removalTrace_runs hdistinct), rfl⟩

/-- The section is mapped, given back and refused, and its handles are handed out again. -/
def remapped : List Ioctl :=
  [⟨ctlCode 0x801, grantingKernel statusSuccess, fun _ => .initial⟩,
    ⟨ctlCode 0x803, grantingKernel statusSuccess, fun _ => .initial⟩,
    ⟨ctlCode 0x802, grantingKernel statusSuccess, fun _ => .initial⟩,
    ⟨ctlCode 0x803, grantingKernel statusInsufficientResources, fun _ => .initial⟩,
    ⟨ctlCode 0x803, grantingKernel statusSuccess, fun _ => .initial⟩]

theorem objects_settled_remapped : ∃ d, run step (driverEntry (some 0x1000) fun _ => .initial).2 remapped = some d ∧
    d.objects = [.view 0x2000, .handle 4, .handle 8, .handle 12] ∧ d.PointerLive ∧ d.HandlesLive := by
  obtain ⟨-, hpointer, hhandles, -⟩ := objects_settled 0x1000 (fun _ => .initial) remapped _ rfl (by decide)
  exact ⟨_, rfl, by decide, hpointer, hhandles⟩

end Driver

end WhyUsb
