import WhyUsb.Driver.WindowsHost

/-!
# The rings of the host

What an IOCTL does to the memory of the rings, and what the daemon does to it
through its view. While the section is ready the rings are in it, and they hold
what their books say; a view of them is worked on as the driver works on them.
-/

namespace WhyUsb

/-! ## Rings and their books -/

def RingBook.Fills (b : RingBook) (r : Ring) : Prop :=
  ∃ rest, b.popped ++ rest = b.pushed ∧ Holds r (entries b.popped).length rest

namespace RingBook

section
variable {b : RingBook} {r : Ring}

theorem new_fills : Fills .new SharedMemoryLayout.initial.txRing ∧ Fills .new SharedMemoryLayout.initial.rxRing :=
  ⟨⟨[], rfl, holds_nil rfl⟩, ⟨[], rfl, holds_nil rfl⟩⟩

theorem Fills.ordered (h : b.Fills r) : b.popped <+: b.pushed := by
  obtain ⟨rest, hrest, -⟩ := h
  exact ⟨rest, hrest⟩

theorem Fills.queued (h : b.Fills r) :
    ∃ queued, b.popped ++ queued = b.pushed ∧ (r.head - r.tail).toUInt32.toNat = (entries queued).length := by
  obtain ⟨queued, hqueued, hholds⟩ := h
  refine ⟨queued, hqueued, ?_⟩
  have hfits := hholds.fits
  have hsize : ringBufferSize < 2 ^ 32 := by decide
  rw [UInt64.toNat_toUInt32, hholds.diff, Nat.mod_eq_of_lt (by omega)]

theorem Fills.push (h : b.Fills r) (frame : List UInt8) :
    Fills ⟨b.pushed ++ if (Spsc.pushFrame r frame).1 then [frame] else [], b.popped⟩ (Spsc.pushFrame r frame).2 := by
  obtain ⟨rest, hrest, hholds⟩ := h
  obtain ⟨hok, -, hpushed⟩ | ⟨hfull, -⟩ := Spsc.pushFrame_cases hholds frame
  · rw [hok, if_pos rfl]
    exact ⟨rest ++ [frame], by rw [← hrest, List.append_assoc], hpushed⟩
  · rw [hfull]
    exact ⟨rest, by simpa using hrest, hholds⟩

theorem Fills.pop (h : b.Fills r) (maxLen : Nat) :
    Fills ⟨b.pushed, b.popped ++ (Spsc.popFrame r maxLen).1.toList⟩ (Spsc.popFrame r maxLen).2 := by
  obtain ⟨rest, hrest, hholds⟩ := h
  obtain ⟨frame, rest', rfl, -, hok, hpopped⟩ | ⟨hnone, -⟩ := Spsc.popFrame_cases hholds maxLen
  · rw [hok]
    refine ⟨rest', ?_, ?_⟩
    · rw [← hrest, List.append_assoc]
      rfl
    · rw [Option.toList_some, MockRun.entries_snoc_length]
      exact hpopped
  · rw [hnone]
    exact ⟨rest, by simpa using hrest, by simpa using hholds⟩

end

end RingBook

/-! ## What an IOCTL does to the memory -/

structure Describes (info : SharedMemoryInfo) : Prop where
  mappingSize : info.mappingSize = SharedMemoryLayout.initialHeader.mappingSize
  txRingOffset : info.txRingOffset = SharedMemoryLayout.initialHeader.txRingOffset
  rxRingOffset : info.rxRingOffset = SharedMemoryLayout.initialHeader.rxRingOffset

namespace Driver

def SameRings (d d' : Driver) : Prop :=
  d'.gSharedMemory = d.gSharedMemory ∧ d'.context.sharedMemoryReady = d.context.sharedMemoryReady

/-- The memory of the rings stays, is made for a session or for a section, or is taken away. -/
inductive IoctlMemory (d d' : Driver) : Prop where
  | kept (hmemory : d'.memory = d.memory) (hpointer : d'.gSharedMemory = d.gSharedMemory)
      (hcontext : d'.context = d.context)
  | opened {address} (hnone : d.gSharedMemory = none) (hpointer : d'.gSharedMemory = some address)
      (hinitial : d'.memory address = .initial) (hcontext : d'.context = d.context)
  | created {address} (hbefore : d.context.sharedMemoryReady = false) (hpointer : d'.gSharedMemory = some address)
      (hinitial : d'.memory address = .initial) (hsection : d'.context.sectionView = some address)
      (hready : d'.context.sharedMemoryReady = true) (hinfo : Describes d'.context.sharedMemoryInfo)
  | gone (hpointer : d'.gSharedMemory = none) (hcontext : d'.context = .zeroed)

section
variable {d : Driver} {k : Kernel}

theorem sessionOpen_memory (k : Kernel) (d : Driver) : IoctlMemory d (d.sessionOpen k).2 := by
  cases hpointer : d.gSharedMemory with
  | some address =>
    refine .kept ?_ ?_ ?_ <;>
      simp [sessionOpen, ensureDriverMemoryContext, Vhci.getDriverStatus, hpointer, statusSuccess]
  | none =>
    cases hallocation : k.allocation with
    | none =>
      have hunsuccessful : ¬ NtSuccess statusUnsuccessful := by decide
      refine .kept ?_ ?_ ?_ <;>
        simp [sessionOpen, ensureDriverMemoryContext, Vhci.getDriverStatus, Vhci.initVhciDriver,
          Vhci.releaseOwnedSharedMemory, hpointer, hallocation, hunsuccessful]
    | some address =>
      refine .opened (show _ = none from hpointer) (show _ = some address from ?_) ?_ ?_ <;>
        simp [sessionOpen, ensureDriverMemoryContext, Vhci.getDriverStatus, Vhci.initVhciDriver,
          Vhci.releaseOwnedSharedMemory, hpointer, hallocation, statusSuccess]

theorem ensureSharedResources_readies (h : d.context.sharedMemoryReady = false) (hk : k.CreatesResources) :
    (d.ensureSharedResources k).2.context.sharedMemoryReady = true := by
  obtain ⟨hsection, hmap, htx, hrx⟩ := hk
  simp [ensureSharedResources, createSharedResources, Vhci.getSharedMemoryInfo,
    Vhci.useExternalSharedMemoryContext, Vhci.releaseOwnedSharedMemory, h, hsection, hmap, htx, hrx]

theorem ensureSharedResources_made (h : d.context.sharedMemoryReady = false) (hk : k.CreatesResources) :
    IoctlMemory d (d.ensureSharedResources k).2 := by
  have hinfo := ensureSharedResources_info h hk
  have hready := ensureSharedResources_readies h hk
  obtain ⟨-, hpointer, hview, -⟩ := ensureSharedResources_ok h hk
  obtain ⟨hsection, hmap, htx, hrx⟩ := hk
  refine .created h hpointer ?_ hview hready ⟨?_, ?_, ?_⟩
  · simp [ensureSharedResources, createSharedResources, Vhci.getSharedMemoryInfo,
      Vhci.useExternalSharedMemoryContext, Vhci.releaseOwnedSharedMemory, h, hsection, hmap, htx, hrx]
  · rw [hinfo]
  · rw [hinfo]
  · rw [hinfo]

theorem ensureSharedResources_gone (h : d.context.sharedMemoryReady = false) (hk : ¬ k.CreatesResources) :
    IoctlMemory d (d.ensureSharedResources k).2 := by
  have hfailed := (createSharedResources_failed (d := d) hk).1
  refine .gone ?_ ?_ <;>
    simp [ensureSharedResources, closeSharedResources, Vhci.useExternalSharedMemoryContext, h, hfailed]

theorem evtIoDeviceControl_memory (code : UInt32) (k : Kernel) (d : Driver) :
    IoctlMemory d (d.evtIoDeviceControl code k).2 := by
  unfold evtIoDeviceControl
  cases IoControlCode.ofCode code with
  | sessionOpen => exact sessionOpen_memory k d
  | sessionClose => exact .gone rfl rfl
  | getSharedMemory =>
    dsimp only
    rw [getSharedMemory_state]
    cases hready : d.context.sharedMemoryReady with
    | true =>
      rw [ensureSharedResources_ready hready]
      exact .kept rfl rfl rfl
    | false =>
      by_cases hk : k.CreatesResources
      · exact ensureSharedResources_made hready hk
      · exact ensureSharedResources_gone hready hk
  | attachDevice => exact .kept rfl rfl rfl
  | detachDevice => exact .kept rfl rfl rfl
  | getStatus =>
    dsimp only
    rw [getStatus_device]
    exact .kept rfl rfl rfl
  | unknown => exact .kept rfl rfl rfl

end

end Driver

namespace WindowsHost

/-- While the section is ready its rings are the driver's; and the rings hold what their books say. -/
structure Kept (s : WindowsHost) : Prop where
  ready : s.driver.context.sharedMemoryReady = true → s.driver.gSharedMemory ≠ none ∧
    s.driver.gSharedMemory = s.driver.context.sectionView ∧ Describes s.driver.context.sharedMemoryInfo
  rings : ∀ m, s.driver.rings = some m →
    m.header = SharedMemoryLayout.initialHeader ∧ s.tx.Fills m.txRing ∧ s.rx.Fills m.rxRing
  tx : s.tx.popped <+: s.tx.pushed
  rx : s.rx.popped <+: s.rx.pushed

section
variable {s : WindowsHost} {code : UInt32} {k : Kernel}

theorem ioctl_driver (code : UInt32) (k : Kernel) (s : WindowsHost) : (s.ioctl code k).1 = (s.driver.evtIoDeviceControl code k).1 ∧
    (s.ioctl code k).2.driver = (s.driver.evtIoDeviceControl code k).2 ∧ (s.ioctl code k).2.backend = s.backend := by
  unfold ioctl
  dsimp only
  split <;> exact ⟨rfl, rfl, rfl⟩

/-- The books begin anew with the rings. -/
theorem ioctl_books (code : UInt32) (k : Kernel) (s : WindowsHost) : ((s.ioctl code k).2.tx = s.tx ∧ (s.ioctl code k).2.rx = s.rx) ∧
      s.driver.SameRings (s.driver.evtIoDeviceControl code k).2 ∨
    ((s.ioctl code k).2.tx = .new ∧ (s.ioctl code k).2.rx = .new) ∧
      ¬ s.driver.SameRings (s.driver.evtIoDeviceControl code k).2 := by
  unfold ioctl Driver.SameRings
  dsimp only
  split
  · rename_i hsame
    exact Or.inl ⟨⟨rfl, rfl⟩, hsame⟩
  · rename_i hsame
    exact Or.inr ⟨⟨rfl, rfl⟩, hsame⟩

theorem rings_of_pointer {d : Driver} {address : UInt64} (h : d.gSharedMemory = some address) :
    d.rings = some (d.memory address) := by
  rw [Driver.rings, h]
  rfl

theorem Kept.ioctl (h : s.Kept) (code : UInt32) (k : Kernel) : (s.ioctl code k).2.Kept := by
  obtain ⟨-, hdriver, -⟩ := ioctl_driver code k s
  have hbooks := ioctl_books code k s
  have hmemory := s.driver.evtIoDeviceControl_memory code k
  generalize (s.driver.evtIoDeviceControl code k).2 = d at hdriver hbooks hmemory
  generalize (s.ioctl code k).2 = s' at hdriver hbooks ⊢
  subst hdriver
  have hordered : s'.tx.popped <+: s'.tx.pushed ∧ s'.rx.popped <+: s'.rx.pushed := by
    obtain ⟨⟨htx, hrx⟩, -⟩ | ⟨⟨htx, hrx⟩, -⟩ := hbooks
    · rw [htx, hrx]
      exact ⟨h.tx, h.rx⟩
    · rw [htx, hrx]
      exact ⟨List.prefix_refl _, List.prefix_refl _⟩
  refine ⟨fun hready => ?_, fun m hm => ?_, hordered.1, hordered.2⟩
  · cases hmemory with
    | kept hmemory hpointer hcontext =>
      rw [hcontext] at hready ⊢
      rw [hpointer]
      exact h.ready hready
    | opened hnone hpointer hinitial hcontext =>
      rw [hcontext] at hready
      exact absurd hnone (h.ready hready).1
    | created hbefore hpointer hinitial hsection hready' hinfo =>
      rw [hpointer, hsection]
      exact ⟨nofun, rfl, hinfo⟩
    | gone hpointer hcontext =>
      rw [hcontext] at hready
      cases hready
  · have hnew : ∀ address, s'.driver.gSharedMemory = some address → s'.driver.memory address = .initial →
        ¬ s.driver.SameRings s'.driver →
        m.header = SharedMemoryLayout.initialHeader ∧ s'.tx.Fills m.txRing ∧ s'.rx.Fills m.rxRing := by
      intro address hpointer hinitial hother
      have hnew := (hbooks.resolve_left fun hsame => hother hsame.2).1
      rw [rings_of_pointer hpointer, hinitial, Option.some.injEq] at hm
      rw [hnew.1, hnew.2, ← hm]
      exact ⟨rfl, RingBook.new_fills⟩
    cases hmemory with
    | kept hmemory hpointer hcontext =>
      have hsame : s.driver.SameRings s'.driver := ⟨hpointer, congrArg DeviceContext.sharedMemoryReady hcontext⟩
      obtain ⟨htx, hrx⟩ := (hbooks.resolve_right fun hother => hother.2 hsame).1
      rw [htx, hrx]
      refine h.rings m ?_
      rw [← hm, Driver.rings, Driver.rings, hpointer, hmemory]
    | opened hnone hpointer hinitial hcontext =>
      refine hnew _ hpointer hinitial fun hsame => ?_
      exact nomatch hnone.symm.trans (hsame.1.symm.trans hpointer)
    | created hbefore hpointer hinitial hsection hready' hinfo =>
      refine hnew _ hpointer hinitial fun hsame => ?_
      exact nomatch hbefore.symm.trans (hsame.2.symm.trans hready')
    | gone hpointer hcontext =>
      rw [Driver.rings, hpointer] at hm
      cases hm

end

/-! ## What the daemon does through its view -/

/-- The mapping is one of the section that the driver lays out. -/
structure Maps (mapping : SharedMemoryMapping) : Prop where
  mappingSize : mapping.mappingSize = SharedMemoryLayout.initialHeader.mappingSize
  txRingOffset : mapping.txRingOffset = SharedMemoryLayout.initialHeader.txRingOffset
  rxRingOffset : mapping.rxRingOffset = SharedMemoryLayout.initialHeader.rxRingOffset
  header : mapping.view.header = SharedMemoryLayout.initialHeader

section
variable {mapping : SharedMemoryMapping} {b : OpenBackend} {m : SharedMemoryLayout}

theorem Maps.rings (h : Maps mapping) :
    (∃ tx, mapping.txRing = .ok tx ∧ tx.base = mapping.view.address + SharedMemoryLayout.txRingOffset) ∧
      ∃ rx, mapping.rxRing = .ok rx ∧ rx.base = mapping.view.address + SharedMemoryLayout.rxRingOffset := by
  have htx : SharedMemoryLayout.initialHeader.txRingOffset.toNat = SharedMemoryLayout.txRingOffset := by decide
  have hrx : SharedMemoryLayout.initialHeader.rxRingOffset.toNat = SharedMemoryLayout.rxRingOffset := by decide
  refine ⟨⟨_, ring_ok_iff.mpr ⟨?_, rfl⟩, ?_⟩, ⟨_, ring_ok_iff.mpr ⟨?_, rfl⟩, ?_⟩⟩
  · rw [h.mappingSize, h.txRingOffset]
    decide
  · dsimp only
    rw [h.txRingOffset, htx]
  · rw [h.mappingSize, h.rxRingOffset]
    decide
  · dsimp only
    rw [h.rxRingOffset, hrx]

theorem Maps.separate (h : Maps mapping) {tx rx : MappedRing} (htx : mapping.txRing = .ok tx)
    (hrx : mapping.rxRing = .ok rx) : Separate mapping.mappingSize.toNat mapping.view tx rx := by
  obtain ⟨htxFits, rfl⟩ := ring_ok_iff.mp htx
  obtain ⟨hrxFits, rfl⟩ := ring_ok_iff.mp hrx
  have hsize : sharedMemoryHeaderSize ≤ mapping.mappingSize.toNat := by
    rw [h.mappingSize]
    decide
  let info : SharedMemoryInfo :=
    { overlappingInfo with
      mappingSize := mapping.mappingSize
      txRingOffset := mapping.txRingOffset
      rxRingOffset := mapping.rxRingOffset }
  refine (@separate_iff info _ _ _ htxFits hrxFits hsize rfl rfl).mpr ?_
  unfold LaidOut
  dsimp only [info]
  rw [h.txRingOffset, h.rxRingOffset, h.header]
  decide

theorem txOffset_ne (a : Nat) : a + SharedMemoryLayout.txRingOffset ≠ a + SharedMemoryLayout.rxRingOffset := by
  have hne : SharedMemoryLayout.txRingOffset ≠ SharedMemoryLayout.rxRingOffset := by decide
  exact fun h => hne (Nat.add_left_cancel h)

theorem view_rings (hb : b.sharedMemory = some mapping) :
    (view b m).rings (mapping.view.address + SharedMemoryLayout.txRingOffset) = m.txRing ∧
      (view b m).rings (mapping.view.address + SharedMemoryLayout.rxRingOffset) = m.rxRing := by
  unfold view
  dsimp only
  rw [hb, Option.map_some, if_pos rfl, if_neg (fun h => txOffset_ne _ (Option.some.inj h).symm)]
  exact ⟨rfl, rfl⟩

theorem written_rx (hb : b.sharedMemory = some mapping) (ring : Ring) :
    written ⟨some mapping, Function.update (view b m).rings (mapping.view.address + SharedMemoryLayout.rxRingOffset) ring⟩
      m = { m with rxRing := ring } := by
  obtain ⟨htx, -⟩ := view_rings (m := m) hb
  unfold written
  dsimp only
  rw [Function.update_self, Function.update_of_ne (txOffset_ne _), htx]

theorem written_tx (hb : b.sharedMemory = some mapping) (ring : Ring) :
    written ⟨some mapping, Function.update (view b m).rings (mapping.view.address + SharedMemoryLayout.txRingOffset) ring⟩
      m = { m with txRing := ring } := by
  obtain ⟨-, hrx⟩ := view_rings (m := m) hb
  unfold written
  dsimp only
  rw [Function.update_self, Function.update_of_ne (txOffset_ne _).symm, hrx]

/-- A push through the view is a push of the driver's own function into the RX ring of the section. -/
theorem pushRxBytes_view (hb : b.sharedMemory = some mapping) (h : Maps mapping) (setEvent : Bool)
    (bytes : List UInt8) :
    written ((view b m).pushRxBytes setEvent bytes).2 m = { m with rxRing := (Spsc.pushFrame m.rxRing bytes).2 } ∧
      (view b m).stores bytes = (Spsc.pushFrame m.rxRing bytes).1 := by
  obtain ⟨-, rx, hrx, hbase⟩ := h.rings
  obtain ⟨haccepts, hring⟩ := pushFrame_agrees m.rxRing bytes
  have hshared : (view b m).sharedMemory = some mapping := hb
  have hrings : (view b m).rings rx.base = m.rxRing := hbase ▸ (view_rings hb).2
  constructor
  · rw [hring, ← written_rx hb]
    unfold WindowsDriverBackend.pushRxBytes
    rw [hshared]
    dsimp only
    rw [hrx]
    dsimp only
    rw [hrings, hbase]
    cases Mapped.pushFrame m.rxRing bytes with
    | mk result ring => cases result <;> rfl
  · unfold WindowsDriverBackend.stores
    rw [hshared, Option.map_some, hrx]
    dsimp only
    rw [hrings, Bool.eq_iff_iff, haccepts]
    cases (Mapped.pushFrame m.rxRing bytes).1 with
    | error e => exact iff_of_false Bool.false_ne_true nofun
    | ok _ => exact iff_of_true rfl rfl

/-- A poll of the backend is a pop of the mapped ring, whose cursors and data it keeps. -/
theorem popTxBytes_mapped (hb : b.sharedMemory = some mapping) {tx : MappedRing} (htx : mapping.txRing = .ok tx)
    (hrings : (view b m).rings tx.base = m.txRing) (maxFrameSize : Nat) :
    (view b m).popTxBytes maxFrameSize = match Mapped.popFrame m.txRing maxFrameSize with
      | (.error e, ring) => (.error (.mapping (.mappedRing e.toString)),
        ⟨some mapping, Function.update (view b m).rings tx.base ring⟩)
      | (.ok bytes, ring) => (.ok bytes, ⟨some mapping, Function.update (view b m).rings tx.base ring⟩) := by
  have hshared : (view b m).sharedMemory = some mapping := hb
  unfold WindowsDriverBackend.popTxBytes
  rw [hshared]
  dsimp only
  rw [htx]
  dsimp only
  rewrite [hrings]
  cases Mapped.popFrame m.txRing maxFrameSize with
  | mk result ring => cases result <;> rfl

theorem popTxBytes_view (hb : b.sharedMemory = some mapping) (h : Maps mapping) (maxFrameSize : Nat) :
    written ((view b m).popTxBytes maxFrameSize).2 m =
        { m with txRing := (Spsc.popFrame m.txRing maxFrameSize).2 } ∧
      (view b m).takes maxFrameSize = (Spsc.popFrame m.txRing maxFrameSize).1.toList := by
  obtain ⟨⟨tx, htx, hbase⟩, -⟩ := h.rings
  obtain ⟨htakes, hring⟩ := popFrame_agrees m.txRing maxFrameSize
  have hrings : (view b m).rings tx.base = m.txRing := hbase ▸ (view_rings hb).1
  have hpop := popTxBytes_mapped hb htx hrings maxFrameSize
  constructor
  · rw [hring, ← written_tx hb, hpop, hbase]
    cases Mapped.popFrame m.txRing maxFrameSize with
    | mk result ring => cases result <;> rfl
  · unfold WindowsDriverBackend.takes
    rw [hpop]
    cases hspsc : (Spsc.popFrame m.txRing maxFrameSize).1 with
    | some bytes =>
      rw [htakes] at hspsc
      cases hmapped : Mapped.popFrame m.txRing maxFrameSize with
      | mk result ring =>
        rw [hmapped] at hspsc
        subst hspsc
        rfl
    | none =>
      cases hmapped : Mapped.popFrame m.txRing maxFrameSize with
      | mk result ring =>
        cases result with
        | error e => rfl
        | ok bytes =>
          cases bytes with
          | none => rfl
          | some bytes =>
            have hsome := (htakes bytes).mpr (by rw [hmapped])
            rw [hspsc] at hsome
            cases hsome

theorem pollTxFrame_popTxBytes (maxFrameSize : Nat) (backend : WindowsDriverBackend) :
    (backend.pollTxFrame maxFrameSize).2 = (backend.popTxBytes maxFrameSize).2 := by
  unfold WindowsDriverBackend.pollTxFrame
  cases backend.popTxBytes maxFrameSize with
  | mk result after =>
    cases result with
    | error e => rfl
    | ok bytes =>
      cases bytes with
      | none => rfl
      | some bytes =>
        dsimp only
        cases Frame.decode bytes <;> rfl

theorem unmapped_view (hb : b.sharedMemory = none) (setEvent : Bool) (bytes : List UInt8) (maxFrameSize : Nat) :
    (written ((view b m).pushRxBytes setEvent bytes).2 m = m ∧ (view b m).stores bytes = false) ∧
      written ((view b m).popTxBytes maxFrameSize).2 m = m ∧ (view b m).takes maxFrameSize = [] := by
  have hshared : (view b m).sharedMemory = none := hb
  unfold WindowsDriverBackend.pushRxBytes WindowsDriverBackend.stores WindowsDriverBackend.takes
    WindowsDriverBackend.popTxBytes written
  rw [hshared]
  dsimp only
  rw [hshared]
  exact ⟨⟨rfl, rfl⟩, rfl, rfl⟩

end

end WindowsHost

end WhyUsb
