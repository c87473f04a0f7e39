import WhyUsb.Driver.Mapping
import WhyUsb.Queue.Basic
import WhyUsb.Ring.Bounds

/-!
# `WindowsDriverBackend` and the RX ring

`push_rx_bytes` stores the frame in the RX ring of the mapping and then sets the
RX event. The event may fail when the frame is already the driver's, and
`flush_endpoint_transfers` answers any failure with a failed response.
-/

namespace WhyUsb

open Lts

/-- The variants of `DriverError` that only Windows has. -/
inductive WindowsDriverError where
  | unsupportedBackend (message : String)
  | mapping (error : MappingError)
  deriving DecidableEq, Repr

/-- `rings` is what the memory holds where a ring starts. -/
structure WindowsDriverBackend where
  sharedMemory : Option SharedMemoryMapping
  rings : Nat → Ring

/-- `setEvent` is what `SetEvent` returns, were it called. -/
def SharedMemoryMapping.signalRxFrame (m : SharedMemoryMapping) (setEvent : Bool) : Except WindowsDriverError Unit :=
  match m.rxEvent with
  | none => .ok ()
  | some _ => if setEvent then .ok () else .error (.mapping (.windowsIo "SetEvent"))

namespace WindowsDriverBackend

def pushRxBytes (setEvent : Bool) (bytes : List UInt8) (b : WindowsDriverBackend) :
    Except WindowsDriverError Unit × WindowsDriverBackend :=
  match b.sharedMemory with
  | none => (.error (.unsupportedBackend "Windows shared memory is not mapped yet"), b)
  | some m =>
    match m.rxRing with
    | .error e => (.error (.mapping e), b)
    | .ok r =>
      match Mapped.pushFrame (b.rings r.base) bytes with
      | (.error e, ring) =>
        (.error (.mapping (.mappedRing e.toString)), { b with rings := Function.update b.rings r.base ring })
      | (.ok (), ring) => (m.signalRxFrame setEvent, { b with rings := Function.update b.rings r.base ring })

def RefusesWhole (setEvent : Bool) (bytes : List UInt8) (b : WindowsDriverBackend) : Prop :=
  ∀ e, (b.pushRxBytes setEvent bytes).1 = .error e → (b.pushRxBytes setEvent bytes).2 = b

structure StoredUnsignalled (setEvent : Bool) (bytes : List UInt8) (b : WindowsDriverBackend) (m : SharedMemoryMapping) :
    Prop where
  mapped : b.sharedMemory = some m
  inside : m.rxRingOffset.toNat + ringMappingSize ≤ m.mappingSize.toNat
  aligned : m.rxRingOffset.toNat % 8 = 0
  short : bytes.length ≤ uint32Max
  room : framePrefixLen + bytes.length ≤ Spsc.availableSpace (b.rings (m.view.address + m.rxRingOffset.toNat)).head
    (b.rings (m.view.address + m.rxRingOffset.toNat)).tail
  event : m.rxEvent ≠ none
  signal : setEvent = false

end WindowsDriverBackend

/-! ## The steps of a push -/

theorem Mapped.pushFrame_error {r : Ring} {f : List UInt8} {e : MappedRingError}
    (h : (Mapped.pushFrame r f).1 = .error e) : (Mapped.pushFrame r f).2 = r := by
  obtain ⟨haccepted, hring⟩ := pushFrame_agrees r f
  have hrefused : (Spsc.pushFrame r f).1 = false := by
    rw [← Bool.not_eq_true, haccepted, h]
    simp
  rw [← hring, pushFrame_refused r hrefused]

theorem Mapped.pushFrame_ok {r : Ring} {f : List UInt8} : (Mapped.pushFrame r f).1 = .ok () ↔
    f.length ≤ uint32Max ∧ framePrefixLen + f.length ≤ Spsc.availableSpace r.head r.tail := by
  rw [← (pushFrame_agrees r f).1, Spsc.pushFrame_accepted]

theorem Mapped.pushFrame_ne {r : Ring} {f : List UInt8} (h : (Mapped.pushFrame r f).1 = .ok ()) :
    (Mapped.pushFrame r f).2 ≠ r := by
  obtain ⟨hlen, -⟩ := Mapped.pushFrame_ok.mp h
  obtain ⟨haccepted, hring⟩ := pushFrame_agrees r f
  have hmax : uint32Max < 2 ^ 32 := by decide
  intro hsame
  have hhead := Spsc.pushFrame_head (haccepted.mpr h)
  have hmoved : UInt64.ofNat (framePrefixLen + f.length) = 0 := by
    rw [hring, hsame] at hhead
    grind
  have hzero := congrArg UInt64.toNat hmoved
  rw [UInt64.toNat_ofNat', framePrefixLen, Nat.mod_eq_of_lt (by omega)] at hzero
  have : (4 + f.length) = 0 := hzero
  omega

/-! ## When a push is whole -/

namespace WindowsDriverBackend

section
variable {b : WindowsDriverBackend} {m : SharedMemoryMapping} {setEvent : Bool} {bytes : List UInt8}

theorem pushRxBytes_unmapped (h : b.sharedMemory = none) : (b.pushRxBytes setEvent bytes).2 = b := by
  rw [pushRxBytes, h]

theorem pushRxBytes_noRing {e : MappingError} (h : b.sharedMemory = some m) (hring : m.rxRing = .error e) :
    (b.pushRxBytes setEvent bytes).2 = b := by
  simp only [pushRxBytes, h, hring]

theorem pushRxBytes_refused {r : MappedRing} {e : MappedRingError} (h : b.sharedMemory = some m)
    (hring : m.rxRing = .ok r) (hpush : (Mapped.pushFrame (b.rings r.base) bytes).1 = .error e) :
    (b.pushRxBytes setEvent bytes).2 = b := by
  have hsame := Mapped.pushFrame_error hpush
  cases hcall : Mapped.pushFrame (b.rings r.base) bytes with
  | mk result ring =>
    rw [hcall] at hpush hsame
    subst hpush hsame
    simp only [pushRxBytes, h, hring, hcall, Function.update_eq_self]
    rw [← h]

theorem pushRxBytes_stored (setEvent : Bool) {r : MappedRing} (h : b.sharedMemory = some m) (hring : m.rxRing = .ok r)
    (hpush : (Mapped.pushFrame (b.rings r.base) bytes).1 = .ok ()) :
    (b.pushRxBytes setEvent bytes).1 = m.signalRxFrame setEvent ∧ (b.pushRxBytes setEvent bytes).2 ≠ b := by
  have hne := Mapped.pushFrame_ne hpush
  cases hcall : Mapped.pushFrame (b.rings r.base) bytes with
  | mk result ring =>
    rw [hcall] at hpush hne
    subst hpush
    simp only [pushRxBytes, h, hring, hcall]
    refine ⟨trivial, fun hsame => hne ?_⟩
    have hrings := congrArg (fun b => b.rings r.base) hsame
    dsimp only at hrings
    rwa [Function.update_self] at hrings

theorem signalRxFrame_error : (∃ e, m.signalRxFrame setEvent = .error e) ↔ m.rxEvent ≠ none ∧ setEvent = false := by
  unfold SharedMemoryMapping.signalRxFrame
  cases m.rxEvent with
  | none => simp
  | some event => cases setEvent <;> simp

theorem storedUnsignalled_iff (h : b.sharedMemory = some m) : (∃ m, StoredUnsignalled setEvent bytes b m) ↔
    (∃ r, m.rxRing = .ok r ∧ (Mapped.pushFrame (b.rings r.base) bytes).1 = .ok ()) ∧
      ∃ e, m.signalRxFrame setEvent = .error e := by
  rw [signalRxFrame_error]
  constructor
  · intro hstored
    obtain ⟨m', hs⟩ := hstored
    obtain rfl : m' = m := Option.some.inj (hs.mapped.symm.trans h)
    exact ⟨⟨_, ring_ok_iff.mpr ⟨⟨hs.inside, hs.aligned⟩, rfl⟩, Mapped.pushFrame_ok.mpr ⟨hs.short, hs.room⟩⟩, hs.event,
      hs.signal⟩
  · intro hstored
    obtain ⟨⟨r, hring, hpush⟩, hevent, hsignal⟩ := hstored
    obtain ⟨⟨hinside, haligned⟩, rfl⟩ := ring_ok_iff.mp hring
    obtain ⟨hshort, hroom⟩ := Mapped.pushFrame_ok.mp hpush
    exact ⟨m, h, hinside, haligned, hshort, hroom, hevent, hsignal⟩

end

theorem refusesWhole_iff (setEvent : Bool) (bytes : List UInt8) (b : WindowsDriverBackend) :
    b.RefusesWhole setEvent bytes ↔ ¬ ∃ m, StoredUnsignalled setEvent bytes b m := by
  cases hshared : b.sharedMemory with
  | none =>
    refine iff_of_true (fun e _ => pushRxBytes_unmapped hshared) ?_
    intro hstored
    obtain ⟨m, hs⟩ := hstored
    cases hshared.symm.trans hs.mapped
  | some m =>
    rw [storedUnsignalled_iff hshared]
    cases hring : m.rxRing with
    | error e =>
      refine iff_of_true (fun _ _ => pushRxBytes_noRing hshared hring) ?_
      intro hstored
      obtain ⟨⟨r, hr, -⟩, -⟩ := hstored
      cases hr
    | ok r =>
      cases hpush : (Mapped.pushFrame (b.rings r.base) bytes).1 with
      | error e =>
        refine iff_of_true (fun _ _ => pushRxBytes_refused hshared hring hpush) ?_
        intro hstored
        obtain ⟨⟨r', hr, hok⟩, -⟩ := hstored
        cases hr
        cases hpush.symm.trans hok
      | ok _ =>
        obtain ⟨hresult, hne⟩ := pushRxBytes_stored setEvent hshared hring hpush
        have hstored : ∃ r', (.ok r : Except MappingError MappedRing) = .ok r' ∧
            (Mapped.pushFrame (b.rings r'.base) bytes).1 = .ok () := ⟨r, rfl, hpush⟩
        rw [and_iff_right hstored]
        constructor
        · intro hwhole hfails
          obtain ⟨e, he⟩ := hfails
          exact hne (hwhole e (hresult.trans he))
        · intro hset e he
          exact absurd ⟨e, hresult.symm.trans he⟩ hset

end WindowsDriverBackend

/-! ## The loop that flushes -/

structure WindowsFlush where
  queues : EndpointTransferQueues
  driver : WindowsDriverBackend
  failedResponses : List Frame

namespace WindowsFlush

/-- One turn of the loop; `setEvent` is what `SetEvent` returns in it. `none` is the end of the loop, or the panic of
`encode`. -/
def step (s : WindowsFlush) (setEvent : Bool) : Option WindowsFlush :=
  match s.queues.popNext with
  | (none, _) => none
  | (some transfer, queues) =>
    match transfer.frame.encode with
    | none => none
    | some bytes =>
      match s.driver.pushRxBytes setEvent bytes with
      | (.error _, driver) =>
        some ⟨queues, driver, s.failedResponses ++ [transfer.frame.statusResponse .failed]⟩
      -- `pump_once` is false here, which is only a warning
      | (.ok (), driver) => some ⟨queues, driver, s.failedResponses⟩

def AnswersOnce (s s' : WindowsFlush) : Prop := s'.failedResponses = s.failedResponses ∨ s'.driver = s.driver

def StoresUnsignalled (s : WindowsFlush) (setEvent : Bool) : Prop :=
  ∃ transfer bytes m, s.queues.popNext.1 = some transfer ∧ transfer.frame.encode = some bytes ∧
    s.driver.StoredUnsignalled setEvent bytes m

theorem step_of_encode {s : WindowsFlush} {transfer : QueuedTransfer} {bytes : List UInt8}
    (hpop : s.queues.popNext.1 = some transfer) (hencode : transfer.frame.encode = some bytes) (setEvent : Bool) :
    ∃ s', s.step setEvent = some s' ∧ s'.driver = (s.driver.pushRxBytes setEvent bytes).2 ∧
      (s'.failedResponses = s.failedResponses ↔ (s.driver.pushRxBytes setEvent bytes).1 = .ok ()) := by
  cases hqueues : s.queues.popNext with
  | mk popped queues =>
    rw [hqueues] at hpop
    dsimp only at hpop
    subst hpop
    cases hpush : s.driver.pushRxBytes setEvent bytes with
    | mk result driver =>
      cases result with
      | error e =>
        refine ⟨⟨queues, driver, s.failedResponses ++ [transfer.frame.statusResponse .failed]⟩, ?_, rfl, ?_⟩
        · simp only [step, hqueues, hencode, hpush]
        · simp
      | ok _ =>
        refine ⟨⟨queues, driver, s.failedResponses⟩, ?_, rfl, ?_⟩
        · simp only [step, hqueues, hencode, hpush]
        · simp

theorem step_some {s s' : WindowsFlush} {setEvent : Bool} (h : s.step setEvent = some s') :
    ∃ transfer bytes, s.queues.popNext.1 = some transfer ∧ transfer.frame.encode = some bytes := by
  unfold step at h
  cases hqueues : s.queues.popNext with
  | mk popped queues =>
    rw [hqueues] at h
    cases popped with
    | none => cases h
    | some transfer =>
      cases hencode : transfer.frame.encode with
      | none => simp only [hencode, reduceCtorEq] at h
      | some bytes => exact ⟨transfer, bytes, rfl, hencode⟩

theorem step_answersOnce_iff (s : WindowsFlush) (setEvent : Bool) :
    (∀ s', s.step setEvent = some s' → s.AnswersOnce s') ↔ ¬ s.StoresUnsignalled setEvent := by
  constructor
  · intro h hstores
    obtain ⟨transfer, bytes, m, hpop, hencode, hstored⟩ := hstores
    obtain ⟨s', hstep, hdriver, hfailed⟩ := step_of_encode hpop hencode setEvent
    refine (s.driver.refusesWhole_iff setEvent bytes).mp (fun e he => ?_) ⟨m, hstored⟩
    cases h s' hstep with
    | inl hsame => cases he.symm.trans (hfailed.mp hsame)
    | inr hsame => exact hdriver.symm.trans hsame
  · intro h s' hs
    obtain ⟨transfer, bytes, hpop, hencode⟩ := step_some hs
    obtain ⟨s'', hstep, hdriver, hfailed⟩ := step_of_encode hpop hencode setEvent
    obtain rfl : s'' = s' := Option.some.inj (hstep.symm.trans hs)
    have hwhole := (s.driver.refusesWhole_iff setEvent bytes).mpr
      fun ⟨m, hstored⟩ => h ⟨transfer, bytes, m, hpop, hencode, hstored⟩
    cases hresult : (s.driver.pushRxBytes setEvent bytes).1 with
    | ok _ => exact Or.inl (hfailed.mpr hresult)
    | error e => exact Or.inr (hdriver.trans (hwhole e hresult))

end WindowsFlush

/-- For every state of the backend, every frame and every outcome of the event: a refused push leaves nothing behind
exactly when it is not the event alone that fails; and in every flush, no transfer is both failed and left with the
driver exactly when that happens in no turn. -/
theorem push_whole_iff (b : WindowsDriverBackend) (setEvent : Bool) (bytes : List UInt8) (s : WindowsFlush)
    (setEvents : List Bool) :
    (b.RefusesWhole setEvent bytes ↔ ¬ ∃ m, b.StoredUnsignalled setEvent bytes m) ∧
      (Along WindowsFlush.step (fun s setEvent => ∀ s', s.step setEvent = some s' → s.AnswersOnce s') s setEvents ↔
        Along WindowsFlush.step (fun s setEvent => ¬ s.StoresUnsignalled setEvent) s setEvents) := by
  constructor
  · exact b.refusesWhole_iff setEvent bytes
  · refine along_iff (P := fun _ => True) ?_ ?_ trivial
    · intro s setEvent _
      exact s.step_answersOnce_iff setEvent
    · intro s setEvent s' _ _ _
      trivial

def mappedBackend : WindowsDriverBackend where
  sharedMemory := some
    { sectionHandle := 4
      txEvent := some 8
      rxEvent := some 12
      view := initialView
      mappingSize := SharedMemoryLayout.initialHeader.mappingSize
      txRingOffset := SharedMemoryLayout.initialHeader.txRingOffset
      rxRingOffset := SharedMemoryLayout.initialHeader.rxRingOffset }
  rings := fun _ => SharedMemoryLayout.initial.rxRing

theorem mappedBackend_not_whole : ¬ mappedBackend.RefusesWhole false [1] := by
  rw [WindowsDriverBackend.refusesWhole_iff, Classical.not_not]
  exact ⟨_, rfl, by decide, by decide, by decide, by decide, by decide, rfl⟩

end WhyUsb
