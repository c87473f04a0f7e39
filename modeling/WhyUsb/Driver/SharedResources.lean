import WhyUsb.Driver.DeviceSessions

/-!
# A `GET_SHARED_MEMORY` that fails

Whatever fails while the shared resources are created, the same routine cleans
up: it closes what was created, and with it drops the rings the driver had.
-/

namespace WhyUsb

namespace Driver

/-- The session, the rings with their frames, who owns them, and the context are as before. -/
structure Unchanged (d d' : Driver) : Prop where
  session : d'.gSessionState = d.gSessionState
  sharedMemory : d'.gSharedMemory = d.gSharedMemory
  queued : ∀ address, d.gSharedMemory = some address → d'.memory address = d.memory address
  ownership : d'.gOwnsSharedMemory = d.gOwnsSharedMemory
  context : d'.context = d.context

def FailsUnchanged (k : Kernel) (d : Driver) : Prop :=
  ¬ NtSuccess (d.ensureSharedResources k).1 → d.Unchanged (d.ensureSharedResources k).2

/-- No rings and an empty context: what the cleanup leaves is what it found. -/
structure Bare (d : Driver) : Prop where
  sharedMemory : d.gSharedMemory = none
  ownership : d.gOwnsSharedMemory = false
  context : d.context = .zeroed

section
variable {d : Driver} {k : Kernel}

theorem closeSharedResources_bare (d : Driver) :
    d.closeSharedResources.Bare ∧ d.closeSharedResources.gSessionState = d.gSessionState :=
  ⟨⟨rfl, rfl, rfl⟩, rfl⟩

/-- Each of the four calls that can fail ends in the same cleanup. -/
theorem ensureSharedResources_cleanup (h : d.context.sharedMemoryReady = false) (hk : ¬ k.CreatesResources) :
    (d.ensureSharedResources k).2 = (d.createSharedResources k).2.closeSharedResources := by
  obtain ⟨hfailed, -⟩ := createSharedResources_failed (d := d) hk
  simp only [ensureSharedResources, h, hfailed, Bool.false_eq_true, not_false_eq_true, if_true, if_false]

theorem ensureSharedResources_bare (h : d.context.sharedMemoryReady = false) (hk : ¬ k.CreatesResources) :
    (d.ensureSharedResources k).2.Bare ∧ (d.ensureSharedResources k).2.gSessionState = d.gSessionState := by
  obtain ⟨-, hsession⟩ := createSharedResources_failed (d := d) hk
  obtain ⟨hbare, hsame⟩ := closeSharedResources_bare (d.createSharedResources k).2
  rw [ensureSharedResources_cleanup h hk]
  exact ⟨hbare, hsame.trans hsession⟩

end

/-- For every state and all answers of the kernel: a failure changes nothing exactly when there is none, since the
resources are ready or created, or there is nothing to lose. -/
theorem failsUnchanged_iff (k : Kernel) (d : Driver) :
    FailsUnchanged k d ↔ d.context.sharedMemoryReady = true ∨ k.CreatesResources ∨ d.Bare := by
  have hsuccess : NtSuccess statusSuccess := by decide
  by_cases hready : d.context.sharedMemoryReady = true
  · refine iff_of_true (fun hfailed => ?_) (Or.inl hready)
    rw [ensureSharedResources_ready hready] at hfailed
    exact absurd hsuccess hfailed
  · have hidle : d.context.sharedMemoryReady = false := Bool.not_eq_true _ ▸ hready
    by_cases hk : k.CreatesResources
    · refine iff_of_true (fun hfailed => ?_) (Or.inr (Or.inl hk))
      rw [(ensureSharedResources_ok hidle hk).1] at hfailed
      exact absurd hsuccess hfailed
    · obtain ⟨hfailed, -⟩ := ensureSharedResources_failed hidle hk
      obtain ⟨hbare, hsession⟩ := ensureSharedResources_bare hidle hk
      constructor
      · intro h
        have hsame := h hfailed
        exact Or.inr (Or.inr ⟨hsame.sharedMemory.symm.trans hbare.sharedMemory,
          hsame.ownership.symm.trans hbare.ownership, hsame.context.symm.trans hbare.context⟩)
      · rintro (h | h | hd) -
        · exact absurd h hready
        · exact absurd h hk
        · refine ⟨hsession, hbare.sharedMemory.trans hd.sharedMemory.symm, fun address haddress => ?_,
            hbare.ownership.trans hd.ownership.symm, hbare.context.trans hd.context.symm⟩
          cases hd.sharedMemory.symm.trans haddress

/-- A kernel that cannot create the section. -/
def sectionlessKernel : Kernel :=
  { grantingKernel statusSuccess with zwCreateSection := ⟨statusInsufficientResources, 0⟩ }

/-- After `DriverEntry` the driver has rings of its own, and a section that cannot be created takes them away. -/
theorem sectionlessKernel_not_unchanged :
    ¬ FailsUnchanged sectionlessKernel (driverEntry (some 0x1000) fun _ => .initial).2 := by
  intro h
  have hlost := (h (by decide)).sharedMemory
  exact absurd hlost (by decide)

end Driver

end WhyUsb
