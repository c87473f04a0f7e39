import WhyUsb.Descriptor.Basic

/-!
# Attach and detach

`attach_session` and `detach_session`, shared by both sessions. A session
keeps its state and whether it attached the device itself; `calls` records the
calls of the driver's control plane, each with its outcome. Every run of a
session is bracketed: a successful attach at most once, a detach only between
it and a successful detach.
-/

namespace WhyUsb

inductive SessionState where
  | connected
  | attached
  | detaching
  | closed
  deriving DecidableEq, Repr

structure DeviceAttachRequest where
  vendorId : UInt16
  productId : UInt16
  busId : UInt8
  portId : UInt8
  flags : UInt16
  deriving DecidableEq, Repr

inductive DriverCall where
  | attachDevice (request : DeviceAttachRequest) (ok : Bool)
  | detachDevice (reason : UInt32) (ok : Bool)
  deriving DecidableEq, Repr

structure Lifecycle where
  state : SessionState
  attachedByControlPlane : Bool
  calls : List DriverCall
  deriving DecidableEq, Repr

def Lifecycle.new : Lifecycle where
  state := .connected
  attachedByControlPlane := false
  calls := []

/-- `ok` is the outcome of `attach_device`, where it is called. -/
def attachSession (ok : Bool) (attachDevice : Option DeviceAttachRequest) (s : Lifecycle) : Int32 × Lifecycle :=
  if s.state = .attached then (0, s)
  else
    match attachDevice with
    | some request =>
      if ok then
        (0, { state := .attached, attachedByControlPlane := true, calls := s.calls ++ [.attachDevice request true] })
      else (-1, { s with calls := s.calls ++ [.attachDevice request false] })
    | none => (0, { s with state := .attached })

/-- `ok` is the outcome of `detach_device`, where it is called. -/
def detachSession (ok : Bool) (s : Lifecycle) : Int32 × Lifecycle :=
  if s.state = .closed then (0, s)
  else if s.attachedByControlPlane then
    if ok then
      (0, { state := .closed, attachedByControlPlane := false, calls := s.calls ++ [.detachDevice 0 true] })
    else (-1, { s with state := .detaching, calls := s.calls ++ [.detachDevice 0 false] })
  else (0, { s with state := .closed })

def descriptorSetForAttach (attachDevice : Option DeviceAttachRequest) : UsbDescriptorSet :=
  let (vendorId, productId) :=
    (attachDevice.map fun request => (request.vendorId, request.productId)).getD (0x1209, 0x0001)
  .mockHidKeyboard vendorId productId

/-! ## Brackets -/

def DriverCall.isAttach : DriverCall → Bool
  | .attachDevice _ ok => ok
  | .detachDevice _ _ => false

def DriverCall.isDetach (outcome : Bool) : DriverCall → Bool
  | .attachDevice _ _ => false
  | .detachDevice _ ok => ok == outcome

def attaches (calls : List DriverCall) : Nat := calls.countP DriverCall.isAttach

def detaches (outcome : Bool) (calls : List DriverCall) : Nat := calls.countP (DriverCall.isDetach outcome)

/-- At most one attach succeeds, and a detach is only called while an attach is unmatched. -/
structure WellBracketed (calls : List DriverCall) : Prop where
  attach_once : attaches calls ≤ 1
  detach_within : ∀ before reason ok after, calls = before ++ .detachDevice reason ok :: after →
    detaches true before < attaches before

/-- After a successful attach, either one detach succeeded or there was one and all failed. -/
def Released (calls : List DriverCall) : Prop :=
  attaches calls = 0 ∨ detaches true calls = 1 ∨ (detaches true calls = 0 ∧ 0 < detaches false calls)

@[simp] theorem attaches_snoc (calls : List DriverCall) (c : DriverCall) :
    attaches (calls ++ [c]) = attaches calls + if c.isAttach then 1 else 0 := by
  rw [attaches, List.countP_append, List.countP_singleton, ← attaches]

@[simp] theorem detaches_snoc (outcome : Bool) (calls : List DriverCall) (c : DriverCall) :
    detaches outcome (calls ++ [c]) = detaches outcome calls + if c.isDetach outcome then 1 else 0 := by
  rw [detaches, List.countP_append, List.countP_singleton, ← detaches]

theorem wellBracketed_nil : WellBracketed [] where
  attach_once := Nat.zero_le 1
  detach_within := fun _ _ _ _ h => by simp at h

/-- A call may be added when a successful attach is the first one and a detach has an attach to match. -/
theorem WellBracketed.snoc {calls : List DriverCall} (h : WellBracketed calls) (c : DriverCall)
    (hattach : c.isAttach = true → attaches calls = 0)
    (hdetach : ∀ reason ok, c = .detachDevice reason ok → detaches true calls < attaches calls) :
    WellBracketed (calls ++ [c]) := by
  constructor
  · rw [attaches_snoc]
    split
    · rename_i hc
      rw [hattach hc]
    · exact h.attach_once
  · intro before reason ok after hcalls
    rcases List.eq_nil_or_concat after with rfl | ⟨after', last, rfl⟩
    · obtain ⟨rfl, hlast⟩ := List.append_inj' hcalls rfl
      exact hdetach reason ok (List.cons.inj hlast).1
    · rw [List.concat_eq_append, ← List.cons_append, ← List.append_assoc] at hcalls
      exact h.detach_within before reason ok after' (List.append_inj' hcalls rfl).1

namespace Lifecycle

/-- The session knows whether it holds the device. -/
structure Bracketed (s : Lifecycle) : Prop where
  wellBracketed : WellBracketed s.calls
  detaches_le : detaches true s.calls ≤ attaches s.calls
  attached_iff : s.attachedByControlPlane = true ↔ detaches true s.calls < attaches s.calls

/-- Before the session is left: connected and without the device, or attached. -/
structure Open (s : Lifecycle) : Prop extends Bracketed s where
  state : (s.state = .connected ∧ attaches s.calls = 0) ∨ s.state = .attached

structure Left (s : Lifecycle) : Prop extends Bracketed s where
  released : Released s.calls

theorem new_open : Open new where
  wellBracketed := wellBracketed_nil
  detaches_le := Nat.le_refl 0
  attached_iff := iff_of_false Bool.false_ne_true (Nat.lt_irrefl 0)
  state := Or.inl ⟨rfl, rfl⟩

theorem Open.not_closed {s : Lifecycle} (h : Open s) : s.state ≠ .closed := by
  rcases h.state with ⟨hstate, -⟩ | hstate
  · rw [hstate]
    decide
  · rw [hstate]
    decide

theorem attachSession_open {s : Lifecycle} (h : Open s) (ok : Bool) (attachDevice : Option DeviceAttachRequest) :
    Open (attachSession ok attachDevice s).2 := by
  unfold attachSession
  rcases h.state with ⟨hstate, hnone⟩ | hstate
  · have hle := h.detaches_le
    rw [if_neg (by rw [hstate]; decide)]
    cases attachDevice with
    | none => exact { h with state := Or.inr rfl }
    | some request =>
      cases ok with
      | true =>
        refine { wellBracketed := ?_, detaches_le := ?_, attached_iff := ?_, state := Or.inr rfl }
        · exact h.wellBracketed.snoc _ (fun _ => hnone) fun _ _ hc => nomatch hc
        · simp only [if_true, detaches_snoc, attaches_snoc, DriverCall.isDetach, Bool.false_eq_true, if_false]
          omega
        · simp only [if_true, detaches_snoc, attaches_snoc, DriverCall.isDetach, DriverCall.isAttach,
            Bool.false_eq_true, if_false, true_iff]
          omega
      | false =>
        refine { wellBracketed := ?_, detaches_le := ?_, attached_iff := ?_, state := Or.inl ⟨hstate, ?_⟩ }
        · exact h.wellBracketed.snoc _ (fun hc => nomatch hc) fun _ _ hc => nomatch hc
        · simpa [DriverCall.isDetach, DriverCall.isAttach] using h.detaches_le
        · simpa [DriverCall.isDetach, DriverCall.isAttach] using h.attached_iff
        · simpa [DriverCall.isAttach] using hnone
  · rw [if_pos hstate]
    exact h

/-- Status 0 is the answer exactly when the session is attached now. -/
theorem attachSession_status {s : Lifecycle} (ok : Bool) (attachDevice : Option DeviceAttachRequest) :
    (attachSession ok attachDevice s).1 = 0 ↔ (attachSession ok attachDevice s).2.state = .attached := by
  unfold attachSession
  split
  · rename_i hstate
    exact iff_of_true rfl hstate
  · rename_i hstate
    cases attachDevice with
    | none => exact iff_of_true rfl rfl
    | some request =>
      cases ok with
      | true => exact iff_of_true rfl rfl
      | false => exact iff_of_false (show ¬ (-1 : Int32) = 0 by decide) hstate

/-- A session that is not closed is left by its next `detach_session`, whatever the driver says. -/
theorem detachSession_left {s : Lifecycle} (h : Bracketed s) (hopen : s.state ≠ .closed) (ok : Bool) :
    Left (detachSession ok s).2 := by
  have hle := h.detaches_le
  have honce := h.wellBracketed.attach_once
  unfold detachSession
  rw [if_neg hopen]
  split
  · rename_i hattached
    have hlt := h.attached_iff.mp hattached
    have hwb : ∀ ok, WellBracketed (s.calls ++ [.detachDevice 0 ok]) := fun ok =>
      h.wellBracketed.snoc _ (fun hc => nomatch hc) fun _ _ _ => hlt
    cases ok with
    | true =>
      refine { wellBracketed := hwb true, detaches_le := ?_, attached_iff := ?_, released := Or.inr (Or.inl ?_) }
      · simp only [if_true, detaches_snoc, attaches_snoc, DriverCall.isDetach, DriverCall.isAttach, beq_self_eq_true,
          Bool.false_eq_true, if_false]
        omega
      · simp only [if_true, detaches_snoc, attaches_snoc, DriverCall.isDetach, DriverCall.isAttach, beq_self_eq_true,
          Bool.false_eq_true, if_false, false_iff]
        omega
      · simp only [if_true, detaches_snoc, DriverCall.isDetach, beq_self_eq_true]
        omega
    | false =>
      refine { wellBracketed := hwb false, detaches_le := ?_, attached_iff := ?_, released := Or.inr (Or.inr ⟨?_, ?_⟩) }
      · simpa [DriverCall.isDetach, DriverCall.isAttach] using hle
      · simpa [DriverCall.isDetach, DriverCall.isAttach] using h.attached_iff
      · have hzero : detaches true s.calls = 0 := by omega
        simpa [DriverCall.isDetach] using hzero
      · simp only [Bool.false_eq_true, if_false, detaches_snoc, DriverCall.isDetach, beq_self_eq_true, if_true]
        omega
  · rename_i hattached
    refine { h with released := ?_ }
    have hge : ¬ detaches true s.calls < attaches s.calls := fun hlt => hattached (h.attached_iff.mpr hlt)
    rcases Nat.eq_zero_or_pos (attaches s.calls) with hzero | hpos
    · exact Or.inl hzero
    · exact Or.inr (Or.inl (show detaches true s.calls = 1 by omega))

/-- The cleanup overwrites the state and detaches once more. -/
theorem detaching_left {s : Lifecycle} (h : Bracketed s) (ok : Bool) :
    Left (detachSession ok { s with state := .detaching }).2 :=
  @detachSession_left { s with state := .detaching } ⟨h.wellBracketed, h.detaches_le, h.attached_iff⟩ (by simp) ok

end Lifecycle

end WhyUsb
