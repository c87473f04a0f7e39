import WhyUsb.Queue.Refinement

/-!
# The order in which transfers were queued

The queues keep an order under each key only. `Arrivals` carries the order of
arrival over all keys beside them; each key's queue is its part of that list,
and what `cancel` takes is the first with its id under the least key.
-/

namespace WhyUsb

open FifoMap

/-- The queues, and what they hold in the order it was enqueued. -/
structure Arrivals where
  queues : EndpointTransferQueues
  pending : List QueuedTransfer

namespace Arrivals

def init : Arrivals where
  queues := .default
  pending := []

def step (s : Arrivals) (op : QueueOp) : Arrivals where
  queues := (s.queues.apply op).2
  pending :=
    match op with
    | .enqueue f => s.pending ++ QueueRun.accepted f (s.queues.enqueue f).1
    | .popNext => s.queues.popNext.1.elim s.pending s.pending.erase
    | .cancel r => (s.queues.cancel r).1.elim s.pending s.pending.erase
    | .resetEndpoint k => s.pending.filter fun t => t.key ≠ k
    | .clear => []

def run (ops : List QueueOp) : Arrivals := ops.foldl step init

structure Inv (s : Arrivals) : Prop where
  wf : s.queues.Wf
  parts : Parts QueuedTransfer.key (view s.queues.queues) s.pending

open EndpointTransferQueues

section
variable {s : Arrivals}

theorem Inv.mem_iff (h : Inv s) {t : QueuedTransfer} : t ∈ s.pending ↔ ∃ k, t ∈ view s.queues.queues k := by
  rw [h.parts.mem_iff]
  refine ⟨fun ht => ⟨_, ht⟩, ?_⟩
  rintro ⟨k, ht⟩
  obtain rfl := h.wf.keyed k t ht
  exact ht

theorem Inv.key (h : Inv s) {t : QueuedTransfer} (ht : t ∈ s.pending) : t.key = EndpointKey.fromFrame t.frame := by
  have hview := h.parts.mem_iff.mp ht
  cases hk : s.queues.queues[t.key]? with
  | none => rw [view_of_none hk] at hview; cases hview
  | some ts =>
    rw [view_of_some hk] at hview
    exact ((h.wf.stored _ _ hk).2 t hview).2.symm

theorem enqueue_inv (h : Inv s) (f : Frame) : Inv (s.step (.enqueue f)) := by
  by_cases hf : f.frameType = .request
  · obtain ⟨hout, hwf, -, hview⟩ := enqueue_accepted h.wf hf
    refine ⟨hwf, ?_⟩
    simp only [step, apply, hview, hout]
    exact h.parts.put rfl
  · have hsame : s.step (.enqueue f) = s := by
      simp only [step, apply, enqueue_rejected hf, QueueRun.accepted, List.append_nil]
    rw [hsame]
    exact h

theorem popNext_inv (h : Inv s) : Inv (s.step .popNext) := by
  cases ho : s.queues.activeOrder with
  | nil =>
    have hsame : s.step .popNext = s := by
      simp only [step, apply, (popNext_empty h.wf ho).1, Option.elim_none]
    rw [hsame]
    exact h
  | cons k order =>
    obtain ⟨t, rest, hview, rfl, hout, hwf, -, hview'⟩ := popNext_front h.wf ho
    refine ⟨hwf, ?_⟩
    simp only [step, apply, hview', hout, Option.elim_some]
    have hfront : view s.queues.queues t.key = [] ++ t :: rest := hview
    exact h.parts.erase hfront List.not_mem_nil

theorem cancel_inv (h : Inv s) (r : UInt64) : Inv (s.step (.cancel r)) := by
  by_cases hr : ∃ k, ∃ u ∈ view s.queues.queues k, u.frame.requestId = r
  · obtain ⟨k, u, hu, hur⟩ := hr
    obtain ⟨t, before, after, hview, hid, hbefore, hout, hwf, -, hview'⟩ := cancel_some h.wf hu hur
    refine ⟨hwf, ?_⟩
    simp only [step, apply, hview', hout, Option.elim_some]
    exact h.parts.erase hview fun ht => hbefore t ht hid
  · have hnone : ∀ k, ∀ t ∈ view s.queues.queues k, t.frame.requestId ≠ r := fun k t ht hid => hr ⟨k, t, ht, hid⟩
    have hsame : s.step (.cancel r) = s := by
      simp only [step, apply, cancel_none hnone, Option.elim_none]
    rw [hsame]
    exact h

theorem step_inv (h : Inv s) (op : QueueOp) : Inv (s.step op) := by
  cases op with
  | enqueue f => exact enqueue_inv h f
  | popNext => exact popNext_inv h
  | cancel r => exact cancel_inv h r
  | resetEndpoint k =>
    obtain ⟨-, hwf, -, hview⟩ := resetEndpoint_spec h.wf k
    refine ⟨hwf, ?_⟩
    simp only [step, apply, hview]
    exact h.parts.drop k
  | clear =>
    refine ⟨wf_empty rfl rfl rfl, ?_⟩
    rw [show view (s.step .clear).queues.queues = fun _ => [] from view_empty]
    exact parts_empty

end

theorem init_inv : Inv init where
  wf := wf_empty rfl rfl rfl
  parts := by rw [show view init.queues.queues = fun _ => [] from view_empty]; exact parts_empty

theorem run_inv (ops : List QueueOp) : Inv (run ops) := by
  have hfold : ∀ (ops : List QueueOp) {s : Arrivals}, Inv s → Inv (ops.foldl step s) := by
    intro ops
    induction ops with
    | nil => exact id
    | cons op ops ih => exact fun h => ih (step_inv h op)
  exact hfold ops init_inv

end Arrivals

/-! ## What `cancel` takes -/

namespace EndpointTransferQueues

/-- In a list sorted by key the search stops at the least key that has the request. -/
theorem findRequest_least {r : UInt64} {key : EndpointKey} {queue : List QueuedTransfer} {index : Nat}
    {l : List (EndpointKey × List QueuedTransfer)} (hl : l.Pairwise fun a b => a.1.cmp b.1 = .lt)
    (h : findRequest r l = some (key, queue, index)) :
    ∀ p ∈ l, ∀ t ∈ p.2, t.frame.requestId = r → key.cmp p.1 ≠ .gt := by
  induction l with
  | nil => intro p hp; cases hp
  | cons q rest ih =>
    obtain ⟨hq, hrest⟩ := List.pairwise_cons.mp hl
    intro p hp t ht hid
    cases hfound : q.2.findIdx? fun transfer => transfer.frame.requestId == r with
    | none =>
      simp only [findRequest, hfound] at h
      rcases List.mem_cons.mp hp with rfl | hp
      · have := List.findIdx?_eq_none_iff.mp hfound t ht
        rw [beq_eq_false_iff_ne] at this
        exact absurd hid this
      · exact ih hrest h p hp t ht hid
    | some i =>
      simp only [findRequest, hfound, Option.some.injEq, Prod.mk.injEq] at h
      rw [← h.1]
      rcases List.mem_cons.mp hp with rfl | hp
      · have hself : EndpointKey.cmp p.1 p.1 = .eq := Std.ReflCmp.compare_self
        rw [hself]
        decide
      · rw [hq p hp]
        decide

theorem cancel_least {q : EndpointTransferQueues} (h : Wf q) {r : UInt64} {t : QueuedTransfer}
    (ht : (q.cancel r).1 = some t) {k : EndpointKey} {u : QueuedTransfer} (hu : u ∈ view q.queues k)
    (hid : u.frame.requestId = r) : t.key.cmp k ≠ .gt := by
  obtain ⟨ts, hts, hu⟩ := mem_view_iff.mp hu
  cases hfind : findRequest r q.queues.toList with
  | none =>
    simp only [cancel, hfind] at ht
    cases ht
  | some found =>
    obtain ⟨key, queue, index⟩ := found
    have hleast := findRequest_least Std.TreeMap.ordered_keys_toList hfind _ hts u hu hid
    have hmem := (findRequest_some hfind).1
    have hkeys := (h.stored key _ (Std.TreeMap.mem_toList_iff_getElem?_eq_some.mp hmem)).2
    cases hget : queue[index]? with
    | none =>
      simp only [cancel, hfind, hget] at ht
      cases ht
    | some t' =>
      simp only [cancel, hfind, hget, Option.some.injEq] at ht
      rw [← ht, (hkeys t' (List.mem_of_getElem? hget)).1]
      exact hleast

end EndpointTransferQueues

namespace Arrivals

/-- The earliest enqueued transfer with the id under the least key that has one. -/
structure CancelTarget (pending : List QueuedTransfer) (r : UInt64) (t : QueuedTransfer) : Prop where
  id : t.frame.requestId = r
  first : pending.find? (fun u => u.key = t.key ∧ u.frame.requestId = r) = some t
  least : ∀ u ∈ pending, u.frame.requestId = r → t.key.cmp u.key ≠ .gt

theorem cancel_takes {s : Arrivals} (h : Inv s) (r : UInt64) :
    (∃ t, CancelTarget s.pending r t ∧ (s.queues.cancel r).1 = some t ∧
      Parts QueuedTransfer.key (view (s.queues.cancel r).2.queues) (s.pending.erase t)) ∨
    ((∀ t ∈ s.pending, t.frame.requestId ≠ r) ∧ s.queues.cancel r = (none, s.queues)) := by
  by_cases hr : ∃ u ∈ s.pending, u.frame.requestId = r
  · left
    obtain ⟨u, hu, hur⟩ := hr
    obtain ⟨t, before, after, hview, hid, hbefore, hout, -, -, hview'⟩ :=
      EndpointTransferQueues.cancel_some h.wf (h.parts.mem_iff.mp hu) hur
    refine ⟨t, ⟨hid, ?_, ?_⟩, hout, ?_⟩
    · have hpart : s.pending.find? (fun u => u.key = t.key ∧ u.frame.requestId = r) =
          (ofKey QueuedTransfer.key t.key s.pending).find? fun u => u.frame.requestId == r := by
        rw [ofKey, List.find?_filter]
        simp
      have hnone : before.find? (fun u => u.frame.requestId == r) = none :=
        List.find?_eq_none.mpr fun u hu => by simpa using hbefore u hu
      rw [hpart, ← h.parts, hview, List.find?_append, hnone, Option.none_or,
        List.find?_cons_of_pos (by simpa using hid)]
    · intro u hu hur
      exact EndpointTransferQueues.cancel_least h.wf hout (h.parts.mem_iff.mp hu) hur
    · rw [hview']
      exact h.parts.erase hview fun ht => hbefore t ht hid
  · right
    have hnone : ∀ t ∈ s.pending, t.frame.requestId ≠ r := fun t ht hid => hr ⟨t, ht, hid⟩
    exact ⟨hnone, EndpointTransferQueues.cancel_none fun k t ht => hnone t (h.mem_iff.mpr ⟨k, ht⟩)⟩

end Arrivals

end WhyUsb
