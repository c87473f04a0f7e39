import WhyUsb.Queue.Refinement

/-!
# The representation, and draining it

In every reachable state the order, the active keys and the stored queues agree
and `len` counts the transfers. So no operation takes more from `len` than is
in it, `pop_next` fails only when nothing is held, and the loop that pops until
`None` takes every transfer and leaves the default bookkeeping.
-/

namespace WhyUsb

open FifoMap

namespace EndpointTransferQueues

/-- The four structures agree. -/
structure Consistent (q : EndpointTransferQueues) : Prop where
  nodup : q.activeOrder.Nodup
  order_keys : ∀ k, k ∈ q.activeOrder ↔ k ∈ q.activeKeys
  order_queues : ∀ k, k ∈ q.activeOrder ↔ k ∈ q.queues
  stored : ∀ k ts, q.queues[k]? = some ts → ts ≠ [] ∧ ∀ t ∈ ts, t.key = k ∧ EndpointKey.fromFrame t.frame = k
  len : q.len = (q.queues.toList.map fun p => p.2.length).sum

/-- `while let Some(transfer) = q.pop_next()`, at most `n` times. -/
def drain : Nat → EndpointTransferQueues → List QueuedTransfer × EndpointTransferQueues
  | 0, q => ([], q)
  | n + 1, q =>
    match q.popNext with
    | (none, q) => ([], q)
    | (some t, q) => (t :: (drain n q).1, (drain n q).2)

section
variable {q : EndpointTransferQueues}

theorem held_length (q : EndpointTransferQueues) :
    q.held.length = (q.queues.toList.map fun p => p.2.length).sum := by
  rw [held, List.length_flatMap]

theorem Wf.consistent (h : Wf q) (hlen : q.len = q.held.length) : Consistent q where
  nodup := h.nodup
  order_keys := fun k => (h.order k).trans (h.keys k).symm
  order_queues := h.order
  stored := h.stored
  len := hlen.trans (held_length q)

theorem held_eq_nil (h : ∀ k, view q.queues k = []) : q.held = [] :=
  List.eq_nil_iff_forall_not_mem.mpr fun t ht => by
    obtain ⟨k, hk⟩ := mem_held_iff.mp ht
    rw [h k] at hk
    cases hk

theorem popNext_some_len (h : Wf q) (hlen : q.len = q.held.length) {t : QueuedTransfer} (ht : q.popNext.1 = some t) :
    1 ≤ q.len := by
  cases ho : q.activeOrder with
  | nil =>
    rw [(popNext_empty h ho).1] at ht
    cases ht
  | cons k order =>
    obtain ⟨u, rest, hview, -⟩ := popNext_front h ho
    have hle := @view_length_le q k
    rw [hview, List.length_cons] at hle
    omega

theorem cancel_some_len (h : Wf q) (hlen : q.len = q.held.length) {r : UInt64} {t : QueuedTransfer}
    (ht : (q.cancel r).1 = some t) : 1 ≤ q.len := by
  have href := cancel_refines h r
  rw [ht] at href
  obtain ⟨before, after, hview, -⟩ := href
  have hle := @view_length_le q t.key
  rw [hview, List.length_append, List.length_cons] at hle
  omega

theorem resetEndpoint_len (h : Wf q) (hlen : q.len = q.held.length) (k : EndpointKey) :
    (q.resetEndpoint k).1.length ≤ q.len := by
  rw [(resetEndpoint_spec h k).1, hlen]
  exact view_length_le k

theorem popNext_none_iff (h : Wf q) (hlen : q.len = q.held.length) : q.popNext.1 = none ↔ q.len = 0 := by
  cases ho : q.activeOrder with
  | nil =>
    obtain ⟨hpop, hnone⟩ := popNext_empty h ho
    rw [hpop, hlen, held_eq_nil hnone]
    exact iff_of_true rfl rfl
  | cons k order =>
    obtain ⟨t, rest, -, -, hout, -⟩ := popNext_front h ho
    have hpos := popNext_some_len h hlen hout
    rw [hout]
    exact iff_of_false (fun h => nomatch h) (by omega)

end

end EndpointTransferQueues

namespace QueueRun

open EndpointTransferQueues

/-- Draining is so many pops. -/
theorem drain_pops : ∀ (n : Nat) {s : QueueRun}, Inv s → s.queues.len = n →
    (drain n s.queues).1.length = n ∧ ∃ s', Inv s' ∧ s'.queues = (drain n s.queues).2 ∧ s'.queues.len = 0
  | 0, s, h, hn => ⟨rfl, s, h, rfl, hn⟩
  | n + 1, s, h, hn => by
    cases ho : s.queues.activeOrder with
    | nil =>
      have hnone := (popNext_none_iff h.wf h.held_length.symm).mp (by rw [(popNext_empty h.wf ho).1])
      omega
    | cons k order =>
      obtain ⟨t, rest, -, -, hout, -, hlen, -⟩ := popNext_front h.wf ho
      have hpop : s.queues.popNext = (some t, (s.step .popNext).queues) := Prod.ext hout rfl
      have hn' : (s.step .popNext).queues.len = n := by
        rw [show (s.step .popNext).queues = s.queues.popNext.2 from rfl, hlen]
        omega
      obtain ⟨hcount, s', hinv, hs', hempty⟩ := drain_pops n (step_inv h .popNext) hn'
      simp only [drain, hpop, List.length_cons, hcount]
      exact ⟨trivial, s', hinv, hs', hempty⟩

/-- After any operations the representation is consistent, no count underflows, and popping `len` times empties it. -/
theorem run_consistent (ops : List QueueOp) :
    Consistent (run ops).queues ∧
      (∀ t, (run ops).queues.popNext.1 = some t → 1 ≤ (run ops).queues.len) ∧
      (∀ r t, ((run ops).queues.cancel r).1 = some t → 1 ≤ (run ops).queues.len) ∧
      (∀ k, ((run ops).queues.resetEndpoint k).1.length ≤ (run ops).queues.len) ∧
      ((run ops).queues.popNext.1 = none ↔ (run ops).queues.len = 0) ∧
      (drain (run ops).queues.len (run ops).queues).1.length = (run ops).queues.len ∧
      (drain (run ops).queues.len (run ops).queues).2.held = [] ∧
      (drain (run ops).queues.len (run ops).queues).2.activeOrder = [] ∧
      (drain (run ops).queues.len (run ops).queues).2.len = 0 ∧
      (drain (run ops).queues.len (run ops).queues).2.popNext.1 = none := by
  have h := run_inv ops
  have hlen := h.held_length.symm
  obtain ⟨hcount, s', hs', hq, hempty⟩ := drain_pops _ h rfl
  have hnone := (popNext_none_iff hs'.wf hs'.held_length.symm).mpr hempty
  have horder : s'.queues.activeOrder = [] := by
    cases ho : s'.queues.activeOrder with
    | nil => rfl
    | cons k order =>
      obtain ⟨t, rest, -, -, hout, -⟩ := popNext_front hs'.wf ho
      rw [hout] at hnone
      cases hnone
  rw [← hq]
  exact ⟨h.wf.consistent hlen, fun t => popNext_some_len h.wf hlen, fun r t => cancel_some_len h.wf hlen,
    resetEndpoint_len h.wf hlen, popNext_none_iff h.wf hlen, hcount,
    List.length_eq_zero_iff.mp (hs'.held_length.trans hempty), horder, hempty, hnone⟩

end QueueRun

end WhyUsb
