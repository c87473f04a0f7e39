import WhyUsb.Lib.RoundRobin
import WhyUsb.Protocol.Requests
import WhyUsb.Queue.Refinement

/-!
# Endpoints are served in turn

Every operation is a move of a round-robin order: `enqueue` joins at the back,
`pop_next` serves the front, `cancel` and `reset_endpoint` drop. A key whose
queue does not run empty is served after those that stood before it, and
between two services of one key every other such key is served once.
-/

namespace WhyUsb

open RoundRobin

namespace EndpointTransferQueues

def servedBy (q : EndpointTransferQueues) : QueueOp → Option EndpointKey
  | .popNext => q.popNext.1.map (·.key)
  | _ => none

def served : EndpointTransferQueues → List QueueOp → List EndpointKey
  | _, [] => []
  | q, op :: ops => (q.servedBy op).toList ++ served (q.apply op).2 ops

def applyAll (q : EndpointTransferQueues) (ops : List QueueOp) : EndpointTransferQueues :=
  ops.foldl (fun q op => (q.apply op).2) q

/-- After each of the operations, the queues of `K` are not empty. -/
def Stays (K : EndpointKey → Prop) : EndpointTransferQueues → List QueueOp → Prop
  | _, [] => True
  | q, op :: ops => (∀ k, K k → view (q.apply op).2.queues k ≠ []) ∧ Stays K (q.apply op).2 ops

/-- The queue of `k` is not empty after any of the operations before the first that serves `k`. -/
def StaysUntilServed (k : EndpointKey) : EndpointTransferQueues → List QueueOp → Prop
  | _, [] => True
  | q, op :: ops =>
    q.servedBy op = some k ∨ (view (q.apply op).2.queues k ≠ [] ∧ StaysUntilServed k (q.apply op).2 ops)

section
variable {q : EndpointTransferQueues}

theorem Wf.mem_order_iff (h : Wf q) {k : EndpointKey} : k ∈ q.activeOrder ↔ view q.queues k ≠ [] := by
  rw [h.order, mem_queues_iff]
  constructor
  · rintro ⟨ts, hts⟩
    rw [view_of_some hts]
    exact (h.stored k ts hts).1
  · intro hne
    cases hk : q.queues[k]? with
    | none => exact absurd (view_of_none hk) hne
    | some ts => exact ⟨ts, rfl⟩

theorem apply_wf (h : Wf q) (op : QueueOp) : Wf (q.apply op).2 := by
  cases op with
  | enqueue f =>
    by_cases hf : f.frameType = .request
    · exact (enqueue_accepted h hf).2.1
    · rw [apply, enqueue_rejected hf]
      exact h
  | popNext =>
    cases ho : q.activeOrder with
    | nil =>
      rw [apply, (popNext_empty h ho).1]
      exact h
    | cons k order =>
      obtain ⟨t, rest, -, -, -, hwf, -⟩ := popNext_front h ho
      exact hwf
  | cancel r =>
    by_cases hr : ∃ k, ∃ u ∈ view q.queues k, u.frame.requestId = r
    · obtain ⟨k, u, hu, hur⟩ := hr
      obtain ⟨t, before, after, -, -, -, -, hwf, -⟩ := cancel_some h hu hur
      exact hwf
    · rw [apply, cancel_none fun k t ht hid => hr ⟨k, t, ht, hid⟩]
      exact h
  | resetEndpoint k => exact (resetEndpoint_spec h k).2.1
  | clear => exact wf_empty rfl rfl rfl

/-! ## Moves -/

theorem enqueue_move (h : Wf q) (f : Frame) : Move q.activeOrder none (q.enqueue f).2.activeOrder := by
  unfold enqueue
  split
  · exact .skip _
  · dsimp only
    split
    · rename_i hnew
      exact .join _ _ fun hin => hnew.2 ((h.keys _).mpr ((h.order _).mp hin))
    · exact .skip _

theorem popNext_move (h : Wf q) :
    Move q.activeOrder (q.popNext.1.map (·.key)) q.popNext.2.activeOrder := by
  cases ho : q.activeOrder with
  | nil =>
    rw [(popNext_empty h ho).1, ho]
    exact .skip _
  | cons k order =>
    have hin : k ∈ q.queues := (h.order k).mp (ho ▸ List.mem_cons_self)
    obtain ⟨ts, hts⟩ := mem_queues_iff.mp hin
    obtain ⟨hne, hkeys⟩ := h.stored k ts hts
    cases ts with
    | nil => exact absurd rfl hne
    | cons t rest =>
      have hkey : t.key = k := (hkeys t List.mem_cons_self).1
      simp only [popNext, ho, popNextLoop, hts]
      cases rest with
      | nil =>
        simp only [List.isEmpty_nil, if_true, Option.map_some, hkey]
        exact .leave _ _
      | cons t' rest =>
        simp only [List.isEmpty_cons, Bool.false_eq_true, if_false, Option.map_some, hkey]
        exact .rotate _ _

theorem cancel_move (q : EndpointTransferQueues) (r : UInt64) :
    Move q.activeOrder none (q.cancel r).2.activeOrder := by
  unfold cancel
  split
  · exact .skip _
  · split
    · exact .skip _
    · dsimp only
      split
      · exact .drop _ _
      · exact .skip _

theorem resetEndpoint_move (q : EndpointTransferQueues) (k : EndpointKey) :
    Move q.activeOrder none (q.resetEndpoint k).2.activeOrder := by
  unfold resetEndpoint
  split
  · exact .skip _
  · exact .drop _ _

/-- An operation that leaves some queue non-empty moves the order; `clear` does not. -/
theorem apply_move (h : Wf q) (op : QueueOp) {k : EndpointKey} (hk : view (q.apply op).2.queues k ≠ []) :
    Move q.activeOrder (q.servedBy op) (q.apply op).2.activeOrder := by
  cases op with
  | enqueue f => exact enqueue_move h f
  | popNext => exact popNext_move h
  | cancel r => exact cancel_move q r
  | resetEndpoint k' => exact resetEndpoint_move q k'
  | clear => exact absurd (congrFun view_empty k) hk

theorem turns_of_stays {K : EndpointKey → Prop} {k : EndpointKey} (hk : K k) :
    ∀ (ops : List QueueOp) {q : EndpointTransferQueues}, Wf q → Stays K q ops →
      Turns K q.activeOrder (q.served ops) (q.applyAll ops).activeOrder
  | [], _, _, _ => .nil _
  | op :: ops, _, h, hs =>
    .cons (apply_move h op (hs.1 k hk)) (fun j hj => (apply_wf h op).mem_order_iff.mpr (hs.1 j hj))
      (turns_of_stays hk ops (apply_wf h op) hs.2)

theorem Stays.or {K K' : EndpointKey → Prop} : ∀ {ops : List QueueOp} {q : EndpointTransferQueues},
    Stays K q ops → Stays K' q ops → Stays (fun k => K k ∨ K' k) q ops
  | [], _, _, _ => trivial
  | _ :: _, _, h, h' => ⟨fun k hk => hk.elim (h.1 k) (h'.1 k), h.2.or h'.2⟩

theorem applyAll_wf : ∀ (ops : List QueueOp) {q : EndpointTransferQueues}, Wf q → Wf (q.applyAll ops)
  | [], _, h => h
  | op :: ops, _, h => applyAll_wf ops (apply_wf h op)

/-! ## Bounded bypass -/

/-- A key that waits is served within as many services as there are keys before it. -/
theorem served_within {k : EndpointKey} : ∀ (ops : List QueueOp) {q : EndpointTransferQueues}, Wf q →
    k ∈ q.activeOrder → StaysUntilServed k q ops → (ahead k q.activeOrder).length < (q.served ops).length →
      k ∈ (q.served ops).take ((ahead k q.activeOrder).length + 1)
  | [], _, _, _, _, hlt => absurd hlt (Nat.not_lt_zero _)
  | op :: ops, q, h, hk, hs, hlt => by
    rw [served] at hlt ⊢
    by_cases hserved : q.servedBy op = some k
    · rw [hserved, Option.toList_some, List.singleton_append, List.take_succ_cons]
      exact List.mem_cons_self
    · obtain ⟨hne, hs⟩ := hs.resolve_left hserved
      have hk' := (apply_wf h op).mem_order_iff.mpr hne
      have hle := ((apply_move h op hne).ahead hk hk' hserved).1.length_le
      rw [List.length_append] at hle hlt
      have ih := served_within ops (apply_wf h op) hk' hs (by omega)
      rw [List.take_append, List.mem_append]
      exact Or.inr ((List.take_subset_take_left _ (by omega)) ih)

theorem ahead_of_popNext (h : Wf q) {t : QueuedTransfer} (ht : q.popNext.1 = some t) :
    ahead t.key q.activeOrder = [] := by
  cases ho : q.activeOrder with
  | nil =>
    rw [(popNext_empty h ho).1] at ht
    cases ht
  | cons k order =>
    obtain ⟨u, rest, -, hkey, hout, -⟩ := popNext_front h ho
    rw [hout, Option.some.injEq] at ht
    rw [← ht, hkey, ahead_cons_self]

theorem mem_ahead_of_popNext (h : Wf q) {t : QueuedTransfer} (ht : q.popNext.1 = some t)
    (hstay : view q.popNext.2.queues t.key ≠ []) {j : EndpointKey} (hj : view q.popNext.2.queues j ≠ [])
    (hne : j ≠ t.key) : j ∈ ahead t.key q.popNext.2.activeOrder := by
  have hwf : Wf q.popNext.2 := apply_wf h .popNext
  have hmove := popNext_move h
  have hkin := hwf.mem_order_iff.mpr hstay
  have hjin := hwf.mem_order_iff.mpr hj
  have hnodup := h.nodup
  rw [ht, Option.map_some] at hmove
  generalize q.popNext.2.activeOrder = order' at hmove hkin hjin
  generalize q.activeOrder = order at hmove hnodup
  cases hmove with
  | leave => exact absurd hkin (List.nodup_cons.mp hnodup).1
  | rotate =>
    rw [ahead_append_self (List.nodup_cons.mp hnodup).1]
    rcases List.mem_append.mp hjin with hin | hin
    · exact hin
    · exact absurd (List.mem_singleton.mp hin) hne

end

/-- In every reachable state and for all operations from it: a key at position `p` that stays is served by the
`p + 1`st service at the latest; and between two services of a key that stays, no key is served twice, and every
other key that stays is served once. -/
theorem served_in_turn (before : List QueueOp) :
    (∀ k p ops, (QueueRun.run before).queues.activeOrder[p]? = some k →
        StaysUntilServed k (QueueRun.run before).queues ops → p < ((QueueRun.run before).queues.served ops).length →
        k ∈ ((QueueRun.run before).queues.served ops).take (p + 1)) ∧
      ∀ q t t' ops, q = (QueueRun.run before).queues → q.popNext.1 = some t → view q.popNext.2.queues t.key ≠ [] →
        Stays (fun k => k = t.key) q.popNext.2 ops → t.key ∉ q.popNext.2.served ops →
        (q.popNext.2.applyAll ops).popNext.1 = some t' → t'.key = t.key →
        (q.popNext.2.served ops).Nodup ∧
          ∀ j, j ≠ t.key → view q.popNext.2.queues j ≠ [] → Stays (fun k => k = j) q.popNext.2 ops →
            (q.popNext.2.served ops).count j = 1 := by
  have h := (QueueRun.run_inv before).wf
  refine ⟨fun k p ops hp hs hlt => ?_, ?_⟩
  · have hlen := ahead_length h.nodup hp
    rw [← hlen] at hlt ⊢
    exact served_within ops h (List.mem_of_getElem? hp) hs hlt
  · rintro q t t' ops rfl ht hstay hs hwait ht' hkey
    generalize (QueueRun.run before).queues = q at *
    have hwf : Wf q.popNext.2 := apply_wf h .popNext
    have hend := ahead_of_popNext (applyAll_wf ops hwf) ht'
    have hkin := hwf.mem_order_iff.mpr hstay
    obtain ⟨hsub, -⟩ := (turns_of_stays (K := fun k => k = t.key) rfl ops hwf hs).ahead rfl hkin hwait
    rw [hkey] at hend
    rw [hend, List.append_nil] at hsub
    have hnodup := hsub.nodup (ahead_nodup hwf.nodup)
    refine ⟨hnodup, fun j hj hjne hsj => List.count_eq_one_of_mem hnodup ?_⟩
    have hboth : Stays (fun k => k = t.key ∨ k = j) q.popNext.2 ops := hs.or hsj
    obtain ⟨-, hserved⟩ :=
      (turns_of_stays (K := fun k => k = t.key ∨ k = j) (Or.inl rfl) ops hwf hboth).ahead (Or.inl rfl) hkin hwait
    rcases hserved j (Or.inr rfl) (mem_ahead_of_popNext h ht hstay hjne hj) with hin | hin
    · exact hin
    · rw [hend] at hin
      cases hin

def bulkKey (endpoint : UInt8) : EndpointKey where
  direction := .hostToDevice
  transferType := .bulk
  endpoint := endpoint

/-- Two transfers wait at endpoint 1 and two behind them at endpoint 2. -/
def twoEndpoints : List QueueOp :=
  [.enqueue (.mockRequest 1 []), .enqueue (.mockRequest 2 []), .enqueue { Frame.mockRequest 3 [] with endpoint := 2 },
    .enqueue { Frame.mockRequest 4 [] with endpoint := 2 }]

theorem served_in_turn_two : ∃ q t t', q = (QueueRun.run twoEndpoints).queues ∧
    q.served [.popNext, .popNext, .popNext, .popNext] = [bulkKey 1, bulkKey 2, bulkKey 1, bulkKey 2] ∧
    bulkKey 2 ∈ (q.served [.popNext, .popNext]).take 2 ∧
    q.popNext.1 = some t ∧ t.key = bulkKey 1 ∧ (q.popNext.2.applyAll [.popNext]).popNext.1 = some t' ∧
    t'.key = t.key ∧ (q.popNext.2.served [.popNext]).Nodup ∧ (q.popNext.2.served [.popNext]).count (bulkKey 2) = 1 := by
  obtain ⟨hwithin, hturn⟩ := served_in_turn twoEndpoints
  have hfirst : (QueueRun.run twoEndpoints).queues.popNext.1 = some ⟨0, bulkKey 1, .mockRequest 1 []⟩ := by
    decide +kernel
  have hagain : ((QueueRun.run twoEndpoints).queues.popNext.2.applyAll [.popNext]).popNext.1 =
      some ⟨1, bulkKey 1, .mockRequest 2 []⟩ := by
    decide +kernel
  have hsecond : bulkKey 2 ∈ ((QueueRun.run twoEndpoints).queues.served [.popNext, .popNext]).take 2 :=
    hwithin (bulkKey 2) 1 [.popNext, .popNext] (by decide +kernel)
      (Or.inr ⟨by decide +kernel, Or.inl (by decide +kernel)⟩) (by decide +kernel)
  obtain ⟨hnodup, hothers⟩ := hturn _ _ _ [.popNext] rfl hfirst (by decide +kernel)
    ⟨fun k hk => by rw [hk]; decide +kernel, trivial⟩ (by decide +kernel) hagain rfl
  have honce := hothers (bulkKey 2) (by decide) (by decide +kernel)
    ⟨fun k hk => by rw [hk]; decide +kernel, trivial⟩
  exact ⟨_, _, _, rfl, by decide +kernel, hsecond, hfirst, rfl, hagain, rfl, hnodup, honce⟩

end EndpointTransferQueues

end WhyUsb
