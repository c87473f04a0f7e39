import WhyUsb.Lib.FifoMap
import WhyUsb.Queue.Basic

/-!
# The endpoint queues refine a map from keys to FIFO lists

`view` forgets the bookkeeping. `Wf` says that the bookkeeping fits the map of
queues; each operation keeps it and is, under `view`, the operation `Refines`
gives for it. `QueueRun` adds the transfers that entered and left.
-/

namespace WhyUsb

open FifoMap

abbrev QueueMap := Std.TreeMap EndpointKey (List QueuedTransfer) EndpointKey.cmp

def view (queues : QueueMap) (key : EndpointKey) : List QueuedTransfer := (queues[key]?).getD []

section
variable {queues : QueueMap} {k : EndpointKey} {ts : List QueuedTransfer}

theorem view_of_some (h : queues[k]? = some ts) : view queues k = ts := by
  rw [view, h, Option.getD_some]

theorem view_of_none (h : queues[k]? = none) : view queues k = [] := by
  rw [view, h, Option.getD_none]

theorem view_empty : view ∅ = fun _ => [] := by
  funext k
  exact view_of_none Std.TreeMap.getElem?_emptyc

theorem view_insert : view (queues.insert k ts) = Function.update (view queues) k ts := by
  funext k'
  rcases eq_or_ne k' k with rfl | hk
  · rw [Function.update_self, view_of_some Std.TreeMap.getElem?_insert_self]
  · rw [Function.update_of_ne hk, view, view, Std.TreeMap.getElem?_insert,
      if_neg (by rw [Std.LawfulEqCmp.compare_eq_iff_eq]; exact hk.symm)]

theorem view_erase : view (queues.erase k) = Function.update (view queues) k [] := by
  funext k'
  rcases eq_or_ne k' k with rfl | hk
  · rw [Function.update_self, view_of_none Std.TreeMap.getElem?_erase_self]
  · rw [Function.update_of_ne hk, view, view, Std.TreeMap.getElem?_erase,
      if_neg (by rw [Std.LawfulEqCmp.compare_eq_iff_eq]; exact hk.symm)]

theorem mem_queues_iff : k ∈ queues ↔ ∃ ts, queues[k]? = some ts := by
  rw [Std.TreeMap.mem_iff_isSome_getElem?, Option.isSome_iff_exists]

end

namespace EndpointTransferQueues

def held (q : EndpointTransferQueues) : List QueuedTransfer := q.queues.toList.flatMap Prod.snd

/-! ## The bookkeeping -/

/-- A stored queue is not empty and its transfers belong to its key. -/
def Stored (k : EndpointKey) (ts : List QueuedTransfer) : Prop :=
  ts ≠ [] ∧ ∀ t ∈ ts, t.key = k ∧ EndpointKey.fromFrame t.frame = k

structure Wf (q : EndpointTransferQueues) : Prop where
  stored : ∀ k ts, q.queues[k]? = some ts → Stored k ts
  order : ∀ k, k ∈ q.activeOrder ↔ k ∈ q.queues
  nodup : q.activeOrder.Nodup
  keys : ∀ k, k ∈ q.activeKeys ↔ k ∈ q.queues

theorem wf_empty {q : EndpointTransferQueues} (hq : q.queues = ∅) (ho : q.activeOrder = [])
    (ha : q.activeKeys = ∅) : Wf q where
  stored := fun k ts h => by rw [hq, Std.TreeMap.getElem?_emptyc] at h; cases h
  order := fun k => by
    rw [ho, hq]
    exact iff_of_false List.not_mem_nil Std.TreeMap.not_mem_emptyc
  nodup := by rw [ho]; exact List.nodup_nil
  keys := fun k => by
    rw [ha, hq]
    exact iff_of_false Std.TreeSet.not_mem_emptyc Std.TreeMap.not_mem_emptyc

section
variable {q q' : EndpointTransferQueues} {k : EndpointKey} {ts : List QueuedTransfer}

theorem Wf.keyed (h : Wf q) : Keyed QueuedTransfer.key (view q.queues) := by
  intro k t ht
  cases hk : q.queues[k]? with
  | none => rw [view_of_none hk] at ht; cases ht
  | some ts =>
    rw [view_of_some hk] at ht
    exact ((h.stored k ts hk).2 t ht).1

theorem stored_insert (h : Wf q) (hts : Stored k ts) {k' : EndpointKey} {ts' : List QueuedTransfer}
    (hk' : (q.queues.insert k ts)[k']? = some ts') : Stored k' ts' := by
  rw [Std.TreeMap.getElem?_insert] at hk'
  split at hk'
  · rename_i heq
    rw [← Std.LawfulEqCmp.eq_of_compare heq, ← Option.some.inj hk']
    exact hts
  · exact h.stored k' ts' hk'

theorem mem_insert_iff {k' : EndpointKey} : k' ∈ q.queues.insert k ts ↔ k' = k ∨ k' ∈ q.queues := by
  rw [Std.TreeMap.mem_insert, Std.LawfulEqCmp.compare_eq_iff_eq, eq_comm]

theorem Wf.update (h : Wf q) (hk : k ∈ q.queues) (hts : Stored k ts) (hq : q'.queues = q.queues.insert k ts)
    (ho : q'.activeOrder.Perm q.activeOrder) (ha : q'.activeKeys = q.activeKeys) : Wf q' where
  stored := fun k' ts' hk' => stored_insert h hts (hq ▸ hk')
  order := fun k' => by
    rw [ho.mem_iff, h.order, hq, mem_insert_iff]
    exact ⟨Or.inr, fun hor => hor.elim (fun e => e ▸ hk) id⟩
  nodup := ho.nodup_iff.mpr h.nodup
  keys := fun k' => by
    rw [ha, h.keys, hq, mem_insert_iff]
    exact ⟨Or.inr, fun hor => hor.elim (fun e => e ▸ hk) id⟩

theorem Wf.activate (h : Wf q) (hk : k ∉ q.queues) (hts : Stored k ts) (hq : q'.queues = q.queues.insert k ts)
    (ho : q'.activeOrder = q.activeOrder ++ [k]) (ha : q'.activeKeys = q.activeKeys.insert k) : Wf q' where
  stored := fun k' ts' hk' => stored_insert h hts (hq ▸ hk')
  order := fun k' => by
    rw [ho, List.mem_append, List.mem_singleton, h.order, hq, mem_insert_iff, or_comm]
  nodup := by
    rw [ho, List.nodup_append]
    refine ⟨h.nodup, List.pairwise_singleton _ k, ?_⟩
    rintro k' hk' k'' hk'' rfl
    rw [List.mem_singleton] at hk''
    exact hk (hk'' ▸ (h.order k').mp hk')
  keys := fun k' => by
    rw [ha, Std.TreeSet.mem_insert, Std.LawfulEqCmp.compare_eq_iff_eq, h.keys, hq, mem_insert_iff,
      @eq_comm _ k k']

theorem Wf.remove (h : Wf q) (hq : ∀ k' : EndpointKey, q'.queues[k']? = (q.queues.erase k)[k']?)
    (ho : q'.activeOrder = q.activeOrder.filter fun candidate => candidate ≠ k)
    (ha : q'.activeKeys = q.activeKeys.erase k) : Wf q' := by
  have hmem : ∀ k' : EndpointKey, k' ∈ q'.queues ↔ k.cmp k' ≠ .eq ∧ k' ∈ q.queues := fun k' => by
    rw [Std.TreeMap.mem_iff_isSome_getElem?, hq, ← Std.TreeMap.mem_iff_isSome_getElem?, Std.TreeMap.mem_erase]
  refine ⟨fun k' ts' hk' => ?_, fun k' => ?_, ?_, fun k' => ?_⟩
  · rw [hq, Std.TreeMap.getElem?_erase] at hk'
    split at hk'
    · cases hk'
    · exact h.stored k' ts' hk'
  · have hne : k' ≠ k ↔ k.cmp k' ≠ .eq := not_congr (eq_comm.trans Std.LawfulEqCmp.compare_eq_iff_eq.symm)
    rw [ho, List.mem_filter, decide_eq_true_eq, h.order, hmem, and_comm, hne]
  · rw [ho]
    exact h.nodup.filter _
  · rw [ha, Std.TreeSet.mem_erase, h.keys, hmem]

theorem getElem?_erase_insert (k' : EndpointKey) :
    ((q.queues.insert k ts).erase k)[k']? = (q.queues.erase k)[k']? := by
  rw [Std.TreeMap.getElem?_erase, Std.TreeMap.getElem?_erase, Std.TreeMap.getElem?_insert]
  split <;> rfl

end

/-! ## The operations -/

section
variable {q : EndpointTransferQueues}

theorem enqueue_rejected {f : Frame} (hf : f.frameType ≠ .request) :
    q.enqueue f = (.error (.unsupportedFrameType f.frameType), q) := by
  rw [enqueue, if_pos hf]

def transfer (q : EndpointTransferQueues) (f : Frame) : QueuedTransfer where
  sequence := q.nextSequence
  key := EndpointKey.fromFrame f
  frame := f

theorem enqueue_accepted (h : Wf q) {f : Frame} (hf : f.frameType = .request) :
    (q.enqueue f).1 = .ok q.nextSequence ∧ Wf (q.enqueue f).2 ∧ (q.enqueue f).2.len = q.len + 1 ∧
      view (q.enqueue f).2.queues =
        Function.update (view q.queues) (EndpointKey.fromFrame f)
          (view q.queues (EndpointKey.fromFrame f) ++ [q.transfer f]) := by
  have hadded : ∀ ts : List QueuedTransfer, (∀ t ∈ ts, t.key = EndpointKey.fromFrame f ∧
      EndpointKey.fromFrame t.frame = EndpointKey.fromFrame f) →
      Stored (EndpointKey.fromFrame f) (ts ++ [q.transfer f]) := by
    refine fun ts hts => ⟨by simp, fun t ht => ?_⟩
    rcases List.mem_append.mp ht with ht | ht
    · exact hts t ht
    · rw [List.mem_singleton.mp ht]
      exact ⟨rfl, rfl⟩
  rw [← view_insert]
  unfold enqueue
  rw [if_neg (not_not_intro hf)]
  dsimp only
  cases hk : q.queues[EndpointKey.fromFrame f]? with
  | none =>
    have hout : EndpointKey.fromFrame f ∉ q.queues := fun hin => by
      obtain ⟨ts, hts⟩ := mem_queues_iff.mp hin
      rw [hts] at hk
      cases hk
    have hinactive : EndpointKey.fromFrame f ∉ q.activeKeys := fun ha => hout ((h.keys _).mp ha)
    rw [if_pos ⟨rfl, hinactive⟩, view_of_none hk]
    exact ⟨rfl, h.activate hout (hadded [] (fun _ ht => nomatch ht)) rfl rfl rfl, rfl, rfl⟩
  | some ts =>
    have hin : EndpointKey.fromFrame f ∈ q.queues := mem_queues_iff.mpr ⟨ts, hk⟩
    have hne : ¬ (((some ts).getD []).isEmpty ∧ EndpointKey.fromFrame f ∉ q.activeKeys) :=
      fun hc => (h.stored _ ts hk).1 (List.isEmpty_iff.mp hc.1)
    rw [if_neg hne, view_of_some hk]
    exact ⟨rfl, h.update hin (hadded ts (h.stored _ ts hk).2) rfl (List.Perm.refl _) rfl, rfl, rfl⟩

theorem popNext_empty (h : Wf q) (ho : q.activeOrder = []) : q.popNext = (none, q) ∧ ∀ k, view q.queues k = [] := by
  refine ⟨?_, fun k => ?_⟩
  · cases q
    cases ho
    rfl
  · cases hk : q.queues[k]? with
    | none => exact view_of_none hk
    | some ts =>
      have hin := (h.order k).mpr (mem_queues_iff.mpr ⟨ts, hk⟩)
      rw [ho] at hin
      cases hin

theorem popNext_front (h : Wf q) {k : EndpointKey} {order : List EndpointKey} (ho : q.activeOrder = k :: order) :
    ∃ t rest, view q.queues k = t :: rest ∧ t.key = k ∧ q.popNext.1 = some t ∧ Wf q.popNext.2 ∧
      q.popNext.2.len = q.len - 1 ∧ view q.popNext.2.queues = Function.update (view q.queues) k rest := by
  have hin : k ∈ q.queues := (h.order k).mp (ho ▸ List.mem_cons_self)
  obtain ⟨ts, hts⟩ := mem_queues_iff.mp hin
  obtain ⟨hne, hkeys⟩ := h.stored k ts hts
  cases ts with
  | nil => exact absurd rfl hne
  | cons t rest =>
    refine ⟨t, rest, view_of_some hts, (hkeys t List.mem_cons_self).1, ?_⟩
    have hnodup := h.nodup
    rw [ho, List.nodup_cons] at hnodup
    simp only [popNext, ho, popNextLoop, hts]
    cases rest with
    | nil =>
      rw [← view_erase]
      refine ⟨rfl, h.remove (fun _ => rfl) ?_ rfl, rfl, rfl⟩
      rw [ho, List.filter_cons_of_neg (by simp)]
      refine (List.filter_eq_self.mpr fun c hc => ?_).symm
      rw [decide_eq_true_eq]
      rintro rfl
      exact hnodup.1 hc
    | cons t' rest =>
      rw [← view_insert]
      refine ⟨rfl, h.update hin ⟨List.cons_ne_nil _ _, fun u hu => hkeys u (List.mem_cons_of_mem _ hu)⟩ rfl ?_ rfl,
        rfl, rfl⟩
      rw [ho]
      exact List.perm_append_singleton k order

theorem findRequest_none {r : UInt64} : ∀ {l : List (EndpointKey × List QueuedTransfer)}, findRequest r l = none →
    ∀ p ∈ l, ∀ t ∈ p.2, t.frame.requestId ≠ r
  | [], _, _, hp => nomatch hp
  | (key, queue) :: rest, h, p, hp => by
    unfold findRequest at h
    split at h
    · rename_i hnone
      rcases List.mem_cons.mp hp with rfl | hp
      · intro t ht hid
        have := List.findIdx?_eq_none_iff.mp hnone t ht
        rw [beq_eq_false_iff_ne] at this
        exact this hid
      · exact findRequest_none h p hp
    · cases h

theorem findRequest_some {r : UInt64} {key : EndpointKey} {queue : List QueuedTransfer} {index : Nat} :
    ∀ {l : List (EndpointKey × List QueuedTransfer)}, findRequest r l = some (key, queue, index) →
      (key, queue) ∈ l ∧ ∃ before t after, queue = before ++ t :: after ∧ before.length = index ∧
        t.frame.requestId = r ∧ ∀ u ∈ before, u.frame.requestId ≠ r
  | (key', queue') :: rest, h => by
    unfold findRequest at h
    split at h
    · obtain ⟨hmem, hsplit⟩ := findRequest_some h
      exact ⟨List.mem_cons_of_mem _ hmem, hsplit⟩
    · rename_i i hi
      cases h
      rw [List.findIdx?_eq_some_iff_getElem] at hi
      obtain ⟨hlt, hid, hbefore⟩ := hi
      refine ⟨List.mem_cons_self, queue.take index, queue[index], queue.drop (index + 1), ?_, ?_,
        eq_of_beq hid, ?_⟩
      · rw [← List.drop_eq_getElem_cons hlt, List.take_append_drop]
      · rw [List.length_take]
        omega
      · intro u hu hur
        obtain ⟨j, hj, rfl⟩ := List.mem_take_iff_getElem.mp hu
        exact hbefore j (by omega) (beq_iff_eq.mpr hur)

theorem mem_view_iff {k : EndpointKey} {t : QueuedTransfer} :
    t ∈ view q.queues k ↔ ∃ ts, (k, ts) ∈ q.queues.toList ∧ t ∈ ts := by
  constructor
  · intro ht
    cases hk : q.queues[k]? with
    | none => rw [view_of_none hk] at ht; cases ht
    | some ts => exact ⟨ts, Std.TreeMap.mem_toList_iff_getElem?_eq_some.mpr hk, view_of_some hk ▸ ht⟩
  · rintro ⟨ts, hts, ht⟩
    rwa [view_of_some (Std.TreeMap.mem_toList_iff_getElem?_eq_some.mp hts)]

theorem mem_held_iff {t : QueuedTransfer} : t ∈ q.held ↔ ∃ k, t ∈ view q.queues k := by
  rw [held, List.mem_flatMap]
  constructor
  · rintro ⟨⟨k, ts⟩, hp, ht⟩
    exact ⟨k, mem_view_iff.mpr ⟨ts, hp, ht⟩⟩
  · rintro ⟨k, ht⟩
    obtain ⟨ts, hts, ht⟩ := mem_view_iff.mp ht
    exact ⟨(k, ts), hts, ht⟩

theorem cancel_none {r : UInt64} (h : ∀ k, ∀ t ∈ view q.queues k, t.frame.requestId ≠ r) :
    q.cancel r = (none, q) := by
  unfold cancel
  split
  · rfl
  · rename_i key queue index hfind
    obtain ⟨hmem, before, t, after, rfl, -, hid, -⟩ := findRequest_some hfind
    exact absurd hid (h key t (mem_view_iff.mpr ⟨_, hmem, by simp⟩))

theorem cancel_some (h : Wf q) {r : UInt64} {k : EndpointKey} {u : QueuedTransfer} (hu : u ∈ view q.queues k)
    (hur : u.frame.requestId = r) :
    ∃ t before after, view q.queues t.key = before ++ t :: after ∧ t.frame.requestId = r ∧
      (∀ u ∈ before, u.frame.requestId ≠ r) ∧ (q.cancel r).1 = some t ∧ Wf (q.cancel r).2 ∧
      (q.cancel r).2.len = q.len - 1 ∧
      view (q.cancel r).2.queues = Function.update (view q.queues) t.key (before ++ after) := by
  cases hfind : findRequest r q.queues.toList with
  | none =>
    obtain ⟨ts, hts, hu⟩ := mem_view_iff.mp hu
    exact absurd hur (findRequest_none hfind _ hts u hu)
  | some found =>
    obtain ⟨key, queue, index⟩ := found
    obtain ⟨hmem, before, t, after, rfl, rfl, hid, hbefore⟩ := findRequest_some hfind
    have hkey := Std.TreeMap.mem_toList_iff_getElem?_eq_some.mp hmem
    have hin : key ∈ q.queues := mem_queues_iff.mpr ⟨_, hkey⟩
    have hkeys := (h.stored key _ hkey).2
    have hget : (before ++ t :: after)[before.length]? = some t := by
      rw [List.getElem?_append_right (Nat.le_refl _), Nat.sub_self, List.getElem?_cons_zero]
    have herase : (before ++ t :: after).eraseIdx before.length = before ++ after := by
      rw [List.eraseIdx_append_of_length_le (Nat.le_refl _), Nat.sub_self, List.eraseIdx_cons_zero]
    obtain rfl : t.key = key := (hkeys t (by simp)).1
    refine ⟨t, before, after, view_of_some hkey, hid, hbefore, ?_⟩
    simp only [cancel, hfind, hget, herase]
    have hkeys' : ∀ u ∈ before ++ after, u.key = t.key ∧ EndpointKey.fromFrame u.frame = t.key := by
      intro u hu
      rcases List.mem_append.mp hu with hu | hu
      · exact hkeys u (List.mem_append_left _ hu)
      · exact hkeys u (List.mem_append_right _ (List.mem_cons_of_mem _ hu))
    by_cases hempty : before ++ after = []
    · rw [if_pos (List.isEmpty_iff.mpr hempty), hempty]
      refine ⟨trivial, h.remove getElem?_erase_insert rfl rfl, rfl, ?_⟩
      rw [removeActiveKey, view_erase, view_insert, Function.update_idem]
    · rw [if_neg (by rwa [List.isEmpty_iff]), ← view_insert]
      exact ⟨trivial, h.update hin ⟨hempty, hkeys'⟩ rfl (List.Perm.refl _) rfl, rfl, rfl⟩

theorem resetEndpoint_spec (h : Wf q) (k : EndpointKey) :
    (q.resetEndpoint k).1 = view q.queues k ∧ Wf (q.resetEndpoint k).2 ∧
      (q.resetEndpoint k).2.len = q.len - (view q.queues k).length ∧
      view (q.resetEndpoint k).2.queues = Function.update (view q.queues) k [] := by
  cases hk : q.queues[k]? with
  | none =>
    simp only [resetEndpoint, hk, view_of_none hk]
    refine ⟨trivial, h, rfl, ?_⟩
    rw [Function.eq_update_self_iff, view_of_none hk]
  | some ts =>
    simp only [resetEndpoint, hk, view_of_some hk]
    exact ⟨trivial, h.remove (fun _ => rfl) rfl rfl, trivial, view_erase⟩

theorem view_length_le (k : EndpointKey) : (view q.queues k).length ≤ q.held.length := by
  cases hk : q.queues[k]? with
  | none => simp [view_of_none hk]
  | some ts =>
    rw [view_of_some hk, held, List.flatMap_def]
    have hmem : ts ∈ q.queues.toList.map Prod.snd :=
      List.mem_map_of_mem (f := Prod.snd) (Std.TreeMap.mem_toList_iff_getElem?_eq_some.mpr hk)
    exact (List.sublist_flatten_of_mem hmem).length_le

theorem count_held (h : Wf q) (t : QueuedTransfer) : q.held.count t = (view q.queues t.key).count t := by
  cases hk : q.queues[t.key]? with
  | some ts =>
    rw [view_of_some hk, held]
    refine FifoMap.count_flatMap ?_ ?_ (Std.TreeMap.mem_toList_iff_getElem?_eq_some.mpr hk)
    · refine Std.TreeMap.distinct_keys_toList.imp fun hne heq => hne ?_
      rw [heq]
      exact Std.ReflCmp.compare_self
    · intro p hp u hu
      exact ((h.stored p.1 p.2 (Std.TreeMap.mem_toList_iff_getElem?_eq_some.mp hp)).2 u hu).1
  | none =>
    rw [view_of_none hk, List.count_nil, List.count_eq_zero]
    intro ht
    obtain ⟨k, ht⟩ := mem_held_iff.mp ht
    obtain rfl := h.keyed k t ht
    rw [view_of_none hk] at ht
    cases ht

end

end EndpointTransferQueues

/-! ## The abstract map -/

inductive QueueOp where
  | enqueue (frame : Frame)
  | popNext
  | cancel (requestId : UInt64)
  | resetEndpoint (key : EndpointKey)
  | clear

inductive QueueReply where
  | enqueued (result : Except EndpointQueueError UInt64)
  | transfer (transfer : Option QueuedTransfer)
  | transfers (transfers : List QueuedTransfer)
  | dropped (count : Nat)

def EndpointTransferQueues.apply (q : EndpointTransferQueues) : QueueOp → QueueReply × EndpointTransferQueues
  | .enqueue frame => (.enqueued (q.enqueue frame).1, (q.enqueue frame).2)
  | .popNext => (.transfer q.popNext.1, q.popNext.2)
  | .cancel requestId => (.transfer (q.cancel requestId).1, (q.cancel requestId).2)
  | .resetEndpoint key => (.transfers (q.resetEndpoint key).1, (q.resetEndpoint key).2)
  | .clear => (.dropped q.clear.1, q.clear.2)

/-- The operations on a map of FIFO lists: which replies and which next maps they allow. -/
def Refines (m : EndpointKey → List QueuedTransfer) :
    QueueOp → QueueReply → (EndpointKey → List QueuedTransfer) → Prop
  | .enqueue f, .enqueued (.ok sequence), m' =>
    f.frameType = .request ∧
      m' = Function.update m (EndpointKey.fromFrame f)
        (m (EndpointKey.fromFrame f) ++ [{ sequence, key := EndpointKey.fromFrame f, frame := f }])
  | .enqueue f, .enqueued (.error e), m' =>
    f.frameType ≠ .request ∧ e = .unsupportedFrameType f.frameType ∧ m' = m
  | .popNext, .transfer (some t), m' => ∃ rest, m t.key = t :: rest ∧ m' = Function.update m t.key rest
  | .popNext, .transfer none, m' => (∀ k, m k = []) ∧ m' = m
  | .cancel r, .transfer (some t), m' =>
    ∃ before after, m t.key = before ++ t :: after ∧ t.frame.requestId = r ∧
      (∀ u ∈ before, u.frame.requestId ≠ r) ∧ m' = Function.update m t.key (before ++ after)
  | .cancel r, .transfer none, m' => (∀ k, ∀ t ∈ m k, t.frame.requestId ≠ r) ∧ m' = m
  | .resetEndpoint k, .transfers ts, m' => ts = m k ∧ m' = Function.update m k []
  | .clear, .dropped _, m' => m' = fun _ => []
  | _, _, _ => False

namespace EndpointTransferQueues

theorem cancel_refines {q : EndpointTransferQueues} (h : Wf q) (r : UInt64) :
    Refines (view q.queues) (.cancel r) (.transfer (q.cancel r).1) (view (q.cancel r).2.queues) := by
  by_cases hr : ∃ k, ∃ u ∈ view q.queues k, u.frame.requestId = r
  · obtain ⟨k, u, hu, hur⟩ := hr
    obtain ⟨t, before, after, hview, hid, hbefore, hout, -, -, hview'⟩ := cancel_some h hu hur
    rw [hout]
    exact ⟨before, after, hview, hid, hbefore, hview'⟩
  · have hnone : ∀ k, ∀ t ∈ view q.queues k, t.frame.requestId ≠ r := fun k t ht hid => hr ⟨k, t, ht, hid⟩
    rw [cancel_none hnone]
    exact ⟨hnone, rfl⟩

theorem apply_refines {q : EndpointTransferQueues} (h : Wf q) (op : QueueOp) :
    Refines (view q.queues) op (q.apply op).1 (view (q.apply op).2.queues) := by
  cases op with
  | enqueue f =>
    by_cases hf : f.frameType = .request
    · obtain ⟨hout, -, -, hview⟩ := enqueue_accepted h hf
      simp only [apply, hout]
      exact ⟨hf, hview⟩
    · simp only [apply, enqueue_rejected hf]
      exact ⟨hf, rfl, rfl⟩
  | popNext =>
    cases ho : q.activeOrder with
    | nil =>
      obtain ⟨hout, hnone⟩ := popNext_empty h ho
      simp only [apply, hout]
      exact ⟨hnone, rfl⟩
    | cons k order =>
      obtain ⟨t, rest, hview, rfl, hout, -, -, hview'⟩ := popNext_front h ho
      simp only [apply, hout]
      exact ⟨rest, hview, hview'⟩
  | cancel r => exact cancel_refines h r
  | resetEndpoint k =>
    obtain ⟨hout, -, -, hview⟩ := resetEndpoint_spec h k
    exact ⟨hout, hview⟩
  | clear => exact view_empty

end EndpointTransferQueues

/-! ## Runs -/

/-- The queues after some operations, and the transfers each operation let in or out. -/
structure QueueRun where
  queues : EndpointTransferQueues
  enqueued : List QueuedTransfer
  popped : List QueuedTransfer
  cancelled : List QueuedTransfer
  reset : List QueuedTransfer
  cleared : List QueuedTransfer

namespace QueueRun

def init : QueueRun where
  queues := .default
  enqueued := []
  popped := []
  cancelled := []
  reset := []
  cleared := []

def accepted (f : Frame) : Except EndpointQueueError UInt64 → List QueuedTransfer
  | .ok sequence => [{ sequence, key := EndpointKey.fromFrame f, frame := f }]
  | .error _ => []

def step (s : QueueRun) (op : QueueOp) : QueueRun :=
  let s' := { s with queues := (s.queues.apply op).2 }
  match op with
  | .enqueue f => { s' with enqueued := s.enqueued ++ accepted f (s.queues.enqueue f).1 }
  | .popNext => { s' with popped := s.popped ++ s.queues.popNext.1.toList }
  | .cancel r => { s' with cancelled := s.cancelled ++ (s.queues.cancel r).1.toList }
  | .resetEndpoint k => { s' with reset := s.reset ++ (s.queues.resetEndpoint k).1 }
  | .clear => { s' with cleared := s.cleared ++ s.queues.held }

def run (ops : List QueueOp) : QueueRun := ops.foldl step init

def left (s : QueueRun) : List QueuedTransfer := s.popped ++ (s.cancelled ++ (s.reset ++ s.cleared))

structure Inv (s : QueueRun) : Prop where
  wf : s.queues.Wf
  ledger : Ledger QueuedTransfer.key (view s.queues.queues) s.enqueued s.left
  order : InOrder QueuedTransfer.key (view s.queues.queues) s.enqueued s.popped
  len : s.queues.len + s.left.length = s.enqueued.length

theorem init_inv : Inv init where
  wf := EndpointTransferQueues.wf_empty rfl rfl rfl
  ledger := by rw [show view init.queues.queues = fun _ => [] from view_empty]; exact FifoMap.ledger_empty
  order := by rw [show view init.queues.queues = fun _ => [] from view_empty]; exact FifoMap.inOrder_empty
  len := rfl

section
variable {s s' : QueueRun}

theorem Inv.perm (h : Inv s) : s.enqueued.Perm (s.queues.held ++ s.left) :=
  List.perm_iff_count.mpr fun t => by
    rw [List.count_append, EndpointTransferQueues.count_held h.wf, h.ledger.balance]

theorem Inv.held_length (h : Inv s) : s.queues.held.length = s.queues.len := by
  have hp := h.perm.length_eq
  have hl := h.len
  rw [List.length_append] at hp
  omega

theorem Inv.leave (h : Inv s) {k : EndpointKey} {kept gone : List QueuedTransfer} (hwf : s'.queues.Wf)
    (hview : view s'.queues.queues = Function.update (view s.queues.queues) k kept)
    (hsplit : (view s.queues.queues k).Perm (kept ++ gone)) (hlen : s'.queues.len = s.queues.len - gone.length)
    (henq : s'.enqueued = s.enqueued) (hleft : (s.left ++ gone).Perm s'.left)
    (horder : InOrder QueuedTransfer.key (view s'.queues.queues) s.enqueued s'.popped) : Inv s' where
  wf := hwf
  ledger := by
    rw [hview, henq]
    exact (h.ledger.leave hsplit).of_perm hleft
  order := by rw [henq]; exact horder
  len := by
    have hle := @EndpointTransferQueues.view_length_le s.queues k
    have hl := h.len
    have hn := hleft.length_eq
    rw [hsplit.length_eq, List.length_append, h.held_length] at hle
    rw [List.length_append] at hn
    rw [hlen, henq]
    omega

theorem append_swap_right (a b x : List QueuedTransfer) : ((a ++ b) ++ x).Perm ((a ++ x) ++ b) := by
  rw [List.append_assoc, List.append_assoc]
  exact List.perm_append_comm.append_left a

theorem enqueue_inv (h : Inv s) (f : Frame) : Inv (s.step (.enqueue f)) := by
  by_cases hf : f.frameType = .request
  · obtain ⟨hout, hwf, hlen, hview⟩ := EndpointTransferQueues.enqueue_accepted h.wf hf
    have hadd : (s.step (.enqueue f)).enqueued = s.enqueued ++ [s.queues.transfer f] := by
      simp only [step, hout]
      rfl
    refine ⟨hwf, ?_, ?_, ?_⟩
    · rw [hadd]
      simp only [step, EndpointTransferQueues.apply, hview]
      exact h.ledger.put rfl
    · rw [hadd]
      simp only [step, EndpointTransferQueues.apply, hview]
      exact h.order.put rfl
    · have hl := h.len
      rw [hadd, List.length_append]
      simp only [step, EndpointTransferQueues.apply, hlen]
      simp only [left, List.length_append, List.length_singleton] at hl ⊢
      omega
  · have hsame : s.step (.enqueue f) = s := by
      simp only [step, EndpointTransferQueues.apply, EndpointTransferQueues.enqueue_rejected hf, accepted,
        List.append_nil]
    rw [hsame]
    exact h

theorem popNext_inv (h : Inv s) : Inv (s.step .popNext) := by
  cases ho : s.queues.activeOrder with
  | nil =>
    have hsame : s.step .popNext = s := by
      simp only [step, EndpointTransferQueues.apply, (EndpointTransferQueues.popNext_empty h.wf ho).1,
        Option.toList_none, List.append_nil]
    rw [hsame]
    exact h
  | cons k order =>
    obtain ⟨t, rest, hview, hkey, hout, hwf, hlen, hview'⟩ := EndpointTransferQueues.popNext_front h.wf ho
    have hpopped : (s.step .popNext).popped = s.popped ++ [t] := by
      simp only [step, hout, Option.toList_some]
    refine @Inv.leave s _ h k rest [t] hwf hview' ?_ hlen rfl ?_ ?_
    · rw [hview]
      exact (List.perm_append_singleton t rest).symm
    · rw [left, left, hpopped]
      exact append_swap_right ..
    · rw [hpopped]
      exact hview' ▸ h.order.take hview hkey

theorem cancel_inv (h : Inv s) (r : UInt64) : Inv (s.step (.cancel r)) := by
  by_cases hr : ∃ k, ∃ u ∈ view s.queues.queues k, u.frame.requestId = r
  · obtain ⟨k, u, hu, hur⟩ := hr
    obtain ⟨t, before, after, hview, -, -, hout, hwf, hlen, hview'⟩ :=
      EndpointTransferQueues.cancel_some h.wf hu hur
    have hcancelled : (s.step (.cancel r)).cancelled = s.cancelled ++ [t] := by
      simp only [step, hout, Option.toList_some]
    refine @Inv.leave s _ h t.key (before ++ after) [t] hwf hview' ?_ hlen rfl ?_ ?_
    · rw [hview]
      exact List.perm_middle.trans (List.perm_append_singleton t _).symm
    · rw [left, left, hcancelled, List.append_assoc]
      exact (append_swap_right ..).append_left _
    · have hsub : (before ++ after).Sublist (view s.queues.queues t.key) := by
        rw [hview]
        exact (List.Sublist.refl before).append (List.sublist_cons_self t after)
      exact hview' ▸ h.order.drop hsub
  · have hnone : ∀ k, ∀ t ∈ view s.queues.queues k, t.frame.requestId ≠ r := fun k t ht hid => hr ⟨k, t, ht, hid⟩
    have hsame : s.step (.cancel r) = s := by
      simp only [step, EndpointTransferQueues.apply, EndpointTransferQueues.cancel_none hnone, Option.toList_none,
        List.append_nil]
    rw [hsame]
    exact h

theorem resetEndpoint_inv (h : Inv s) (k : EndpointKey) : Inv (s.step (.resetEndpoint k)) := by
  obtain ⟨hout, hwf, hlen, hview⟩ := EndpointTransferQueues.resetEndpoint_spec h.wf k
  refine @Inv.leave s _ h k [] (view s.queues.queues k) hwf hview (List.Perm.refl _) hlen rfl ?_ ?_
  · have hreset : (s.step (.resetEndpoint k)).reset = s.reset ++ view s.queues.queues k := by
      simp only [step, hout]
    rw [left, left, hreset, List.append_assoc, List.append_assoc]
    exact ((append_swap_right ..).append_left _).append_left _
  · exact hview ▸ h.order.drop (List.nil_sublist _)

theorem clear_inv (h : Inv s) : Inv (s.step .clear) where
  wf := EndpointTransferQueues.wf_empty rfl rfl rfl
  ledger := by
    rw [show view (s.step .clear).queues.queues = fun _ => [] from view_empty]
    refine ⟨(fun _ _ ht => nomatch ht), fun t => ?_⟩
    have hb := h.ledger.balance t
    rw [← EndpointTransferQueues.count_held h.wf] at hb
    simp only [step, left, List.count_append, List.count_nil] at hb ⊢
    omega
  order := by
    rw [show view (s.step .clear).queues.queues = fun _ => [] from view_empty]
    exact h.order.clear
  len := by
    have hl := h.len
    rw [← h.held_length] at hl
    simp only [step, left, EndpointTransferQueues.apply, EndpointTransferQueues.clear, List.length_append] at hl ⊢
    omega

theorem step_inv (h : Inv s) (op : QueueOp) : Inv (s.step op) := by
  cases op with
  | enqueue f => exact enqueue_inv h f
  | popNext => exact popNext_inv h
  | cancel r => exact cancel_inv h r
  | resetEndpoint k => exact resetEndpoint_inv h k
  | clear => exact clear_inv h

end

theorem foldl_inv : ∀ (ops : List QueueOp) {s : QueueRun}, Inv s → Inv (ops.foldl step s)
  | [], _, h => h
  | op :: ops, _, h => foldl_inv ops (step_inv h op)

theorem run_inv (ops : List QueueOp) : Inv (run ops) := foldl_inv ops init_inv

/-- After any operations: the account balances, every key is served in the order of entry, every next
operation is that of a map of FIFO lists, `cancel` finds whatever is held, and a rejected frame changes nothing. -/
theorem run_refines (ops : List QueueOp) :
    (run ops).enqueued.Perm ((run ops).queues.held ++
        ((run ops).popped ++ ((run ops).cancelled ++ ((run ops).reset ++ (run ops).cleared)))) ∧
      (∀ k, (ofKey QueuedTransfer.key k (run ops).popped ++ view (run ops).queues.queues k).Sublist
        (ofKey QueuedTransfer.key k (run ops).enqueued)) ∧
      (run ops).queues.len = (run ops).queues.held.length ∧
      (∀ op, Refines (view (run ops).queues.queues) op ((run ops).queues.apply op).1
        (view ((run ops).queues.apply op).2.queues)) ∧
      (∀ r, ((run ops).queues.cancel r).1.isSome ↔ ∃ t ∈ (run ops).queues.held, t.frame.requestId = r) ∧
      ∀ f e, ((run ops).queues.enqueue f).1 = .error e → ((run ops).queues.enqueue f).2 = (run ops).queues := by
  have h := run_inv ops
  refine ⟨h.perm, h.order, h.held_length.symm, EndpointTransferQueues.apply_refines h.wf, fun r => ?_, ?_⟩
  · constructor
    · intro hs
      have href := EndpointTransferQueues.cancel_refines h.wf r
      obtain ⟨t, ht⟩ := Option.isSome_iff_exists.mp hs
      rw [ht] at href
      obtain ⟨before, after, hview, hid, -, -⟩ := href
      exact ⟨t, EndpointTransferQueues.mem_held_iff.mpr ⟨t.key, by rw [hview]; simp⟩, hid⟩
    · rintro ⟨t, ht, hid⟩
      obtain ⟨k, hk⟩ := EndpointTransferQueues.mem_held_iff.mp ht
      obtain ⟨u, -, -, -, -, -, hout, -⟩ := EndpointTransferQueues.cancel_some h.wf hk hid
      rw [hout]
      rfl
  · intro f e he
    by_cases hf : f.frameType = .request
    · rw [(EndpointTransferQueues.enqueue_accepted h.wf hf).1] at he
      cases he
    · rw [EndpointTransferQueues.enqueue_rejected hf]

end QueueRun

end WhyUsb
