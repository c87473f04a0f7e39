import WhyUsb.Protocol.Requests
import WhyUsb.Queue.Arrival
import WhyUsb.Session.Network

/-!
# Reset and cancel, as the client asks for them

A `ResetRequest` is built without a direction and goes out as `HostToDevice`,
so it names the queue of one direction of its endpoint; a `CancelRequest` is
looked up by its id alone, least key first. What the two do to the transfers
that are pending is compared here with what they name.
-/

namespace WhyUsb

open FifoMap

def QueuedTransfer.onEndpoint (transferType : TransferType) (endpoint : UInt8) (u : QueuedTransfer) : Bool :=
  u.frame.transferType == transferType && u.frame.endpoint == endpoint

def EndpointKey.onEndpoint (transferType : TransferType) (endpoint : UInt8) (k : EndpointKey) : Bool :=
  k.transferType == transferType && k.endpoint == endpoint

section
variable {s : Arrivals} {transferType : TransferType} {endpoint : UInt8}

theorem onEndpoint_key {u : QueuedTransfer} (h : u.key = EndpointKey.fromFrame u.frame) :
    u.key.onEndpoint transferType endpoint = u.onEndpoint transferType endpoint := by
  rw [h]
  rfl

theorem onEndpoint_iff {k : EndpointKey} (h : k.onEndpoint transferType endpoint → k.direction = .hostToDevice) :
    k.onEndpoint transferType endpoint ↔ k = ⟨.hostToDevice, transferType, endpoint⟩ := by
  rw [EndpointKey.onEndpoint, Bool.and_eq_true, beq_iff_eq, beq_iff_eq] at h ⊢
  constructor
  · intro hk
    rw [← h hk, ← hk.1, ← hk.2]
  · intro hk
    rw [hk]
    exact ⟨rfl, rfl⟩

/-! ## Reset -/

/-- The reset of an endpoint as its request reads, whatever the direction of the transfers. -/
structure ResetsEndpoint (s : Arrivals) (requestId : UInt64) (transferType : TransferType) (endpoint : UInt8)
    (responses : List Frame) (queues : EndpointTransferQueues) : Prop where
  others : Parts QueuedTransfer.key (view queues.queues)
    (s.pending.filter fun u => !u.onEndpoint transferType endpoint)
  turns : queues.activeOrder = s.queues.activeOrder.filter fun k => !k.onEndpoint transferType endpoint
  responses : responses = (Frame.resetRequest requestId transferType endpoint).resetResponse .ok ::
    (s.pending.filter (QueuedTransfer.onEndpoint transferType endpoint)).map fun u => u.frame.statusResponse .reset

theorem resetEndpoint_activeOrder {q : EndpointTransferQueues} (h : q.Wf) (k : EndpointKey) :
    (q.resetEndpoint k).2.activeOrder = q.activeOrder.filter fun candidate => candidate ≠ k := by
  cases hk : q.queues[k]? with
  | none =>
    simp only [EndpointTransferQueues.resetEndpoint, hk]
    refine (List.filter_eq_self.mpr fun c hc => ?_).symm
    rw [decide_eq_true_eq]
    rintro rfl
    obtain ⟨ts, hts⟩ := mem_queues_iff.mp ((h.order c).mp hc)
    rw [hk] at hts
    cases hts
  | some ts => simp only [EndpointTransferQueues.resetEndpoint, hk, EndpointTransferQueues.removeActiveKey]

theorem Arrivals.Inv.active (h : s.Inv) {k : EndpointKey} (hk : k ∈ s.queues.activeOrder) :
    ∃ u ∈ s.pending, u.key = k := by
  obtain ⟨ts, hts⟩ := mem_queues_iff.mp ((h.wf.order k).mp hk)
  obtain ⟨hne, hkeys⟩ := h.wf.stored k ts hts
  obtain ⟨u, hu⟩ := List.exists_mem_of_ne_nil ts hne
  obtain ⟨rfl, -⟩ := hkeys u hu
  exact ⟨u, h.parts.mem_iff.mpr (by rw [view_of_some hts]; exact hu), rfl⟩

theorem resets_of_hostToDevice (h : s.Inv) (requestId : UInt64)
    (hdir : ∀ u ∈ s.pending, u.onEndpoint transferType endpoint → u.frame.direction = .hostToDevice) :
    let answered := handleResetRequest (Frame.resetRequest requestId transferType endpoint) .attached s.queues
    ResetsEndpoint s requestId transferType endpoint answered.1 answered.2 := by
  have hkey : ∀ u ∈ s.pending, u.onEndpoint transferType endpoint =
      decide (u.key = ⟨.hostToDevice, transferType, endpoint⟩) := by
    intro u hu
    have hk := h.key hu
    rw [← onEndpoint_key hk, Bool.eq_iff_iff, decide_eq_true_eq]
    refine onEndpoint_iff fun hon => ?_
    rw [onEndpoint_key hk] at hon
    rw [hk]
    exact hdir u hu hon
  obtain ⟨hout, -, -, hview⟩ := EndpointTransferQueues.resetEndpoint_spec h.wf ⟨.hostToDevice, transferType, endpoint⟩
  refine ⟨?_, ?_, ?_⟩
  · have hothers : s.pending.filter (fun u => !u.onEndpoint transferType endpoint) =
        s.pending.filter fun u => u.key ≠ ⟨.hostToDevice, transferType, endpoint⟩ :=
      List.filter_congr fun u hu => by rw [hkey u hu, decide_not]
    rw [hothers]
    exact hview ▸ h.parts.drop _
  · refine (resetEndpoint_activeOrder h.wf _).trans (List.filter_congr fun k hk => ?_)
    obtain ⟨u, hu, rfl⟩ := h.active hk
    rw [onEndpoint_key (h.key hu), hkey u hu, decide_not]
    rfl
  · have hdropped : s.pending.filter (QueuedTransfer.onEndpoint transferType endpoint) =
        view s.queues.queues ⟨.hostToDevice, transferType, endpoint⟩ := by
      rw [h.parts, ofKey]
      exact List.filter_congr hkey
    rw [hdropped, ← hout]
    rfl

/-- A reset reaches the whole endpoint exactly when nothing is pending there in the other direction. -/
theorem handleResetRequest_reaches_iff (ops : List QueueOp) (requestId : UInt64) (transferType : TransferType)
    (endpoint : UInt8) :
    let s := Arrivals.run ops
    let answered := handleResetRequest (Frame.resetRequest requestId transferType endpoint) .attached s.queues
    ResetsEndpoint s requestId transferType endpoint answered.1 answered.2 ↔
      ∀ u ∈ s.pending, u.frame.transferType = transferType → u.frame.endpoint = endpoint →
        u.frame.direction ≠ .deviceToHost := by
  intro s answered
  have h : s.Inv := Arrivals.run_inv ops
  constructor
  · intro hreset u hu htype hend hdir
    have hne : u.key ≠ ⟨.hostToDevice, transferType, endpoint⟩ := by
      intro hk
      have hd := congrArg EndpointKey.direction (h.key hu)
      rw [hk] at hd
      cases hd.trans hdir
    obtain ⟨-, -, -, hview⟩ :=
      EndpointTransferQueues.resetEndpoint_spec h.wf ⟨.hostToDevice, transferType, endpoint⟩
    have hview' : view answered.2.queues = Function.update (view s.queues.queues) _ [] := hview
    have hkept : u ∈ view answered.2.queues u.key := by
      rw [hview', Function.update_of_ne hne]
      exact h.parts.mem_iff.mp hu
    rw [hreset.others, mem_ofKey, List.mem_filter] at hkept
    simp [QueuedTransfer.onEndpoint, htype, hend] at hkept
  · intro hdir
    refine resets_of_hostToDevice h requestId fun u hu hon => ?_
    rw [QueuedTransfer.onEndpoint, Bool.and_eq_true, beq_iff_eq, beq_iff_eq] at hon
    have hne := hdir u hu hon.1 hon.2
    cases hd : u.frame.direction with
    | hostToDevice => rfl
    | deviceToHost => exact absurd hd hne

def interruptIn (requestId : UInt64) : Frame where
  requestId := requestId
  frameType := .request
  direction := .deviceToHost
  transferType := .interrupt
  endpoint := 0x81
  status := 0
  payload := []

theorem handleResetRequest_misses_interruptIn :
    ¬ ∀ (ops : List QueueOp) (requestId : UInt64) (transferType : TransferType) (endpoint : UInt8),
      let s := Arrivals.run ops
      let answered := handleResetRequest (Frame.resetRequest requestId transferType endpoint) .attached s.queues
      ResetsEndpoint s requestId transferType endpoint answered.1 answered.2 := by
  intro h
  have hresponses := (h [.enqueue (interruptIn 1)] 9 .interrupt 0x81).responses
  revert hresponses
  decide +kernel

/-! ## Cancel -/

def QueuedTransfer.named (requestId : UInt64) (transferType : TransferType) (endpoint : UInt8)
    (u : QueuedTransfer) : Bool :=
  u.frame.requestId == requestId && u.onEndpoint transferType endpoint

/-- The cancel of a transfer as its request reads: by id, transfer type and endpoint. -/
def CancelsNamed (s : Arrivals) (requestId : UInt64) (transferType : TransferType) (endpoint : UInt8)
    (response : Frame) (queues : EndpointTransferQueues) : Prop :=
  match s.pending.find? (QueuedTransfer.named requestId transferType endpoint) with
  | some u =>
    response = (Frame.cancelRequest requestId transferType endpoint).cancelResponse .cancelled ∧
      Parts QueuedTransfer.key (view queues.queues) (s.pending.erase u)
  | none => response = (Frame.cancelRequest requestId transferType endpoint).cancelResponse .failed ∧ queues = s.queues

theorem EndpointKey.eq_of_not_gt {a b : EndpointKey} (hab : a.cmp b ≠ .gt) (hba : b.cmp a ≠ .gt) : a = b := by
  have hswap : a.cmp b = (b.cmp a).swap := Std.OrientedCmp.eq_swap
  cases hb : b.cmp a with
  | eq => exact (Std.LawfulEqCmp.eq_of_compare hb).symm
  | gt => exact absurd hb hba
  | lt =>
    rw [hb] at hswap
    exact absurd hswap hab

theorem find?_of_find? {α : Type} {p q : α → Bool} {l : List α} {a : α} (h : l.find? q = some a) (ha : p a = true)
    (hpq : ∀ b ∈ l, p b = true → q b = true) : l.find? p = some a := by
  obtain ⟨-, before, after, rfl, hbefore⟩ := List.find?_eq_some_iff_append.mp h
  refine List.find?_eq_some_iff_append.mpr ⟨ha, before, after, rfl, fun b hb => ?_⟩
  have hq := hbefore b hb
  by_cases hp : p b = true
  · rw [hpq b (List.mem_append_left _ hb) hp] at hq
    cases hq
  · rw [Bool.eq_false_iff.mpr hp]
    rfl

theorem eq_of_parts_erase {m : EndpointKey → List QueuedTransfer} {l : List QueuedTransfer} {t u : QueuedTransfer}
    (ht : Parts QueuedTransfer.key m (l.erase t)) (hu : Parts QueuedTransfer.key m (l.erase u)) (hmem : t ∈ l) :
    t = u := by
  by_cases htu : t = u
  · exact htu
  · have hcount := congrArg (List.count t) ((ht t.key).symm.trans (hu t.key))
    rw [ofKey, ofKey, List.count_filter (by simp), List.count_filter (by simp), List.count_erase_self,
      List.count_erase_of_ne htu] at hcount
    have hpos := List.count_pos_iff.mpr hmem
    omega

theorem handleCancelRequest_some {frame : Frame} {q : EndpointTransferQueues} {t : QueuedTransfer}
    (h : (q.cancel frame.requestId).1 = some t) :
    handleCancelRequest frame .attached q = (frame.cancelResponse .cancelled, (q.cancel frame.requestId).2) := by
  rw [handleCancelRequest, if_neg (by simp), show q.cancel frame.requestId = (some t, _) from Prod.ext h rfl]

theorem handleCancelRequest_none {frame : Frame} {q : EndpointTransferQueues}
    (h : q.cancel frame.requestId = (none, q)) :
    handleCancelRequest frame .attached q = (frame.cancelResponse .failed, q) := by
  rw [handleCancelRequest, if_neg (by simp), h]

section
variable {requestId : UInt64} {t : QueuedTransfer}

theorem named_of_key (h : s.Inv) {u : QueuedTransfer} (hu : u ∈ s.pending) (ht : t ∈ s.pending)
    (hn : t.named requestId transferType endpoint) (hk : u.key = t.key) (hid : u.frame.requestId = requestId) :
    u.named requestId transferType endpoint := by
  rw [QueuedTransfer.named, Bool.and_eq_true, ← onEndpoint_key (h.key ht)] at hn
  rw [QueuedTransfer.named, Bool.and_eq_true, ← onEndpoint_key (h.key hu), hk]
  exact ⟨beq_iff_eq.mpr hid, hn.2⟩

theorem named_first_iff (h : s.Inv) (ht : Arrivals.CancelTarget s.pending requestId t) :
    s.pending.find? (QueuedTransfer.named requestId transferType endpoint) = some t ↔
      ∀ u ∈ s.pending, u.frame.requestId = requestId →
        ∃ v, s.pending.find? (QueuedTransfer.named requestId transferType endpoint) = some v ∧
          v.key.cmp u.key ≠ .gt := by
  have hmem : t ∈ s.pending := List.mem_of_find?_eq_some ht.first
  constructor
  · intro hfind u hu hid
    exact ⟨t, hfind, ht.least u hu hid⟩
  · intro hleast
    obtain ⟨v, hv, hle⟩ := hleast t hmem ht.id
    have hvmem : v ∈ s.pending := List.mem_of_find?_eq_some hv
    have hnamed : v.named requestId transferType endpoint = true := List.find?_some hv
    have hvid : v.frame.requestId = requestId := by
      rw [QueuedTransfer.named, Bool.and_eq_true, beq_iff_eq] at hnamed
      exact hnamed.1
    have hkey : v.key = t.key := EndpointKey.eq_of_not_gt hle (ht.least v hvmem hvid)
    have hfirst := find?_of_find? hv (p := fun u => u.key = t.key ∧ u.frame.requestId = requestId)
      (by simpa using ⟨hkey, hvid⟩) fun u hu hp => by
        rw [decide_eq_true_eq] at hp
        exact named_of_key h hu hvmem hnamed (hp.1.trans hkey.symm) hp.2
    rw [ht.first] at hfirst
    rw [hv, ← hfirst]

end

/-- The id alone decides: the least key that has it, and there the earliest. -/
theorem handleCancelRequest_takes (ops : List QueueOp) (requestId : UInt64) (transferType : TransferType)
    (endpoint : UInt8) :
    let s := Arrivals.run ops
    let request := Frame.cancelRequest requestId transferType endpoint
    let answered := handleCancelRequest request .attached s.queues
    ((∃ t, Arrivals.CancelTarget s.pending requestId t ∧ answered.1 = request.cancelResponse .cancelled ∧
        Parts QueuedTransfer.key (view answered.2.queues) (s.pending.erase t)) ∨
      ((∀ t ∈ s.pending, t.frame.requestId ≠ requestId) ∧ answered = (request.cancelResponse .failed, s.queues))) ∧
    (CancelsNamed s requestId transferType endpoint answered.1 answered.2 ↔
      ∀ u ∈ s.pending, u.frame.requestId = requestId →
        ∃ v, s.pending.find? (QueuedTransfer.named requestId transferType endpoint) = some v ∧
          v.key.cmp u.key ≠ .gt) := by
  intro s request answered
  have h : s.Inv := Arrivals.run_inv ops
  rcases Arrivals.cancel_takes h requestId with ⟨t, ht, hout, hparts⟩ | ⟨hnone, hsame⟩
  · have hanswered : answered = (request.cancelResponse .cancelled, (s.queues.cancel requestId).2) :=
      handleCancelRequest_some hout
    have hmem : t ∈ s.pending := List.mem_of_find?_eq_some ht.first
    refine ⟨Or.inl ⟨t, ht, by rw [hanswered], by rw [hanswered]; exact hparts⟩, ?_⟩
    rw [← named_first_iff h ht, CancelsNamed, hanswered]
    cases hfind : s.pending.find? (QueuedTransfer.named requestId transferType endpoint) with
    | none =>
      refine iff_of_false (fun hc => ?_) (by simp)
      have hstatus : TransferStatus.cancelled.asI32 = TransferStatus.failed.asI32 := congrArg Frame.status hc.1
      exact absurd hstatus (by decide)
    | some v =>
      dsimp only
      rw [Option.some.injEq]
      constructor
      · exact fun hc => (eq_of_parts_erase hparts hc.2 hmem).symm
      · rintro rfl
        exact ⟨rfl, hparts⟩
  · have hanswered : answered = (request.cancelResponse .failed, s.queues) := handleCancelRequest_none hsame
    refine ⟨Or.inr ⟨hnone, hanswered⟩, iff_of_true ?_ fun u hu hid => absurd hid (hnone u hu)⟩
    have hfind : s.pending.find? (QueuedTransfer.named requestId transferType endpoint) = none := by
      refine List.find?_eq_none.mpr fun u hu hn => ?_
      rw [QueuedTransfer.named, Bool.and_eq_true, beq_iff_eq] at hn
      exact hnone u hu hn.1
    rw [CancelsNamed, hfind, hanswered]
    exact ⟨rfl, rfl⟩

theorem handleCancelRequest_takes_other :
    ¬ ∀ (ops : List QueueOp) (requestId : UInt64) (transferType : TransferType) (endpoint : UInt8),
      let s := Arrivals.run ops
      let answered := handleCancelRequest (Frame.cancelRequest requestId transferType endpoint) .attached s.queues
      CancelsNamed s requestId transferType endpoint answered.1 answered.2 := by
  intro h
  have hnone := h [.enqueue (interruptIn 7)] 7 .bulk 1
  have hfind : (Arrivals.run [.enqueue (interruptIn 7)]).pending.find? (QueuedTransfer.named 7 .bulk 1) = none := by
    decide +kernel
  dsimp only at hnone
  rw [CancelsNamed, hfind] at hnone
  have hstatus := congrArg Frame.status hnone.1
  revert hstatus
  decide +kernel

end

end WhyUsb
