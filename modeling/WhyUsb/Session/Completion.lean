import WhyUsb.Session.Fidelity
import WhyUsb.Session.RequestIds
import WhyUsb.Session.Shutdown

/-!
# Completion

A client with a frame limit sends its detach request when it has counted as many
Responses as it may send bulk Requests. Against this daemon each of them is the
Response to a Request of its own. So every Request has been answered by then,
once, and nothing is left behind in the daemon.
-/

namespace WhyUsb

open List Lts Matching

namespace ClientDaemonRun

structure Completing (ccfg : ClientConfig) (cfg : SessionConfig) (limit : UInt64) (s : ClientDaemonRun) : Prop where
  faithful : Faithful ccfg cfg s
  inv : s.client.Inv limit
  numbered : s.client.Numbered limit
  counted : s.client.session.counted ≤ (s.delivered.filterMap responseId).length
  detached : ∀ f ∈ s.client.sent, f.frameType = .detachRequest →
    5 + limit.toNat ≤ (s.delivered.filterMap responseId).length

section
variable {ccfg : ClientConfig} {cfg : SessionConfig} {limit : UInt64} {s s' : ClientDaemonRun}

theorem new_completing (ccfg : ClientConfig) (cfg : SessionConfig) (limit : UInt64) :
    Completing ccfg cfg limit new where
  faithful := new_faithful ccfg cfg
  inv := ClientRun.new_inv limit
  numbered := ClientRun.new_numbered limit
  counted := Nat.le_refl _
  detached := fun _ hf => nomatch hf

theorem Completing.ids (h : Completing ccfg cfg limit s) :
    s.delivered.filterMap responseId ++ (s.toClient.filterMap responseId ++
      s.daemon.session.waiting.filterMap responseId) <+~ requestIds (5 + limit.toNat) := by
  rw [← List.append_assoc, ← List.filterMap_append]
  exact (h.faithful.reached.carried.ids h.faithful.reached.system.provenance).trans h.numbered.sent.subperm

theorem Completing.delivered_le (h : Completing ccfg cfg limit s) :
    (s.delivered.filterMap responseId).length ≤ 5 + limit.toNat := by
  have hle := h.ids.length_le
  rw [List.length_append, length_requestIds] at hle
  omega

theorem Completing.running_counted (h : Completing ccfg cfg limit s)
    (hstate : s.client.session.state ≠ .connected) :
    5 + s.client.session.dataResponses.toNat ≤ (s.delivered.filterMap responseId).length := by
  have hanswered : s.client.session.answered.length = 5 := (h.faithful.running hstate).client.answered.length_eq.symm
  have hcounted := h.counted
  rw [ClientSession.counted, hanswered] at hcounted
  omega

theorem Completing.not_slips {a : ClientAct} (h : Completing ccfg cfg limit s) (hpositive : 0 < limit.toNat)
    (hfits : 7 + limit.toNat < 2 ^ 64) : ¬ ClientRun.Slips ccfg limit s.client a := by
  intro hslips
  obtain ⟨-, hlimit⟩ | ⟨hcounts, hmax⟩ := hslips
  · omega
  · have hlooping := (ClientSession.counts_looping hcounts h.inv.standing).1
    have hcounted := h.running_counted (by rw [hlooping.state]; nofun)
    have hdelivered := h.delivered_le
    omega

theorem Completing.sends_detach (h : Completing ccfg cfg limit s) {frame : Frame}
    (hsent : ClientRun.sentFrame ccfg s.client.session = some frame) (htype : frame.frameType = .detachRequest) :
    5 + limit.toNat ≤ (s.delivered.filterMap responseId).length := by
  have hout := ClientRun.sentFrame_outgoing hsent
  have hstanding := h.inv.standing
  unfold ClientSession.Standing at hstanding
  obtain ⟨-, rfl⟩ | ⟨step, setup, -, rfl⟩ | hmain | ⟨hmain, -⟩ := ClientSession.outgoing_cases hout
  · cases htype
  · cases htype
  · have hrequest := (h.inv.booked (ClientSession.outgoing_gone hout)).requests frame
      (List.mem_append_right _ (by rw [hmain]; exact List.mem_singleton_self _))
    exact nomatch hrequest.symm.trans htype
  · rw [hmain] at hstanding
    obtain ⟨hlooping, -, hreached⟩ := hstanding
    rw [← hreached]
    exact h.running_counted (by rw [hlooping.state]; nofun)

theorem client_counted {a : ClientAct} (h : Completing ccfg cfg limit s)
    (hstep : step ccfg cfg s (.client a) = some s') :
    s'.client.session.counted ≤ (s'.delivered.filterMap responseId).length := by
  obtain ⟨-, hclient, hdelivered⟩ := step_client hstep
  have hreceives := (client_carries hstep).receives
  rw [hdelivered, List.filterMap_append, List.length_append]
  obtain ⟨ok, bytes, -, hsend, -⟩ | ⟨hsession, -⟩ := ClientRun.step_session hclient
  · exact Nat.le_add_right_of_le ((ClientSession.send_counted hsend).trans h.counted)
  · refine (ClientSession.step_counted hsession ?_).trans (Nat.add_le_add_right h.counted _)
    rintro hmain bytes rfl f hf
    have hstate := h.faithful.reached.system.phase.left_of_select hmain
    have hbytes : bytes ∈ s.toClient := by
      rw [hreceives]
      exact List.mem_cons_self
    exact (h.faithful.toClient hstate bytes hbytes f hf).uncancelled

theorem client_detached {a : ClientAct} (h : Completing ccfg cfg limit s)
    (hstep : step ccfg cfg s (.client a) = some s') : ∀ f ∈ s'.client.sent, f.frameType = .detachRequest →
      5 + limit.toNat ≤ (s'.delivered.filterMap responseId).length := by
  obtain ⟨-, hclient, hdelivered⟩ := step_client hstep
  intro f hf htype
  rw [hdelivered, List.filterMap_append, List.length_append]
  refine Nat.le_add_right_of_le ?_
  obtain ⟨ok, bytes, -, -, hsent⟩ | ⟨-, hsent⟩ := ClientRun.step_session hclient
  · rw [hsent, List.mem_append, Option.mem_toList] at hf
    obtain hold | hnew := hf
    · exact h.detached f hold htype
    · exact h.sends_detach hnew htype
  · exact h.detached f (hsent ▸ hf) htype

theorem step_completing {a : ClientDaemonAct} (hcfg : ccfg.mockFrameLimit = some limit) (hpositive : 0 < limit.toNat)
    (hfits : 7 + limit.toNat < 2 ^ 64) (h : Completing ccfg cfg limit s) (hstep : step ccfg cfg s a = some s') :
    Completing ccfg cfg limit s' := by
  cases a with
  | client a =>
    have hclient := (step_client hstep).2.1
    exact
      { faithful := step_faithful h.faithful hstep
        inv := ClientRun.step_inv hcfg h.inv (h.not_slips hpositive hfits) hclient
        numbered := ClientRun.step_numbered h.numbered h.inv hcfg hclient
        counted := client_counted h hstep
        detached := client_detached h hstep }
  | daemon a =>
    obtain ⟨-, hclient, hdelivered⟩ := step_daemon hstep
    refine ⟨step_faithful h.faithful hstep, hclient ▸ h.inv, hclient ▸ h.numbered, ?_, ?_⟩
    · rw [hclient, hdelivered]
      exact h.counted
    · rw [hclient, hdelivered]
      exact h.detached

/-! ## What is left behind -/

theorem waiting_nil (h : s.daemon.Provenance) (hnone : s.daemon.session.waiting.filterMap responseId = []) :
    s.daemon.session.waiting = [] := by
  rw [List.filterMap_eq_nil_iff] at hnone
  refine List.eq_nil_iff_forall_not_mem.mpr fun bytes hbytes => ?_
  obtain ⟨requests, hrequests, -⟩ := sublistForall₂_iff.mp h.echoes
  rw [NetworkSession.produced_eq] at hrequests
  obtain ⟨request, -, response, hdecode, hecho⟩ :=
    exists_of_mem_forall₂ hrequests (List.mem_append_right _ hbytes)
  have hid : responseId bytes = some response.requestId := by
    rw [responseId, hdecode]
    exact if_pos hecho.frameType
  rw [hnone bytes hbytes] at hid
  cases hid

theorem Completing.nodup (h : Completing ccfg cfg limit s) (hfits : 7 + limit.toNat < 2 ^ 64) :
    (s.delivered.filterMap responseId).Nodup := by
  obtain ⟨ids, hperm, hsub⟩ := (List.sublist_append_left _ _).subperm.trans h.ids
  exact hperm.nodup_iff.mp ((requestIds_nodup (by omega)).sublist hsub)

theorem Completing.complete (h : Completing ccfg cfg limit s) {f : Frame} (hf : f ∈ s.client.sent)
    (htype : f.frameType = .detachRequest) :
    s.delivered.filterMap responseId ~ requestIds (5 + limit.toNat) ∧ s.toClient.filterMap responseId = [] ∧
      s.daemon.session.waiting = [] := by
  have hall := h.detached f hf htype
  have hlength := h.ids.length_le
  rw [List.length_append, List.length_append, length_requestIds] at hlength
  have hsub : s.delivered.filterMap responseId <+~ requestIds (5 + limit.toNat) :=
    (List.sublist_append_left _ _).subperm.trans h.ids
  refine ⟨hsub.perm_of_length_le (by rw [length_requestIds]; exact hall), List.length_eq_zero_iff.mp (by omega), ?_⟩
  exact waiting_nil h.faithful.reached.system.provenance (List.length_eq_zero_iff.mp (by omega))

/-- The worker that blocks the join of a loop that was left is one that waits with a frame. -/
theorem workerFree_of_waiting (h : s.daemon.session.waiting = []) :
    NetworkSession.WorkerFree cfg s.daemon.session := by
  rw [NetworkSession.workerFree_iff]
  intro hstuck
  obtain ⟨-, -, bytes, hworker⟩ := hstuck
  rw [NetworkSession.waiting, hworker] at h
  exact List.cons_ne_nil bytes [] (List.append_eq_nil_iff.mp (List.append_eq_nil_iff.mp h).2).2

end

/-- In every run of client and daemon with a frame limit that is positive and whose detach id fits: the detach request
is sent at the limit, once and with an id of its own; no id is answered twice; and when it has been sent, each of the
Requests of the handshake and of the task has been answered, no Response is on its way or held by the daemon, and the
worker of the daemon cannot block the end of the session. -/
theorem completes_before_detach (backend : VhciBackendKind) (limit : UInt64) (payloadLen : Option Nat)
    (cfg : SessionConfig) (acts : List ClientDaemonAct) (s : ClientDaemonRun) (hpositive : 0 < limit.toNat)
    (hfits : 7 + limit.toNat < 2 ^ 64) (h : run (step ⟨backend, some limit, payloadLen⟩ cfg) new acts = some s) :
    s.client.DetachBounded limit ∧ (s.delivered.filterMap responseId).Nodup ∧
      ((∃ f ∈ s.client.sent, f.frameType = .detachRequest) →
        s.delivered.filterMap responseId ~ requestIds (5 + limit.toNat) ∧ s.toClient.filterMap responseId = [] ∧
          s.daemon.session.waiting = [] ∧ NetworkSession.WorkerFree cfg s.daemon.session) := by
  have hcompleting : Completing ⟨backend, some limit, payloadLen⟩ cfg limit s :=
    run_invariant (fun _ _ _ hs hstep => step_completing rfl hpositive hfits hs hstep)
      (new_completing _ cfg limit) h
  refine ⟨hcompleting.inv.detachBounded, hcompleting.nodup hfits, fun hdetached => ?_⟩
  obtain ⟨f, hf, htype⟩ := hdetached
  obtain ⟨hdelivered, htoClient, hwaiting⟩ := hcompleting.complete hf htype
  exact ⟨hdelivered, htoClient, hwaiting, workerFree_of_waiting hwaiting⟩

theorem completes_before_detach_bounded :
    ∃ s, run (step ⟨.mock, some 1, some 1⟩ ⟨none, [4], []⟩) new boundedRun = some s ∧
      s.delivered.filterMap responseId ~ requestIds 6 ∧ s.daemon.session.waiting = [] := by
  have hrun : (run (step ⟨.mock, some 1, some 1⟩ ⟨none, [4], []⟩) new boundedRun).map
      (fun s => s.client.sent.map (·.frameType)) = some
        ([.attachRequest, .request, .request, .request, .request, .request, .request, .detachRequest]) := by
    decide +kernel
  obtain ⟨s, hs, htypes⟩ := Option.map_eq_some_iff.mp hrun
  have hdetached : ∃ f ∈ s.client.sent, f.frameType = .detachRequest := by
    rw [← List.mem_map, htypes]
    decide
  obtain ⟨-, -, hcomplete⟩ := completes_before_detach .mock 1 (some 1) ⟨none, [4], []⟩ boundedRun s
    (by decide) (by decide) hs
  exact ⟨s, hs, (hcomplete hdetached).1, (hcomplete hdetached).2.2.1⟩

end ClientDaemonRun

end WhyUsb
