import Mathlib.Data.List.Nodup
import WhyUsb.Session.BulkChecks
import WhyUsb.Session.DetachLimit
import WhyUsb.Session.Ledger

/-!
# The ids and the responses of the client

The ids of its Requests count up from that of the first control request, through
the handshake and the task, in the order in which they are sent. What the client
counts as answered is never more than the Responses it was given.
-/

namespace WhyUsb

open List

/-- The ids from that of the first control request on. -/
def requestIds (n : Nat) : List UInt64 := (List.range n).map fun i => 2 + UInt64.ofNat i

theorem length_requestIds (n : Nat) : (requestIds n).length = n := by
  rw [requestIds, List.length_map, List.length_range]

theorem requestIds_succ (n : Nat) : requestIds (n + 1) = requestIds n ++ [2 + UInt64.ofNat n] := by
  rw [requestIds, List.range_succ, List.map_append]
  rfl

theorem requestIds_sublist {m n : Nat} (h : m ≤ n) : requestIds m <+ requestIds n :=
  (List.range_sublist.mpr h).map _

theorem requestIds_nodup {n : Nat} (h : n ≤ 2 ^ 64) : (requestIds n).Nodup := by
  refine List.Nodup.map_on ?_ List.nodup_range
  intro i hi j hj hij
  rw [List.mem_range] at hi hj
  have hofNat := congrArg UInt64.toNat ((UInt64.add_right_inj 2).mp hij)
  rwa [UInt64.toNat_ofNat_of_lt' (Nat.lt_of_lt_of_le hi h),
    UInt64.toNat_ofNat_of_lt' (Nat.lt_of_lt_of_le hj h)] at hofNat

/-! ## What waits to be sent -/

namespace ClientSession

/-- The frames of the task, in the order in which they are to be sent. -/
def waiting (s : ClientSession) : List Frame := s.main.held ++ s.channel

def issued (s : ClientSession) : Nat := s.nextRequestId.toNat + s.sentFrames.toNat - 2

section
variable {cfg : ClientConfig} {limit : UInt64} {s s' : ClientSession}

theorem waiting_of_held (hchannel : s'.channel = s.channel) (hheld : s'.main.held = []) : s'.waiting <+ s.waiting := by
  rw [waiting, hchannel, hheld, List.nil_append]
  exact List.sublist_append_right _ _

theorem dataResponse_waiting (cfg : ClientConfig) (s : ClientSession) (main : ClientPc) (urbs : List (List UInt8)) :
    ({ s with main, urbs }.dataResponse cfg).waiting <+ s.waiting := by
  unfold dataResponse
  by_cases hreached : s.detachSent = false ∧ cfg.mockFrameLimit = some (s.dataResponses + 1)
  · rw [if_pos hreached]
    exact waiting_of_held rfl rfl
  · rw [if_neg hreached]
    exact waiting_of_held rfl rfl

theorem receive_waiting {bytes : List UInt8} (hstep : s.receive cfg bytes = some s') : s'.waiting <+ s.waiting := by
  obtain ⟨-, rfl⟩ | ⟨step, requestId, -, rfl⟩ | ⟨hmain, rfl⟩ := receive_cases hstep
  · obtain hfail | ⟨ignored, hignored⟩ | ⟨descriptors, haccepted⟩ := s.waitForLifecycleResponse_cases bytes
    · rw [hfail]
      exact waiting_of_held rfl rfl
    · rw [hignored]
      exact List.Sublist.refl _
    · rw [haccepted]
      exact waiting_of_held rfl rfl
  · obtain hfail | ⟨ignored, hignored⟩ | ⟨-, answered, haccepted⟩ :=
      s.waitForControlResponse_cases step requestId bytes
    · rw [hfail]
      exact waiting_of_held rfl rfl
    · rw [hignored]
      exact List.Sublist.refl _
    · rw [haccepted]
      cases step with
      | _ => exact waiting_of_held rfl rfl
  · obtain ⟨-, hcounted⟩ | ⟨-, ⟨payload, hinject⟩ | hclose | ⟨reports, hreports⟩⟩ :=
      handleNetworkFrame_cases cfg hmain bytes
    · rw [hcounted]
      exact dataResponse_waiting cfg s s.main s.urbs
    · rw [hinject]
      exact waiting_of_held rfl rfl
    · rw [hclose]
      exact waiting_of_held rfl rfl
    · rw [hreports]
      exact List.Sublist.refl _

theorem step_waiting {a : ClientAct} (hstep : s.step cfg a = some s') :
    s'.waiting <+ s.waiting ∨ s.mockLocalUsb cfg = some s' := by
  cases a with
  | send ok => cases hstep
  | receive bytes => exact Or.inl (receive_waiting hstep)
  | endOfStream =>
    obtain rfl | rfl := endOfStream_cases hstep
    · exact Or.inl (waiting_of_held rfl rfl)
    · exact Or.inl (waiting_of_held rfl rfl)
  | mockLocalUsb => exact Or.inr hstep
  | receiveTx =>
    obtain ⟨hmain, frame, channel, hchannel, rfl⟩ := receiveTx_cases hstep
    refine Or.inl ?_
    rw [waiting, waiting, hmain, hchannel]
    exact List.Sublist.refl _
  | receiveUrb =>
    obtain ⟨-, urbs, rfl⟩ := receiveUrb_cases hstep
    exact Or.inl (List.Sublist.refl _)
  | injectUrb =>
    obtain ⟨-, rfl | ⟨-, urbs, rfl⟩⟩ := injectUrb_cases hstep
    · exact Or.inl (waiting_of_held rfl rfl)
    · exact Or.inl (dataResponse_waiting cfg s s.main urbs)

theorem Keeps.issued (h : s.Keeps s') : s'.issued = s.issued := by
  rw [ClientSession.issued, ClientSession.issued, h.nextRequestId, h.sentFrames]

theorem Handshaking.sendControl {step : EnumerationStep} (h : s.Handshaking step.requestId)
    (hmain : s.main = .sendControl step) :
    s.nextRequestId = 2 + UInt64.ofNat s.issued ∧ (s.sent true).issued = s.issued + 1 := by
  have hsum : (s.sent true).nextRequestId = s.nextRequestId + 1 := by
    simp only [sent, hmain, if_true]
  rw [issued, issued, hsum, sent_sentFrames, h.nextRequestId, h.sentFrames]
  cases step <;> decide

theorem Looping.issued (h : s.Looping limit) : s.issued = 5 + s.sentFrames.toNat := by
  have hseven : s.nextRequestId.toNat = 7 := congrArg UInt64.toNat h.nextRequestId
  rw [ClientSession.issued, hseven]
  omega

theorem Standing.issued_le (h : s.Standing limit) (hgone : s.main.gone = false) : s.issued ≤ 5 + limit.toNat := by
  have hlooping : s.Looping limit → s.issued ≤ 5 + limit.toNat := by
    intro hlooping
    rw [hlooping.issued]
    exact Nat.add_le_add_left hlooping.sentFrames 5
  have hhandshaking : ∀ {requestId : UInt64}, s.Handshaking requestId → requestId.toNat ≤ 7 →
      s.issued ≤ 5 + limit.toNat := by
    intro requestId hhandshaking hle
    rw [ClientSession.issued, hhandshaking.nextRequestId, hhandshaking.sentFrames, UInt64.toNat_zero]
    omega
  unfold Standing at h
  cases hmain : s.main with
  | sendAttach | awaitAttach =>
    rw [hmain] at h
    exact hhandshaking h (by decide)
  | sendControl step =>
    rw [hmain] at h
    exact hhandshaking h (by cases step <;> decide)
  | awaitControl step requestId =>
    rw [hmain] at h
    exact hhandshaking h (by cases step <;> decide)
  | select | sendFrame | inject | sendDetach =>
    rw [hmain] at h
    exact hlooping h.1
  | failed | panicked | closed =>
    rw [hmain] at hgone
    cases hgone

theorem sent_live {frame : Frame} (hout : s.outgoing cfg = some (.ok frame)) : (s.sent true).main.gone = false := by
  unfold sent
  obtain ⟨hmain, -⟩ | ⟨step, setup, hmain, -⟩ | hmain | ⟨hmain, -⟩ := outgoing_cases hout
  · rw [hmain]
    rfl
  · rw [hmain]
    rfl
  · rw [hmain]
    rfl
  · rw [hmain]
    rfl

end

end ClientSession

/-! ## The ids in the order in which they are sent -/

namespace ClientRun

def sentIds (s : ClientRun) : List UInt64 := s.sent.filterMap (Frame.idOf .request)

/-- What is sent and what waits to be sent have the ids that were given out, in their order. -/
structure Numbered (limit : UInt64) (s : ClientRun) : Prop where
  sent : s.sentIds <+ requestIds (5 + limit.toNat)
  waiting : s.session.main.gone = false →
    s.sentIds ++ s.session.waiting.map (·.requestId) <+ requestIds s.session.issued

section
variable {cfg : ClientConfig} {limit : UInt64} {s s' : ClientRun}

theorem new_numbered (limit : UInt64) : Numbered limit new where
  sent := nil_sublist _
  waiting := fun _ => nil_sublist _

theorem sentIds_append {frames : List Frame} (hsent : s'.sent = s.sent ++ frames) :
    s'.sentIds = s.sentIds ++ frames.filterMap (Frame.idOf .request) := by
  rw [sentIds, hsent, List.filterMap_append]
  rfl

theorem Numbered.mockLocalUsb (h : Numbered limit s) (hstanding : s.session.Standing limit)
    (hcfg : cfg.mockFrameLimit = some limit) (hgone : s.session.main.gone = false)
    (hstep : s.session.mockLocalUsb cfg = some s'.session) (hsent : s'.sent = s.sent) :
    s'.sentIds ++ s'.session.waiting.map (·.requestId) <+ requestIds s'.session.issued := by
  have hids : s'.sentIds = s.sentIds := congrArg (List.filterMap (Frame.idOf .request)) hsent
  obtain ⟨hstate, hsame | ⟨hbelow, frame, hframe, hqueued⟩⟩ := ClientSession.mockLocalUsb_cases hstep
  · rw [hids, hsame]
    exact h.waiting hgone
  · have hlooping := hstanding.looping hstate hgone
    have hlt := UInt64.lt_iff_toNat_lt.mp (hbelow limit hcfg)
    have hfits := hlooping.fits
    have hcount : (s.session.sentFrames + 1).toNat = s.session.sentFrames.toNat + 1 := succ_toNat (by omega)
    have hissued : s'.session.issued = s.session.issued + 1 := by
      rw [hqueued, (hlooping.mockFrame (hbelow limit hcfg) frame).issued, hlooping.issued, hcount]
      rfl
    have hid : frame.requestId = 2 + UInt64.ofNat s.session.issued := by
      rw [(ClientSession.mockFrame_request hframe).1, hlooping.requestId, hlooping.issued]
      rw [UInt64.ofNat_add, UInt64.ofNat_toNat, ← UInt64.add_assoc]
      rfl
    have hwaiting : s'.session.waiting = s.session.waiting ++ [frame] := by
      rw [hqueued]
      exact (List.append_assoc _ _ _).symm
    rw [hids, hwaiting, hissued, requestIds_succ, List.map_append, ← List.append_assoc, ← hid]
    exact (h.waiting hgone).append_right _

/-- A request that is sent has the id that comes first of those that wait, or the next one. -/
theorem Numbered.outgoing (h : Numbered limit s) (hinv : Inv limit s) {frame : Frame}
    (hout : s.session.outgoing cfg = some (.ok frame)) :
    s.sentIds ++ (Frame.idOf .request frame).toList ++ (s.session.sent true).waiting.map (·.requestId) <+
      requestIds (s.session.sent true).issued := by
  have hgone := ClientSession.outgoing_gone hout
  have hstanding := hinv.standing
  have hwaiting := h.waiting hgone
  have hleft : (s.session.sent true).waiting = s.session.channel := by
    rw [ClientSession.waiting, ClientSession.sent_channel, ClientSession.sent_held hout, List.nil_append]
  have hissued : (∀ step, s.session.main ≠ .sendControl step) → (s.session.sent true).issued = s.session.issued := by
    intro hmain
    rw [ClientSession.issued, ClientSession.sent_nextRequestId true hmain, ClientSession.sent_sentFrames,
      ClientSession.issued]
  unfold ClientSession.Standing at hstanding
  rw [hleft]
  obtain ⟨hmain, rfl⟩ | ⟨step, setup, hmain, rfl⟩ | hmain | ⟨hmain, rfl⟩ := ClientSession.outgoing_cases hout
  · rw [hissued (by rw [hmain]; nofun)]
    rw [ClientSession.waiting, hmain] at hwaiting
    exact (List.append_nil s.sentIds).symm ▸ hwaiting
  · rw [hmain] at hstanding
    rw [ClientSession.waiting, hmain, hstanding.channel] at hwaiting
    have hsent : s.sentIds <+ requestIds s.session.issued := (List.append_nil s.sentIds) ▸ hwaiting
    obtain ⟨hid, hnext⟩ := hstanding.sendControl hmain
    rw [hnext, requestIds_succ, ← hid, hstanding.channel, List.map_nil, List.append_nil]
    exact hsent.append_right _
  · have hrequest := (hinv.booked hgone).requests frame
      (List.mem_append_right _ (by rw [hmain]; exact List.mem_singleton_self _))
    have hid : Frame.idOf .request frame = some frame.requestId := if_pos hrequest
    rw [hissued (by rw [hmain]; nofun), hid, List.append_assoc]
    rw [ClientSession.waiting, hmain] at hwaiting
    exact hwaiting
  · rw [hissued (by rw [hmain]; nofun)]
    rw [ClientSession.waiting, hmain] at hwaiting
    exact (List.append_nil s.sentIds).symm ▸ hwaiting

theorem Numbered.send (h : Numbered limit s) (hinv : Inv limit s) {ok : Bool} {bytes : Option (List UInt8)}
    (hsend : s.session.send cfg ok = some (bytes, s'.session))
    (hsent : s'.sent = s.sent ++ (sentFrame cfg s.session).toList) : Numbered limit s' := by
  have hids := sentIds_append hsent
  obtain ⟨hnone, hgone⟩ | ⟨frame, hout, hframe, hsession⟩ := ClientSession.send_cases hsend
  · rw [hnone] at hids
    refine ⟨?_, fun hlive => nomatch hgone.symm.trans hlive⟩
    rw [hids]
    exact (List.append_nil s.sentIds).symm ▸ h.sent
  · have hone : (sentFrame cfg s.session).toList.filterMap (Frame.idOf .request) =
        (Frame.idOf .request frame).toList := by
      rw [hframe]
      cases hid : Frame.idOf .request frame with
      | none => simp [hid]
      | some id => simp [hid]
    rw [hone] at hids
    have houtgoing := h.outgoing hinv hout
    have hstanding := ClientSession.sent_standing hout hinv.standing
    have hle := hstanding.issued_le (ClientSession.sent_live hout)
    refine ⟨?_, fun hlive => ?_⟩
    · rw [hids]
      exact ((List.sublist_append_left _ _).trans houtgoing).trans (requestIds_sublist hle)
    · cases ok with
      | false => exact nomatch (hsession ▸ ClientSession.sent_gone hout).symm.trans hlive
      | true =>
        rw [hids, hsession]
        exact houtgoing

theorem step_numbered {a : ClientAct} (h : Numbered limit s) (hinv : Inv limit s)
    (hcfg : cfg.mockFrameLimit = some limit) (hs : step cfg s a = some s') : Numbered limit s' := by
  obtain ⟨ok, bytes, -, hsend, hsent⟩ | ⟨hstep, hsent⟩ := step_session hs
  · exact h.send hinv hsend hsent
  · have hids : s'.sentIds = s.sentIds := congrArg (List.filterMap (Frame.idOf .request)) hsent
    refine ⟨hids ▸ h.sent, fun hlive => ?_⟩
    have hgone := ClientSession.step_gone hstep hlive
    obtain hkeeps | htask := ClientSession.step_keeps hstep
    · obtain hwaiting | htask := ClientSession.step_waiting hstep
      · rw [hids, hkeeps.issued]
        exact ((hwaiting.map _).append_left _).trans (h.waiting hgone)
      · exact h.mockLocalUsb hinv.standing hcfg hgone htask hsent
    · exact h.mockLocalUsb hinv.standing hcfg hgone htask hsent

end

end ClientRun

/-! ## The responses that are counted -/

/-- A Response that is still to be counted. -/
def ClientPc.injecting : ClientPc → Nat
  | inject _ => 1
  | _ => 0

namespace ClientSession

def counted (s : ClientSession) : Nat := s.answered.length + s.dataResponses.toNat + s.main.injecting

section
variable {cfg : ClientConfig} {s s' : ClientSession}

theorem dataResponse_counted (cfg : ClientConfig) (s : ClientSession) (main : ClientPc) (urbs : List (List UInt8)) :
    ({ s with main, urbs }.dataResponse cfg).counted ≤ s.answered.length + s.dataResponses.toNat + 1 := by
  have hsum : (s.dataResponses + 1).toNat ≤ s.dataResponses.toNat + 1 := by
    rw [UInt64.toNat_add]
    exact Nat.mod_le _ _
  unfold dataResponse
  by_cases hreached : s.detachSent = false ∧ cfg.mockFrameLimit = some (s.dataResponses + 1)
  · rw [if_pos hreached]
    exact Nat.add_le_add_left hsum _
  · rw [if_neg hreached]
    exact Nat.add_le_add_left hsum _

theorem enumerated_counted (step : EnumerationStep) (s : ClientSession) :
    (s.enumerated step).counted = s.answered.length + s.dataResponses.toNat := by
  cases step with
  | _ => rfl

theorem waitForControlResponse_counted (s : ClientSession) (step : EnumerationStep) (requestId : UInt64)
    (bytes : List UInt8) :
    (s.waitForControlResponse step requestId bytes).counted ≤ s.counted + (responseId bytes).toList.length := by
  have hfail : s.fail.counted ≤ s.counted := Nat.le_add_right _ _
  unfold waitForControlResponse responseId
  cases hdecode : Frame.decode bytes with
  | error e => exact hfail
  | ok response =>
    dsimp only
    by_cases hunrelated : response.requestId ≠ requestId ∨ response.frameType ≠ .response
    · rw [if_pos hunrelated]
      exact Nat.le_add_right _ _
    · rw [if_neg hunrelated]
      by_cases hstatus : response.status ≠ 0
      · rw [if_pos hstatus]
        exact Nat.le_add_right_of_le hfail
      · rw [if_neg hstatus]
        cases UsbControlTransfer.decode response.payload with
        | error e => exact Nat.le_add_right_of_le hfail
        | ok control =>
          dsimp only
          by_cases haccepts : step.accepts s.descriptors control = true
          · rw [not_or, not_not, not_not] at hunrelated
            rw [if_pos haccepts, enumerated_counted, Frame.idOf, if_pos hunrelated.2]
            simp [counted]
            omega
          · rw [if_neg haccepts]
            exact Nat.le_add_right_of_le hfail

theorem handleNetworkFrame_counted (cfg : ClientConfig) (hmain : s.main = .select) {bytes : List UInt8}
    (huncancelled : ∀ f, Frame.decode bytes = .ok f → f.frameType ≠ .cancelResponse) :
    (s.handleNetworkFrame cfg bytes).counted ≤ s.counted + (responseId bytes).toList.length := by
  have hselect : s.counted = s.answered.length + s.dataResponses.toNat := by
    rw [counted, hmain]
    rfl
  obtain ⟨hcounts, hcounted⟩ | ⟨-, ⟨payload, hinject⟩ | hclose | ⟨reports, hreports⟩⟩ :=
    handleNetworkFrame_cases cfg hmain bytes
  · obtain ⟨frame, hdecode, hcounts⟩ := (counts_receive_iff hmain bytes).mp hcounts
    have hresponse := (hcounts.resolve_right (huncancelled frame hdecode)).1
    have hone : responseId bytes = some frame.requestId := by
      rw [responseId, hdecode]
      exact if_pos hresponse
    rw [hcounted, hone, hselect]
    exact dataResponse_counted cfg s s.main s.urbs
  · have hinjects : (s.handleNetworkFrame cfg bytes).main = .inject payload := by rw [hinject]
    obtain ⟨frame, hdecode, ⟨hresponse, -⟩, -⟩ := (ClientRun.handleNetworkFrame_inject_iff hmain).mp hinjects
    have hone : responseId bytes = some frame.requestId := by
      rw [responseId, hdecode]
      exact if_pos hresponse
    rw [hinject, hone, hselect]
    exact Nat.le_refl _
  · rw [hclose, hselect]
    exact Nat.le_add_right _ _
  · rw [hreports]
    exact Nat.le_add_right _ _

theorem receive_counted {bytes : List UInt8} (hstep : s.receive cfg bytes = some s')
    (huncancelled : s.main = .select → ∀ f, Frame.decode bytes = .ok f → f.frameType ≠ .cancelResponse) :
    s'.counted ≤ s.counted + (responseId bytes).toList.length := by
  obtain ⟨-, rfl⟩ | ⟨step, requestId, -, rfl⟩ | ⟨hmain, rfl⟩ := receive_cases hstep
  · refine Nat.le_add_right_of_le ?_
    obtain hfail | ⟨ignored, hignored⟩ | ⟨descriptors, haccepted⟩ := s.waitForLifecycleResponse_cases bytes
    · rw [hfail]
      exact Nat.le_add_right _ _
    · rw [hignored]
      exact Nat.le_refl _
    · rw [haccepted]
      exact Nat.le_add_right _ _
  · exact s.waitForControlResponse_counted step requestId bytes
  · exact handleNetworkFrame_counted cfg hmain (huncancelled hmain)

/-- Nothing is counted twice: beside what is received the count stays. -/
theorem step_counted {a : ClientAct} (hstep : s.step cfg a = some s')
    (huncancelled : s.main = .select → ∀ bytes, a = .receive bytes → ∀ f, Frame.decode bytes = .ok f →
      f.frameType ≠ .cancelResponse) :
    s'.counted ≤ s.counted + (a.received.filterMap responseId).length := by
  cases a with
  | send ok => cases hstep
  | receive bytes =>
    have hone : (ClientAct.received (.receive bytes)).filterMap responseId = (responseId bytes).toList := by
      simp only [ClientAct.received, List.filterMap_cons, List.filterMap_nil]
      cases responseId bytes <;> rfl
    rw [hone]
    exact receive_counted hstep fun hmain => huncancelled hmain bytes rfl
  | endOfStream =>
    obtain rfl | rfl := endOfStream_cases hstep
    · exact Nat.le_add_right _ _
    · exact Nat.le_add_right _ _
  | mockLocalUsb =>
    obtain ⟨-, rfl | ⟨-, frame, -, rfl⟩⟩ := mockLocalUsb_cases hstep
    · exact Nat.le_refl _
    · exact Nat.le_refl _
  | receiveTx =>
    obtain ⟨hmain, frame, channel, -, rfl⟩ := receiveTx_cases hstep
    exact Nat.le_add_right _ _
  | receiveUrb =>
    obtain ⟨-, urbs, rfl⟩ := receiveUrb_cases hstep
    exact Nat.le_refl _
  | injectUrb =>
    obtain ⟨⟨payload, hmain⟩, rfl | ⟨-, urbs, rfl⟩⟩ := injectUrb_cases hstep
    · exact Nat.le_add_right _ _
    · have hone : s.counted = s.answered.length + s.dataResponses.toNat + 1 := by
        rw [counted, hmain]
        rfl
      rw [hone]
      exact dataResponse_counted cfg s s.main urbs

theorem sent_counted (s : ClientSession) (ok : Bool) : (s.sent ok).counted ≤ s.counted := by
  unfold sent
  cases s.main with
  | sendAttach | sendControl | sendFrame | sendDetach => cases ok <;> exact Nat.le_add_right _ _
  | _ => exact Nat.le_refl _

theorem send_counted {ok : Bool} {bytes : Option (List UInt8)} (h : s.send cfg ok = some (bytes, s')) :
    s'.counted ≤ s.counted := by
  have hleft : ∀ main : ClientPc, main.injecting = 0 → counted { s with main } ≤ s.counted := by
    intro main hmain
    rw [counted, hmain]
    exact Nat.le_add_right _ _
  unfold send at h
  cases hout : s.outgoing cfg with
  | none =>
    rw [hout] at h
    cases h
  | some out =>
    rw [hout] at h
    cases out with
    | error e =>
      obtain ⟨-, rfl⟩ := Prod.mk.inj (Option.some.inj h)
      exact hleft .failed rfl
    | ok frame =>
      dsimp only at h
      cases hencode : frame.encode with
      | none =>
        rw [hencode] at h
        obtain ⟨-, rfl⟩ := Prod.mk.inj (Option.some.inj h)
        exact hleft .panicked rfl
      | some encoded =>
        rw [hencode] at h
        obtain ⟨-, rfl⟩ := Prod.mk.inj (Option.some.inj h)
        exact sent_counted s ok

end

end ClientSession

end WhyUsb
