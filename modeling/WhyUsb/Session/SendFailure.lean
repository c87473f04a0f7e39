import WhyUsb.Protocol.Requests
import WhyUsb.Session.Network

/-!
# When a send fails

Most sends of the main loop leave it when they fail. Those of a loop over
frames (the answers to a reset, keyboard reports, the transfers that a flush
failed) leave that loop only, and the session goes on.
-/

namespace WhyUsb

open Lts

def SessionEvent.isFailedSend : SessionEvent → Bool
  | sent _ ok => !ok
  | forwarded _ ok => !ok
  | _ => false

namespace NetworkSession

def SendFailed (s : NetworkSession) : Prop := ∃ p ∈ s.trace, p.2.isFailedSend = true

/-- Nothing is received, pushed or sent after a send that failed, and the main loop has been left. -/
structure EndedByFailure (s : NetworkSession) : Prop where
  last : ∀ before p after, s.trace = before ++ p :: after → p.2.isFailedSend = true → after = []
  left : SendFailed s → s.main.inLoop = false

/-- A send fails that is one of a loop over frames. -/
def FailsInside (s : NetworkSession) (a : SessionAct) : Prop :=
  ∃ frame rest bytes, a = .send false ∧ s.main = .sending frame .skipRest rest false ∧ frame.encode = some bytes

/-! ## Steps -/

section
variable {cfg : SessionConfig} {s s' : NetworkSession} {a : SessionAct}

theorem EndedByFailure.not_sendFailed (h : EndedByFailure s) (hin : s.main.inLoop = true) : ¬ SendFailed s := by
  intro hfailed
  rw [h.left hfailed] at hin
  cases hin

theorem EndedByFailure.quiet (h : EndedByFailure s) (htrace : s'.trace = s.trace)
    (hmain : s.main.inLoop = false → s'.main.inLoop = false) : EndedByFailure s' where
  last := htrace ▸ h.last
  left := fun hfailed => hmain (h.left (by rw [SendFailed, ← htrace]; exact hfailed))

/-- A step of the main loop that leaves one event behind it. -/
theorem EndedByFailure.event (h : EndedByFailure s) (hin : s.main.inLoop = true) {p : SessionState × SessionEvent}
    (htrace : s'.trace = s.trace ++ [p]) :
    EndedByFailure s' ↔ (p.2.isFailedSend = true → s'.main.inLoop = false) := by
  have hnone : ∀ q ∈ s.trace, q.2.isFailedSend = false :=
    fun q hq => Bool.eq_false_iff.mpr fun hfailed => h.not_sendFailed hin ⟨q, hq, hfailed⟩
  constructor
  · intro h' hfailed
    exact h'.left ⟨p, by rw [htrace]; exact List.mem_concat_self, hfailed⟩
  · intro hleft
    refine ⟨fun before q after hsplit hfailed => ?_, ?_⟩
    · rcases List.eq_nil_or_concat after with hnil | ⟨after, last, rfl⟩
      · exact hnil
      · rw [htrace, List.concat_eq_append, ← List.cons_append, ← List.append_assoc] at hsplit
        have hq : q ∈ s.trace := by
          rw [(List.append_inj' hsplit rfl).1]
          exact List.mem_append_right _ List.mem_cons_self
        rw [hnone q hq] at hfailed
        cases hfailed
    · rintro ⟨q, hq, hfailed⟩
      rw [htrace] at hq
      rcases List.mem_append.mp hq with hold | hnew
      · rw [hnone q hold] at hfailed
        cases hfailed
      · exact hleft (List.mem_singleton.mp hnew ▸ hfailed)

theorem afterSend_failed_inLoop {onError : OnError} {rest : List Frame} {thenBreak : Bool} :
    (MainPc.afterSend onError rest thenBreak false).inLoop = true ↔ onError = .skipRest ∧ thenBreak = false := by
  cases thenBreak <;> cases onError <;> simp [MainPc.afterSend, MainPc.inLoop]

theorem not_failsInside (ha : a ≠ .send false) : ¬ FailsInside s a := fun hfails => by
  obtain ⟨_, _, _, hsend, -⟩ := hfails
  exact ha hsend

theorem failsInside_iff {frame : Frame} {onError : OnError} {rest : List Frame} {thenBreak ok : Bool}
    {bytes : List UInt8} (hmain : s.main = .sending frame onError rest thenBreak)
    (hencode : frame.encode = some bytes) :
    FailsInside s (.send ok) ↔ ok = false ∧ onError = .skipRest ∧ thenBreak = false := by
  constructor
  · rintro ⟨frame', rest', bytes', hsend, hmain', -⟩
    rw [hmain] at hmain'
    cases hsend
    cases hmain'
    exact ⟨rfl, rfl, rfl⟩
  · rintro ⟨rfl, rfl, rfl⟩
    exact ⟨frame, rest, bytes, rfl, hmain, hencode⟩

/-- After a step the session has ended where it should have, unless a send of an inner loop failed on the step. -/
theorem step_ended (h : EndedByFailure s) (hstep : step cfg s a = some s') : EndedByFailure s' ↔ ¬ FailsInside s a := by
  cases step_stepped hstep with
  | receive hmain hdecode =>
    have hin : s.main.inLoop = true := by rw [hmain]; rfl
    exact iff_of_true ((h.event hin (received_trace _ _ _ _)).mpr nofun) (not_failsInside nofun)
  | malformed hmain hdecode => exact iff_of_true h (not_failsInside nofun)
  | endOfStream hmain => exact iff_of_true (h.quiet rfl fun _ => rfl) (not_failsInside nofun)
  | receiveTx hmain hchannel =>
    refine iff_of_true (h.quiet rfl fun hout => ?_) (not_failsInside nofun)
    rw [hmain] at hout
    cases hout
  | @send frame onError rest thenBreak bytes ok hmain hencode =>
    have hin : s.main.inLoop = true := by rw [hmain]; rfl
    rw [h.event hin rfl, failsInside_iff hmain hencode]
    cases ok with
    | true => exact iff_of_true nofun nofun
    | false =>
      dsimp only
      rw [← Bool.not_eq_true, afterSend_failed_inLoop]
      simp [SessionEvent.isFailedSend]
  | sendPanics hmain hencode =>
    refine iff_of_true (h.quiet rfl fun _ => rfl) ?_
    rintro ⟨frame', _, bytes, -, hmain', hencode'⟩
    rw [hmain] at hmain'
    cases hmain'
    rw [hencode] at hencode'
    cases hencode'
  | @forward bytes ok hmain =>
    have hin : s.main.inLoop = true := by rw [hmain]; rfl
    refine iff_of_true ((h.event hin rfl).mpr ?_) ?_
    · cases ok with
      | true => exact nofun
      | false => exact fun _ => rfl
    · rintro ⟨_, _, _, -, hmain', -⟩
      rw [hmain] at hmain'
      cases hmain'
  | flushed hmain hpop =>
    refine iff_of_true (h.quiet rfl fun hout => ?_) (not_failsInside nofun)
    rw [hmain] at hout
    cases hout
  | pushRx hmain hpop hencode =>
    have hin : s.main.inLoop = true := by rw [hmain]; rfl
    exact iff_of_true ((h.event hin rfl).mpr nofun) (not_failsInside nofun)
  | pushRxPanics hmain hpop hencode => exact iff_of_true (h.quiet rfl fun _ => rfl) (not_failsInside nofun)
  | pumpOnce hmain =>
    refine iff_of_true (h.quiet rfl fun hout => ?_) (not_failsInside nofun)
    rw [hmain] at hout
    cases hout
  | cleanup hmain => exact iff_of_true (h.quiet rfl fun _ => rfl) (not_failsInside nofun)
  | cancelWorker hmain => exact iff_of_true (h.quiet rfl fun _ => rfl) (not_failsInside nofun)
  | join hmain hworker => exact iff_of_true (h.quiet rfl fun _ => rfl) (not_failsInside nofun)
  | _ => exact iff_of_true (h.quiet rfl id) (not_failsInside nofun)

theorem step_failsInside (hfails : FailsInside s a) : ∃ s', step cfg s a = some s' := by
  obtain ⟨frame, rest, bytes, rfl, hmain, hencode⟩ := hfails
  rw [step, NetworkSession.send, hmain]
  dsimp only
  rw [hencode]
  exact ⟨_, rfl⟩

end

/-! ## Runs -/

theorem new_ended : EndedByFailure new where
  last := fun before p after hsplit => by cases before <;> cases hsplit
  left := fun ⟨_, hmem, _⟩ => by cases hmem

/-- In every run: each failed send ends the session exactly when no send of an inner loop fails. -/
theorem sendFailure_ends_iff (cfg : SessionConfig) (acts : List SessionAct) :
    Along (step cfg) (fun s a => ∀ s', step cfg s a = some s' → EndedByFailure s') new acts ↔
      Along (step cfg) (fun s a => ¬ FailsInside s a) new acts := by
  refine along_iff (P := EndedByFailure) (fun s a h => ⟨?_, ?_⟩)
    (fun s a s' _ hended hstep => hended s' hstep) new_ended
  · intro hended hfails
    obtain ⟨s', hstep⟩ := step_failsInside hfails
    exact (step_ended h hstep).mp (hended s' hstep) hfails
  · exact fun hout s' hstep => (step_ended h hstep).mpr hout

/-- Two resets before an attach, and the answer to the first cannot be sent. -/
def failedReset : List SessionAct :=
  let bytes := (Frame.encode (.resetRequest 1 .bulk 1)).getD []
  [.receive bytes true, .send false, .receive bytes true]

theorem failedReset_goes_on : ¬ ∀ (cfg : SessionConfig) (acts : List SessionAct) (s : NetworkSession),
    run (step cfg) new acts = some s → ∀ before p after, s.trace = before ++ p :: after →
      p.2.isFailedSend = true → after = [] := by
  intro h
  have hrun : (run (step ⟨none, [4], []⟩) new failedReset).map (·.trace) = some
      [(.connected, .received (.resetRequest 1 .bulk 1)),
        (.connected, .sent (Frame.resetResponse (.resetRequest 1 .bulk 1) .failed) false),
        (.connected, .received (.resetRequest 1 .bulk 1))] := by
    decide +kernel
  obtain ⟨s, hrun, htrace⟩ := Option.map_eq_some_iff.mp hrun
  have hnil := h _ _ s hrun [_] _ [_] htrace rfl
  cases hnil

end NetworkSession

end WhyUsb
