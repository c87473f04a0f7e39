import WhyUsb.Session.ClientRun

/-!
# What the client injects

Each entry of the map is taken out by one response at most. That the response
carries the payload of the entry is compared and logged, and then the response
goes on to `inject_urb` either way.
-/

namespace WhyUsb

open Lts

namespace BulkBook

/-- Injected responses with an entry carry its payload, and no entry is used twice. -/
structure Checked (b : BulkBook) : Prop where
  carried : ∀ urb ∈ b.injected, ∀ payload, urb.expected = some payload →
    MockBulkPayload.decode urb.response.payload = .ok payload
  once : b.used.Nodup

def Corrupts (bytes : List UInt8) (b : BulkBook) : Prop :=
  ∃ frame expected, Frame.decode bytes = .ok frame ∧ frame.frameType = .response ∧ frame.status = 0 ∧
    b.pendingBulkPayloads frame.requestId = some expected ∧
      MockBulkPayload.decode frame.payload ≠ .ok expected.payload

/-- The entries in the map are different ones, and none has been used. -/
structure Fresh (b : BulkBook) : Prop where
  inserted : ∀ id e, b.pendingBulkPayloads id = some e → e.entry < b.inserted ∧ e.entry ∉ b.used
  distinct : ∀ id id' e e', b.pendingBulkPayloads id = some e → b.pendingBulkPayloads id' = some e' →
    e.entry = e'.entry → id = id'
  used : ∀ k ∈ b.used, k < b.inserted
  once : b.used.Nodup

theorem new_fresh : Fresh new where
  inserted := fun id e h => by cases h
  distinct := fun id id' e e' h => by cases h
  used := fun k h => by cases h
  once := List.nodup_nil

section
variable {b : BulkBook}

theorem queueFrame_fresh (h : Fresh b) (frame : Frame) : Fresh (b.queueFrame frame) := by
  unfold queueFrame
  cases MockBulkPayload.decode frame.payload with
  | error e => exact h
  | ok payload =>
    have hnew : ∀ id e, b.pendingBulkPayloads id = some e → e.entry ≠ b.inserted := by
      intro id e he heq
      exact absurd (heq ▸ (h.inserted id e he).1) (Nat.lt_irrefl _)
    refine ⟨?_, ?_, ?_, h.once⟩
    · intro id e he
      dsimp only at he
      by_cases hid : id = frame.requestId
      · rw [hid, Function.update_self, Option.some.injEq] at he
        subst he
        exact ⟨Nat.lt_succ_self _, fun hused => absurd (h.used _ hused) (Nat.lt_irrefl _)⟩
      · rw [Function.update_of_ne hid] at he
        exact ⟨Nat.lt_succ_of_lt (h.inserted id e he).1, (h.inserted id e he).2⟩
    · intro id id' e e' he he' heq
      dsimp only at he he'
      by_cases hid : id = frame.requestId
      · by_cases hid' : id' = frame.requestId
        · rw [hid, hid']
        · rw [hid, Function.update_self, Option.some.injEq] at he
          rw [Function.update_of_ne hid'] at he'
          subst he
          exact absurd heq.symm (hnew id' e' he')
      · by_cases hid' : id' = frame.requestId
        · rw [hid', Function.update_self, Option.some.injEq] at he'
          rw [Function.update_of_ne hid] at he
          subst he'
          exact absurd heq (hnew id e he)
        · rw [Function.update_of_ne hid] at he
          rw [Function.update_of_ne hid'] at he'
          exact h.distinct id id' e e' he he' heq
    · intro k hk
      exact Nat.lt_succ_of_lt (h.used k hk)

theorem take_fresh (h : Fresh b) (id : UInt64) (injected : List InjectedUrb) :
    Fresh { b with
      pendingBulkPayloads := Function.update b.pendingBulkPayloads id none
      used := b.used ++ ((b.pendingBulkPayloads id).map (·.entry)).toList
      injected := injected } := by
  have hleft : ∀ i e, Function.update b.pendingBulkPayloads id none i = some e →
      i ≠ id ∧ b.pendingBulkPayloads i = some e := by
    intro i e he
    by_cases hi : i = id
    · rw [hi, Function.update_self] at he
      cases he
    · rw [Function.update_of_ne hi] at he
      exact ⟨hi, he⟩
  have hused : ∀ k, k ∈ b.used ++ ((b.pendingBulkPayloads id).map (·.entry)).toList ↔
      k ∈ b.used ∨ ∃ e, b.pendingBulkPayloads id = some e ∧ e.entry = k := by
    intro k
    rw [List.mem_append, Option.mem_toList, Option.map_eq_some_iff]
  refine ⟨?_, ?_, ?_, ?_⟩
  · intro i e he
    obtain ⟨hi, he⟩ := hleft i e he
    refine ⟨(h.inserted i e he).1, fun hmem => ?_⟩
    cases (hused _).mp hmem with
    | inl hold => exact (h.inserted i e he).2 hold
    | inr htaken =>
      obtain ⟨e', he', heq⟩ := htaken
      exact hi (h.distinct i id e e' he he' heq.symm)
  · intro i i' e e' he he' heq
    exact h.distinct i i' e e' (hleft i e he).2 (hleft i' e' he').2 heq
  · intro k hk
    cases (hused k).mp hk with
    | inl hold => exact h.used k hold
    | inr htaken =>
      obtain ⟨e, he, rfl⟩ := htaken
      exact (h.inserted id e he).1
  · cases hentry : b.pendingBulkPayloads id with
    | none => simpa [hentry] using h.once
    | some e =>
      rw [Option.map_some, Option.toList_some, List.nodup_append]
      refine ⟨h.once, by simp, ?_⟩
      intro k hk l hl heq
      rw [List.mem_singleton] at hl
      exact (h.inserted id e hentry).2 (hl ▸ heq ▸ hk)

theorem handleNetworkFrame_fresh (h : Fresh b) (bytes : List UInt8) : Fresh (b.handleNetworkFrame bytes) := by
  unfold handleNetworkFrame
  cases Frame.decode bytes with
  | error e => exact h
  | ok frame =>
    dsimp only
    by_cases hresponse : frame.frameType = .response
    · rw [if_pos hresponse]
      by_cases hstatus : frame.status ≠ 0
      · rw [if_pos hstatus]
        exact take_fresh h frame.requestId b.injected
      · rw [if_neg hstatus]
        exact take_fresh h frame.requestId _
    · rw [if_neg hresponse]
      exact h

/-! ## What is carried -/

theorem queueFrame_injected (b : BulkBook) (frame : Frame) : (b.queueFrame frame).injected = b.injected := by
  unfold queueFrame
  cases MockBulkPayload.decode frame.payload <;> rfl

theorem handleNetworkFrame_injected (b : BulkBook) (bytes : List UInt8) :
    (b.handleNetworkFrame bytes).injected = b.injected ++
      match Frame.decode bytes with
      | .error _ => []
      | .ok frame =>
        if frame.frameType = .response ∧ frame.status = 0 then
          [⟨frame, (b.pendingBulkPayloads frame.requestId).map (·.payload)⟩]
        else [] := by
  unfold handleNetworkFrame
  cases Frame.decode bytes with
  | error e => exact (List.append_nil _).symm
  | ok frame =>
    by_cases hresponse : frame.frameType = .response
    · by_cases hstatus : frame.status = 0
      · simp [hresponse, hstatus]
      · simp [hresponse, hstatus]
    · simp [hresponse]

theorem handleNetworkFrame_checked_iff (hf : Fresh b) (hc : Checked b) (bytes : List UInt8) :
    Checked (b.handleNetworkFrame bytes) ↔ ¬ Corrupts bytes b := by
  have hinjected := b.handleNetworkFrame_injected bytes
  constructor
  · intro h hcorrupts
    obtain ⟨frame, expected, hdecode, hresponse, hstatus, hentry, hcorrupt⟩ := hcorrupts
    rw [hdecode] at hinjected
    dsimp only at hinjected
    rw [if_pos ⟨hresponse, hstatus⟩, hentry] at hinjected
    exact hcorrupt (h.carried ⟨frame, some expected.payload⟩ (by rw [hinjected]; simp) _ rfl)
  · intro h
    refine ⟨fun urb hurb payload hpayload => ?_, (handleNetworkFrame_fresh hf bytes).once⟩
    rw [hinjected, List.mem_append] at hurb
    cases hurb with
    | inl hold => exact hc.carried urb hold payload hpayload
    | inr hlast =>
      cases hdecode : Frame.decode bytes with
      | error e =>
        rw [hdecode] at hlast
        cases hlast
      | ok frame =>
        rw [hdecode] at hlast
        dsimp only at hlast
        by_cases hgood : frame.frameType = .response ∧ frame.status = 0
        · rw [if_pos hgood, List.mem_singleton] at hlast
          subst hlast
          obtain ⟨expected, hentry, rfl⟩ := Option.map_eq_some_iff.mp hpayload
          by_contra hcorrupt
          exact h ⟨frame, expected, hdecode, hgood.1, hgood.2, hentry, hcorrupt⟩
        · rw [if_neg hgood] at hlast
          cases hlast

end

end BulkBook

/-! ## Along a run -/

namespace ClientRun

/-- The step takes a response that has an entry and does not carry its payload. -/
def TakesCorrupted (s : ClientRun) (a : ClientAct) : Prop :=
  ∃ bytes, a = .receive bytes ∧ s.session.main = .select ∧ s.bulk.Corrupts bytes

section
variable {cfg : ClientConfig} {s s' : ClientRun} {a : ClientAct}

theorem step_fresh (h : s.bulk.Fresh) (hs : step cfg s a = some s') : s'.bulk.Fresh := by
  obtain hsame | ⟨bytes, -, -, htaken⟩ | ⟨frame, hqueued⟩ := step_bulk hs
  · rw [hsame]
    exact h
  · rw [htaken]
    exact BulkBook.handleNetworkFrame_fresh h bytes
  · rw [hqueued]
    exact BulkBook.queueFrame_fresh h frame

theorem receive_select (cfg : ClientConfig) (bytes : List UInt8) (h : s.session.main = .select) :
    ∃ s', step cfg s (.receive bytes) = some s' ∧ s'.bulk = s.bulk.handleNetworkFrame bytes ∧
      s'.session = s.session.handleNetworkFrame cfg bytes := by
  refine ⟨{ s with
    session := s.session.handleNetworkFrame cfg bytes
    bulk := s.bulk.handleNetworkFrame bytes }, ?_, rfl, rfl⟩
  simp only [step, receive, ClientSession.receive, h, Option.map_some, if_true]

theorem dataResponse_not_inject (cfg : ClientConfig) (s : ClientSession) (payload : List UInt8) :
    (s.dataResponse cfg).main ≠ .inject payload := by
  unfold ClientSession.dataResponse
  by_cases hlimit : s.detachSent = false ∧ cfg.mockFrameLimit = some (s.dataResponses + 1)
  · rw [if_pos hlimit]
    nofun
  · rw [if_neg hlimit]
    nofun

theorem handleNetworkFrame_inject_iff {s : ClientSession} {bytes payload : List UInt8} (h : s.main = .select) :
    (s.handleNetworkFrame cfg bytes).main = .inject payload ↔ ∃ frame, Frame.decode bytes = .ok frame ∧
      (frame.frameType = .response ∧ frame.status = 0) ∧ frame.payload = payload := by
  unfold ClientSession.handleNetworkFrame
  cases Frame.decode bytes with
  | error e => simp [h]
  | ok frame =>
    dsimp only
    cases htype : frame.frameType with
    | response =>
      by_cases hstatus : frame.status = 0
      · simp [hstatus, htype]
      · simp [hstatus, htype, dataResponse_not_inject]
    | cancelResponse => simp [htype, dataResponse_not_inject]
    | detachResponse =>
      by_cases hstatus : frame.status = 0
      · simp [hstatus, htype, ClientSession.close]
      · simp [hstatus, htype, h]
    | event =>
      by_cases hkeyboard : frame.transferType = .interrupt ∧ frame.endpoint = 0x81
      · cases HidKeyboardInputReport.decode frame.payload <;> simp [hkeyboard, htype, h]
      · simp [hkeyboard, htype, h]
    | _ => simp [htype, h]

/-- The session calls `inject_urb` with the payloads that the book says are injected. -/
theorem receive_inject_iff {bytes payload : List UInt8} (h : s.session.main = .select)
    (hs : step cfg s (.receive bytes) = some s') : s'.session.main = .inject payload ↔
      ∃ urb, s'.bulk.injected = s.bulk.injected ++ [urb] ∧ urb.response.payload = payload := by
  obtain ⟨s'', hs'', hbulk, hsession⟩ := receive_select cfg bytes h
  obtain rfl : s'' = s' := Option.some.inj (hs''.symm.trans hs)
  rw [hsession, hbulk, handleNetworkFrame_inject_iff h, BulkBook.handleNetworkFrame_injected]
  cases Frame.decode bytes with
  | error e => simp
  | ok frame =>
    by_cases hgood : frame.frameType = .response ∧ frame.status = 0
    · simp [hgood]
    · simp [hgood]

theorem step_checked_iff (hf : s.bulk.Fresh) (hc : s.bulk.Checked) :
    (∀ s', step cfg s a = some s' → s'.bulk.Checked) ↔ ¬ s.TakesCorrupted a := by
  constructor
  · intro h htakes
    obtain ⟨bytes, rfl, hmain, hcorrupts⟩ := htakes
    obtain ⟨s', hs, hbulk, -⟩ := receive_select cfg bytes hmain
    have hchecked := h s' hs
    rw [hbulk] at hchecked
    exact (BulkBook.handleNetworkFrame_checked_iff hf hc bytes).mp hchecked hcorrupts
  · intro h s' hs
    obtain hsame | ⟨bytes, rfl, hmain, htaken⟩ | ⟨frame, hqueued⟩ := step_bulk hs
    · rw [hsame]
      exact hc
    · rw [htaken, BulkBook.handleNetworkFrame_checked_iff hf hc]
      exact fun hcorrupts => h ⟨bytes, rfl, hmain, hcorrupts⟩
    · rw [hqueued]
      refine ⟨?_, (BulkBook.queueFrame_fresh hf frame).once⟩
      rw [BulkBook.queueFrame_injected]
      exact hc.carried

end

/-- In every run of the client: what is injected has been checked, and no entry is used twice, exactly when no response
with an entry carries anything but its payload. -/
theorem bulkChecked_iff (cfg : ClientConfig) (acts : List ClientAct) :
    Along (step cfg) (fun s a => ∀ s', step cfg s a = some s' → s'.bulk.Checked) new acts ↔
      Along (step cfg) (fun s a => ¬ s.TakesCorrupted a) new acts := by
  refine along_iff (P := fun s => s.bulk.Fresh ∧ s.bulk.Checked) ?_ ?_ ?_
  · intro s a h
    exact step_checked_iff h.1 h.2
  · intro s a s' h hchecked hs
    exact ⟨step_fresh h.1 hs, hchecked s' hs⟩
  · exact ⟨BulkBook.new_fresh, fun urb hurb => (by cases hurb), List.nodup_nil⟩

/-- The only frame of a client with one byte of bulk data comes back without its payload. -/
def emptyEcho : List ClientAct :=
  attached ++ [.mockLocalUsb, .receiveTx, .send true, .receive ((Frame.mockResponse (.mockRequest 7 []) []).encode.getD [])]

theorem emptyEcho_not_checked : ¬ ∀ (cfg : ClientConfig) (acts : List ClientAct) (s : ClientRun),
    run (step cfg) new acts = some s → s.bulk.Checked := by
  intro h
  have hrun : (run (step ⟨.mock, none, some 1⟩) new emptyEcho).map (·.bulk.injected) =
      some [⟨Frame.mockResponse (.mockRequest 7 []) [], some ⟨[7]⟩⟩] := by decide +kernel
  obtain ⟨s, hs, hinjected⟩ := Option.map_eq_some_iff.mp hrun
  have hcarried := (h _ _ s hs).carried _ (by rw [hinjected]; exact List.mem_singleton_self _) _ rfl
  exact absurd hcarried (by decide)

end ClientRun

end WhyUsb
