import WhyUsb.Protocol.Requests
import WhyUsb.Session.MockSession

/-!
# Where the Responses come from

The bytes that reach the client through the driver are followed back through
the channel, the worker's hand, the TX ring, the pump and the RX ring to the
Requests the flush pushed: each stage keeps the order and hands on a frame once
at most.
-/

namespace WhyUsb

open List Lts Matching

/-! ## The books of the TX ring -/

def Producer.inFlight : Producer → List (List UInt8)
  | returned _ => []
  | loadTail f => [f]
  | loadHead f _ => [f]
  | copyPrefix f _ _ => [f]
  | copyFrame f _ _ => [f]

def Consumer.answer : Consumer → List (List UInt8)
  | returned (.ok (some f)) => [f]
  | _ => []

namespace RingSys

section
variable {side : RingSide} {s s' : RingSys}

structure SameConsumer (s s' : RingSys) : Prop where
  consumer : s'.consumer = s.consumer
  popped : s'.popped = s.popped

structure SameProducer (s s' : RingSys) : Prop where
  producer : s'.producer = s.producer
  pushed : s'.pushed = s.pushed

theorem pushCall_books {f : List UInt8} (h : pushCall side s f = some s') :
    s.producer.inFlight = [] ∧ s'.pushed ++ s'.producer.inFlight <+ s.pushed ++ [f] ∧ SameConsumer s s' := by
  unfold pushCall at h
  split at h
  · rename_i hproducer
    rw [hproducer]
    split at h <;> cases h
    · exact ⟨rfl, (nil_sublist _).append_left _, rfl, rfl⟩
    · exact ⟨rfl, List.Sublist.refl _, rfl, rfl⟩
  · cases h

theorem pushStep_books (h : pushStep side s = some s') :
    s'.pushed ++ s'.producer.inFlight <+ s.pushed ++ s.producer.inFlight ∧ SameConsumer s s' := by
  cases hp : s.producer with
  | returned _ => simp [pushStep, hp] at h
  | loadTail f =>
    simp only [pushStep, hp, Option.some.injEq] at h
    subst h
    exact ⟨List.Sublist.refl _, rfl, rfl⟩
  | loadHead f tail =>
    simp only [pushStep, hp] at h
    split at h <;> cases h
    · exact ⟨(nil_sublist _).append_left _, rfl, rfl⟩
    · exact ⟨List.Sublist.refl _, rfl, rfl⟩
  | copyPrefix f head i =>
    simp only [pushStep, hp] at h
    split at h <;> cases h <;> exact ⟨List.Sublist.refl _, rfl, rfl⟩
  | copyFrame f head i =>
    simp only [pushStep, hp] at h
    split at h <;> cases h
    · exact ⟨List.Sublist.refl _, rfl, rfl⟩
    · refine ⟨?_, rfl, rfl⟩
      simp [Producer.inFlight]

theorem popCall_books {maxLen : Nat} (h : popCall s maxLen = some s') :
    s'.consumer.answer = [] ∧ s'.popped = s.popped ∧ SameProducer s s' := by
  unfold popCall at h
  split at h <;> cases h
  exact ⟨rfl, rfl, rfl, rfl⟩

theorem popStep_books (h : popStep .spsc s = some s') :
    s.consumer.answer = [] ∧ s'.popped = s.popped ++ s'.consumer.answer ∧ SameProducer s s' := by
  cases hc : s.consumer with
  | returned _ => simp [popStep, hc] at h
  | loadHead maxLen =>
    simp only [popStep, hc, Option.some.injEq] at h
    subst h
    exact ⟨rfl, (List.append_nil _).symm, rfl, rfl⟩
  | loadTail maxLen head =>
    simp only [popStep, hc] at h
    split at h <;> cases h <;> exact ⟨rfl, (List.append_nil _).symm, rfl, rfl⟩
  | peek maxLen available tail bytes =>
    simp only [popStep, hc, popRefusal] at h
    split at h
    · cases h
      exact ⟨rfl, (List.append_nil _).symm, rfl, rfl⟩
    · by_cases hrefused : available < framePrefixLen + Endian.beNat bytes ∨ maxLen < Endian.beNat bytes
      · simp only [hrefused, if_true, Option.some.injEq] at h
        subst h
        exact ⟨rfl, (List.append_nil _).symm, rfl, rfl⟩
      · simp only [hrefused, if_false, Option.some.injEq] at h
        subst h
        exact ⟨rfl, (List.append_nil _).symm, rfl, rfl⟩
  | copy tail frameLen bytes =>
    simp only [popStep, hc] at h
    split at h <;> cases h
    · exact ⟨rfl, (List.append_nil _).symm, rfl, rfl⟩
    · exact ⟨rfl, rfl, rfl, rfl⟩

end

end RingSys

/-! ## The books of the session -/

def MainPc.forwardingBytes : MainPc → List (List UInt8)
  | forwarding bytes => [bytes]
  | _ => []

def WorkerPc.held : WorkerPc → List (List UInt8)
  | send bytes => [bytes]
  | _ => []

namespace NetworkSession

/-- Everything the worker made of the driver's frames, what was sent first. -/
def produced (s : NetworkSession) : List (List UInt8) :=
  s.events SessionEvent.forwardedBytes ++ (s.main.forwardingBytes ++ (s.channel ++ s.worker.held))

section
variable {cfg : SessionConfig} {s s' : NetworkSession} {a : SessionAct}

theorem forwardingBytes_sendingEach (frames : List Frame) : (MainPc.sendingEach frames).forwardingBytes = [] := by
  cases frames <;> rfl

theorem forwardingBytes_afterSend (onError : OnError) (rest : List Frame) (thenBreak ok : Bool) :
    (MainPc.afterSend onError rest thenBreak ok).forwardingBytes = [] := by
  cases thenBreak <;> cases ok <;> cases onError <;>
    first | rfl | exact forwardingBytes_sendingEach rest

theorem handleFrame_forwardingBytes (h : s.main = .select) (driverOk : Bool) (frame : Frame) :
    (s.handleFrame cfg driverOk frame).main.forwardingBytes = [] := by
  unfold handleFrame
  cases frame.frameType with
  | attachRequest =>
    dsimp only
    unfold handleAttachRequest
    dsimp only
    split <;> rfl
  | request =>
    dsimp only
    unfold handleDataRequest
    repeat' split
    all_goals simp [reply, h, MainPc.forwardingBytes]
  | resetRequest => exact forwardingBytes_sendingEach _
  | detachRequest => rfl
  | cancelRequest => rfl
  | _ => simp [h, MainPc.forwardingBytes]

theorem produced_sublist {sent : List (List UInt8)}
    (hsent : s'.events SessionEvent.forwardedBytes = s.events SessionEvent.forwardedBytes ++ sent)
    (hrest : sent ++ (s'.main.forwardingBytes ++ (s'.channel ++ s'.worker.held)) <+
      s.main.forwardingBytes ++ (s.channel ++ s.worker.held)) : s'.produced <+ s.produced := by
  unfold produced
  rw [hsent, List.append_assoc]
  exact hrest.append_left _

theorem produced_of_main (hsent : s'.events SessionEvent.forwardedBytes = s.events SessionEvent.forwardedBytes)
    (hmain : s'.main.forwardingBytes = []) (hchannel : s'.channel = s.channel) (hworker : s'.worker = s.worker) :
    s'.produced <+ s.produced := by
  have hnothing : s'.events SessionEvent.forwardedBytes = s.events SessionEvent.forwardedBytes ++ [] := by
    rw [hsent, List.append_nil]
  refine produced_sublist hnothing ?_
  rw [hmain, hchannel, hworker]
  exact sublist_append_right _ _

theorem produced_of_worker (htrace : s'.trace = s.trace) (hmain : s'.main = s.main) (hchannel : s'.channel = s.channel)
    (hworker : s'.worker.held = []) : s'.produced <+ s.produced := by
  have hnothing : s'.events SessionEvent.forwardedBytes = s.events SessionEvent.forwardedBytes ++ [] := by
    rw [events_of_trace htrace, List.append_nil]
  refine produced_sublist hnothing ?_
  rw [hmain, hchannel, hworker, List.append_nil]
  exact (sublist_append_left s.channel s.worker.held).append_left s.main.forwardingBytes

/-- Bytes the worker holds go to the channel, from there to the main loop and from there to the client. -/
theorem step_produced (h : step cfg s a = some s') (ha : ∀ result, a ≠ .pollTx result) :
    s'.produced <+ s.produced := by
  cases step_stepped h with
  | receive hmain hdecode =>
    rename_i bytes frame driverOk
    have hsame : SameWorker (s.record (.received frame))
        ((s.record (.received frame)).handleFrame cfg driverOk frame) := handleFrame_sameWorker driverOk frame
    obtain ⟨hworker, hchannel, -, htrace⟩ := hsame
    refine produced_of_main ?_ (handleFrame_forwardingBytes (s := s.record _) hmain driverOk frame) hchannel hworker
    rw [events_of_trace htrace, record_events]
    exact List.append_nil _
  | malformed hmain hdecode => exact List.Sublist.refl _
  | endOfStream hmain => exact produced_of_main rfl rfl rfl rfl
  | receiveTx hmain hchannel =>
    refine produced_sublist (List.append_nil _).symm ?_
    rw [hmain, hchannel]
    exact List.Sublist.refl _
  | send hmain hencode =>
    refine produced_of_main ?_ (forwardingBytes_afterSend _ _ _ _) rfl rfl
    exact (record_events s (.sent _ _) _).trans (List.append_nil _)
  | sendPanics hmain hencode => exact produced_of_main rfl rfl rfl rfl
  | forward hmain =>
    rename_i bytes ok
    refine produced_sublist (record_events s (.forwarded bytes ok) _) ?_
    rw [hmain]
    cases ok <;> exact List.Sublist.refl _
  | flushed hmain hpop => exact produced_of_main rfl (forwardingBytes_sendingEach _) rfl rfl
  | pushRx hmain hpop hencode =>
    rename_i failed transfer queues bytes ok
    refine produced_of_main ?_ ?_ rfl rfl
    · exact (record_events { s with queues } (.pushRx transfer.frame ok) _).trans (List.append_nil _)
    · cases ok <;> rfl
  | pushRxPanics hmain hpop hencode => exact produced_of_main rfl rfl rfl rfl
  | pumpOnce hmain => exact produced_of_main rfl rfl rfl rfl
  | cleanup hmain => exact produced_of_main rfl rfl rfl rfl
  | cancelWorker hmain => exact produced_of_main rfl rfl rfl rfl
  | join hmain hworker => exact produced_of_main rfl rfl rfl rfl
  | checkCancelled hworker =>
    refine produced_of_worker rfl rfl rfl ?_
    dsimp only
    split <;> rfl
  | pollFrame hworker hout => exact absurd rfl (ha _)
  | pollPanics hworker hout => exact absurd rfl (ha _)
  | pollNone hworker => exact absurd rfl (ha _)
  | pollError hworker => exact absurd rfl (ha _)
  | blockingSend hworker halive hroom =>
    refine produced_sublist (List.append_nil _).symm ?_
    rw [hworker]
    simp [WorkerPc.held]
  | blockingSendClosed hworker hclosed => exact produced_of_worker rfl rfl rfl rfl
  | waitForTxFrame hworker => exact produced_of_worker rfl rfl rfl rfl

/-- `out` is what the worker makes of the frame that `bytes` encode. -/
def Echo (out bytes : List UInt8) : Prop :=
  ∃ f, Frame.decode bytes = .ok f ∧ (outboundNetworkFrame f).bind Frame.encode = some out

theorem pollTx_produced {popped : Option (List UInt8)}
    (h : step cfg s (.pollTx (MockDriverBackend.polled popped)) = some s') :
    ∃ out taken, s'.produced = s.produced ++ out ∧ Forall₂ Echo out taken ∧ taken <+ popped.toList := by
  have hheld : s.worker = .poll → ∀ worker : WorkerPc, { s with worker }.produced = s.produced ++ worker.held := by
    intro hworker worker
    simp [produced, hworker, WorkerPc.held, events]
  generalize hresult : MockDriverBackend.polled popped = result at h
  cases step_stepped h with
  | pollFrame hworker hout =>
    rename_i frame out
    refine ⟨[out], popped.toList, hheld hworker _, ?_, List.Sublist.refl _⟩
    cases popped with
    | none => cases hresult
    | some bytes =>
      simp only [MockDriverBackend.polled] at hresult
      split at hresult <;> cases hresult
      exact .cons ⟨frame, by assumption, hout⟩ .nil
  | pollPanics hworker hout => exact ⟨[], [], hheld hworker _, .nil, nil_sublist _⟩
  | pollNone hworker => exact ⟨[], [], hheld hworker _, .nil, nil_sublist _⟩
  | pollError hworker => exact ⟨[], [], hheld hworker _, .nil, nil_sublist _⟩

theorem step_pushed (h : step cfg s a = some s') (ha : a ≠ .pushRx true) :
    s'.events SessionEvent.pushed = s.events SessionEvent.pushed := by
  cases step_stepped h with
  | receive hmain hdecode =>
    rw [events_of_trace (handleFrame_sameWorker _ _).trace, record_events]
    exact List.append_nil _
  | send hmain hencode => exact (record_events s (.sent _ _) _).trans (List.append_nil _)
  | forward hmain => exact (record_events s (.forwarded _ _) _).trans (List.append_nil _)
  | pushRx hmain hpop hencode =>
    rename_i failed transfer queues bytes ok
    cases ok with
    | true => exact absurd rfl ha
    | false => exact (record_events { s with queues } (.pushRx transfer.frame false) _).trans (List.append_nil _)
  | _ => rfl

end

end NetworkSession

/-! ## From stage to stage -/

namespace MockSession

/-- The frame that the worker's poll has popped and not yet returned. -/
def unreturned (s : MockSession) : List (List UInt8) := if s.polling then s.tx.consumer.answer else []

structure Provenance (s : MockSession) : Prop where
  booked : ∃ queued answered, s.session.Booked queued answered
  rx : ∃ rxPopped rxHeld pos, Holds s.rxRing pos rxHeld ∧
    Forall₂ (fun bytes f => f.encode = some bytes) (rxPopped ++ rxHeld) (s.session.events SessionEvent.pushed) ∧
    s.tx.pushed ++ s.tx.producer.inFlight <+ rxPopped
  tx : ∃ start pending, RingSys.Inv start pending s.tx
  echoed : ∃ taken, SublistForall₂ NetworkSession.Echo s.session.produced taken ∧ taken ++ s.unreturned <+ s.tx.popped

section
variable {cfg : SessionConfig} {s s' : MockSession} {a : MockSessionAct}

theorem new_provenance : Provenance new where
  booked := ⟨[], [], NetworkSession.new_booked⟩
  rx := ⟨[], [], _, holds_nil rfl, .nil, List.Sublist.refl _⟩
  tx := ⟨_, [], RingSys.init_inv rfl⟩
  echoed := ⟨[], .nil, List.Sublist.refl _⟩

theorem Provenance.step_booked (h : Provenance s) {b : SessionAct} {session : NetworkSession}
    (hstep : s.session.step cfg b = some session) : ∃ queued answered, session.Booked queued answered := by
  obtain ⟨queued, answered, hbooked⟩ := h.booked
  exact NetworkSession.step_booked hbooked hstep

theorem Provenance.step_echoed (h : Provenance s) {b : SessionAct} {session : NetworkSession}
    (hstep : s.session.step cfg b = some session) (hb : ∀ result, b ≠ .pollTx result) :
    ∃ taken, SublistForall₂ NetworkSession.Echo session.produced taken ∧ taken ++ s.unreturned <+ s.tx.popped := by
  obtain ⟨taken, hechoed, htaken⟩ := h.echoed
  obtain ⟨taken', hforall, hsub⟩ := sublistForall₂_iff.mp hechoed
  obtain ⟨taken'', hsub', hforall'⟩ := forall₂_of_sublist (NetworkSession.step_produced hstep hb) hforall
  exact ⟨taken, sublistForall₂_iff.mpr ⟨taken'', hforall', hsub'.trans hsub⟩, htaken⟩

theorem Provenance.of_session (h : Provenance s) {b : SessionAct} {session : NetworkSession}
    (hstep : s.session.step cfg b = some session) (hpush : b ≠ .pushRx true) (hpoll : ∀ result, b ≠ .pollTx result)
    (pumping : Bool) : Provenance { s with session, pumping } where
  booked := h.step_booked hstep
  rx := by rw [NetworkSession.step_pushed hstep hpush]; exact h.rx
  tx := h.tx
  echoed := h.step_echoed hstep hpoll

theorem pushRx_bytes {ok : Bool} {bytes : List UInt8} {session : NetworkSession}
    (hbytes : s.flushedBytes = some bytes) (hstep : s.session.step cfg (.pushRx ok) = some session) :
    ∃ f, f.encode = some bytes ∧ session.events SessionEvent.pushed =
      s.session.events SessionEvent.pushed ++ (SessionEvent.pushRx f ok).pushed.toList := by
  unfold flushedBytes at hbytes
  cases NetworkSession.step_stepped hstep with
  | pushRx hmain hpop hencode =>
    rename_i failed transfer queues encoded
    rw [hpop] at hbytes
    exact ⟨transfer.frame, hbytes, NetworkSession.record_events { s.session with queues } _ _⟩
  | pushRxPanics hmain hpop hencode =>
    rw [hpop, Option.bind_some, hencode] at hbytes
    cases hbytes

theorem step_provenance (h : Provenance s) (hstep : step cfg s a = some s') : Provenance s' := by
  cases step_stepped hstep with
  | session ha hsession =>
    refine h.of_session hsession ?_ ?_ s.pumping
    · rintro rfl
      cases ha
    · rintro result rfl
      cases ha
  | panics hbytes hsession =>
    exact h.of_session hsession (fun hne => nomatch hne) (fun _ hne => nomatch hne) s.pumping
  | pushRxBytes hbytes hpush hsession =>
    rename_i bytes ok rxRing session
    obtain ⟨rxPopped, rxHeld, pos, hholds, hencoded, hpumped⟩ := h.rx
    obtain ⟨f, hf, hevents⟩ := pushRx_bytes hbytes hsession
    refine ⟨h.step_booked hsession, ?_, h.tx, h.step_echoed hsession fun _ hne => nomatch hne⟩
    rcases Spsc.pushFrame_cases hholds bytes with ⟨hok, -, hholds'⟩ | ⟨hfull, -⟩
    · rw [hpush] at hok hholds'
      dsimp only at hok hholds'
      subst hok
      refine ⟨rxPopped, rxHeld ++ [bytes], pos, hholds', ?_, hpumped⟩
      rw [hevents, ← List.append_assoc]
      exact rel_append hencoded (.cons hf .nil)
    · obtain ⟨rfl, rfl⟩ := Prod.mk.inj (hpush.symm.trans hfull)
      refine ⟨rxPopped, rxHeld, pos, hholds, ?_, hpumped⟩
      rw [hevents]
      exact (List.append_nil _).symm ▸ hencoded
  | pumpNothing hidle hpop hsession =>
    rename_i rxRing session
    obtain ⟨rxPopped, rxHeld, pos, hholds, hencoded, hpumped⟩ := h.rx
    obtain ⟨hbooked, hrx, htx, hechoed⟩ :=
      h.of_session hsession (fun hne => nomatch hne) (fun _ hne => nomatch hne) s.pumping
    rcases Spsc.popFrame_cases hholds pumpBufferSize with ⟨f, rest, -, -, hsome, -⟩ | ⟨hnone, -⟩
    · rw [hpop] at hsome
      cases hsome
    · obtain ⟨-, rfl⟩ := Prod.mk.inj (hpop.symm.trans hnone)
      exact ⟨hbooked, hrx, htx, hechoed⟩
  | pumpOnce hmain hidle hpop hpushCall =>
    rename_i failed frame rxRing tx
    obtain ⟨rxPopped, rxHeld, pos, hholds, hencoded, hpumped⟩ := h.rx
    obtain ⟨start, pending, hinv⟩ := h.tx
    obtain ⟨hidle, hpushed, hconsumer, hpopped⟩ := RingSys.pushCall_books hpushCall
    rcases Spsc.popFrame_cases hholds pumpBufferSize with ⟨f, rest, rfl, -, hsome, hholds'⟩ | ⟨hnone, -⟩
    · rw [hpop] at hsome hholds'
      obtain rfl := Option.some.inj hsome
      refine ⟨h.booked, ⟨rxPopped ++ [frame], rest, _, hholds', ?_, ?_⟩, ⟨start, RingSys.step_inv hinv hpushCall⟩, ?_⟩
      · rwa [List.append_assoc]
      · rw [hidle, List.append_nil] at hpumped
        exact hpushed.trans (hpumped.append_right _)
      · simpa only [unreturned, hconsumer, hpopped] using h.echoed
    · rw [hpop] at hnone
      cases hnone
  | pumpStep hpumping hpushStep =>
    obtain ⟨rxPopped, rxHeld, pos, hholds, hencoded, hpumped⟩ := h.rx
    obtain ⟨start, pending, hinv⟩ := h.tx
    obtain ⟨hpushed, hconsumer, hpopped⟩ := RingSys.pushStep_books hpushStep
    refine ⟨h.booked, ⟨rxPopped, rxHeld, pos, hholds, hencoded, hpushed.trans hpumped⟩,
      ⟨start, RingSys.step_inv hinv hpushStep⟩, ?_⟩
    simpa only [unreturned, hconsumer, hpopped] using h.echoed
  | pumpReturn hpumping hproducer hsession =>
    exact h.of_session hsession (fun hne => nomatch hne) (fun _ hne => nomatch hne) false
  | pollTxFrame hworker hidle hpopCall =>
    obtain ⟨start, pending, hinv⟩ := h.tx
    obtain ⟨hanswer, hpopped, hproducer, hpushed⟩ := RingSys.popCall_books hpopCall
    obtain ⟨taken, hechoed, htaken⟩ := h.echoed
    refine ⟨h.booked, ?_, ⟨start, RingSys.step_inv hinv hpopCall⟩, taken, hechoed, ?_⟩
    · simpa only [hproducer, hpushed] using h.rx
    · rw [unreturned, hidle] at htaken
      simpa [unreturned, hanswer, hpopped] using htaken
  | pollStep hpolling hpopStep =>
    obtain ⟨start, pending, hinv⟩ := h.tx
    obtain ⟨hbefore, hpopped, hproducer, hpushed⟩ := RingSys.popStep_books hpopStep
    obtain ⟨taken, hechoed, htaken⟩ := h.echoed
    refine ⟨h.booked, ?_, ⟨start, RingSys.step_inv hinv hpopStep⟩, taken, hechoed, ?_⟩
    · simpa only [hproducer, hpushed] using h.rx
    · rw [unreturned, hpolling, if_pos rfl, hbefore, List.append_nil] at htaken
      simp only [unreturned, hpolling, if_true]
      rw [hpopped]
      exact htaken.append_right _
  | pollReturn hpolling hconsumer hsession =>
    rename_i popped session
    obtain ⟨taken, hechoed, htaken⟩ := h.echoed
    obtain ⟨out, taken', hproduced, hout, hsub⟩ := NetworkSession.pollTx_produced hsession
    refine ⟨h.step_booked hsession, ?_, h.tx, taken ++ taken', ?_, ?_⟩
    · rw [NetworkSession.step_pushed hsession fun hne => nomatch hne]
      exact h.rx
    · rw [hproduced]
      exact sublistForall₂_append hechoed hout
    · have hanswer : s.unreturned = popped.toList := by
        rw [unreturned, hpolling, if_pos rfl, hconsumer]
        cases popped <;> rfl
      rw [hanswer] at htaken
      simp only [unreturned, Bool.false_eq_true, if_false, List.append_nil]
      exact (hsub.append_left _).trans htaken

end

end MockSession

/-! ## The Responses of a run -/

/-- The Response the driver's path makes of a Request. -/
structure IsEcho (request response : Frame) : Prop where
  frameType : response.frameType = .response
  requestId : response.requestId = request.requestId
  transferType : response.transferType = request.transferType
  endpoint : response.endpoint = request.endpoint
  status : response.status = 0
  payload : (∃ bulk, MockBulkPayload.decode request.payload = .ok bulk ∧ bulk.encode = some response.payload) ∨
    ((∃ e, MockBulkPayload.decode request.payload = .error e) ∧ response.payload = mockResponseText)

theorem outboundNetworkFrame_echo {request response : Frame} (hrequest : request.frameType = .request)
    (h : outboundNetworkFrame request = some response) : IsEcho request response := by
  rw [outboundNetworkFrame, if_pos hrequest] at h
  cases hdecode : MockBulkPayload.decode request.payload with
  | error e =>
    rw [hdecode] at h
    obtain rfl := Option.some.inj h
    exact ⟨rfl, rfl, rfl, rfl, rfl, Or.inr ⟨⟨e, hdecode⟩, rfl⟩⟩
  | ok bulk =>
    rw [hdecode] at h
    obtain ⟨payload, hpayload, rfl⟩ := Option.map_eq_some_iff.mp h
    exact ⟨rfl, rfl, rfl, rfl, rfl, Or.inl ⟨bulk, hdecode, hpayload⟩⟩

/-- A Response with the id `r`, as the bytes the client receives. -/
def isResponseBytes (r : UInt64) (bytes : List UInt8) : Bool :=
  match Frame.decode bytes with
  | .ok f => f.frameType == .response && f.requestId == r
  | .error _ => false

namespace SessionEvent

def isResponse (r : UInt64) : SessionEvent → Bool
  | sent f _ => f.frameType == .response && f.requestId == r
  | forwarded bytes _ => isResponseBytes r bytes
  | _ => false

def isRequest (r : UInt64) : SessionEvent → Bool
  | received f => f.frameType == .request && f.requestId == r
  | _ => false

end SessionEvent

namespace NetworkSession

section
variable {s : NetworkSession}

theorem countP_filterMap_cons {α β : Type} (book : α → Option β) (p : β → Bool) (a : α) (l : List α) :
    ((a :: l).filterMap book).countP p = (book a).toList.countP p + (l.filterMap book).countP p := by
  rw [List.filterMap_cons]
  cases book a with
  | none => simp
  | some b => simp [List.countP_cons, Nat.add_comm]

theorem countP_isRequest (r : UInt64) : ∀ trace : List (SessionState × SessionEvent),
    trace.countP (fun e => e.2.isRequest r) =
      (trace.filterMap fun e => e.2.request).countP fun f => f.requestId == r
  | [] => rfl
  | (_, event) :: trace => by
    rw [List.countP_cons, countP_filterMap_cons, countP_isRequest r trace, Nat.add_comm]
    congr 1
    cases event with
    | received f =>
      by_cases hf : f.frameType = .request <;> simp [SessionEvent.isRequest, SessionEvent.request, hf, List.countP_cons]
    | _ => rfl

theorem countP_isResponse (r : UInt64) : ∀ trace : List (SessionState × SessionEvent),
    trace.countP (fun e => e.2.isResponse r) =
      (trace.filterMap fun e => e.2.direct).countP (fun f => f.requestId == r) +
        (trace.filterMap fun e => e.2.forwardedBytes).countP (isResponseBytes r)
  | [] => rfl
  | (_, event) :: trace => by
    have hevent : (if event.isResponse r then 1 else 0) =
        event.direct.toList.countP (fun f => f.requestId == r) +
          event.forwardedBytes.toList.countP (isResponseBytes r) := by
      cases event with
      | sent f ok =>
        by_cases hf : f.frameType = .response <;>
          simp [SessionEvent.isResponse, SessionEvent.direct, SessionEvent.forwardedBytes, hf, List.countP_cons]
      | forwarded bytes ok =>
        cases hbytes : isResponseBytes r bytes <;>
          simp [SessionEvent.isResponse, SessionEvent.direct, SessionEvent.forwardedBytes, hbytes]
      | _ => rfl
    rw [List.countP_cons, countP_filterMap_cons, countP_filterMap_cons, countP_isResponse r trace, hevent]
    dsimp only
    omega

theorem countP_forall₂ {α β : Type} {R : α → β → Prop} {p : α → Bool} {q : β → Bool}
    (hR : ∀ a b, R a b → p a = q b) {l : List α} {m : List β} (h : Forall₂ R l m) : l.countP p = m.countP q := by
  induction h with
  | nil => rfl
  | cons hab _ ih => rw [List.countP_cons, List.countP_cons, ih, hR _ _ hab]

end

end NetworkSession

namespace MockSession

def EchoesRequest (bytes : List UInt8) (request : Frame) : Prop :=
  ∃ response, Frame.decode bytes = .ok response ∧ IsEcho request response

section
variable {s : MockSession}

theorem pushed_request {queued answered : List Frame} (h : s.session.Booked queued answered) :
    ∀ f ∈ s.session.events SessionEvent.pushed, f.frameType = .request := by
  intro f hf
  have hreceived := h.once.subset (List.mem_append_right _ (List.mem_append_left _ hf))
  obtain ⟨e, -, he⟩ := List.mem_filterMap.mp hreceived
  cases hevent : e.2 with
  | received g =>
    rw [hevent, SessionEvent.request] at he
    split at he <;> cases he
    assumption
  | _ =>
    rw [hevent] at he
    cases he

theorem Provenance.echoes (h : Provenance s) :
    SublistForall₂ EchoesRequest s.session.produced (s.session.events SessionEvent.pushed) := by
  obtain ⟨queued, answered, hbooked⟩ := h.booked
  obtain ⟨rxPopped, rxHeld, pos, -, hencoded, hpumped⟩ := h.rx
  obtain ⟨start, pending, hinv⟩ := h.tx
  obtain ⟨taken, hechoed, htaken⟩ := h.echoed
  have hstages : taken <+ rxPopped ++ rxHeld :=
    calc taken
      _ <+ taken ++ s.unreturned := sublist_append_left _ _
      _ <+ s.tx.popped := htaken
      _ <+ s.tx.pushed := hinv.fifo ▸ sublist_append_left _ _
      _ <+ s.tx.pushed ++ s.tx.producer.inFlight := sublist_append_left _ _
      _ <+ rxPopped := hpumped
      _ <+ rxPopped ++ rxHeld := sublist_append_left _ _
  have hmatched := sublistForall₂_comp (sublistForall₂_of_sublist hechoed hstages) hencoded
  obtain ⟨requests, hrequests, hsub⟩ := sublistForall₂_iff.mp hmatched
  refine sublistForall₂_iff.mpr ⟨requests, ?_, hsub⟩
  refine (List.forall₂_iff_zip.mpr ⟨hrequests.length_eq, fun {out f} hmem => ?_⟩)
  obtain ⟨bytes, ⟨f', hf', hout⟩, hf⟩ := (List.forall₂_iff_zip.mp hrequests).2 hmem
  rw [Frame.decode_of_encode hf] at hf'
  obtain rfl := Except.ok.inj hf'
  obtain ⟨response, hresponse, hencode⟩ := Option.bind_eq_some_iff.mp hout
  have hrequest := pushed_request hbooked f (hsub.subset (List.of_mem_zip hmem).2)
  exact ⟨response, Frame.decode_of_encode hencode, outboundNetworkFrame_echo hrequest hresponse⟩

theorem Provenance.answered (h : Provenance s) :
    ∃ answered, Forall₂ IsResponseTo (s.session.events SessionEvent.direct) answered ∧
      (answered ++ s.session.events SessionEvent.pushed) <+~ s.session.events SessionEvent.request := by
  obtain ⟨queued, answered, hbooked⟩ := h.booked
  obtain ⟨answered', hsub, hanswers⟩ := forall₂_of_sublist (sublist_append_left _ _) hbooked.answers
  exact ⟨answered', hanswers, (hsub.append (sublist_append_left _ _)).subperm.trans hbooked.once⟩

theorem Provenance.countP_le (h : Provenance s) (r : UInt64) :
    s.session.trace.countP (fun e => e.2.isResponse r) ≤ s.session.trace.countP fun e => e.2.isRequest r := by
  obtain ⟨answered, hanswers, honce⟩ := h.answered
  obtain ⟨requests, hrequests, hsub⟩ := sublistForall₂_iff.mp h.echoes
  have hdirect : (s.session.events SessionEvent.direct).countP (fun f => f.requestId == r) =
      answered.countP fun f => f.requestId == r :=
    NetworkSession.countP_forall₂ (fun response request hanswer => by rw [hanswer.2]) hanswers
  have hproduced : s.session.produced.countP (isResponseBytes r) = requests.countP fun f => f.requestId == r := by
    refine NetworkSession.countP_forall₂ (fun bytes request hecho => ?_) hrequests
    obtain ⟨response, hdecode, hecho⟩ := hecho
    rw [isResponseBytes, hdecode]
    simp [hecho.frameType, hecho.requestId]
  have hforwarded : (s.session.events SessionEvent.forwardedBytes).countP (isResponseBytes r) ≤
      s.session.produced.countP (isResponseBytes r) := (sublist_append_left _ _).countP_le
  have hpushed : requests.countP (fun f => f.requestId == r) ≤
      (s.session.events SessionEvent.pushed).countP fun f => f.requestId == r := hsub.countP_le
  have hreceived := honce.countP_le fun f => f.requestId == r
  rw [List.countP_append] at hreceived
  rw [NetworkSession.countP_isResponse, NetworkSession.countP_isRequest]
  simp only [NetworkSession.events] at hdirect hforwarded hpushed hreceived
  omega

end

/-- In every run: what comes through the driver's path are, in order and each once at most, the echoes of Requests the
flush pushed; a Request answered directly is none of these; and of each id there are at most as many Responses as
Requests. -/
theorem driverPath_provenance (cfg : SessionConfig) (acts : List MockSessionAct) (s : MockSession)
    (h : run (step cfg) new acts = some s) :
    SublistForall₂ EchoesRequest s.session.produced (s.session.events SessionEvent.pushed) ∧
      (∃ answered, Forall₂ IsResponseTo (s.session.events SessionEvent.direct) answered ∧
        (answered ++ s.session.events SessionEvent.pushed) <+~ s.session.events SessionEvent.request) ∧
      ∀ r, s.session.trace.countP (fun e => e.2.isResponse r) ≤ s.session.trace.countP fun e => e.2.isRequest r := by
  have hinv : Provenance s := run_invariant (fun _ _ _ hs hstep => step_provenance hs hstep) new_provenance h
  exact ⟨hinv.echoes, hinv.answered, hinv.countP_le⟩

def receiveFrame (f : Frame) : MockSessionAct := .session (.receive (f.encode.getD []) true)

/-- The client attaches and sends a Request, which is pushed and pumped. -/
def pumpedRun : List MockSessionAct :=
  [receiveFrame (.attachRequest 1), .session (.send true), receiveFrame (.mockRequest 7 []), .pushRxBytes, .pumpOnce] ++
    List.replicate 36 .pumpStep ++ [.pumpReturn, .session .flushed]

/-- The worker takes it from the driver and the main loop sends what became of it. -/
def echoedRun : List MockSessionAct :=
  pumpedRun ++ [.session .checkCancelled, .pollTxFrame] ++ List.replicate 36 .pollStep ++
    [.pollReturn, .session .blockingSend, .session .receiveTx, .session (.send true)]

theorem driverPath_provenance_echoed : ∃ s, run (step ⟨none, [4], []⟩) new echoedRun = some s ∧
    (s.session.events SessionEvent.forwardedBytes).length = 1 ∧
    SublistForall₂ EchoesRequest s.session.produced (s.session.events SessionEvent.pushed) ∧
    s.session.trace.countP (fun e => e.2.isResponse 7) ≤ s.session.trace.countP fun e => e.2.isRequest 7 := by
  have hrun : (run (step ⟨none, [4], []⟩) new echoedRun).map
      (fun s => (s.session.events SessionEvent.forwardedBytes).length) = some 1 := by
    decide +kernel
  obtain ⟨s, hs, hlength⟩ := Option.map_eq_some_iff.mp hrun
  obtain ⟨hechoes, -, hcount⟩ := driverPath_provenance ⟨none, [4], []⟩ echoedRun s hs
  exact ⟨s, hs, hlength, hechoes, hcount 7⟩

end MockSession

end WhyUsb
