import WhyUsb.Session.UsbIpAnswers

/-!
# The USB/IP session on any stream

Whatever the bytes are, the session is a server of packets: the stream is cut
into packets as long as there is one at its front, and each packet is answered
as the handler says, in order, until a write fails. No packet is dropped.
-/

namespace WhyUsb

open Endian

/-! ## Cutting the stream -/

theorem Stream.readExact_split {s s' : Stream} {n : Nat} {bytes : List UInt8} (h : s.readExact n = (.ok bytes, s')) :
    s.bytes = bytes ++ s'.bytes ∧ s'.ending = s.ending := by
  unfold readExact at h
  by_cases hlen : n ≤ s.bytes.length
  · rw [if_pos hlen] at h
    cases h
    exact ⟨(List.take_append_drop n s.bytes).symm, rfl⟩
  · rw [if_neg hlen] at h
    cases h

theorem readUsbipPacket_split {s s' : Stream} {packet : List UInt8}
    (h : readUsbipPacket s = (.ok (some packet), s')) : s.bytes = packet ++ s'.bytes ∧ s'.ending = s.ending := by
  unfold readUsbipPacket at h
  cases hheader : s.readExact usbIpHeaderLen with
  | mk result s₁ =>
    rw [hheader] at h
    cases result with
    | error e => cases e <;> cases h
    | ok header =>
      obtain ⟨hbytes, hending⟩ := Stream.readExact_split hheader
      dsimp only at h
      cases hbasic : UsbIpHeaderBasic.decode (slice header 0 UsbIpHeaderBasic.len) with
      | error e =>
        rw [hbasic] at h
        cases h
      | ok basic =>
        rw [hbasic] at h
        dsimp only at h
        by_cases hpayload : packetPayloadLen basic header > 0
        · rw [if_pos hpayload] at h
          cases hread : s₁.readExact (packetPayloadLen basic header) with
          | mk result s₂ =>
            rw [hread] at h
            cases result with
            | error e => cases h
            | ok payload =>
              obtain ⟨hbytes', hending'⟩ := Stream.readExact_split hread
              cases h
              rw [hbytes, hbytes', List.append_assoc]
              exact ⟨rfl, hending'.trans hending⟩
        · rw [if_neg hpayload] at h
          cases h
          exact ⟨hbytes, hending⟩

def Stream.Exhausted (s : Stream) : Prop := ∀ packet s', readUsbipPacket s ≠ (.ok (some packet), s')

/-! ## A server of packets -/

/-- What the session does with a packet. -/
inductive Reacts (descriptors : UsbDescriptorSet) (keycodes : List UInt8) (st : SubmitState) (packet : List UInt8) :
    UsbIpEvent → SubmitState → Prop where
  | submit {submit out} (hpacket : UsbIpCmdSubmit.decode packet = .ok submit)
      (hout : (handleSubmit submit descriptors keycodes st).1.encode = .ok out) :
      Reacts descriptors keycodes st packet (.wrote out) (handleSubmit submit descriptors keycodes st).2
  | unlink {unlink} (hpacket : UsbIpCmdUnlink.decode packet = .ok unlink) :
      Reacts descriptors keycodes st packet (.wrote (UsbIpRetUnlink.new unlink.header.seqnum 0).encode) st
  | unexpected {header} (hheader : UsbIpHeaderBasic.decode (slice packet 0 UsbIpHeaderBasic.len) = .ok header)
      (hcommand : header.command = .retSubmit ∨ header.command = .retUnlink) :
      Reacts descriptors keycodes st packet (.unexpectedCommand header.command) st

inductive Exchanges (descriptors : UsbDescriptorSet) (keycodes : List UInt8) :
    SubmitState → List (List UInt8 × UsbIpEvent) → SubmitState → Prop where
  | nil {st} : Exchanges descriptors keycodes st [] st
  | cons {st st' st'' packet event exchanges} (hreacts : Reacts descriptors keycodes st packet event st')
      (hrest : Exchanges descriptors keycodes st' exchanges st'') :
      Exchanges descriptors keycodes st ((packet, event) :: exchanges) st''

def UsbIpEvent.isWrote : UsbIpEvent → Bool
  | wrote _ => true
  | _ => false

def written (exchanges : List (List UInt8 × UsbIpEvent)) : Nat := exchanges.countP fun x => x.2.isWrote

theorem written_cons (packet : List UInt8) (event : UsbIpEvent) (exchanges : List (List UInt8 × UsbIpEvent)) :
    written ((packet, event) :: exchanges) = event.isWrote.toNat + written exchanges := by
  unfold written
  rw [List.countP_cons, Nat.add_comm]
  cases event.isWrote with
  | true => rfl
  | false => rfl

def HostPacket.DecodedFrom (packet : List UInt8) : HostPacket → Prop
  | .submit cmd => UsbIpCmdSubmit.decode packet = .ok cmd
  | .unlink cmd => UsbIpCmdUnlink.decode packet = .ok cmd

theorem Reacts.replies {descriptors : UsbDescriptorSet} {keycodes : List UInt8} {st st' : SubmitState}
    {packet out : List UInt8} (h : Reacts descriptors keycodes st packet (.wrote out) st') :
    ∃ (p : HostPacket) (reply : Reply), p.DecodedFrom packet ∧ Answers p reply ∧
      Framing.Frames nextReply reply out := by
  cases h with
  | @submit submit _ hpacket hout =>
    exact ⟨.submit submit, _, hpacket, .submit (handleSubmit_seqnum submit descriptors keycodes st),
      nextReply_retSubmit hout⟩
  | @unlink unlink hpacket =>
    exact ⟨.unlink unlink, .retUnlink (.new unlink.header.seqnum 0), hpacket, .unlink rfl, nextReply_retUnlink rfl⟩

def Replies (packet : List UInt8) (event : UsbIpEvent) : Prop :=
  ∀ out, event = .wrote out →
    ∃ (p : HostPacket) (reply : Reply), p.DecodedFrom packet ∧ Answers p reply ∧ Framing.Frames nextReply reply out

theorem Exchanges.replies {descriptors : UsbDescriptorSet} {keycodes : List UInt8} {st st' : SubmitState}
    {exchanges : List (List UInt8 × UsbIpEvent)} (h : Exchanges descriptors keycodes st exchanges st') :
    ∀ x ∈ exchanges, Replies x.1 x.2 := by
  induction h with
  | nil => exact fun _ hx => nomatch hx
  | cons hreacts _ ih =>
    intro x hx
    rw [List.mem_cons] at hx
    obtain rfl | hx := hx
    · rintro out rfl
      exact hreacts.replies
    · exact ih x hx

/-! ## The loop -/

namespace UsbIpLoop

section
variable {env : UsbIpEnv} {descriptors : UsbDescriptorSet} {keycodes : List UInt8}

theorem handlePacket_reacts {packet : List UInt8} {header : UsbIpHeaderBasic} {s : UsbIpLoop} (hwf : s.submit.Wf)
    (hheader : UsbIpHeaderBasic.decode (slice packet 0 UsbIpHeaderBasic.len) = .ok header)
    (hsubmit : header.command = .cmdSubmit → ∃ submit, UsbIpCmdSubmit.decode packet = .ok submit)
    (hunlink : header.command = .cmdUnlink → ∃ unlink, UsbIpCmdUnlink.decode packet = .ok unlink) :
    ∃ event st, Reacts descriptors keycodes s.submit packet event st ∧
      ((event.isWrote = true → env.writeOk s.writes = true) ∧
          handlePacket env descriptors keycodes packet s = (none,
            { s with
              submit := st
              writes := s.writes + event.isWrote.toNat
              trace := s.trace ++ [event] }) ∨
        (event.isWrote = true ∧ env.writeOk s.writes = false) ∧ ∃ s',
          handlePacket env descriptors keycodes packet s = (some .writeFailed, s') ∧ s'.trace = s.trace) := by
  have hwrite : ∀ out (s₁ : UsbIpLoop), s₁.writes = s.writes → s₁.trace = s.trace →
      env.writeOk s.writes = true ∧ writeAll env out s₁ = (none,
          { s₁ with writes := s.writes + 1, trace := s.trace ++ [.wrote out] }) ∨
        env.writeOk s.writes = false ∧ ∃ s', writeAll env out s₁ = (some .writeFailed, s') ∧ s'.trace = s.trace := by
    intro out s₁ hwrites htrace
    unfold writeAll
    rw [hwrites, htrace]
    cases hok : env.writeOk s.writes with
    | true => exact Or.inl ⟨rfl, rfl⟩
    | false => exact Or.inr ⟨rfl, _, rfl, rfl⟩
  cases hcommand : header.command with
  | cmdSubmit =>
    obtain ⟨submit, hdecode⟩ := hsubmit hcommand
    obtain ⟨out, hout⟩ := handleSubmit_encode submit descriptors keycodes hwf
    refine ⟨.wrote out, _, .submit hdecode hout, ?_⟩
    rw [handlePacket_submit hheader hcommand hdecode hout]
    obtain ⟨hok, hwrote⟩ | ⟨hfailed, hwrote⟩ := hwrite out
      { s with submit := (handleSubmit submit descriptors keycodes s.submit).2 } rfl rfl
    · exact Or.inl ⟨fun _ => hok, hwrote⟩
    · exact Or.inr ⟨⟨rfl, hfailed⟩, hwrote⟩
  | cmdUnlink =>
    obtain ⟨unlink, hdecode⟩ := hunlink hcommand
    refine ⟨_, _, .unlink hdecode, ?_⟩
    rw [handlePacket_unlink hheader hcommand hdecode]
    obtain ⟨hok, hwrote⟩ | ⟨hfailed, hwrote⟩ := hwrite (UsbIpRetUnlink.new unlink.header.seqnum 0).encode s rfl rfl
    · exact Or.inl ⟨fun _ => hok, hwrote⟩
    · exact Or.inr ⟨⟨rfl, hfailed⟩, hwrote⟩
  | retSubmit =>
    refine ⟨_, _, .unexpected hheader (Or.inl hcommand), Or.inl ⟨nofun, ?_⟩⟩
    simp only [handlePacket, hheader, hcommand]
    rfl
  | retUnlink =>
    refine ⟨_, _, .unexpected hheader (Or.inr hcommand), Or.inl ⟨nofun, ?_⟩⟩
    simp only [handlePacket, hheader, hcommand]
    rfl

theorem iteration_reacts {s : UsbIpLoop} (hwf : s.submit.Wf) :
    (s.stream.Exhausted ∧ ∃ exit s', iteration env descriptors keycodes s = (some exit, s') ∧
        (∀ e, exit ≠ .encodeFailed e) ∧ s'.trace = s.trace) ∨
      ∃ packet event st stream, Reacts descriptors keycodes s.submit packet event st ∧ packet ≠ [] ∧
        s.stream.bytes = packet ++ stream.bytes ∧ stream.ending = s.stream.ending ∧
        ((event.isWrote = true → env.writeOk s.writes = true) ∧
            iteration env descriptors keycodes s = (none,
              { stream := stream
                submit := st
                writes := s.writes + event.isWrote.toNat
                trace := s.trace ++ [.received packet] ++ [event] }) ∨
          (event.isWrote = true ∧ env.writeOk s.writes = false) ∧ ∃ s',
            iteration env descriptors keycodes s = (some .writeFailed, s') ∧
              s'.trace = s.trace ++ [.received packet]) := by
  unfold iteration
  rcases hread : readUsbipPacket s.stream with ⟨e | _ | packet, stream⟩
  · refine Or.inl ⟨fun packet s' h => ?_, _, _, rfl, nofun, rfl⟩
    cases hread.symm.trans h
  · refine Or.inl ⟨fun packet s' h => ?_, _, _, rfl, nofun, rfl⟩
    cases hread.symm.trans h
  · obtain ⟨-, _, -, hlen⟩ := readUsbipPacket_ok hread
    obtain ⟨hbytes, hending⟩ := readUsbipPacket_split hread
    obtain ⟨header, hheader, hsubmit, hunlink⟩ := readUsbipPacket_decodes hread
    have hnonempty : packet ≠ [] := by
      rintro rfl
      rw [List.length_nil, usbIpHeaderLen] at hlen
      omega
    obtain ⟨event, st, hreacts, hreaction⟩ := @handlePacket_reacts env descriptors keycodes packet header
      ({ s with stream }.log (.received packet)) hwf hheader hsubmit hunlink
    exact Or.inr ⟨packet, event, st, stream, hreacts, hnonempty, hbytes, hending, hreaction⟩

theorem Reacts.wf {st st' : SubmitState} {packet : List UInt8} {event : UsbIpEvent}
    (h : Reacts descriptors keycodes st packet event st') (hwf : st.Wf) : st'.Wf := by
  cases h with
  | @submit submit => exact handleSubmit_wf submit descriptors keycodes hwf
  | unlink => exact hwf
  | unexpected => exact hwf

/-- The whole loop, as exchanges and at most one packet whose answer could not be written. -/
theorem loop_exchanges : ∀ (n : Nat) (s : UsbIpLoop), s.submit.Wf → s.stream.bytes.length < n →
    ∃ exit s' exchanges st lost rest, s.loop env descriptors keycodes n = some (exit, s') ∧
      (∀ e, exit ≠ .encodeFailed e) ∧ Exchanges descriptors keycodes s.submit exchanges st ∧
      s'.trace = s.trace ++ exchanges.flatMap (fun x => [.received x.1, x.2]) ++ lost.map .received ∧
      s.stream.bytes = (exchanges.map (·.1) ++ lost).flatten ++ rest ∧
      (∀ m < written exchanges, env.writeOk (s.writes + m) = true) ∧
      (lost = [] ∧ Stream.Exhausted ⟨rest, s.stream.ending⟩ ∨
        ∃ packet event st', lost = [packet] ∧ Reacts descriptors keycodes st packet event st' ∧ event.isWrote = true ∧
          env.writeOk (s.writes + written exchanges) = false) := by
  intro n
  induction n with
  | zero => exact fun s _ hn => absurd hn (Nat.not_lt_zero _)
  | succ n ih =>
    intro s hwf hn
    rw [loop]
    obtain ⟨hexhausted, exit, s', hiter, hexit, htrace⟩ |
        ⟨packet, event, st, stream, hreacts, hnonempty, hbytes, hending, hreaction⟩ :=
      @iteration_reacts env descriptors keycodes s hwf
    · rw [hiter]
      refine ⟨exit, s', [], s.submit, [], s.stream.bytes, rfl, hexit, .nil, ?_, rfl,
        fun m hm => absurd hm (Nat.not_lt_zero m), Or.inl ⟨rfl, hexhausted⟩⟩
      simpa using htrace
    · obtain ⟨hwrote, hiter⟩ | ⟨⟨hwrote, hfailed⟩, s', hiter, htrace⟩ := hreaction
      · rw [hiter]
        have hlen : stream.bytes.length < n := by
          have hpositive := List.length_pos_iff.mpr hnonempty
          rw [hbytes, List.length_append] at hn
          omega
        obtain ⟨exit, s', exchanges, st', lost, rest, hloop, hexit, hexchanges, htrace, hrest, hwrites, hlost⟩ :=
          ih
            { stream := stream
              submit := st
              writes := s.writes + event.isWrote.toNat
              trace := s.trace ++ [.received packet] ++ [event] }
            (Reacts.wf hreacts hwf) hlen
        refine ⟨exit, s', (packet, event) :: exchanges, st', lost, rest, hloop, hexit, .cons hreacts hexchanges, ?_, ?_,
          ?_, ?_⟩
        · rw [htrace]
          simp
        · rw [hbytes, hrest]
          simp
        · intro m hm
          rw [written_cons] at hm
          by_cases hfirst : m < event.isWrote.toNat
          · have htrue : event.isWrote = true ∧ m = 0 := by
              cases hevent : event.isWrote with
              | true => exact ⟨rfl, by rw [hevent] at hfirst; exact Nat.lt_one_iff.mp hfirst⟩
              | false =>
                rw [hevent] at hfirst
                exact absurd hfirst (Nat.not_lt_zero _)
            rw [htrue.2]
            exact hwrote htrue.1
          · have hlater := hwrites (m - event.isWrote.toNat) (by omega)
            rwa [Nat.add_assoc, Nat.add_sub_cancel' (Nat.not_lt.mp hfirst)] at hlater
        · rw [written_cons, ← Nat.add_assoc, ← hending]
          exact hlost
      · rw [hiter]
        refine ⟨.writeFailed, s', [], s.submit, [packet], stream.bytes, rfl, ?_, .nil, ?_, ?_,
          fun m hm => absurd hm (Nat.not_lt_zero m), Or.inr ⟨packet, event, st, rfl, hreacts, hwrote, hfailed⟩⟩
        · intro e he
          cases he
        · rw [htrace]
          simp
        · rw [hbytes]
          simp

end

end UsbIpLoop

/-! ## Whole sessions -/

/-- On any stream: the session cuts it into packets as long as there is one at its front and reacts to each of them in
order, with the state of the ones before, until a write fails; the bytes it reads are those packets, and it never drops
one. What it writes is a reply to the packet. -/
theorem runSingleUsbipClient_exchanges {env : UsbIpEnv} {attachDevice : Option DeviceAttachRequest}
    (keycodes : List UInt8) (stream : Stream) (hnodelay : env.setNodelay = true)
    (hattach : (attachSession env.attachOk attachDevice .new).1 = 0) :
    ∃ run exchanges st lost rest, runSingleUsbipClient env attachDevice keycodes stream = some run ∧ run.result = .ok ∧
      Exchanges (descriptorSetForAttach attachDevice) keycodes .new exchanges st ∧
      (∀ x ∈ exchanges, Replies x.1 x.2) ∧
      run.trace = exchanges.flatMap (fun x => [.received x.1, x.2]) ++ lost.map .received ∧
      stream.bytes = (exchanges.map (·.1) ++ lost).flatten ++ rest ∧
      (∀ m < written exchanges, env.writeOk m = true) ∧
      (lost = [] ∧ Stream.Exhausted ⟨rest, stream.ending⟩ ∨
        ∃ packet event st', lost = [packet] ∧ Reacts (descriptorSetForAttach attachDevice) keycodes st packet event st' ∧
          event.isWrote = true ∧ env.writeOk (written exchanges) = false) := by
  obtain ⟨exit, s', exchanges, st, lost, rest, hloop, hexit, hexchanges, htrace, hbytes, hwrites, hlost⟩ :=
    @UsbIpLoop.loop_exchanges env (descriptorSetForAttach attachDevice) keycodes (stream.bytes.length + 1)
      { stream, submit := .new, writes := 0, trace := [] } SubmitState.new_wf (Nat.lt_succ_self _)
  have hreplies := hexchanges.replies
  rw [List.nil_append] at htrace
  simp only [Nat.zero_add] at hwrites hlost
  unfold runSingleUsbipClient
  rw [if_neg (by rw [hnodelay]; decide), if_neg (by simpa using hattach)]
  dsimp only
  rw [hloop]
  cases exit with
  | encodeFailed e => exact absurd rfl (hexit e)
  | disconnected => exact ⟨_, exchanges, st, lost, rest, rfl, rfl, hexchanges, hreplies, htrace, hbytes, hwrites, hlost⟩
  | readFailed e => exact ⟨_, exchanges, st, lost, rest, rfl, rfl, hexchanges, hreplies, htrace, hbytes, hwrites, hlost⟩
  | writeFailed => exact ⟨_, exchanges, st, lost, rest, rfl, rfl, hexchanges, hreplies, htrace, hbytes, hwrites, hlost⟩

/-- A submit with one byte for endpoint 2, which the keyboard does not have. -/
def stalledSubmit : List UInt8 :=
  [0, 0, 0, 1, 0, 0, 0, 7, 0, 0, 0, 0, 0, 0, 0, 0, 0, 0, 0, 2, 0, 0, 0, 0, 0, 0, 0, 1] ++ List.replicate 20 0 ++ [9]

def lateUnlink : List UInt8 :=
  [0, 0, 0, 2, 0, 0, 0, 8] ++ List.replicate 12 0 ++ [0, 0, 0, 7] ++ List.replicate 24 0

def stalledAnswer : List UInt8 :=
  [0, 0, 0, 3, 0, 0, 0, 7] ++ List.replicate 12 0 ++ [255, 255, 255, 252] ++ List.replicate 8 0 ++
    [255, 255, 255, 255] ++ List.replicate 12 0

theorem one_exchange {exchanges : List (List UInt8 × UsbIpEvent)} {lost : List (List UInt8)}
    {packet answer last : List UInt8}
    (h : exchanges.flatMap (fun x => [.received x.1, x.2]) ++ lost.map .received =
      [.received packet, .wrote answer, .received last]) :
    exchanges = [(packet, .wrote answer)] ∧ lost = [last] := by
  cases exchanges with
  | nil =>
    rw [List.flatMap_nil, List.nil_append, List.map_eq_cons_iff] at h
    obtain ⟨_, _, -, -, hrest⟩ := h
    obtain ⟨_, _, -, hwrote, -⟩ := List.map_eq_cons_iff.mp hrest
    cases hwrote
  | cons first exchanges =>
    rw [List.flatMap_cons, List.append_assoc] at h
    obtain ⟨hpacket, h⟩ := List.cons.inj h
    obtain ⟨hevent, h⟩ := List.cons.inj h
    cases exchanges with
    | nil =>
      obtain ⟨_, _, rfl, hlast, hnil⟩ := List.map_eq_cons_iff.mp h
      rw [List.map_eq_nil_iff.mp hnil, UsbIpEvent.received.inj hlast, ← UsbIpEvent.received.inj hpacket, ← hevent]
      exact ⟨rfl, rfl⟩
    | cons second exchanges =>
      have hlen := congrArg List.length h
      simp at hlen

/-- The submit is answered, the answer to the unlink cannot be written, and the bytes behind it are not read. -/
theorem runSingleUsbipClient_exchanges_lost :
    ∃ run st event st', runSingleUsbipClient ⟨true, true, true, fun n => n == 0⟩ none [4]
        ⟨stalledSubmit ++ lateUnlink ++ [1, 2], .unexpectedEof⟩ = some run ∧ run.result = .ok ∧
      run.trace = [.received stalledSubmit, .wrote stalledAnswer, .received lateUnlink] ∧
      Exchanges (descriptorSetForAttach none) [4] .new [(stalledSubmit, .wrote stalledAnswer)] st ∧
      Replies stalledSubmit (.wrote stalledAnswer) ∧
      Reacts (descriptorSetForAttach none) [4] st lateUnlink event st' ∧ event.isWrote = true := by
  have htraced : (runSingleUsbipClient ⟨true, true, true, fun n => n == 0⟩ none [4]
      ⟨stalledSubmit ++ lateUnlink ++ [1, 2], .unexpectedEof⟩).map (·.trace) =
      some [.received stalledSubmit, .wrote stalledAnswer, .received lateUnlink] := by
    decide +kernel
  obtain ⟨run, exchanges, st, lost, rest, hrun, hresult, hexchanges, hreplies, htrace, -, -, hlost⟩ :=
    @runSingleUsbipClient_exchanges ⟨true, true, true, fun n => n == 0⟩ none [4]
      ⟨stalledSubmit ++ lateUnlink ++ [1, 2], .unexpectedEof⟩ rfl rfl
  rw [hrun, Option.map_some, Option.some.injEq] at htraced
  rw [htrace] at htraced
  obtain ⟨rfl, rfl⟩ := one_exchange htraced
  obtain ⟨hnone, -⟩ | ⟨packet, event, st', hpacket, hreacts, hwrote, -⟩ := hlost
  · cases hnone
  · obtain rfl := List.singleton_inj.mp hpacket
    exact ⟨run, st, event, st', hrun, hresult, htrace.trans htraced, hexchanges, hreplies _ List.mem_cons_self, hreacts,
      hwrote⟩

end WhyUsb
