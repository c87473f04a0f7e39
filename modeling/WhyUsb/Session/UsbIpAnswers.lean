import WhyUsb.Session.UsbIpStream

/-!
# Answers of the USB/IP session

The host's side of the stream: the packets it sends and the replies it splits
the answer into. A stream of encoded packets is read back packet by packet,
nothing is dropped, and every packet gets one reply with its sequence number.
A session ends on every stream, and never because an answer cannot be encoded.
-/

namespace WhyUsb

open Endian

inductive HostPacket where
  | submit (submit : UsbIpCmdSubmit)
  | unlink (unlink : UsbIpCmdUnlink)

/-- The packets a host can send, with their bytes. -/
inductive EncodesTo : HostPacket → List UInt8 → Prop
  | submit {submit : UsbIpCmdSubmit} {bytes : List UInt8} : submit.encode = .ok bytes → EncodesTo (.submit submit) bytes
  | unlink {unlink : UsbIpCmdUnlink} : unlink.header.command = .cmdUnlink → EncodesTo (.unlink unlink) unlink.encode

inductive Reply where
  | retSubmit (ret : UsbIpRetSubmit)
  | retUnlink (ret : UsbIpRetUnlink)
  deriving DecidableEq

def replyOf {α : Type} (decode : List UInt8 → Except ProtocolError α) (reply : α → Reply) (n : Nat)
    (bytes : List UInt8) : Option (Reply × List UInt8) :=
  (decode (bytes.take n)).toOption.map fun ret => (reply ret, bytes.drop n)

/-- The reply at the front of a byte string: 48 bytes, and the actual length of a RET_SUBMIT. -/
def nextReply (bytes : List UInt8) : Option (Reply × List UInt8) :=
  match UsbIpHeaderBasic.decode (slice bytes 0 UsbIpHeaderBasic.len) with
  | .error _ => none
  | .ok header =>
    match header.command with
    | .retSubmit => replyOf UsbIpRetSubmit.decode .retSubmit (usbIpHeaderLen + (readU32Be bytes 24).toNat) bytes
    | .retUnlink => replyOf UsbIpRetUnlink.decode .retUnlink usbIpHeaderLen bytes
    | _ => none

/-- A RET_SUBMIT answers a submit and a RET_UNLINK an unlink, with the same sequence number. -/
inductive Answers : HostPacket → Reply → Prop
  | submit {submit : UsbIpCmdSubmit} {ret : UsbIpRetSubmit} :
      ret.header.seqnum = submit.header.seqnum → Answers (.submit submit) (.retSubmit ret)
  | unlink {unlink : UsbIpCmdUnlink} {ret : UsbIpRetUnlink} :
      ret.header.seqnum = unlink.header.seqnum → Answers (.unlink unlink) (.retUnlink ret)

theorem replyOf_append {α : Type} {decode : List UInt8 → Except ProtocolError α} {reply : α → Reply} {ret : α}
    {n : Nat} {bytes : List UInt8} (hlen : bytes.length = n) (h : decode bytes = .ok ret) (rest : List UInt8) :
    replyOf decode reply n (bytes ++ rest) = some (reply ret, rest) := by
  rw [replyOf, List.take_left' hlen, List.drop_left' hlen, h]
  rfl

theorem nextReply_retSubmit {ret : UsbIpRetSubmit} {bytes : List UInt8} (h : ret.encode = .ok bytes) :
    Framing.Frames nextReply (.retSubmit ret) bytes := by
  obtain ⟨hcommand, hpayload, hbytes⟩ := UsbIpRetSubmit.encode_ok h
  obtain ⟨hlen, -, -, hlength, -⟩ := packet_decode hbytes List.length_replicate
  refine ⟨fun hnil => ?_, fun rest => ?_⟩
  · rw [hnil, List.length_nil, usbIpHeaderLen] at hlen
    omega
  have hheader : UsbIpHeaderBasic.decode (slice (bytes ++ rest) 0 UsbIpHeaderBasic.len) = .ok ret.header := by
    rw [hbytes, List.append_assoc]
    exact ret.header.decode_slice_append _
  have hactual : readU32Be (bytes ++ rest) 24 = ret.actualLength := by
    rw [← @readU32Be_slice (bytes ++ rest) bytes.length 24 (by rw [hlen, usbIpHeaderLen]; omega),
      slice_append_take rfl, hlength]
  rw [nextReply, hheader]
  dsimp only
  rw [hcommand, hactual]
  exact replyOf_append (by omega) (UsbIpRetSubmit.decode_encode h) rest

theorem nextReply_retUnlink {ret : UsbIpRetUnlink} (h : ret.header.command = .retUnlink) :
    Framing.Frames nextReply (.retUnlink ret) ret.encode := by
  have hlen : ret.encode.length = usbIpHeaderLen := (packet_decode ret.layout List.length_replicate).1
  refine ⟨fun hnil => ?_, fun rest => ?_⟩
  · rw [hnil, List.length_nil, usbIpHeaderLen] at hlen
    omega
  have hheader : UsbIpHeaderBasic.decode (slice (ret.encode ++ rest) 0 UsbIpHeaderBasic.len) = .ok ret.header := by
    rw [UsbIpRetUnlink.encode, List.append_assoc]
    exact ret.header.decode_slice_append _
  rw [nextReply, hheader]
  dsimp only
  rw [h]
  exact replyOf_append hlen (UsbIpRetUnlink.decode_encode h) rest

/-! ## One packet -/

theorem handleSubmit_seqnum (submit : UsbIpCmdSubmit) (descriptors : UsbDescriptorSet) (keycodes : List UInt8)
    (st : SubmitState) :
    (handleSubmit submit descriptors keycodes st).1.header.seqnum = submit.header.seqnum := by
  obtain ⟨status, data, hresponse, -⟩ := handleSubmit_response submit descriptors keycodes st
  rw [hresponse, UsbIpRetSubmit.okFor]

theorem EncodesTo.header {p : HostPacket} {bytes : List UInt8} (h : EncodesTo p bytes) : ∃ header,
    UsbIpHeaderBasic.decode (slice bytes 0 UsbIpHeaderBasic.len) = .ok header ∧
      bytes.length = usbIpHeaderLen + packetPayloadLen header bytes := by
  cases h with
  | @submit submit bytes hencode =>
    obtain ⟨hcommand, hpayload, hbytes⟩ := UsbIpCmdSubmit.encode_ok hencode
    obtain ⟨hlen, hheader, -, hlength, -⟩ := packet_decode hbytes submit.setup.property
    refine ⟨submit.header, hheader, ?_⟩
    simp only [hlen, packetPayloadLen_eq hheader, hpayload, hcommand, true_and, hlength]
  | @unlink unlink hcommand =>
    obtain ⟨hlen, hheader, -⟩ := packet_decode unlink.layout List.length_replicate
    refine ⟨unlink.header, hheader, ?_⟩
    rw [packetPayloadLen_eq hheader, if_neg (by rw [hcommand]; simp)]
    exact hlen

namespace UsbIpLoop

section
variable {env : UsbIpEnv} {descriptors : UsbDescriptorSet} {keycodes : List UInt8}

theorem handlePacket_submit {packet out : List UInt8} {header : UsbIpHeaderBasic} {submit : UsbIpCmdSubmit}
    {s : UsbIpLoop} (hheader : UsbIpHeaderBasic.decode (slice packet 0 UsbIpHeaderBasic.len) = .ok header)
    (hcommand : header.command = .cmdSubmit) (hsubmit : UsbIpCmdSubmit.decode packet = .ok submit)
    (hout : (handleSubmit submit descriptors keycodes s.submit).1.encode = .ok out) :
    handlePacket env descriptors keycodes packet s =
      writeAll env out { s with submit := (handleSubmit submit descriptors keycodes s.submit).2 } := by
  simp only [handlePacket, hheader, hcommand, hsubmit, hout]

theorem handlePacket_unlink {packet : List UInt8} {header : UsbIpHeaderBasic} {unlink : UsbIpCmdUnlink}
    {s : UsbIpLoop} (hheader : UsbIpHeaderBasic.decode (slice packet 0 UsbIpHeaderBasic.len) = .ok header)
    (hcommand : header.command = .cmdUnlink) (hunlink : UsbIpCmdUnlink.decode packet = .ok unlink) :
    handlePacket env descriptors keycodes packet s =
      writeAll env (UsbIpRetUnlink.new unlink.header.seqnum 0).encode s := by
  simp only [handlePacket, hheader, hcommand, hunlink]

theorem writeAll_ok {out : List UInt8} {s : UsbIpLoop} (h : env.writeOk s.writes = true) :
    writeAll env out s = (none, { s with writes := s.writes + 1, trace := s.trace ++ [.wrote out] }) := by
  rw [writeAll, if_pos h]

theorem iteration_packet {packet rest : List UInt8} {ending : IoError} {s : UsbIpLoop}
    (h : readUsbipPacket s.stream = (.ok (some packet), ⟨rest, ending⟩)) : ∃ s₁ : UsbIpLoop,
    iteration env descriptors keycodes s = handlePacket env descriptors keycodes packet s₁ ∧
      s₁.stream = ⟨rest, ending⟩ ∧ s₁.submit = s.submit ∧ s₁.trace = s.trace ++ [.received packet] := by
  rw [iteration, h]
  exact ⟨_, rfl, rfl, rfl, rfl⟩

theorem iteration_answers (hwrites : ∀ n, env.writeOk n = true) {p : HostPacket} {packet rest : List UInt8}
    (h : EncodesTo p packet) {s : UsbIpLoop} {ending : IoError} (hs : s.stream = ⟨packet ++ rest, ending⟩)
    (hwf : s.submit.Wf) : ∃ reply out s', iteration env descriptors keycodes s = (none, s') ∧
      s'.stream = ⟨rest, ending⟩ ∧ s'.submit.Wf ∧ s'.trace = s.trace ++ [.received packet, .wrote out] ∧
      Answers p reply ∧ Framing.Frames nextReply reply out := by
  obtain ⟨header, hheader, hlen⟩ := h.header
  have hread : readUsbipPacket s.stream = (.ok (some packet), ⟨rest, ending⟩) := by
    rw [hs]
    exact readUsbipPacket_append rest ending hheader hlen
  obtain ⟨s₁, hiter, hstream, hsubmit, htrace⟩ :=
    @iteration_packet env descriptors keycodes packet rest ending s hread
  rw [hiter]
  rw [← hsubmit] at hwf
  cases h with
  | @submit submit _ hencode =>
    obtain ⟨hcommand, -, hbytes⟩ := UsbIpCmdSubmit.encode_ok hencode
    obtain ⟨-, hheader', -⟩ := packet_decode hbytes submit.setup.property
    obtain ⟨out, hout⟩ := handleSubmit_encode submit descriptors keycodes hwf
    rw [handlePacket_submit hheader' hcommand (UsbIpCmdSubmit.decode_encode hencode) hout, writeAll_ok (hwrites _)]
    refine ⟨_, out, _, rfl, hstream, handleSubmit_wf submit descriptors keycodes hwf, ?_, .submit ?_,
      nextReply_retSubmit hout⟩
    · dsimp only
      rw [htrace, List.append_assoc, List.singleton_append]
    · exact handleSubmit_seqnum submit descriptors keycodes s₁.submit
  | @unlink unlink hcommand =>
    obtain ⟨-, hheader', -⟩ := packet_decode unlink.layout List.length_replicate
    rw [handlePacket_unlink hheader' hcommand (UsbIpCmdUnlink.decode_encode hcommand), writeAll_ok (hwrites _)]
    refine ⟨.retUnlink (.new unlink.header.seqnum 0), _, _, rfl, hstream, hwf, ?_, .unlink rfl,
      nextReply_retUnlink rfl⟩
    rw [htrace, List.append_assoc, List.singleton_append]

theorem readUsbipPacket_nil (ending : IoError) :
    readUsbipPacket ⟨[], ending⟩ = (.ok none, ⟨[], ending⟩) ∨
      ∃ e, readUsbipPacket ⟨[], ending⟩ = (.error e, ⟨[], ending⟩) := by
  unfold readUsbipPacket Stream.readExact
  rw [if_neg (show ¬ usbIpHeaderLen ≤ ([] : List UInt8).length by decide)]
  cases ending with
  | unexpectedEof => exact Or.inl rfl
  | invalidData e => exact Or.inr ⟨_, rfl⟩
  | other => exact Or.inr ⟨_, rfl⟩

theorem loop_answers (hwrites : ∀ n, env.writeOk n = true) (ending : IoError) {packets : List HostPacket}
    {encoded : List (List UInt8)} (h : List.Forall₂ EncodesTo packets encoded) : ∀ (n : Nat) (s : UsbIpLoop),
    s.stream = ⟨encoded.flatten, ending⟩ → s.submit.Wf → encoded.flatten.length < n →
    ∃ exit s' outs replies, s.loop env descriptors keycodes n = some (exit, s') ∧
      (∀ e, exit ≠ .encodeFailed e) ∧
      s'.trace = s.trace ++ (encoded.zip outs).flatMap (fun x => [.received x.1, .wrote x.2]) ∧
      List.Forall₂ Answers packets replies ∧ List.Forall₂ (Framing.Frames nextReply) replies outs := by
  induction h with
  | nil =>
    intro n s hs _ hn
    obtain ⟨m, rfl⟩ : ∃ m, n = m + 1 := ⟨n - 1, by omega⟩
    rw [loop, iteration, hs]
    rcases readUsbipPacket_nil ending with hread | ⟨e, hread⟩
    · rw [List.flatten_nil, hread]
      exact ⟨_, _, [], [], rfl, fun _ he => (nomatch he), (List.append_nil _).symm, .nil, .nil⟩
    · rw [List.flatten_nil, hread]
      exact ⟨_, _, [], [], rfl, fun _ he => (nomatch he), (List.append_nil _).symm, .nil, .nil⟩
  | @cons p packet packets encoded hp _ ih =>
    intro n s hs hwf hn
    obtain ⟨header, -, hlen⟩ := hp.header
    rw [List.flatten_cons, List.length_append] at hn
    obtain ⟨m, rfl⟩ : ∃ m, n = m + 1 := ⟨n - 1, by omega⟩
    rw [List.flatten_cons] at hs
    obtain ⟨reply, out, s₁, hiter, hstream, hwf₁, htrace, hanswers, hframes⟩ :=
      @iteration_answers env descriptors keycodes hwrites p packet encoded.flatten hp s ending hs hwf
    have hm : encoded.flatten.length < m := by
      rw [usbIpHeaderLen] at hlen
      omega
    obtain ⟨exit, s', outs, replies, hloop, hexit, htrace', hanswers', hframes'⟩ := ih m s₁ hstream hwf₁ hm
    refine ⟨exit, s', out :: outs, reply :: replies, ?_, hexit, ?_, .cons hanswers hanswers', .cons hframes hframes'⟩
    · rw [loop, hiter]
      exact hloop
    · rw [htrace', htrace, List.zip_cons_cons, List.flatMap_cons, List.append_assoc]

theorem handlePacket_keeps (packet : List UInt8) {s : UsbIpLoop} (hwf : s.submit.Wf) :
    (handlePacket env descriptors keycodes packet s).2.stream = s.stream ∧
      (handlePacket env descriptors keycodes packet s).2.submit.Wf ∧
      ∀ e, (handlePacket env descriptors keycodes packet s).1 ≠ some (.encodeFailed e) := by
  have hwrite : ∀ (out : List UInt8) (s₁ : UsbIpLoop), s₁.stream = s.stream → s₁.submit.Wf →
      (writeAll env out s₁).2.stream = s.stream ∧ (writeAll env out s₁).2.submit.Wf ∧
        ∀ e, (writeAll env out s₁).1 ≠ some (.encodeFailed e) := fun out s₁ hstream hwf₁ => by
    unfold writeAll
    split
    · exact ⟨hstream, hwf₁, fun _ he => (nomatch he)⟩
    · exact ⟨hstream, hwf₁, fun _ he => (nomatch he)⟩
  have hlog : ∀ event, (s.log event).stream = s.stream ∧ (s.log event).submit.Wf ∧
      ∀ e, (none : Option UsbIpExit) ≠ some (.encodeFailed e) := fun event => ⟨rfl, hwf, fun _ he => (nomatch he)⟩
  unfold handlePacket
  cases UsbIpHeaderBasic.decode (slice packet 0 UsbIpHeaderBasic.len) with
  | error e => exact hlog _
  | ok header =>
    dsimp only
    cases header.command with
    | cmdSubmit =>
      cases UsbIpCmdSubmit.decode packet with
      | error e => exact hlog _
      | ok submit =>
        obtain ⟨out, hout⟩ := handleSubmit_encode submit descriptors keycodes hwf
        dsimp only
        rw [hout]
        exact hwrite out _ rfl (handleSubmit_wf submit descriptors keycodes hwf)
    | cmdUnlink =>
      cases UsbIpCmdUnlink.decode packet with
      | error e => exact hlog _
      | ok unlink => exact hwrite _ s rfl hwf
    | retSubmit => exact hlog _
    | retUnlink => exact hlog _

/-- An iteration either ends the loop for a reason other than its encoder, or has read a packet. -/
theorem iteration_cases {s : UsbIpLoop} (hwf : s.submit.Wf) :
    (∃ exit s', iteration env descriptors keycodes s = (some exit, s') ∧ ∀ e, exit ≠ .encodeFailed e) ∨
      ∃ s', iteration env descriptors keycodes s = (none, s') ∧ s'.submit.Wf ∧
        s'.stream.bytes.length < s.stream.bytes.length := by
  unfold iteration
  rcases hread : readUsbipPacket s.stream with ⟨e | _ | packet, stream⟩
  · exact Or.inl ⟨_, _, rfl, fun _ he => (nomatch he)⟩
  · exact Or.inl ⟨_, _, rfl, fun _ he => (nomatch he)⟩
  · obtain ⟨hlen, header, -, hpacket⟩ := readUsbipPacket_ok hread
    have hpos : 0 < usbIpHeaderLen := by decide
    obtain ⟨hstream, hwf', hexit⟩ := @handlePacket_keeps env descriptors keycodes packet
      ({ s with stream }.log (.received packet)) hwf
    dsimp only
    rcases hhandle : handlePacket env descriptors keycodes packet ({ s with stream }.log (.received packet))
      with ⟨_ | exit, s'⟩
    · rw [hhandle] at hstream hwf'
      refine Or.inr ⟨s', hhandle, hwf', ?_⟩
      rw [show s'.stream = stream from hstream]
      omega
    · rw [hhandle] at hexit
      exact Or.inl ⟨exit, s', hhandle, fun e he => hexit e (congrArg some he)⟩

theorem loop_ends : ∀ (n : Nat) (s : UsbIpLoop), s.submit.Wf → s.stream.bytes.length < n →
    ∃ exit s', s.loop env descriptors keycodes n = some (exit, s') ∧ ∀ e, exit ≠ .encodeFailed e
  | 0, s, _, hn => absurd hn (Nat.not_lt_zero _)
  | n + 1, s, hwf, hn => by
    rw [loop]
    rcases @iteration_cases env descriptors keycodes s hwf with ⟨exit, s', hiter, hexit⟩ | ⟨s', hiter, hwf', hlt⟩
    · rw [hiter]
      exact ⟨exit, s', rfl, hexit⟩
    · rw [hiter]
      exact loop_ends n s' hwf' (by omega)

end

end UsbIpLoop

/-! ## Whole sessions -/

/-- A stream of encoded packets is answered packet by packet; and on any stream, a packet that is read with the
command of a submit or of an unlink is one. -/
theorem runSingleUsbipClient_answers {env : UsbIpEnv} {attachDevice : Option DeviceAttachRequest}
    {packets : List HostPacket} {encoded : List (List UInt8)} (keycodes : List UInt8) (ending : IoError)
    (hnodelay : env.setNodelay = true) (hattach : (attachSession env.attachOk attachDevice .new).1 = 0)
    (hwrites : ∀ n, env.writeOk n = true) (hencode : List.Forall₂ EncodesTo packets encoded) :
    (∃ run outs replies, runSingleUsbipClient env attachDevice keycodes ⟨encoded.flatten, ending⟩ = some run ∧
        run.result = .ok ∧ run.trace = (encoded.zip outs).flatMap (fun x => [.received x.1, .wrote x.2]) ∧
        outs.length = encoded.length ∧
        Framing.readAll nextReply outs.flatten.length outs.flatten = some replies ∧
        List.Forall₂ Answers packets replies) ∧
      ∀ stream rest packet, readUsbipPacket stream = (.ok (some packet), rest) → ∃ header,
        UsbIpHeaderBasic.decode (slice packet 0 UsbIpHeaderBasic.len) = .ok header ∧
        (header.command = .cmdSubmit → ∃ submit, UsbIpCmdSubmit.decode packet = .ok submit) ∧
        (header.command = .cmdUnlink → ∃ unlink, UsbIpCmdUnlink.decode packet = .ok unlink) := by
  refine ⟨?_, fun _ _ _ h => readUsbipPacket_decodes h⟩
  obtain ⟨exit, s', outs, replies, hloop, hexit, htrace, hanswers, hframes⟩ :=
    @UsbIpLoop.loop_answers env (descriptorSetForAttach attachDevice) keycodes hwrites ending packets encoded hencode
      (encoded.flatten.length + 1) { stream := ⟨encoded.flatten, ending⟩, submit := .new, writes := 0, trace := [] }
      rfl SubmitState.new_wf (Nat.lt_succ_self _)
  have houts : outs.length = encoded.length := by
    rw [← hframes.length_eq, ← hanswers.length_eq, hencode.length_eq]
  have hsplit := Framing.readAll_flatten hframes outs.flatten.length (Nat.le_refl _)
  unfold runSingleUsbipClient
  rw [if_neg (by rw [hnodelay]; decide), if_neg (by simpa using hattach)]
  dsimp only
  rw [hloop]
  cases exit with
  | encodeFailed e => exact absurd rfl (hexit e)
  | disconnected => exact ⟨_, outs, replies, rfl, rfl, htrace, houts, hsplit, hanswers⟩
  | readFailed e => exact ⟨_, outs, replies, rfl, rfl, htrace, houts, hsplit, hanswers⟩
  | writeFailed => exact ⟨_, outs, replies, rfl, rfl, htrace, houts, hsplit, hanswers⟩

/-- A submit that stalls and an unlink. -/
theorem runSingleUsbipClient_answers_two :
    (∃ run outs replies, runSingleUsbipClient ⟨true, true, true, fun _ => true⟩ none [4]
        ⟨[[0, 0, 0, 1, 0, 0, 0, 7, 0, 0, 0, 0, 0, 0, 0, 0, 0, 0, 0, 2, 0, 0, 0, 0, 0, 0, 0, 1] ++
            List.replicate 20 0 ++ [9], [0, 0, 0, 2, 0, 0, 0, 8] ++ List.replicate 12 0 ++ [0, 0, 0, 7] ++
            List.replicate 24 0].flatten, .unexpectedEof⟩ = some run ∧ run.result = .ok ∧
        run.trace = (([[0, 0, 0, 1, 0, 0, 0, 7, 0, 0, 0, 0, 0, 0, 0, 0, 0, 0, 0, 2, 0, 0, 0, 0, 0, 0, 0, 1] ++
            List.replicate 20 0 ++ [9], [0, 0, 0, 2, 0, 0, 0, 8] ++ List.replicate 12 0 ++ [0, 0, 0, 7] ++
            List.replicate 24 0] : List (List UInt8)).zip outs).flatMap (fun x => [.received x.1, .wrote x.2]) ∧
        outs.length = 2 ∧ Framing.readAll nextReply outs.flatten.length outs.flatten = some replies ∧
        List.Forall₂ Answers
          [.submit ⟨⟨.cmdSubmit, 7, 0, .out, 2⟩, 0, 1, 0, 0, 0, ⟨List.replicate 8 0, rfl⟩, [9]⟩,
            .unlink ⟨⟨.cmdUnlink, 8, 0, .out, 0⟩, 7⟩] replies) :=
  (runSingleUsbipClient_answers [4] .unexpectedEof rfl rfl (fun _ => rfl)
    (.cons (.submit (by decide +kernel)) (.cons (show EncodesTo (.unlink ⟨⟨.cmdUnlink, 8, 0, .out, 0⟩, 7⟩) _ from
      .unlink rfl) .nil))).1

/-! ## The device over a session -/

theorem runSingleUsbipClient_bracketed (env : UsbIpEnv) (attachDevice : Option DeviceAttachRequest)
    (keycodes : List UInt8) (stream : Stream) : ∃ run,
    runSingleUsbipClient env attachDevice keycodes stream = some run ∧ (∀ e, run.result ≠ .encodeFailed e) ∧
      WellBracketed run.lifecycle.calls ∧ Released run.lifecycle.calls := by
  unfold runSingleUsbipClient
  split
  · exact ⟨_, rfl, fun _ he => (nomatch he), wellBracketed_nil, Or.inl rfl⟩
  · have hopen := Lifecycle.attachSession_open Lifecycle.new_open env.attachOk attachDevice
    have hstatus := @Lifecycle.attachSession_status Lifecycle.new env.attachOk attachDevice
    dsimp only
    split
    · rename_i hfailed
      refine ⟨_, rfl, fun _ he => (nomatch he), hopen.wellBracketed, Or.inl ?_⟩
      rcases hopen.state with ⟨-, hnone⟩ | hattached
      · exact hnone
      · exact absurd (hstatus.mpr hattached) hfailed
    · obtain ⟨exit, s', hloop, hexit⟩ := @UsbIpLoop.loop_ends env (descriptorSetForAttach attachDevice) keycodes
        (stream.bytes.length + 1) { stream, submit := .new, writes := 0, trace := [] } SubmitState.new_wf
        (Nat.lt_succ_self _)
      rw [hloop]
      have hleft := Lifecycle.detaching_left hopen.toBracketed env.detachOk
      cases exit with
      | encodeFailed e => exact absurd rfl (hexit e)
      | disconnected => exact ⟨_, rfl, fun _ he => (nomatch he), hleft.wellBracketed, hleft.released⟩
      | readFailed e => exact ⟨_, rfl, fun _ he => (nomatch he), hleft.wellBracketed, hleft.released⟩
      | writeFailed => exact ⟨_, rfl, fun _ he => (nomatch he), hleft.wellBracketed, hleft.released⟩

end WhyUsb
