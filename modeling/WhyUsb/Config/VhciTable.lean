import WhyUsb.Config.Vhci

/-!
# What the reader of the status table accepts

The grammar of a row, and of the table as lines of which some are rows. The
reader accepts exactly these, so what is written as rows, with any padding and
any gaps, is what it reads.
-/

namespace WhyUsb

open Numeral Words

/-! ## The grammar -/

/-- Decimal where that fits, and hexadecimal otherwise. -/
inductive SocketFd : List Char → Int64 → Prop
  | decimal {cs} {fd : Int64} : Signed 10 cs fd.toInt → SocketFd cs fd
  | hex {cs} {fd : Int64} : (∀ other : Int64, ¬ Signed 10 cs other.toInt) → Signed 16 cs fd.toInt → SocketFd cs fd

/-- The fields of a row; the port number is cut to sixteen bits, and what follows the bus id is not read. -/
inductive RowFields : List (List Char) → LinuxVhciPort → Prop
  | mk {hub portText status speedText deviceText fdText rest} {port speed deviceId : UInt32} {socketFd : Int64} :
    Unsigned 10 portText port.toNat → Unsigned 10 speedText speed.toNat → Unsigned 16 deviceText deviceId.toNat →
    SocketFd fdText socketFd →
    RowFields (hub :: portText :: status :: speedText :: deviceText :: fdText :: rest)
      { hub, port := port.toUInt16, status, speed, deviceId, socketFd, localBusid := rest.head?.getD [] }

def IsHeader (line : List Char) : Prop :=
  ∃ gap rest, (∀ c ∈ gap, isWhitespace c) ∧ line = gap ++ ("hub ".toList ++ rest)

def Row (line : List Char) (port : LinuxVhciPort) : Prop :=
  ∃ ws, Spaced isWhitespace ws line ∧ RowFields ws port ∧ ¬ IsHeader line

/-- The ports of the rows, in order; other lines are passed over. -/
inductive Listed : List (List Char) → List LinuxVhciPort → Prop
  | nil : Listed [] []
  | row {line port ls ports} : Row line port → Listed ls ports → Listed (line :: ls) (port :: ports)
  | other {line ls ports} : (∀ port, ¬ Row line port) → Listed ls ports → Listed (line :: ls) ports

/-! ## Numbers -/

section
variable {cs : List Char}

theorem toOption_eq_some {α ε : Type} {r : Except ε α} {a : α} : r.toOption = some a ↔ r = .ok a := by
  cases r with
  | error e => exact iff_of_false nofun nofun
  | ok b =>
    constructor
    · intro h
      rw [Option.some.inj h]
    · intro h
      rw [Except.ok.inj h]
      rfl

theorem fromStrRadix_uInt32 {radix : Nat} (hradix : 0 < radix) {n : UInt32} :
    (fromStrRadix radix (2 ^ 32) cs).toOption.map UInt32.ofNat = some n ↔ Unsigned radix cs n.toNat := by
  have hbound : n.toNat < 2 ^ 32 := n.toNat_lt
  rw [Option.map_eq_some_iff]
  constructor
  · rintro ⟨m, hm, rfl⟩
    obtain ⟨hunsigned, hlt⟩ := (fromStrRadix_eq_ok hradix (by decide)).mp (toOption_eq_some.mp hm)
    rwa [UInt32.toNat_ofNat_of_lt' hlt]
  · intro h
    exact ⟨n.toNat, toOption_eq_some.mpr ((fromStrRadix_eq_ok hradix (by decide)).mpr ⟨h, hbound⟩), UInt32.ofNat_toNat⟩

theorem fromStrRadixSigned_int64 {radix : Nat} (hradix : 0 < radix) {z : Int} :
    fromStrRadixSigned radix (2 ^ 63) cs = .ok z ↔ ∃ n : Int64, Signed radix cs n.toInt ∧ z = n.toInt := by
  rw [fromStrRadixSigned_eq_ok hradix (by decide)]
  constructor
  · rintro ⟨hsigned, hlow, hhigh⟩
    have hz : (Int64.ofInt z).toInt = z := Int64.toInt_ofInt_of_le hlow hhigh
    exact ⟨Int64.ofInt z, by rwa [hz], hz.symm⟩
  · rintro ⟨n, hsigned, rfl⟩
    exact ⟨hsigned, n.le_toInt, n.toInt_lt⟩

theorem parseVhciStatusI64_eq_some {fd : Int64} : parseVhciStatusI64 cs = some fd ↔ SocketFd cs fd := by
  rw [parseVhciStatusI64, Option.map_eq_some_iff]
  cases hdecimal : fromStrRadixSigned 10 (2 ^ 63) cs with
  | ok z =>
    obtain ⟨n, hsigned, rfl⟩ := (fromStrRadixSigned_int64 (by decide)).mp hdecimal
    constructor
    · rintro ⟨z, hz, rfl⟩
      obtain rfl := Option.some.inj hz
      rw [Int64.ofInt_toInt]
      exact .decimal hsigned
    · intro h
      cases h with
      | decimal h =>
        have hsame := hdecimal.symm.trans ((fromStrRadixSigned_int64 (by decide)).mpr ⟨fd, h, rfl⟩)
        exact ⟨n.toInt, rfl, by rw [Except.ok.inj hsame, Int64.ofInt_toInt]⟩
      | hex hno _ => exact absurd hsigned (hno n)
  | error e =>
    have hno : ∀ other : Int64, ¬ Signed 10 cs other.toInt := by
      intro other h
      have hok := (fromStrRadixSigned_int64 (by decide)).mpr ⟨other, h, rfl⟩
      rw [hdecimal] at hok
      cases hok
    constructor
    · rintro ⟨z, hz, rfl⟩
      obtain ⟨n, hsigned, rfl⟩ := (fromStrRadixSigned_int64 (by decide)).mp (toOption_eq_some.mp hz)
      rw [Int64.ofInt_toInt]
      exact .hex hno hsigned
    · intro h
      cases h with
      | decimal h => exact absurd h (hno fd)
      | hex _ h =>
        exact ⟨fd.toInt, toOption_eq_some.mpr ((fromStrRadixSigned_int64 (by decide)).mpr ⟨fd, h, rfl⟩), Int64.ofInt_toInt fd⟩

end

/-! ## Rows -/

section
variable {line : List Char} {port : LinuxVhciPort}

theorem isWord_hub : IsWord isWhitespace "hub".toList := by
  refine ⟨List.cons_ne_nil _ _, fun c hc => ?_⟩
  obtain rfl | rfl | rfl : c = 'h' ∨ c = 'u' ∨ c = 'b' := by simpa using hc
  · decide
  · decide
  · decide

theorem isHeader_iff {w v : List Char} {ws : List (List Char)} (hwords : words isWhitespace line = w :: v :: ws) :
    "hub ".toList.isPrefixOf (trim isWhitespace line) ↔ IsHeader line := by
  rw [List.isPrefixOf_iff_prefix]
  obtain ⟨front, hfront, hstart⟩ := trimStart_gaps isWhitespace line
  obtain ⟨back, hback, hend⟩ := trimEnd_gaps isWhitespace (trimStart isWhitespace line)
  constructor
  · rintro ⟨rest, hrest⟩
    refine ⟨front, rest ++ back, hfront, ?_⟩
    calc line = front ++ (trim isWhitespace line ++ back) := hstart.trans (congrArg (front ++ ·) hend)
      _ = front ++ ("hub ".toList ++ (rest ++ back)) := by rw [← hrest, List.append_assoc]
  · rintro ⟨gap, rest, hgap, rfl⟩
    have htrimmed : trimStart isWhitespace (gap ++ ("hub ".toList ++ rest)) = "hub ".toList ++ rest := by
      refine trimStart_eq hgap fun c hc => ?_
      obtain rfl : 'h' = c := Option.some.inj hc
      decide
    rw [htrimmed] at hend
    rw [trim, htrimmed]
    by_cases hlength : 4 ≤ (trimEnd isWhitespace ("hub ".toList ++ rest)).length
    · exact List.prefix_of_prefix_length_le (List.prefix_append _ _) ⟨back, hend.symm⟩ hlength
    · -- all behind the header's word would be gaps, and the line would have one word
      have hrest : ∀ c ∈ rest, isWhitespace c := by
        generalize trimEnd isWhitespace ("hub ".toList ++ rest) = front' at hend hlength
        have hdrop : rest = List.drop (4 - front'.length) back :=
          calc rest = List.drop 4 (front' ++ back) := congrArg (List.drop 4) hend
            _ = List.drop (4 - front'.length) back := by
              rw [List.drop_append, List.drop_eq_nil_of_le (by omega), List.nil_append]
        intro c hc
        rw [hdrop] at hc
        exact hback c (List.mem_of_mem_drop hc)
      have hone : words isWhitespace (gap ++ ("hub".toList ++ ' ' :: rest)) = ["hub".toList] := by
        rw [words_gaps hgap, words_append_gap (by decide), words_all_gaps hrest, words_word isWord_hub]
        rfl
      have htwo := hwords.symm.trans hone
      cases htwo

theorem vhciPortOfParts_eq_some {ws : List (List Char)} : vhciPortOfParts ws = some port ↔ RowFields ws port := by
  constructor
  · intro h
    unfold vhciPortOfParts at h
    split at h
    · obtain ⟨n, hport, h⟩ := Option.bind_eq_some_iff.mp h
      obtain ⟨speed, hspeed, h⟩ := Option.bind_eq_some_iff.mp h
      obtain ⟨deviceId, hdevice, h⟩ := Option.bind_eq_some_iff.mp h
      obtain ⟨socketFd, hfd, h⟩ := Option.bind_eq_some_iff.mp h
      obtain rfl := Option.some.inj h
      exact .mk ((fromStrRadix_uInt32 (by decide)).mp hport) ((fromStrRadix_uInt32 (by decide)).mp hspeed)
        ((fromStrRadix_uInt32 (by decide)).mp hdevice) (parseVhciStatusI64_eq_some.mp hfd)
    · cases h
  · intro h
    cases h with
    | mk hport hspeed hdevice hfd =>
      have hport := (fromStrRadix_uInt32 (by decide)).mpr hport
      have hspeed := (fromStrRadix_uInt32 (by decide)).mpr hspeed
      have hdevice := (fromStrRadix_uInt32 (by decide)).mpr hdevice
      have hfd := parseVhciStatusI64_eq_some.mpr hfd
      simp only [vhciPortOfParts, parseVhciStatusDecimal, parseVhciStatusHex, hport, hspeed, hdevice, hfd,
        Option.bind_eq_bind, Option.bind_some]

theorem parseVhciStatusLine_eq_some : parseVhciStatusLine line = some port ↔ Row line port := by
  rw [parseVhciStatusLine, words_trim]
  by_cases hfields : RowFields (words isWhitespace line) port
  · have hheader : "hub ".toList.isPrefixOf (trim isWhitespace line) ↔ IsHeader line := by
      generalize hwords : words isWhitespace line = ws at hfields
      cases hfields
      exact isHeader_iff hwords
    have hempty : (trim isWhitespace line).isEmpty = false := by
      rw [List.isEmpty_eq_false_iff]
      intro hnil
      rw [← words_trim, hnil, words_nil] at hfields
      cases hfields
    rw [hempty, Bool.false_or]
    by_cases hprefix : "hub ".toList.isPrefixOf (trim isWhitespace line)
    · rw [if_pos hprefix]
      exact iff_of_false nofun fun ⟨_, _, _, hno⟩ => hno (hheader.mp hprefix)
    · rw [if_neg hprefix, vhciPortOfParts_eq_some]
      exact iff_of_true hfields ⟨_, spaced_words _ _, hfields, fun h => hprefix (hheader.mpr h)⟩
  · refine iff_of_false ?_ fun ⟨ws, hspaced, h, _⟩ => hfields (hspaced.words_eq ▸ h)
    split
    · nofun
    · rw [vhciPortOfParts_eq_some]
      exact hfields

end

/-! ## Lines -/

section
variable {text line : List Char} {ls : List (List Char)} {port : LinuxVhciPort} {ports : List LinuxVhciPort}

theorem filterMap_eq_iff : ls.filterMap parseVhciStatusLine = ports ↔ Listed ls ports := by
  induction ls generalizing ports with
  | nil =>
    constructor
    · rintro rfl
      exact .nil
    · intro h
      cases h
      rfl
  | cons line ls ih =>
    cases hline : parseVhciStatusLine line with
    | none =>
      have hno : ∀ port, ¬ Row line port := by
        intro port hrow
        rw [parseVhciStatusLine_eq_some.mpr hrow] at hline
        cases hline
      rw [List.filterMap_cons_none hline, ih]
      constructor
      · exact .other hno
      · intro h
        cases h with
        | row hrow _ => exact absurd hrow (hno _)
        | other _ h => exact h
    | some port =>
      have hrow := parseVhciStatusLine_eq_some.mp hline
      rw [List.filterMap_cons_some hline]
      constructor
      · rintro rfl
        exact .row hrow (ih.mp rfl)
      · intro h
        cases h with
        | row hrow' h =>
          have hsame := hline.symm.trans (parseVhciStatusLine_eq_some.mpr hrow')
          rw [Option.some.inj hsame, ih.mpr h]
        | other hno _ => exact absurd hrow (hno port)

/-- The carriage return that `lines` takes off is one more gap. -/
theorem parseVhciStatusLine_carriageReturn (line : List Char) :
    parseVhciStatusLine (line ++ ['\r']) = parseVhciStatusLine line := by
  rw [parseVhciStatusLine, parseVhciStatusLine, trim_append_gap (by decide)]

theorem parseVhciStatusLine_strip (line : List Char) :
    parseVhciStatusLine (stripCarriageReturn line) = parseVhciStatusLine line := by
  rw [stripCarriageReturn]
  by_cases hlast : line.getLast? = some '\r'
  · rw [if_pos hlast]
    obtain ⟨front, rfl⟩ := List.getLast?_eq_some_iff.mp hlast
    rw [List.dropLast_concat, parseVhciStatusLine_carriageReturn]
  · rw [if_neg hlast]

theorem filterMap_endLines (ls : List (List Char)) :
    (endLines ls).filterMap parseVhciStatusLine = ls.filterMap parseVhciStatusLine := by
  induction ls with
  | nil => rfl
  | cons line ls ih =>
    cases ls with
    | nil =>
      rw [endLines]
      cases line with
      | nil => rfl
      | cons c line => rfl
    | cons next ls =>
      have hcons : endLines (line :: next :: ls) = stripCarriageReturn line :: endLines (next :: ls) := rfl
      rw [hcons, List.filterMap_cons, parseVhciStatusLine_strip, ih, ← List.filterMap_cons]

theorem parseVhciStatus_eq (text : List Char) : parseVhciStatus text = (text.splitOn '\n').filterMap parseVhciStatusLine :=
  filterMap_endLines _

/-- The table read from a text: its lines are cut at the newlines, and the ports are those of the rows among them. -/
theorem parseVhciStatus_eq_iff : parseVhciStatus text = ports ↔
    ∃ ls, (ls ≠ [] ∧ (∀ line ∈ ls, '\n' ∉ line) ∧ text = ['\n'].intercalate ls) ∧ Listed ls ports := by
  rw [parseVhciStatus_eq, filterMap_eq_iff]
  constructor
  · intro h
    exact ⟨_, splitOn_eq_iff.mp rfl, h⟩
  · rintro ⟨ls, hls, h⟩
    rwa [splitOn_eq_iff.mpr hls]

end

/-! ## Written tables -/

def tableHeader : List Char := "hub port sta spd dev sockfd local_busid".toList

/-- A line that spells the fields of the port, with any zeros before the numbers and any gaps. -/
def Written (line : List Char) (port : LinuxVhciPort) : Prop :=
  port.hub ≠ "hub".toList ∧ '\n' ∉ line ∧ ∃ k₁ k₂ k₃ k₄, Spaced isWhitespace
    [port.hub, zeroPadded k₁ 10 port.port.toNat, port.status, zeroPadded k₂ 10 port.speed.toNat,
      zeroPadded k₃ 16 port.deviceId.toNat, zeroPaddedInt k₄ 10 port.socketFd.toInt, port.localBusid] line

section
variable {text line eol : List Char} {ls : List (List Char)} {port : LinuxVhciPort} {ports : List LinuxVhciPort}

theorem IsHeader.words (h : IsHeader line) : ∃ ws, words isWhitespace line = "hub".toList :: ws := by
  obtain ⟨gap, rest, hgap, rfl⟩ := h
  refine ⟨Words.words isWhitespace rest, ?_⟩
  have hcut : "hub ".toList ++ rest = "hub".toList ++ ' ' :: rest := rfl
  rw [hcut, words_gaps hgap, words_append_gap (by decide), words_word isWord_hub]
  rfl

theorem Written.row (h : Written line port) : Row line port := by
  obtain ⟨hhub, -, k₁, k₂, k₃, k₄, hspaced⟩ := h
  refine ⟨_, hspaced, ?_, ?_⟩
  · have hport : Unsigned 10 (zeroPadded k₁ 10 port.port.toNat) port.port.toUInt32.toNat := by
      rw [UInt16.toNat_toUInt32]
      exact .plain (reads_zeroPadded (by decide) (by decide) k₁ _)
    have h := @RowFields.mk port.hub _ port.status _ _ _ [port.localBusid] _ _ _ _ hport
      (.plain (reads_zeroPadded (by decide) (by decide) k₂ port.speed.toNat))
      (.plain (reads_zeroPadded (by decide) (by decide) k₃ port.deviceId.toNat))
      (.decimal (signed_zeroPaddedInt (by decide) (by decide) k₄ port.socketFd.toInt))
    rwa [UInt16.toUInt16_toUInt32] at h
  · intro hheader
    obtain ⟨ws, hwords⟩ := hheader.words
    rw [hspaced.words_eq] at hwords
    exact hhub (List.cons.inj hwords).1

theorem parseVhciStatus_cons (hline : '\n' ∉ line) (text : List Char) :
    parseVhciStatus (line ++ '\n' :: text) = (parseVhciStatusLine line).toList ++ parseVhciStatus text := by
  rw [parseVhciStatus_eq, parseVhciStatus_eq, List.splitOn_append_cons_self_of_not_mem hline, List.filterMap_cons]
  cases parseVhciStatusLine line <;> rfl

theorem parseVhciStatus_line (heol : eol = ['\n'] ∨ eol = ['\r', '\n']) (hline : '\n' ∉ line) (text : List Char) :
    parseVhciStatus (line ++ eol ++ text) = (parseVhciStatusLine line).toList ++ parseVhciStatus text := by
  obtain rfl | rfl := heol
  · rw [List.append_assoc]
    exact parseVhciStatus_cons hline text
  · have hcut : line ++ ['\r', '\n'] ++ text = line ++ ['\r'] ++ '\n' :: text := by simp
    have hreturn : '\n' ∉ line ++ ['\r'] := by simp [hline]
    rw [hcut, parseVhciStatus_cons hreturn, parseVhciStatusLine_carriageReturn]

/-- What is written below the header is read back, whichever way the lines end. -/
theorem parseVhciStatus_written (heol : eol = ['\n'] ∨ eol = ['\r', '\n']) (h : List.Forall₂ Written ls ports) :
    parseVhciStatus ((tableHeader :: ls).flatMap (· ++ eol)) = ports := by
  have hheader : parseVhciStatusLine tableHeader = none := by decide
  rw [List.flatMap_cons, parseVhciStatus_line heol (by decide), hheader, Option.toList_none, List.nil_append]
  induction h with
  | nil => rfl
  | @cons line port ls ports hwritten _ ih =>
    rw [List.flatMap_cons, parseVhciStatus_line heol hwritten.2.1,
      parseVhciStatusLine_eq_some.mpr hwritten.row, ih, Option.toList_some, List.singleton_append]

theorem parseVhciStatus_written_ports :
    List.Forall₂ Written ["hs 0000 000 000 00000000 000000 0-0".toList, "hs  0001 004 003 00010002 000042 1-2 ".toList]
        [⟨"hs".toList, 0, "000".toList, 0, 0, 0, "0-0".toList⟩, ⟨"hs".toList, 1, "004".toList, 3, 0x10002, 42, "1-2".toList⟩] ∧
      parseVhciStatus ((tableHeader :: ["hs 0000 000 000 00000000 000000 0-0".toList,
        "hs  0001 004 003 00010002 000042 1-2 ".toList]).flatMap (· ++ ['\r', '\n'])) =
        [⟨"hs".toList, 0, "000".toList, 0, 0, 0, "0-0".toList⟩, ⟨"hs".toList, 1, "004".toList, 3, 0x10002, 42, "1-2".toList⟩] :=
  have hwritten : List.Forall₂ Written
      ["hs 0000 000 000 00000000 000000 0-0".toList, "hs  0001 004 003 00010002 000042 1-2 ".toList]
      [⟨"hs".toList, 0, "000".toList, 0, 0, 0, "0-0".toList⟩, ⟨"hs".toList, 1, "004".toList, 3, 0x10002, 42, "1-2".toList⟩] :=
    .cons ⟨by decide, by decide, 3, 2, 7, 5, words_eq_iff.mp (by decide)⟩
      (.cons ⟨by decide, by decide, 3, 2, 3, 4, words_eq_iff.mp (by decide)⟩ .nil)
  ⟨hwritten, parseVhciStatus_written (.inr rfl) hwritten⟩

end

/-! ## The attach request -/

/-- The four numbers of the attach file, as a reader of decimal numbers finds them. -/
def AttachLine (line : List Char) (request : LinuxVhciAttachRequest) : Prop :=
  ∃ port socketFd deviceId speed, Spaced isWhitespace [port, socketFd, deviceId, speed] line ∧
    fromStrRadix 10 (2 ^ 16) port = .ok request.port.toNat ∧
    fromStrRadixSigned 10 (2 ^ 31) socketFd = .ok request.socketFd.toInt ∧
    fromStrRadix 10 (2 ^ 32) deviceId = .ok request.deviceId.toNat ∧
    fromStrRadix 10 (2 ^ 32) speed = .ok request.speed.toUInt32.toNat

/-- The ports that the first status file on the system lists; none where it cannot be read. -/
def TableOf (files : Files) (statusPaths : List Path) (ports : List LinuxVhciPort) : Prop :=
  ∃ path, statusPaths.find? files.isPresent = some path ∧
    match files.readToString path with
    | none => ports = []
    | some text => ∃ ls, (ls ≠ [] ∧ (∀ line ∈ ls, '\n' ∉ line) ∧ text = ['\n'].intercalate ls) ∧ Listed ls ports

def PreparedFor (ports : List LinuxVhciPort) (socketFd : Int32) (deviceId : UInt32) (request : LinuxVhciAttachRequest) :
    Prop :=
  ∃ before port after, ports = before ++ port :: after ∧ (∀ earlier ∈ before, ¬ earlier.isFree) ∧ port.isFree ∧
    request = { port := port.port, socketFd, deviceId, speed := if port.hub = "ss".toList then .super else .high }

theorem isWhitespace_digit {c : Char} {radix d : Nat} (h : toDigit radix c = some d) : isWhitespace c = false := by
  have hbounds : 48 ≤ c.toNat ∧ c.toNat ≤ 122 := by
    have hvalue := (toDigit_eq_some.mp h).1
    unfold digitValue at hvalue
    split at hvalue
    · rename_i hc
      exact ⟨hc.1, Nat.le_trans hc.2 (by decide)⟩
    · split at hvalue
      · rename_i hc
        exact ⟨Nat.le_trans (by decide) hc.1, hc.2⟩
      · split at hvalue
        · rename_i hc
          exact ⟨Nat.le_trans (by decide) hc.1, Nat.le_trans hc.2 (by decide)⟩
        · cases hvalue
  simp only [isWhitespace, Bool.or_eq_false_iff, Bool.and_eq_false_iff, decide_eq_false_iff_not, beq_eq_false_iff_ne]
  omega

theorem isWord_zeroPadded (k n : Nat) : IsWord isWhitespace (zeroPadded k 10 n) := by
  refine ⟨zeroPadded_ne_nil k, fun c hc => ?_⟩
  obtain ⟨d, hd⟩ := digit_of_mem_zeroPadded (by decide) (by decide) hc
  exact isWhitespace_digit hd

theorem isWord_zeroPaddedInt (k : Nat) (z : Int) : IsWord isWhitespace (zeroPaddedInt k 10 z) := by
  cases z with
  | ofNat n => exact isWord_zeroPadded k n
  | negSucc n =>
    refine ⟨List.cons_ne_nil _ _, fun c hc => ?_⟩
    obtain rfl | hc := List.mem_cons.mp hc
    · decide
    · exact (isWord_zeroPadded k (n + 1)).2 c hc

theorem toSysfsLine_attachLine (request : LinuxVhciAttachRequest) : AttachLine request.toSysfsLine request := by
  refine ⟨_, _, _, _, ?_, fromStrRadix_zeroPadded (by decide) (by decide) request.port.toNat_lt 0,
    fromStrRadixSigned_zeroPaddedInt (by decide) (by decide) request.socketFd.le_toInt request.socketFd.toInt_lt
      (by decide) 0,
    fromStrRadix_zeroPadded (by decide) (by decide) request.deviceId.toNat_lt 0,
    fromStrRadix_zeroPadded (by decide) (by decide) request.speed.toUInt32.toNat_lt 0⟩
  simp only [LinuxVhciAttachRequest.toSysfsLine, List.append_assoc, List.cons_append]
  exact .cons (isWord_zeroPadded 0 _) (by decide) (.cons (isWord_zeroPaddedInt 0 _) (by decide)
    (.cons (isWord_zeroPadded 0 _) (by decide) (.last (isWord_zeroPadded 0 _))))

theorem probePaths_tableOf {files : Files} {modulePath : Path} {statusPaths : List Path}
    (h : (LinuxVhciStatus.probePaths files modulePath statusPaths).isReady) :
    TableOf files statusPaths (LinuxVhciStatus.probePaths files modulePath statusPaths).ports := by
  simp only [LinuxVhciStatus.isReady, Bool.and_eq_true] at h
  obtain ⟨path, hpath⟩ := Option.isSome_iff_exists.mp h.1.2
  refine ⟨path, hpath, ?_⟩
  have hfind : statusPaths.find? files.isPresent = some path := hpath
  simp only [LinuxVhciStatus.probePaths, hfind, Option.bind_some]
  cases hread : files.readToString path with
  | none => rfl
  | some text => exact parseVhciStatus_eq_iff.mp rfl

theorem prepareLinuxAttachDryRun_cases (status : LinuxVhciStatus) (socketFd : Int32) (deviceId : UInt32) :
    match (VhciBackend.linux status).prepareLinuxAttachDryRun socketFd deviceId with
    | none => ∀ port ∈ status.ports, ¬ port.isFree
    | some request => PreparedFor status.ports socketFd deviceId request := by
  cases hfree : status.firstFreePort with
  | none =>
    simp only [VhciBackend.prepareLinuxAttachDryRun, hfree, Option.map_none]
    exact List.find?_eq_none.mp hfree
  | some port =>
    simp only [VhciBackend.prepareLinuxAttachDryRun, hfree, Option.map_some]
    obtain ⟨hport, before, after, hports, hbefore⟩ := List.find?_eq_some_iff_append.mp hfree
    exact ⟨before, port, after, hports, fun earlier h => by simpa using hbefore earlier h, hport, rfl⟩

/-- Where the client starts with the Linux backend, the request it prepares is that of the first free row of the
status file, and the attach line spells it; where it prepares none, no row is free. -/
theorem attach_prepared {files : Files} {backend : VhciBackend} (h : VhciAdapter.new files .linux = .ok backend) :
    ∃ ports, TableOf files linuxStatusPaths ports ∧ ∀ socketFd deviceId,
      match backend.prepareLinuxAttachDryRun socketFd deviceId with
      | none => ∀ port ∈ ports, ¬ port.isFree
      | some request => PreparedFor ports socketFd deviceId request ∧ AttachLine request.toSysfsLine request := by
  simp only [VhciAdapter.new] at h
  split at h
  · rename_i hready
    obtain rfl := Except.ok.inj h
    refine ⟨_, probePaths_tableOf hready, fun socketFd deviceId => ?_⟩
    have hcases := prepareLinuxAttachDryRun_cases (LinuxVhciStatus.probeDefault files) socketFd deviceId
    cases hrun : (VhciBackend.linux (LinuxVhciStatus.probeDefault files)).prepareLinuxAttachDryRun socketFd deviceId with
    | none =>
      rw [hrun] at hcases
      exact hcases
    | some request =>
      rw [hrun] at hcases
      exact ⟨hcases, toSysfsLine_attachLine request⟩
  · cases h

theorem attach_prepared_ready : ∃ ports,
    TableOf ⟨fun _ => true, fun _ => some "ss 0008 000 000 00000000 000000 0-0".toList⟩ linuxStatusPaths ports ∧
      ∀ socketFd deviceId,
        match (VhciBackend.linux (.probeDefault
            ⟨fun _ => true, fun _ => some "ss 0008 000 000 00000000 000000 0-0".toList⟩)).prepareLinuxAttachDryRun
            socketFd deviceId with
        | none => ∀ port ∈ ports, ¬ port.isFree
        | some request => PreparedFor ports socketFd deviceId request ∧ AttachLine request.toSysfsLine request :=
  @attach_prepared ⟨fun _ => true, fun _ => some "ss 0008 000 000 00000000 000000 0-0".toList⟩ _ rfl

end WhyUsb
