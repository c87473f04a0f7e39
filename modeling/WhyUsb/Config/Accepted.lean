import WhyUsb.Config.Values

/-!
# Which settings are accepted

The attach selector, the mock keys and the outcome rules as grammars, and that
their readers accept exactly these. The numbers that are read as hexadecimal
first: what is written in hexadecimal is read back, what is written in decimal
only where it has one digit, or too many for the type.
-/

namespace WhyUsb

open Numeral Words

/-! ## Numbers -/

def HexBody (value body : List Char) : Prop :=
  (∀ rest, body ≠ '0' :: 'x' :: rest) ∧ ∃ k, value = (List.replicate k ['0', 'x']).flatten ++ body

/-- Hexadecimal where that fits, and decimal otherwise. -/
inductive HexOrDecimal (bits : Nat) : List Char → Nat → Prop
  | hex {value body n} : HexBody value body → Unsigned 16 body n → n < 2 ^ bits → HexOrDecimal bits value n
  | decimal {value n} : (∀ body m, HexBody value body → Unsigned 16 body m → 2 ^ bits ≤ m) → Unsigned 10 value n →
    n < 2 ^ bits → HexOrDecimal bits value n

section
variable {bits n : Nat} {value body : List Char}

theorem trimHexPrefix_of_ne (h : ∀ rest, value ≠ '0' :: 'x' :: rest) : trimHexPrefix value = value := by
  unfold trimHexPrefix
  split
  · exact absurd rfl (h _)
  · rfl

theorem trimHexPrefix_eq_iff : trimHexPrefix value = body ↔ HexBody value body := by
  constructor
  · intro h
    induction value using trimHexPrefix.induct generalizing body with
    | case1 value ih =>
      rw [trimHexPrefix] at h
      obtain ⟨hbody, k, rfl⟩ := ih h
      exact ⟨hbody, k + 1, rfl⟩
    | case2 value hvalue =>
      rw [trimHexPrefix_of_ne hvalue] at h
      exact ⟨h ▸ hvalue, 0, h⟩
  · rintro ⟨hbody, k, rfl⟩
    induction k with
    | zero => exact trimHexPrefix_of_ne hbody
    | succ k ih => exact ih

theorem parseHexOrDecimal_eq_ok : parseHexOrDecimal bits value = .ok n ↔ HexOrDecimal bits value n := by
  have hpositive : 0 < 2 ^ bits := Nat.two_pow_pos bits
  have hbody : HexBody value (trimHexPrefix value) := trimHexPrefix_eq_iff.mp rfl
  rw [parseHexOrDecimal]
  cases hhex : fromStrRadix 16 (2 ^ bits) (trimHexPrefix value) with
  | ok m =>
    obtain ⟨hunsigned, hm⟩ := (fromStrRadix_eq_ok (by decide) hpositive).mp hhex
    constructor
    · intro h
      obtain rfl := Except.ok.inj h
      exact .hex hbody hunsigned hm
    · intro h
      cases h with
      | hex hbody' hunsigned' hn =>
        rw [← trimHexPrefix_eq_iff.mpr hbody'] at hunsigned'
        have hsame := hhex.symm.trans ((fromStrRadix_eq_ok (by decide) hpositive).mpr ⟨hunsigned', hn⟩)
        rw [Except.ok.inj hsame]
      | decimal hno _ _ => exact absurd hm (Nat.not_lt.mpr (hno _ _ hbody hunsigned))
  | error e =>
    have hno : ∀ body m, HexBody value body → Unsigned 16 body m → 2 ^ bits ≤ m := by
      intro body m hbody' hunsigned
      refine Nat.not_lt.mp fun hm => ?_
      rw [← trimHexPrefix_eq_iff.mpr hbody'] at hunsigned
      have hok := (fromStrRadix_eq_ok (by decide) hpositive).mpr ⟨hunsigned, hm⟩
      rw [hhex] at hok
      cases hok
    rw [fromStrRadix_eq_ok (by decide) hpositive]
    constructor
    · rintro ⟨hunsigned, hn⟩
      exact .decimal hno hunsigned hn
    · intro h
      cases h with
      | hex hbody' hunsigned hn => exact absurd hn (Nat.not_lt.mpr (hno _ _ hbody' hunsigned))
      | decimal _ hunsigned hn => exact ⟨hunsigned, hn⟩

theorem mapError_eq_ok {α ε ε' : Type} {r : Except ε α} {f : ε → ε'} {a : α} : r.mapError f = .ok a ↔ r = .ok a := by
  cases r with
  | error e => exact iff_of_false nofun nofun
  | ok b => exact ⟨fun h => by rw [Except.ok.inj h], fun h => by rw [Except.ok.inj h]; rfl⟩

theorem parseU16_eq_ok {field : String} {m : UInt16} :
    parseU16 (some value) field = .ok m ↔ HexOrDecimal 16 value m.toNat := by
  rw [parseU16, mapError_eq_ok, map_eq_ok]
  constructor
  · rintro ⟨k, hk, rfl⟩
    have h := parseHexOrDecimal_eq_ok.mp hk
    have hlt : k < 2 ^ 16 := by cases h <;> assumption
    rwa [UInt16.toNat_ofNat_of_lt' hlt]
  · intro h
    exact ⟨m.toNat, parseHexOrDecimal_eq_ok.mpr h, UInt16.ofNat_toNat.symm⟩

theorem parseU8_eq_ok {field : String} {m : UInt8} : parseU8 value field = .ok m ↔ HexOrDecimal 8 value m.toNat := by
  rw [parseU8, mapError_eq_ok, map_eq_ok]
  constructor
  · rintro ⟨k, hk, rfl⟩
    have h := parseHexOrDecimal_eq_ok.mp hk
    have hlt : k < 2 ^ 8 := by cases h <;> assumption
    rwa [UInt8.toNat_ofNat_of_lt' hlt]
  · intro h
    exact ⟨m.toNat, parseHexOrDecimal_eq_ok.mpr h, UInt8.ofNat_toNat.symm⟩

end

/-! ## The attach selector -/

inductive AttachFields (flags : Option (List Char)) : List (List Char) → DeviceAttachRequest → Prop
  | mk {vendor product rest} {request : DeviceAttachRequest} : HexOrDecimal 16 vendor request.vendorId.toNat →
    HexOrDecimal 16 product request.productId.toNat → rest.length ≤ 2 →
    HexOrDecimal 8 (rest[0]?.getD ['0']) request.busId.toNat →
    HexOrDecimal 8 (rest[1]?.getD ['0']) request.portId.toNat →
    (flags = none ∧ request.flags = 0 ∨ ∃ value, flags = some value ∧ HexOrDecimal 16 value request.flags.toNat) →
    AttachFields flags (vendor :: product :: rest) request

section
variable {flags : Option (List Char)} {value : List Char} {request : DeviceAttachRequest}

theorem parseAttachFlags_eq_ok {m : UInt16} : parseAttachFlags flags = .ok m ↔
    flags = none ∧ m = 0 ∨ ∃ value, flags = some value ∧ HexOrDecimal 16 value m.toNat := by
  cases flags with
  | none => simp [parseAttachFlags, eq_comm]
  | some value => simp [parseAttachFlags, parseU16_eq_ok]

theorem attachFields_of_ok (h : parseAttachDevice flags value = .ok request) :
    AttachFields flags (value.splitOn ':') request := by
  rw [parseAttachDevice] at h
  generalize value.splitOn ':' = parts at h ⊢
  obtain ⟨vendorId, hvendor, h⟩ := bind_eq_ok.mp h
  obtain ⟨productId, hproduct, h⟩ := bind_eq_ok.mp h
  obtain ⟨busId, hbus, h⟩ := bind_eq_ok.mp h
  obtain ⟨portId, hport, h⟩ := bind_eq_ok.mp h
  split at h
  · cases h
  · rename_i hmany
    obtain ⟨flagBits, hflags, h⟩ := bind_eq_ok.mp h
    obtain rfl := Except.ok.inj h
    match parts with
    | [] => cases hvendor
    | [_] => cases hproduct
    | vendor :: product :: rest =>
      have hrest : rest.length ≤ 2 := by
        refine Nat.not_lt.mp fun hlong => hmany ?_
        rw [List.getElem?_cons_succ, List.getElem?_cons_succ, List.getElem?_eq_getElem hlong]
        rfl
      exact .mk (parseU16_eq_ok.mp hvendor) (parseU16_eq_ok.mp hproduct) hrest (parseU8_eq_ok.mp hbus)
        (parseU8_eq_ok.mp hport) (parseAttachFlags_eq_ok.mp hflags)

theorem ok_of_attachFields (h : AttachFields flags (value.splitOn ':') request) :
    parseAttachDevice flags value = .ok request := by
  rw [parseAttachDevice]
  generalize value.splitOn ':' = parts at h ⊢
  cases h with
  | @mk vendor product rest _ hvendor hproduct hrest hbus hport hflags =>
    have hmany : ¬ (rest[2]?).isSome := by
      rw [List.getElem?_eq_none hrest]
      exact Bool.false_ne_true
    refine bind_eq_ok.mpr ⟨_, parseU16_eq_ok.mpr hvendor, bind_eq_ok.mpr ⟨_, parseU16_eq_ok.mpr hproduct,
      bind_eq_ok.mpr ⟨_, parseU8_eq_ok.mpr hbus, bind_eq_ok.mpr ⟨_, parseU8_eq_ok.mpr hport, ?_⟩⟩⟩⟩
    exact (if_neg hmany).trans (bind_eq_ok.mpr ⟨_, parseAttachFlags_eq_ok.mpr hflags, rfl⟩)

/-- A selector has two to four fields, and the flags are their own setting. -/
theorem parseAttachDevice_eq_ok : parseAttachDevice flags value = .ok request ↔
    ∃ fields, (fields ≠ [] ∧ (∀ field ∈ fields, ':' ∉ field) ∧ value = [':'].intercalate fields) ∧
      AttachFields flags fields request := by
  constructor
  · intro h
    exact ⟨_, splitOn_eq_iff.mp rfl, attachFields_of_ok h⟩
  · rintro ⟨fields, hfields, h⟩
    rw [← splitOn_eq_iff.mpr hfields] at h
    exact ok_of_attachFields h

end

/-! ## Hexadecimal and decimal -/

section
variable {k n : Nat}

theorem not_mem_zeroPadded_x {radix : Nat} (hradix : 1 < radix) (hle : radix ≤ 16) (k n : Nat) :
    'x' ∉ zeroPadded k radix n := by
  intro hx
  obtain ⟨d, hd⟩ := digit_of_mem_zeroPadded hradix hle hx
  obtain ⟨hvalue, hlt⟩ := toDigit_eq_some.mp hd
  have hx : digitValue 'x' = some 33 := by decide
  obtain rfl := Option.some.inj (hx.symm.trans hvalue)
  omega

def hexText (j k n : Nat) : List Char := (List.replicate j ['0', 'x']).flatten ++ zeroPadded k 16 n

theorem parseHexOrDecimal_hexText {bits : Nat} (hn : n < 2 ^ bits) (j k : Nat) :
    parseHexOrDecimal bits (hexText j k n) = .ok n := by
  refine parseHexOrDecimal_eq_ok.mpr (.hex ⟨fun rest hrest => ?_, j, rfl⟩
    (.plain (reads_zeroPadded (by decide) (by decide) k n)) hn)
  refine @not_mem_zeroPadded_x 16 (by decide) (by decide) k n ?_
  rw [hrest]
  exact List.mem_cons_of_mem _ List.mem_cons_self

/-- Written in decimal, a number is read as itself where it has one digit or more than the hexadecimal field has room
for, and as a greater number otherwise. -/
theorem parseHexOrDecimal_decimal (hk : 0 < k) (hn : n < 16 ^ k) :
    ∃ m, parseHexOrDecimal (4 * k) (Nat.toDigits 10 n) = .ok m ∧ n ≤ m ∧ (m = n ↔ n < 10 ∨ 10 ^ k ≤ n) := by
  have hbound : (2 : Nat) ^ (4 * k) = 16 ^ k := by rw [Nat.pow_mul]
  have hprefix : trimHexPrefix (Nat.toDigits 10 n) = Nat.toDigits 10 n := by
    refine trimHexPrefix_of_ne fun rest hrest => @not_mem_zeroPadded_x 10 (by decide) (by decide) 0 n ?_
    rw [zeroPadded, List.replicate_zero, List.nil_append, hrest]
    exact List.mem_cons_of_mem _ List.mem_cons_self
  have hdecimal : fromStrRadix 10 (2 ^ (4 * k)) (Nat.toDigits 10 n) = .ok n :=
    fromStrRadix_zeroPadded (by decide) (by decide) (by rwa [hbound]) 0
  rw [parseHexOrDecimal, hprefix, hdecimal, hbound]
  obtain ⟨hsmall, hread⟩ | ⟨hlow, hhigh, m, hm, hread⟩ | ⟨hlong, hread⟩ :=
    @fromStrRadix_toDigits 10 16 (by decide) (by decide) (by decide) k hk n
  · rw [hread]
    exact ⟨n, rfl, Nat.le_refl n, iff_of_true rfl (.inl hsmall)⟩
  · rw [hread]
    refine ⟨m, rfl, hm.le, iff_of_false hm.ne' ?_⟩
    rintro (h | h)
    · exact absurd hlow (Nat.not_le.mpr h)
    · exact absurd hhigh (Nat.not_lt.mpr h)
  · rw [hread]
    exact ⟨n, rfl, Nat.le_refl n, iff_of_true rfl (.inr hlong)⟩

/-- What the two readers of the selector make of a number that is written in hexadecimal, and of one in decimal. -/
theorem numbers_written (field : String) (j k : Nat) :
    (∀ n : UInt16, parseU16 (some (hexText j k n.toNat)) field = .ok n ∧
      ∃ m, parseU16 (some (Nat.toDigits 10 n.toNat)) field = .ok m ∧ n ≤ m ∧ (m = n ↔ n < 10 ∨ 10000 ≤ n)) ∧
    (∀ n : UInt8, parseU8 (hexText j k n.toNat) field = .ok n ∧
      ∃ m, parseU8 (Nat.toDigits 10 n.toNat) field = .ok m ∧ n ≤ m ∧ (m = n ↔ n < 10 ∨ 100 ≤ n)) := by
  constructor
  · intro n
    refine ⟨parseU16_eq_ok.mpr (parseHexOrDecimal_eq_ok.mp (parseHexOrDecimal_hexText n.toNat_lt j k)), ?_⟩
    obtain ⟨m, hread, hle, hsame⟩ := @parseHexOrDecimal_decimal 4 n.toNat (by decide) n.toNat_lt
    have hrule := parseHexOrDecimal_eq_ok.mp hread
    have hm : (UInt16.ofNat m).toNat = m := UInt16.toNat_ofNat_of_lt' (by cases hrule <;> assumption)
    refine ⟨UInt16.ofNat m, parseU16_eq_ok.mpr (by rwa [hm]), ?_, ?_⟩
    · rw [UInt16.le_iff_toNat_le, hm]
      exact hle
    · rw [← UInt16.toNat_inj, hm, hsame]
      exact Iff.rfl
  · intro n
    refine ⟨parseU8_eq_ok.mpr (parseHexOrDecimal_eq_ok.mp (parseHexOrDecimal_hexText n.toNat_lt j k)), ?_⟩
    obtain ⟨m, hread, hle, hsame⟩ := @parseHexOrDecimal_decimal 2 n.toNat (by decide) n.toNat_lt
    have hrule := parseHexOrDecimal_eq_ok.mp hread
    have hm : (UInt8.ofNat m).toNat = m := UInt8.toNat_ofNat_of_lt' (by cases hrule <;> assumption)
    refine ⟨UInt8.ofNat m, parseU8_eq_ok.mpr (by rwa [hm]), ?_, ?_⟩
    · rw [UInt8.le_iff_toNat_le, hm]
      exact hle
    · rw [← UInt8.toNat_inj, hm, hsame]
      exact Iff.rfl

end

/-! ## Lists -/

section
variable {α : Type} {parse : List Char → Except String α} {es : List (List Char)} {as : List α}

theorem mapM_eq_ok : es.mapM parse = .ok as ↔ List.Forall₂ (fun e a => parse e = .ok a) es as := by
  induction es generalizing as with
  | nil =>
    constructor
    · intro h
      obtain rfl := Except.ok.inj h
      exact .nil
    · intro h
      cases h
      rfl
  | cons e es ih =>
    rw [List.mapM_cons]
    constructor
    · intro h
      obtain ⟨a, ha, h⟩ := bind_eq_ok.mp h
      obtain ⟨rest, hrest, h⟩ := bind_eq_ok.mp h
      obtain rfl := Except.ok.inj h
      exact .cons ha (ih.mp hrest)
    · intro h
      cases h with
      | cons ha hrest => exact bind_eq_ok.mpr ⟨_, ha, bind_eq_ok.mpr ⟨_, ih.mpr hrest, rfl⟩⟩

/-- The entries between commas; blank ones are passed over. -/
def ListedEntries (value : List Char) (es : List (List Char)) : Prop :=
  ∃ pieces, (pieces ≠ [] ∧ (∀ piece ∈ pieces, ',' ∉ piece) ∧ value = [','].intercalate pieces) ∧
    Listing isWhitespace pieces es

theorem mapM_entries_eq_ok {value : List Char} {R : List Char → α → Prop} (hparse : ∀ e a, parse e = .ok a ↔ R e a) :
    (Words.entries isWhitespace ',' value).mapM parse = .ok as ↔ ∃ es, ListedEntries value es ∧ List.Forall₂ R es as := by
  have hsame : (fun e a => parse e = .ok a) = R := funext fun e => funext fun a => propext (hparse e a)
  rw [mapM_eq_ok, hsame]
  constructor
  · intro h
    exact ⟨_, entries_eq_iff.mp rfl, h⟩
  · rintro ⟨es, hentries, h⟩
    rwa [entries_eq_iff.mpr hentries]

end

/-! ## Mock keys -/

inductive KeyName : List Char → UInt8 → Prop
  | enter : KeyName "enter".toList 0x28
  | return : KeyName "return".toList 0x28
  | escape : KeyName "escape".toList 0x29
  | esc : KeyName "esc".toList 0x29
  | backspace : KeyName "backspace".toList 0x2a
  | tab : KeyName "tab".toList 0x2b
  | space : KeyName "space".toList 0x2c

/-- A name, a letter by its place in the alphabet, or a number. -/
inductive KeyText : List Char → UInt8 → Prop
  | named {value name code} : value.map Char.toLower = name → KeyName name code → KeyText value code
  | letter {value c} : value.map Char.toLower = [c] → c.isLower →
    KeyText value (keyA + (UInt8.ofNat c.toNat - UInt8.ofNat 'a'.toNat))
  | number {value code} : (∀ code, ¬ KeyName (value.map Char.toLower) code) →
    (∀ c, value.map Char.toLower = [c] → ¬ c.isLower) → HexOrDecimal 8 value code.toNat → KeyText value code

section
variable {value : List Char} {code : UInt8} {codes : List UInt8}

theorem namedKeycode_eq_some : namedKeycode value = some code ↔ KeyName value code := by
  constructor
  · intro h
    unfold namedKeycode at h
    split at h
    · rename_i hname
      obtain rfl := Option.some.inj h
      obtain rfl | rfl := hname
      · exact .enter
      · exact .return
    split at h
    · rename_i hname
      obtain rfl := Option.some.inj h
      obtain rfl | rfl := hname
      · exact .escape
      · exact .esc
    split at h
    · rename_i hname
      obtain rfl := Option.some.inj h
      exact hname ▸ .backspace
    split at h
    · rename_i hname
      obtain rfl := Option.some.inj h
      exact hname ▸ .tab
    split at h
    · rename_i hname
      obtain rfl := Option.some.inj h
      exact hname ▸ .space
    · cases h
  · intro h
    cases h <;> decide

theorem KeyName.not_letter {c : Char} : ¬ KeyName [c] code := by
  generalize hname : [c] = name
  intro h
  cases h <;> cases hname

theorem parseHidKeycode_eq_ok : parseHidKeycode value = .ok code ↔ KeyText value code := by
  rw [parseHidKeycode]
  cases hnamed : namedKeycode (value.map Char.toLower) with
  | some named =>
    have hname := namedKeycode_eq_some.mp hnamed
    constructor
    · intro h
      obtain rfl := Except.ok.inj h
      exact .named rfl hname
    · intro h
      cases h with
      | named hlower hname' =>
        rw [hlower, namedKeycode_eq_some.mpr hname'] at hnamed
        rw [Option.some.inj hnamed]
      | letter hlower _ => exact absurd (hlower ▸ hname) KeyName.not_letter
      | number hno _ _ => exact absurd hname (hno named)
  | none =>
    have hno : ∀ code, ¬ KeyName (value.map Char.toLower) code := by
      intro code hname
      rw [namedKeycode_eq_some.mpr hname] at hnamed
      cases hnamed
    have hnumber : (∀ c, value.map Char.toLower = [c] → ¬ c.isLower) →
        (parseU8 value "HID keycode" = .ok code ↔ KeyText value code) := by
      intro hletter
      rw [parseU8_eq_ok]
      constructor
      · exact .number hno hletter
      · intro h
        cases h with
        | named hlower hname => exact absurd (hlower ▸ hname) (hno code)
        | letter hlower hc => exact absurd hc (hletter _ hlower)
        | number _ _ h => exact h
    simp only
    split
    · rename_i c hlower
      by_cases hc : c.isLower
      · rw [if_pos hc]
        constructor
        · intro h
          obtain rfl := Except.ok.inj h
          exact .letter hlower hc
        · intro h
          cases h with
          | named hlower' hname => exact absurd (hlower' ▸ hname) (hno code)
          | letter hlower' _ =>
            obtain rfl := (List.cons.inj (hlower.symm.trans hlower')).1
            rfl
          | number _ hletter _ => exact absurd hc (hletter c hlower)
      · rw [if_neg hc]
        refine hnumber fun c' hc' => ?_
        rwa [← (List.cons.inj (hlower.symm.trans hc')).1]
    · rename_i hmany
      exact hnumber fun c hc => absurd hc (hmany c)

theorem parseHidKeycodes_eq_ok : parseHidKeycodes value = .ok codes ↔
    codes ≠ [] ∧ ∃ es, ListedEntries value es ∧ List.Forall₂ KeyText es codes := by
  rw [← mapM_entries_eq_ok fun _ _ => parseHidKeycode_eq_ok, parseHidKeycodes]
  constructor
  · intro h
    obtain ⟨codes', hcodes, h⟩ := bind_eq_ok.mp h
    split at h
    · cases h
    · rename_i hempty
      obtain rfl := Except.ok.inj h
      exact ⟨fun hnil => hempty (List.isEmpty_iff.mpr hnil), hcodes⟩
  · rintro ⟨hne, hcodes⟩
    refine bind_eq_ok.mpr ⟨codes, hcodes, if_neg ?_⟩
    rwa [List.isEmpty_iff]

end

/-! ## Outcome rules -/

inductive StatusName : List Char → TransferStatus → Prop
  | ok : StatusName "ok".toList .ok
  | failed : StatusName "failed".toList .failed
  | fail : StatusName "fail".toList .failed
  | error : StatusName "error".toList .failed
  | cancelled : StatusName "cancelled".toList .cancelled
  | canceled : StatusName "canceled".toList .cancelled
  | cancel : StatusName "cancel".toList .cancelled
  | timeout : StatusName "timeout".toList .timeout
  | stall : StatusName "stall".toList .stall
  | stalled : StatusName "stalled".toList .stall
  | reset : StatusName "reset".toList .reset

/-- In either case of letters. -/
inductive OutcomeText : List Char → MockTransferOutcome → Prop
  | short {value len} : value.map Char.toLower = "short:".toList ++ len → ∀ {n}, Unsigned 10 len n → n < 2 ^ 64 →
    OutcomeText value (.shortPacket n)
  | status {value name status} : value.map Char.toLower = name → StatusName name status →
    OutcomeText value (.status status)

/-- The request id stands before the first equals sign. -/
inductive RuleText : List Char → MockTransferOutcomeRule → Prop
  | mk {left right id outcome} {rule : MockTransferOutcomeRule} : '=' ∉ left → Trimmed isWhitespace id left →
    Trimmed isWhitespace outcome right → Unsigned 10 id rule.requestId.toNat → OutcomeText outcome rule.outcome →
    RuleText (left ++ '=' :: right) rule

section
variable {value : List Char} {outcome : MockTransferOutcome} {rule : MockTransferOutcomeRule}
  {rules : List MockTransferOutcomeRule}

theorem namedStatus_eq_some {status : TransferStatus} : namedStatus value = some status ↔ StatusName value status := by
  constructor
  · intro h
    unfold namedStatus at h
    split at h
    · rename_i hname
      obtain rfl := Option.some.inj h
      exact hname ▸ .ok
    split at h
    · rename_i hname
      obtain rfl := Option.some.inj h
      obtain rfl | rfl | rfl := hname
      · exact .failed
      · exact .fail
      · exact .error
    split at h
    · rename_i hname
      obtain rfl := Option.some.inj h
      obtain rfl | rfl | rfl := hname
      · exact .cancelled
      · exact .canceled
      · exact .cancel
    split at h
    · rename_i hname
      obtain rfl := Option.some.inj h
      exact hname ▸ .timeout
    split at h
    · rename_i hname
      obtain rfl := Option.some.inj h
      obtain rfl | rfl := hname
      · exact .stall
      · exact .stalled
    split at h
    · rename_i hname
      obtain rfl := Option.some.inj h
      exact hname ▸ .reset
    · cases h
  · intro h
    cases h <;> decide

theorem StatusName.not_short {name : List Char} {status : TransferStatus} (h : StatusName name status) :
    ¬ "short:".toList.isPrefixOf name := by
  cases h <;> decide

theorem parseMockTransferOutcomeValue_eq_ok : parseMockTransferOutcomeValue value = .ok outcome ↔ OutcomeText value outcome := by
  rw [parseMockTransferOutcomeValue]
  by_cases hshort : "short:".toList.isPrefixOf (value.map Char.toLower)
  · simp only [if_pos hshort]
    obtain ⟨len, hlen⟩ := List.isPrefixOf_iff_prefix.mp hshort
    have hdrop : (value.map Char.toLower).drop 6 = len := by
      rw [← hlen]
      rfl
    rw [hdrop, mapError_eq_ok, map_eq_ok]
    constructor
    · rintro ⟨n, hn, rfl⟩
      obtain ⟨hunsigned, hlt⟩ := (fromStrRadix_eq_ok (by decide) (by decide)).mp hn
      exact .short hlen.symm hunsigned hlt
    · intro h
      cases h with
      | short hlower hunsigned hlt =>
        have hsame := List.append_cancel_left (hlen.trans hlower)
        rw [hsame]
        exact ⟨_, (fromStrRadix_eq_ok (by decide) (by decide)).mpr ⟨hunsigned, hlt⟩, rfl⟩
      | status hname hstatus => exact absurd (hname ▸ hshort) hstatus.not_short
  · simp only [if_neg hshort]
    constructor
    · intro h
      split at h
      · rename_i status hstatus
        obtain rfl := Except.ok.inj h
        exact .status rfl (namedStatus_eq_some.mp hstatus)
      · cases h
    · intro h
      cases h with
      | short hlower _ _ => exact absurd (List.isPrefixOf_iff_prefix.mpr ⟨_, hlower.symm⟩) hshort
      | status hname hstatus => rw [hname, namedStatus_eq_some.mpr hstatus]

theorem splitOnce_eq_some {left right : List Char} :
    splitOnce value = some (left, right) ↔ '=' ∉ left ∧ value = left ++ '=' :: right := by
  have hsplit : value.takeWhile (· ≠ '=') ++ value.dropWhile (· ≠ '=') = value := List.takeWhile_append_dropWhile
  constructor
  · intro h
    unfold splitOnce at h
    split at h
    · cases h
    · rename_i c rest hdrop
      obtain ⟨rfl, rfl⟩ := Prod.mk.inj (Option.some.inj h)
      have hc : c = '=' := by
        have hhead := List.head?_dropWhile_not (· ≠ '=') value
        rw [hdrop] at hhead
        simpa using hhead
      refine ⟨fun hmem => ?_, ?_⟩
      · simpa using List.mem_takeWhile_imp hmem
      · rw [hc] at hdrop
        rw [← hdrop, hsplit]
  · rintro ⟨hleft, rfl⟩
    have hne : ∀ c ∈ left, decide (c ≠ '=') = true := fun c hc => decide_eq_true fun h => hleft (h ▸ hc)
    rw [splitOnce, List.dropWhile_append_of_pos hne, List.takeWhile_append_of_pos hne]
    simp

theorem parseMockTransferOutcome_eq_ok : parseMockTransferOutcome value = .ok rule ↔ RuleText value rule := by
  rw [parseMockTransferOutcome]
  constructor
  · intro h
    split at h
    · cases h
    · rename_i left right hsplit
      obtain ⟨hleft, rfl⟩ := splitOnce_eq_some.mp hsplit
      obtain ⟨requestId, hid, h⟩ := bind_eq_ok.mp h
      obtain ⟨outcome, houtcome, h⟩ := bind_eq_ok.mp h
      obtain rfl := Except.ok.inj h
      obtain ⟨n, hn, rfl⟩ := map_eq_ok.mp (mapError_eq_ok.mp hid)
      obtain ⟨hunsigned, hlt⟩ := (fromStrRadix_eq_ok (by decide) (by decide)).mp hn
      refine .mk hleft (trim_eq_iff.mp rfl) (trim_eq_iff.mp rfl) ?_ (parseMockTransferOutcomeValue_eq_ok.mp houtcome)
      rwa [UInt64.toNat_ofNat_of_lt' hlt]
  · intro h
    cases h with
    | @mk left right id outcome _ hleft hid houtcome hunsigned htext =>
      have hread := (fromStrRadix_eq_ok (by decide) (by decide)).mpr ⟨hunsigned, rule.requestId.toNat_lt⟩
      rw [splitOnce_eq_some.mpr ⟨hleft, rfl⟩]
      refine bind_eq_ok.mpr ⟨rule.requestId, ?_, bind_eq_ok.mpr ⟨rule.outcome, ?_, rfl⟩⟩
      · rw [trim_eq_iff.mpr hid]
        exact mapError_eq_ok.mpr (map_eq_ok.mpr ⟨_, hread, UInt64.ofNat_toNat.symm⟩)
      · rw [trim_eq_iff.mpr houtcome]
        exact parseMockTransferOutcomeValue_eq_ok.mpr htext

/-- The rules that the daemon's sessions are given are those that the setting lists, in order. -/
theorem parseMockTransferOutcomes_eq_ok : parseMockTransferOutcomes value = .ok rules ↔
    ∃ es, ListedEntries value es ∧ List.Forall₂ RuleText es rules :=
  mapM_entries_eq_ok fun _ _ => parseMockTransferOutcome_eq_ok

end

end WhyUsb
