import WhyUsb.Lib.Matching
import Mathlib.Data.List.Forall2
import Mathlib.Tactic.Ring

/-!
# Numerals

Numbers written in a radix and read back digit by digit below a bound, as the
integer parsers of common languages do it. What is printed is read back, with
any zeros before it; digits of one radix can be read in a greater one, and what
that makes of them is known.
-/

namespace Numeral

/-! ## Digits -/

/-- The value of a digit, of either case of letters. -/
def digitValue (c : Char) : Option Nat :=
  if '0' ≤ c ∧ c ≤ '9' then some (c.toNat - '0'.toNat)
  else if 'a' ≤ c ∧ c ≤ 'z' then some (c.toNat - 'a'.toNat + 10)
  else if 'A' ≤ c ∧ c ≤ 'Z' then some (c.toNat - 'A'.toNat + 10)
  else none

def toDigit (radix : Nat) (c : Char) : Option Nat := (digitValue c).filter (· < radix)

/-- The text spells these digits. -/
def Digits (radix : Nat) (cs : List Char) (ds : List Nat) : Prop := List.Forall₂ (fun c d => toDigit radix c = some d) cs ds

/-- Most significant first. -/
def value (radix : Nat) : Nat → List Nat → Nat
  | acc, [] => acc
  | acc, d :: ds => value radix (acc * radix + d) ds

section
variable {radix : Nat} {cs : List Char} {ds : List Nat}

theorem toDigit_eq_some {c : Char} {d : Nat} : toDigit radix c = some d ↔ digitValue c = some d ∧ d < radix := by
  rw [toDigit, Option.filter_eq_some_iff, decide_eq_true_eq]

theorem digitValue_digitChar {d : Nat} (h : d < 16) : digitValue d.digitChar = some d := by
  have hall : ∀ d < 16, digitValue d.digitChar = some d := by decide
  exact hall d h

theorem toDigit_digitChar {d : Nat} (h : d < radix) (hradix : radix ≤ 16) : toDigit radix d.digitChar = some d :=
  toDigit_eq_some.mpr ⟨digitValue_digitChar (Nat.lt_of_lt_of_le h hradix), h⟩

theorem Digits.lt (h : Digits radix cs ds) : ∀ d ∈ ds, d < radix := by
  induction h with
  | nil => exact fun _ hd => nomatch hd
  | cons hdigit _ ih =>
    intro d hd
    rw [List.mem_cons] at hd
    obtain rfl | hd := hd
    · exact (toDigit_eq_some.mp hdigit).2
    · exact ih d hd

/-- Digits of a radix are digits of every greater one. -/
theorem Digits.mono {radix' : Nat} (h : Digits radix cs ds) (hle : radix ≤ radix') : Digits radix' cs ds := by
  refine h.imp fun c d hdigit => ?_
  obtain ⟨hvalue, hlt⟩ := toDigit_eq_some.mp hdigit
  exact toDigit_eq_some.mpr ⟨hvalue, Nat.lt_of_lt_of_le hlt hle⟩

/-! ## Values -/

theorem value_eq (acc : Nat) (ds : List Nat) : value radix acc ds = acc * radix ^ ds.length + value radix 0 ds := by
  induction ds generalizing acc with
  | nil => simp [value]
  | cons d ds ih =>
    rw [value, ih, value, ih (0 * radix + d), List.length_cons]
    ring

theorem value_append (acc : Nat) (ds es : List Nat) : value radix acc (ds ++ es) = value radix (value radix acc ds) es := by
  induction ds generalizing acc with
  | nil => rfl
  | cons d ds ih => exact ih _

theorem value_replicate_zero (k : Nat) (ds : List Nat) : value radix 0 (List.replicate k 0 ++ ds) = value radix 0 ds := by
  induction k with
  | zero => rfl
  | succ k ih =>
    rw [List.replicate_succ, List.cons_append, value, Nat.zero_mul, Nat.add_zero]
    exact ih

theorem le_value (hradix : 0 < radix) (acc : Nat) (ds : List Nat) : acc ≤ value radix acc ds := by
  rw [value_eq]
  exact Nat.le_add_right_of_le (Nat.le_mul_of_pos_right _ (Nat.pow_pos hradix))

theorem value_lt (h : ∀ d ∈ ds, d < radix) : value radix 0 ds < radix ^ ds.length := by
  induction ds with
  | nil => exact Nat.one_pos
  | cons d ds ih =>
    have hd : d + 1 ≤ radix := h d List.mem_cons_self
    have hds := ih fun e he => h e (List.mem_cons_of_mem _ he)
    rw [value, value_eq, Nat.zero_mul, Nat.zero_add, List.length_cons]
    calc d * radix ^ ds.length + value radix 0 ds < d * radix ^ ds.length + radix ^ ds.length :=
          Nat.add_lt_add_left hds _
      _ = (d + 1) * radix ^ ds.length := by ring
      _ ≤ radix * radix ^ ds.length := Nat.mul_le_mul_right _ hd
      _ = radix ^ (ds.length + 1) := by ring

theorem value_mono {radix' : Nat} (hle : radix ≤ radix') (ds : List Nat) : value radix 0 ds ≤ value radix' 0 ds := by
  induction ds with
  | nil => exact Nat.le_refl _
  | cons d ds ih =>
    rw [value, value, @value_eq radix, @value_eq radix']
    exact Nat.add_le_add (Nat.mul_le_mul (by omega) (Nat.pow_le_pow_left hle _)) ih

end

/-! ## Printing -/

section
variable {radix n : Nat}

/-- The digits of a number: none of them a zero in front, and their value is the number. -/
theorem digits_toDigits (hradix : 1 < radix) (hle : radix ≤ 16) (n : Nat) : ∃ ds,
    Digits radix (Nat.toDigits radix n) ds ∧ value radix 0 ds = n ∧ (0 < n → ∃ d es, ds = d :: es ∧ 0 < d) := by
  induction n using Nat.strong_induction_on with
  | h n ih =>
    rw [Nat.toDigits_eq_if hradix]
    by_cases hsmall : n < radix
    · rw [if_pos hsmall]
      refine ⟨[n], .cons (toDigit_digitChar hsmall hle) .nil, ?_, fun hpositive => ⟨n, [], rfl, hpositive⟩⟩
      rw [value, value, Nat.zero_mul, Nat.zero_add]
    · rw [if_neg hsmall]
      have hdiv : 0 < n / radix := Nat.div_pos (Nat.not_lt.mp hsmall) (by omega)
      have hlt : n / radix < n := Nat.div_lt_self (by omega) hradix
      obtain ⟨ds, hds, hvalue, hfront⟩ := ih (n / radix) hlt
      obtain ⟨d, es, rfl, hd⟩ := hfront hdiv
      refine ⟨d :: es ++ [n % radix], ?_, ?_, fun _ => ⟨d, es ++ [n % radix], rfl, hd⟩⟩
      · exact List.rel_append hds (.cons (toDigit_digitChar (Nat.mod_lt n (by omega)) hle) .nil)
      · rw [value_append, hvalue, value, value, Nat.div_add_mod']

theorem digits_zeros (hradix : 0 < radix) (k : Nat) : Digits radix (List.replicate k '0') (List.replicate k 0) := by
  have hzero : toDigit radix '0' = some 0 := toDigit_eq_some.mpr ⟨by decide, hradix⟩
  induction k with
  | zero => exact .nil
  | succ k ih => exact .cons hzero ih

/-- A number with zeros before it. -/
def zeroPadded (k radix n : Nat) : List Char := List.replicate k '0' ++ Nat.toDigits radix n

theorem digits_zeroPadded (hradix : 1 < radix) (hle : radix ≤ 16) (k n : Nat) :
    ∃ ds, Digits radix (zeroPadded k radix n) ds ∧ value radix 0 ds = n := by
  obtain ⟨ds, hds, hvalue, -⟩ := digits_toDigits hradix hle n
  exact ⟨List.replicate k 0 ++ ds, List.rel_append (digits_zeros (by omega) k) hds, by rw [value_replicate_zero, hvalue]⟩

theorem zeroPadded_ne_nil (k : Nat) : zeroPadded k radix n ≠ [] :=
  fun h => Nat.toDigits_ne_nil (List.append_eq_nil_iff.mp h).2

/-- What is printed is digits. -/
theorem digit_of_mem_zeroPadded (hradix : 1 < radix) (hle : radix ≤ 16) {k : Nat} {c : Char}
    (hc : c ∈ zeroPadded k radix n) : ∃ d, toDigit radix c = some d := by
  obtain ⟨ds, hds, -⟩ := digits_zeroPadded hradix hle k n
  obtain ⟨d, -, hd⟩ := Matching.exists_of_mem_forall₂ hds hc
  exact ⟨d, hd⟩

end

/-! ## Reading -/

inductive ParseIntError where
  | empty
  | invalidDigit
  | posOverflow
  | negOverflow
deriving DecidableEq, Repr

/-- Digit by digit, while the value stays below the bound. -/
def accumulate (radix bound : Nat) (overflow : ParseIntError) : Nat → List Char → Except ParseIntError Nat
  | acc, [] => .ok acc
  | acc, c :: cs =>
    match toDigit radix c with
    | none => .error .invalidDigit
    | some d =>
      if acc * radix + d < bound then accumulate radix bound overflow (acc * radix + d) cs else .error overflow

/-- The reader of an unsigned type, whose values are below the bound. -/
def fromStrRadix (radix bound : Nat) : List Char → Except ParseIntError Nat
  | [] => .error .empty
  | ['+'] => .error .invalidDigit
  | ['-'] => .error .invalidDigit
  | '+' :: cs => accumulate radix bound .posOverflow 0 cs
  | cs => accumulate radix bound .posOverflow 0 cs

/-- The reader of a signed type, whose least value is `-bound`. -/
def fromStrRadixSigned (radix bound : Nat) : List Char → Except ParseIntError Int
  | [] => .error .empty
  | ['+'] => .error .invalidDigit
  | ['-'] => .error .invalidDigit
  | '+' :: cs => (accumulate radix bound .posOverflow 0 cs).map Int.ofNat
  | '-' :: cs => (accumulate radix (bound + 1) .negOverflow 0 cs).map fun n => -Int.ofNat n
  | cs => (accumulate radix bound .posOverflow 0 cs).map Int.ofNat

/-- One digit or more. -/
def Reads (radix : Nat) (cs : List Char) (n : Nat) : Prop :=
  ∃ ds, Digits radix cs ds ∧ ds ≠ [] ∧ value radix 0 ds = n

inductive Unsigned (radix : Nat) : List Char → Nat → Prop
  | plain {cs n} : Reads radix cs n → Unsigned radix cs n
  | plus {cs n} : Reads radix cs n → Unsigned radix ('+' :: cs) n

inductive Signed (radix : Nat) : List Char → Int → Prop
  | plain {cs n} : Reads radix cs n → Signed radix cs (Int.ofNat n)
  | plus {cs n} : Reads radix cs n → Signed radix ('+' :: cs) (Int.ofNat n)
  | minus {cs n} : Reads radix cs n → Signed radix ('-' :: cs) (-Int.ofNat n)

section
variable {radix bound n : Nat} {cs : List Char} {overflow : ParseIntError}

theorem accumulate_eq_ok (hradix : 0 < radix) {acc : Nat} (hacc : acc < bound) :
    accumulate radix bound overflow acc cs = .ok n ↔ ∃ ds, Digits radix cs ds ∧ value radix acc ds = n ∧ n < bound := by
  induction cs generalizing acc with
  | nil =>
    constructor
    · intro h
      obtain rfl := Except.ok.inj h
      exact ⟨[], .nil, rfl, hacc⟩
    · rintro ⟨ds, hds, rfl, -⟩
      cases hds
      rfl
  | cons c cs ih =>
    constructor
    · intro h
      rw [accumulate] at h
      cases hd : toDigit radix c with
      | none =>
        rw [hd] at h
        cases h
      | some d =>
        simp only [hd] at h
        by_cases hfits : acc * radix + d < bound
        · rw [if_pos hfits] at h
          obtain ⟨ds, hds, hvalue, hn⟩ := (ih hfits).mp h
          exact ⟨d :: ds, .cons hd hds, hvalue, hn⟩
        · rw [if_neg hfits] at h
          cases h
    · rintro ⟨ds, hds, hvalue, hn⟩
      cases hds with
      | @cons _ d _ ds hd hds =>
        have hfits : acc * radix + d < bound := by
          have hle := le_value hradix (acc * radix + d) ds
          rw [value] at hvalue
          omega
        rw [accumulate, hd]
        show (if acc * radix + d < bound then _ else _) = _
        rw [if_pos hfits]
        exact (ih hfits).mpr ⟨ds, hds, hvalue, hn⟩

theorem not_reads_nil : ¬ Reads radix [] n := by
  rintro ⟨ds, hds, hne, -⟩
  cases hds
  exact hne rfl

theorem Reads.digit {c : Char} (h : Reads radix (c :: cs) n) : ∃ d, toDigit radix c = some d := by
  obtain ⟨ds, hds, -⟩ := h
  cases hds with
  | cons hd _ => exact ⟨_, hd⟩

/-- A sign is no digit. -/
theorem not_reads_sign : ¬ Reads radix ('+' :: cs) n ∧ ¬ Reads radix ('-' :: cs) n := by
  have hvalue : digitValue '+' = none ∧ digitValue '-' = none := by decide
  constructor <;> intro h <;> obtain ⟨d, hd⟩ := h.digit <;> have hsome := (toDigit_eq_some.mp hd).1
  · rw [hvalue.1] at hsome
    cases hsome
  · rw [hvalue.2] at hsome
    cases hsome

theorem accumulate_zero_eq_ok (hradix : 0 < radix) (hbound : 0 < bound) (hne : cs ≠ []) :
    accumulate radix bound overflow 0 cs = .ok n ↔ Reads radix cs n ∧ n < bound := by
  rw [accumulate_eq_ok hradix hbound]
  constructor
  · rintro ⟨ds, hds, hvalue, hn⟩
    refine ⟨⟨ds, hds, ?_, hvalue⟩, hn⟩
    rintro rfl
    cases hds
    exact hne rfl
  · rintro ⟨⟨ds, hds, -, hvalue⟩, hn⟩
    exact ⟨ds, hds, hvalue, hn⟩

theorem unsigned_plus : Unsigned radix ('+' :: cs) n ↔ Reads radix cs n := by
  constructor
  · intro h
    cases h with
    | plain h => exact absurd h not_reads_sign.1
    | plus h => exact h
  · exact .plus

theorem unsigned_plain (h : ∀ rest, cs ≠ '+' :: rest) : Unsigned radix cs n ↔ Reads radix cs n := by
  constructor
  · intro hcs
    cases hcs with
    | plain hcs => exact hcs
    | plus hcs => exact absurd rfl (h _)
  · exact .plain

/-- The reader accepts the unsigned numerals of values below the bound, and reads their values. -/
theorem fromStrRadix_eq_ok (hradix : 0 < radix) (hbound : 0 < bound) :
    fromStrRadix radix bound cs = .ok n ↔ Unsigned radix cs n ∧ n < bound := by
  unfold fromStrRadix
  split
  · rw [unsigned_plain (by nofun)]
    exact iff_of_false nofun fun h => not_reads_nil h.1
  · rw [unsigned_plus]
    exact iff_of_false nofun fun h => not_reads_nil h.1
  · rw [unsigned_plain (by rintro rest ⟨⟩)]
    exact iff_of_false nofun fun h => not_reads_sign.2 h.1
  · rename_i hne
    rw [unsigned_plus]
    exact accumulate_zero_eq_ok hradix hbound hne
  · rename_i hnil _ _ hplus
    rw [unsigned_plain fun rest h => hplus rest h]
    exact accumulate_zero_eq_ok hradix hbound hnil

theorem signed_plus {z : Int} : Signed radix ('+' :: cs) z ↔ ∃ n, Reads radix cs n ∧ z = Int.ofNat n := by
  constructor
  · intro h
    cases h with
    | plain h => exact absurd h not_reads_sign.1
    | plus h => exact ⟨_, h, rfl⟩
  · rintro ⟨n, h, rfl⟩
    exact .plus h

theorem signed_minus {z : Int} : Signed radix ('-' :: cs) z ↔ ∃ n, Reads radix cs n ∧ z = -Int.ofNat n := by
  constructor
  · intro h
    cases h with
    | plain h => exact absurd h not_reads_sign.2
    | minus h => exact ⟨_, h, rfl⟩
  · rintro ⟨n, h, rfl⟩
    exact .minus h

theorem signed_plain {z : Int} (hplus : ∀ rest, cs ≠ '+' :: rest) (hminus : ∀ rest, cs ≠ '-' :: rest) :
    Signed radix cs z ↔ ∃ n, Reads radix cs n ∧ z = Int.ofNat n := by
  constructor
  · intro h
    cases h with
    | plain h => exact ⟨_, h, rfl⟩
    | plus h => exact absurd rfl (hplus _)
    | minus h => exact absurd rfl (hminus _)
  · rintro ⟨n, h, rfl⟩
    exact .plain h

theorem map_eq_ok {α β : Type} {f : α → β} {r : Except ParseIntError α} {b : β} :
    r.map f = .ok b ↔ ∃ a, r = .ok a ∧ b = f a := by
  cases r with
  | error e => exact iff_of_false nofun fun ⟨_, h, _⟩ => nomatch h
  | ok a =>
    constructor
    · intro h
      exact ⟨a, rfl, (Except.ok.inj h).symm⟩
    · rintro ⟨a', ha, rfl⟩
      rw [Except.ok.inj ha]
      rfl

/-- The reader of a signed type accepts the signed numerals of its values. -/
theorem fromStrRadixSigned_eq_ok {z : Int} (hradix : 0 < radix) (hbound : 0 < bound) :
    fromStrRadixSigned radix bound cs = .ok z ↔ Signed radix cs z ∧ -Int.ofNat bound ≤ z ∧ z < Int.ofNat bound := by
  have hread : ∀ {cs : List Char}, cs ≠ [] → ∀ {z : Int},
      (∃ n, accumulate radix bound .posOverflow 0 cs = .ok n ∧ z = Int.ofNat n) ↔
        (∃ n, Reads radix cs n ∧ z = Int.ofNat n) ∧ -Int.ofNat bound ≤ z ∧ z < Int.ofNat bound := by
    intro cs hne z
    constructor
    · rintro ⟨n, hn, rfl⟩
      obtain ⟨hreads, hlt⟩ := (accumulate_zero_eq_ok hradix hbound hne).mp hn
      exact ⟨⟨n, hreads, rfl⟩, by simp only [Int.ofNat_eq_natCast]; omega⟩
    · rintro ⟨⟨n, hreads, rfl⟩, -, hlt⟩
      exact ⟨n, (accumulate_zero_eq_ok hradix hbound hne).mpr ⟨hreads, Int.ofNat_lt.mp hlt⟩, rfl⟩
  have hempty : ¬ ∃ n, Reads radix [] n := fun ⟨n, h⟩ => not_reads_nil h
  unfold fromStrRadixSigned
  split
  · rw [signed_plain (by nofun) (by nofun)]
    exact iff_of_false nofun fun ⟨⟨n, h, _⟩, _⟩ => not_reads_nil h
  · rw [signed_plus]
    exact iff_of_false nofun fun ⟨⟨n, h, _⟩, _⟩ => not_reads_nil h
  · rw [signed_minus]
    exact iff_of_false nofun fun ⟨⟨n, h, _⟩, _⟩ => not_reads_nil h
  · rename_i hne
    rw [signed_plus, map_eq_ok]
    exact hread hne
  · rename_i hne
    rw [signed_minus, map_eq_ok]
    constructor
    · rintro ⟨n, hn, rfl⟩
      obtain ⟨hreads, hlt⟩ := (accumulate_zero_eq_ok hradix (Nat.succ_pos bound) hne).mp hn
      exact ⟨⟨n, hreads, rfl⟩, by simp only [Int.ofNat_eq_natCast]; omega⟩
    · rintro ⟨⟨n, hreads, rfl⟩, hle, -⟩
      have hlt : n < bound + 1 := by
        simp only [Int.ofNat_eq_natCast] at hle
        omega
      exact ⟨n, (accumulate_zero_eq_ok hradix (Nat.succ_pos bound) hne).mpr ⟨hreads, hlt⟩, rfl⟩
  · rename_i hnil _ _ hplus hminus
    rw [signed_plain hplus hminus, map_eq_ok]
    exact hread hnil

end

/-! ## Reading what was printed -/

section
variable {radix bound n : Nat}

theorem reads_zeroPadded (hradix : 1 < radix) (hle : radix ≤ 16) (k n : Nat) : Reads radix (zeroPadded k radix n) n := by
  obtain ⟨ds, hds, hvalue⟩ := digits_zeroPadded hradix hle k n
  refine ⟨ds, hds, ?_, hvalue⟩
  rintro rfl
  exact zeroPadded_ne_nil k (List.forall₂_nil_right_iff.mp hds)

theorem fromStrRadix_zeroPadded (hradix : 1 < radix) (hle : radix ≤ 16) (hn : n < bound) (k : Nat) :
    fromStrRadix radix bound (zeroPadded k radix n) = .ok n :=
  (fromStrRadix_eq_ok (by omega) (by omega)).mpr ⟨.plain (reads_zeroPadded hradix hle k n), hn⟩

/-- A number with zeros before it, and a sign where it is negative. -/
def zeroPaddedInt (k radix : Nat) : Int → List Char
  | .ofNat n => zeroPadded k radix n
  | .negSucc n => '-' :: zeroPadded k radix (n + 1)

theorem signed_zeroPaddedInt (hradix : 1 < radix) (hle : radix ≤ 16) (k : Nat) (z : Int) :
    Signed radix (zeroPaddedInt k radix z) z := by
  cases z with
  | ofNat n => exact .plain (reads_zeroPadded hradix hle k n)
  | negSucc n => exact .minus (reads_zeroPadded hradix hle k (n + 1))

theorem fromStrRadixSigned_zeroPaddedInt {z : Int} (hradix : 1 < radix) (hle : radix ≤ 16)
    (hlow : -Int.ofNat bound ≤ z) (hhigh : z < Int.ofNat bound) (hbound : 0 < bound) (k : Nat) :
    fromStrRadixSigned radix bound (zeroPaddedInt k radix z) = .ok z :=
  (fromStrRadixSigned_eq_ok (by omega) hbound).mpr ⟨signed_zeroPaddedInt hradix hle k z, hlow, hhigh⟩

end

/-! ## Reading in a greater radix

Decimal digits are hexadecimal digits too: a reader that tries the greater radix
first takes them for a greater number, unless there is one digit or too many.
-/

section
variable {radix radix' bound : Nat} {cs : List Char} {ds : List Nat} {overflow : ParseIntError}

theorem accumulate_digits (hradix : 0 < radix) (h : Digits radix cs ds) {acc : Nat} (hacc : acc < bound) :
    accumulate radix bound overflow acc cs =
      if value radix acc ds < bound then .ok (value radix acc ds) else .error overflow := by
  induction h generalizing acc with
  | nil => rw [accumulate, value, if_pos hacc]
  | @cons c d cs ds hd _ ih =>
    rw [accumulate, hd, value]
    by_cases hfits : acc * radix + d < bound
    · simp only [if_pos hfits]
      exact ih hfits
    · have hvalue := le_value hradix (acc * radix + d) ds
      simp only [if_neg hfits]
      rw [if_neg (by omega)]

/-- A numeral without a sign reads as its value, or overflows. -/
theorem fromStrRadix_digits (hradix : 0 < radix) (hbound : 0 < bound) (h : Digits radix cs ds) (hne : cs ≠ []) :
    fromStrRadix radix bound cs =
      if value radix 0 ds < bound then .ok (value radix 0 ds) else .error .posOverflow := by
  have hreads : ∀ {cs : List Char}, Digits radix cs ds → cs ≠ [] → Reads radix cs (value radix 0 ds) := by
    intro cs h hne
    refine ⟨ds, h, ?_, rfl⟩
    rintro rfl
    exact hne (List.forall₂_nil_right_iff.mp h)
  unfold fromStrRadix
  split
  · exact absurd rfl hne
  · exact absurd (hreads h hne) not_reads_sign.1
  · exact absurd (hreads h hne) not_reads_sign.2
  · exact absurd (hreads h hne) not_reads_sign.1
  · exact accumulate_digits hradix h hbound

theorem value_lt_value {d : Nat} (hlt : radix < radix') (hd : 0 < d) (hds : ds ≠ []) :
    value radix 0 (d :: ds) < value radix' 0 (d :: ds) := by
  have hpow : radix ^ ds.length < radix' ^ ds.length := Nat.pow_lt_pow_left hlt (by simpa using hds)
  rw [value, value, @value_eq radix, @value_eq radix']
  simp only [Nat.zero_mul, Nat.zero_add]
  exact Nat.add_lt_add_of_lt_of_le (Nat.mul_lt_mul_of_pos_left hpow hd) (value_mono hlt.le ds)

theorem pow_le_value {d : Nat} (hd : 0 < d) : radix ^ ds.length ≤ value radix 0 (d :: ds) := by
  rw [value, value_eq, Nat.zero_mul, Nat.zero_add]
  exact Nat.le_add_right_of_le (Nat.le_mul_of_pos_left _ hd)

/-- What the digits of a number in one radix are read as in a greater one with room for `k` digits. -/
theorem fromStrRadix_toDigits (hradix : 1 < radix) (hlt : radix < radix') (hle : radix' ≤ 16) {k : Nat} (hk : 0 < k)
    (n : Nat) :
    (n < radix ∧ fromStrRadix radix' (radix' ^ k) (Nat.toDigits radix n) = .ok n) ∨
      (radix ≤ n ∧ n < radix ^ k ∧ ∃ m, n < m ∧ fromStrRadix radix' (radix' ^ k) (Nat.toDigits radix n) = .ok m) ∨
      (radix ^ k ≤ n ∧ fromStrRadix radix' (radix' ^ k) (Nat.toDigits radix n) = .error .posOverflow) := by
  obtain ⟨ds, hds, hvalue, hfront⟩ := digits_toDigits hradix (hlt.le.trans hle) n
  have hpositive : 0 < radix' ^ k := Nat.pow_pos (by omega)
  have hread := fromStrRadix_digits (by omega) hpositive (hds.mono hlt.le) Nat.toDigits_ne_nil
  have hlength : (Nat.toDigits radix n).length = ds.length := hds.length_eq
  have hshort : n < radix ^ k ↔ ds.length ≤ k := by rw [← hlength, Nat.length_toDigits_le_iff hradix hk]
  by_cases hsmall : n < radix
  · refine .inl ⟨hsmall, ?_⟩
    have hdigit : Digits radix' [n.digitChar] [n] := .cons (toDigit_digitChar (hsmall.trans hlt) hle) .nil
    have hone : value radix' 0 [n] = n := by rw [value, value, Nat.zero_mul, Nat.zero_add]
    have hpow : radix' ≤ radix' ^ k := Nat.le_self_pow (by omega) _
    rw [Nat.toDigits_of_lt_base hsmall, fromStrRadix_digits (by omega) hpositive hdigit (List.cons_ne_nil _ _), hone,
      if_pos (by omega)]
  · obtain ⟨d, es, rfl, hd⟩ := hfront (by omega)
    have hes : es ≠ [] := by
      rintro rfl
      have hlt := hds.lt d List.mem_cons_self
      rw [value, value] at hvalue
      omega
    by_cases hfits : n < radix ^ k
    · refine .inr (.inl ⟨by omega, hfits, value radix' 0 (d :: es), hvalue ▸ value_lt_value hlt hd hes, ?_⟩)
      have hdigits : ∀ e ∈ d :: es, e < radix' := fun e he => (hds.lt e he).trans hlt
      have hbound : value radix' 0 (d :: es) < radix' ^ k :=
        (value_lt hdigits).trans_le (Nat.pow_le_pow_right (by omega) (hshort.mp hfits))
      rw [hread, if_pos hbound]
    · refine .inr (.inr ⟨by omega, ?_⟩)
      have hlong : k ≤ es.length := by
        have hnot := mt hshort.mpr hfits
        rw [List.length_cons] at hnot
        omega
      have hbound : radix' ^ k ≤ value radix' 0 (d :: es) :=
        (Nat.pow_le_pow_right (by omega) hlong).trans (pow_le_value hd)
      rw [hread, if_neg (by omega)]

end

end Numeral
