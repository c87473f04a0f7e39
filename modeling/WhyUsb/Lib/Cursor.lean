import Mathlib.Data.List.Basic

/-!
# Parsers with an offset and checked subscripts

`Checked` computations fault where a subscript is out of range and where a
subtraction underflows. A parser that keeps an offset into its input `Follows`
one that hands on what is left of the input: the two return the same, and
nothing faults on the way.
-/

namespace Cursor

universe u
variable {ε α β γ : Type u}

/-- `none` is a fault, `Except` the result otherwise. -/
abbrev Checked (ε : Type u) := ExceptT ε Option

def fault : Checked ε α := ExceptT.mk none

def lift (x : Except ε α) : Checked ε α := ExceptT.mk (some x)

def index (input : List β) (i : Nat) : Checked ε β :=
  match input[i]? with
  | some b => lift (.ok b)
  | none => fault

def range (input : List β) (start stop : Nat) : Checked ε (List β) :=
  if start ≤ stop ∧ stop ≤ input.length then lift (.ok ((input.drop start).take (stop - start))) else fault

/-- Subtraction that faults where it would underflow. -/
def sub {ε : Type} (m n : Nat) : Checked ε Nat := if n ≤ m then lift (.ok (m - n)) else fault

theorem lift_ok_bind (a : α) (f : α → Checked ε γ) : lift (.ok a) >>= f = f a := rfl

theorem lift_inj {x y : Except ε α} (h : lift x = lift y) : x = y := Option.some.inj h

theorem lift_ne_fault (x : Except ε α) : lift x ≠ fault := by
  intro h
  cases h

/-- The parser with the offset gives what the other gives, and its offset is where the other's rest begins. -/
def Follows (input : List β) (x : Checked ε (α × Nat)) (y : Except ε (α × List β)) : Prop :=
  match y with
  | .error e => x = lift (.error e)
  | .ok (a, rest) => ∃ offset, offset ≤ input.length ∧ rest = input.drop offset ∧ x = lift (.ok (a, offset))

section
variable {input : List β}

theorem Follows.error (e : ε) : Follows input (lift (.error e) : Checked ε (α × Nat)) (.error e) := rfl

theorem Follows.ok {offset : Nat} (h : offset ≤ input.length) (a : α) :
    Follows input (lift (.ok (a, offset)) : Checked ε (α × Nat)) (.ok (a, input.drop offset)) :=
  ⟨offset, h, rfl, rfl⟩

theorem Follows.bind {x : Checked ε (α × Nat)} {y : Except ε (α × List β)} {f : α × Nat → Checked ε (γ × Nat)}
    {g : α × List β → Except ε (γ × List β)} (h : Follows input x y)
    (hf : ∀ a offset, offset ≤ input.length → Follows input (f (a, offset)) (g (a, input.drop offset))) :
    Follows input (x >>= f) (y >>= g) := by
  cases y with
  | error e =>
    rw [show x = lift (.error e) from h]
    exact Follows.error e
  | ok p =>
    obtain ⟨a, rest⟩ := p
    obtain ⟨offset, hle, rfl, rfl⟩ := h
    exact hf a offset hle

/-- A step on values alone. -/
theorem Follows.lift_bind (x : Except ε α) {f : α → Checked ε (γ × Nat)} {g : α → Except ε (γ × List β)}
    (hf : ∀ a, Follows input (f a) (g a)) : Follows input (lift x >>= f) (x >>= g) := by
  cases x with
  | error e => exact Follows.error e
  | ok a => exact hf a

theorem Follows.ite {p : Prop} [Decidable p] {e : ε} {x : Checked ε (α × Nat)} {y : Except ε (α × List β)}
    (h : Follows input x y) :
    Follows input (if p then lift (.error e) else x) (if p then .error e else y) := by
  by_cases hp : p
  · rw [if_pos hp, if_pos hp]
    exact Follows.error e
  · rw [if_neg hp, if_neg hp]
    exact h

/-- A parser followed from the start ends where the other ends. -/
theorem Follows.finish {x : Checked ε (α × Nat)} {y : Except ε (α × List β)} {f : α × Nat → Checked ε γ}
    {g : α × List β → Except ε γ} (h : Follows input x y)
    (hf : ∀ a offset, offset ≤ input.length → f (a, offset) = lift (g (a, input.drop offset))) :
    x >>= f = lift (y >>= g) := by
  cases y with
  | error e =>
    rw [show x = lift (.error e) from h]
    rfl
  | ok p =>
    obtain ⟨a, rest⟩ := p
    obtain ⟨offset, hle, rfl, rfl⟩ := h
    exact hf a offset hle

end

end Cursor
