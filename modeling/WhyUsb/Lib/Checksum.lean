import Mathlib.Data.List.Basic
import Mathlib.Logic.Function.Basic

/-!
# Checksums that fold over a string

A checksum folds a step over the symbols of a string. Where the step can be
undone, in what it has so far as well as in the symbol, two strings that differ
in one place never share a checksum.
-/

namespace Checksum

universe u v
variable {α : Type u} {β : Type v} {step : α → β → α}

theorem foldl_injective (hacc : ∀ b, Function.Injective fun a => step a b) (xs : List β) :
    Function.Injective fun a => xs.foldl step a := by
  induction xs with
  | nil => exact Function.injective_id
  | cons b xs ih =>
    intro a a' h
    exact hacc b (ih h)

theorem foldl_set_ne (hacc : ∀ b, Function.Injective fun a => step a b) (hsymbol : ∀ a, Function.Injective (step a))
    {xs : List β} {i : Nat} {b : β} (hi : i < xs.length) (hb : xs[i] ≠ b) (a : α) :
    (xs.set i b).foldl step a ≠ xs.foldl step a := by
  induction xs generalizing i a with
  | nil => exact absurd hi (Nat.not_lt_zero i)
  | cons c xs ih =>
    cases i with
    | zero =>
      -- the two folds part here, and the rest of the string keeps them apart
      intro h
      exact hb (hsymbol a (foldl_injective hacc xs h)).symm
    | succ i => exact ih (Nat.lt_of_succ_lt_succ hi) hb (step a c)

end Checksum
