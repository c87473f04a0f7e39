import Mathlib.Data.List.Basic
import Mathlib.Data.List.Forall2

/-!
# Reading a stream item by item

`next` takes one item off the front of a stream. Where each piece of a
concatenation is an item whatever follows it, reading the concatenation gives
the items back in order.
-/

namespace Framing

universe u v
variable {α : Type u} {β : Type v} (next : List β → Option (α × List β))

/-- The items up to the end of the stream, at most `n` of them. -/
def readAll : Nat → List β → Option (List α)
  | _, [] => some []
  | 0, _ :: _ => none
  | n + 1, b :: bs => (next (b :: bs)).bind fun (a, rest) => (readAll n rest).map (a :: ·)

/-- `piece` is the item `a`, whatever follows. -/
structure Frames (a : α) (piece : List β) : Prop where
  nonempty : piece ≠ []
  next_append : ∀ rest, next (piece ++ rest) = some (a, rest)

variable {next}

theorem readAll_append {a : α} {piece : List β} (h : Frames next a piece) (rest : List β) (n : Nat) :
    readAll next (n + 1) (piece ++ rest) = (readAll next n rest).map (a :: ·) := by
  have hnext := h.next_append rest
  cases piece with
  | nil => exact absurd rfl h.nonempty
  | cons b bs =>
    rw [List.cons_append] at hnext ⊢
    rw [readAll, hnext, Option.bind_some]

theorem readAll_flatten {as : List α} {pieces : List (List β)} (h : List.Forall₂ (Frames next) as pieces) :
    ∀ n, pieces.flatten.length ≤ n → readAll next n pieces.flatten = some as := by
  induction h with
  | nil =>
    intro n _
    cases n <;> rfl
  | @cons a piece as pieces hframes _ ih =>
    intro n hn
    have hpos : 0 < piece.length := List.length_pos_iff.mpr hframes.nonempty
    rw [List.flatten_cons, List.length_append] at hn
    obtain ⟨m, rfl⟩ : ∃ m, n = m + 1 := ⟨n - 1, by omega⟩
    rw [List.flatten_cons, readAll_append hframes, ih m (by omega), Option.map_some]

end Framing
