import Mathlib.Data.List.Basic
import Mathlib.Logic.Function.Basic
import Mathlib.Data.Int.ModEq

/-!
# Windows of a circular buffer

Cells are addressed by absolute positions; position `p` lives in cell `p % N`.
A window of at most `N` positions is spelled by distinct cells, so a write at
a position outside a window leaves what the window spells unchanged.
-/

namespace Circular

universe u
variable {α : Type u} (N : Nat)

/-- The `len` cells from absolute position `pos` on. -/
def window (mem : Nat → α) (pos len : Nat) : List α :=
  (List.range len).map fun i => mem ((pos + i) % N)

/-- From absolute position `pos` on, the cells read `xs`. -/
def Spells (mem : Nat → α) (pos : Nat) (xs : List α) : Prop := window N mem pos xs.length = xs

@[simp] theorem window_length (mem : Nat → α) (pos len : Nat) : (window N mem pos len).length = len := by
  simp [window]

theorem window_succ (mem : Nat → α) (pos len : Nat) :
    window N mem pos (len + 1) = window N mem pos len ++ [mem ((pos + len) % N)] := by
  simp [window, List.range_succ]

theorem window_add (mem : Nat → α) (pos a : Nat) : ∀ b,
    window N mem pos (a + b) = window N mem pos a ++ window N mem (pos + a) b
  | 0 => by simp [window]
  | b + 1 => by
    rw [← Nat.add_assoc, window_succ, window_add mem pos a b, window_succ, List.append_assoc,
      Nat.add_assoc pos a b]

theorem window_congr {mem mem' : Nat → α} {pos len : Nat}
    (h : ∀ i < len, mem ((pos + i) % N) = mem' ((pos + i) % N)) :
    window N mem pos len = window N mem' pos len :=
  List.map_congr_left fun i hi => h i (List.mem_range.mp hi)

variable {N}

/-- Positions less than one turn apart live in distinct cells. -/
theorem mod_ne {p q : Nat} (hpq : p < q) (hq : q < p + N) : p % N ≠ q % N := by
  intro h
  have hd : N ∣ q - p := (Nat.modEq_iff_dvd' hpq.le).mp h
  have := Nat.le_of_dvd (by omega) hd
  omega

@[simp] theorem spells_nil (mem : Nat → α) (pos : Nat) : Spells N mem pos [] := rfl

theorem spells_append {mem : Nat → α} {pos : Nat} {xs ys : List α} :
    Spells N mem pos (xs ++ ys) ↔ Spells N mem pos xs ∧ Spells N mem (pos + xs.length) ys := by
  unfold Spells
  rw [List.length_append, window_add]
  constructor
  · intro h
    exact List.append_inj h (window_length ..)
  · rintro ⟨hx, hy⟩
    rw [hx, hy]

theorem Spells.update_outside {mem : Nat → α} {pos q : Nat} {xs : List α} (h : Spells N mem pos xs) (x : α)
    (hlo : pos + xs.length ≤ q) (hhi : q < pos + N) : Spells N (Function.update mem (q % N) x) pos xs := by
  refine (window_congr N fun i hi => ?_).trans h
  exact Function.update_of_ne (mod_ne (by omega) (by omega)) ..

theorem Spells.update_next {mem : Nat → α} {pos : Nat} {xs : List α} (h : Spells N mem pos xs) (x : α)
    (hlen : xs.length < N) : Spells N (Function.update mem ((pos + xs.length) % N) x) pos (xs ++ [x]) := by
  refine spells_append.mpr ⟨h.update_outside x (Nat.le_refl _) (by omega), ?_⟩
  simp [Spells, window]

theorem Spells.getElem? {mem : Nat → α} {pos : Nat} {xs : List α} (h : Spells N mem pos xs) {i : Nat}
    (hi : i < xs.length) : xs[i]? = some (mem ((pos + i) % N)) := by
  have hw : (window N mem pos xs.length)[i]? = some (mem ((pos + i) % N)) := by simp [window, hi]
  rwa [h] at hw

end Circular
