import Mathlib.Data.Finset.Basic
import Mathlib.Data.Finset.Dedup
import WhyUsb.Lib.Lts

/-!
# Resources that are acquired and released

`step` is what is held after one event: only what is held can be released, so
a trace that runs releases nothing twice and nothing that it does not hold. An
environment is `Fresh` on a trace if it never hands out what is held.
-/

namespace Ownership

universe u

inductive Event (ρ : Type u) where
  | acquire (r : ρ)
  | release (r : ρ)
  deriving DecidableEq, Repr

variable {ρ : Type u} [DecidableEq ρ]

def step (held : Finset ρ) : Event ρ → Option (Finset ρ)
  | .acquire r => some (insert r held)
  | .release r => if r ∈ held then some (held.erase r) else none

def Fresh : Finset ρ → List (Event ρ) → Prop
  | _, [] => True
  | held, .acquire r :: es => r ∉ held ∧ Fresh (insert r held) es
  | held, .release r :: es => Fresh (held.erase r) es

instance decidableFresh : (held : Finset ρ) → (es : List (Event ρ)) → Decidable (Fresh held es)
  | _, [] => inferInstanceAs (Decidable True)
  | held, .acquire r :: es =>
    have := decidableFresh (insert r held) es
    inferInstanceAs (Decidable (r ∉ held ∧ Fresh (insert r held) es))
  | held, .release r :: es => decidableFresh (held.erase r) es

@[simp] theorem run_acquire (held : Finset ρ) (r : ρ) (es : List (Event ρ)) :
    Lts.run step held (.acquire r :: es) = Lts.run step (insert r held) es := rfl

theorem run_release {held : Finset ρ} {r : ρ} (h : r ∈ held) (es : List (Event ρ)) :
    Lts.run step held (.release r :: es) = Lts.run step (held.erase r) es := by
  rw [Lts.run_cons, step, if_pos h, Option.bind_some]

theorem fresh_append : ∀ {es fs : List (Event ρ)} {held held' : Finset ρ}, Lts.run step held es = some held' →
    (Fresh held (es ++ fs) ↔ Fresh held es ∧ Fresh held' fs)
  | [], fs, held, held', h => by
    rw [Lts.run_nil, Option.some.injEq] at h
    rw [List.nil_append, Fresh, true_and, h]
  | .acquire r :: es, fs, held, held', h => by
    rw [run_acquire] at h
    rw [List.cons_append, Fresh, Fresh, fresh_append h, and_assoc]
  | .release r :: es, fs, held, held', h => by
    by_cases hr : r ∈ held
    · rw [run_release hr] at h
      rw [List.cons_append, Fresh, Fresh, fresh_append h]
    · rw [Lts.run_cons, step, if_neg hr] at h
      cases h

theorem fresh_of_append : ∀ {es fs : List (Event ρ)} {held : Finset ρ}, Fresh held (es ++ fs) → Fresh held es
  | [], _, _, _ => trivial
  | .acquire _ :: _, _, _, h => ⟨h.1, fresh_of_append h.2⟩
  | .release _ :: es, _, _, h => @fresh_of_append es _ _ h

theorem fresh_releases : ∀ (held : Finset ρ) (rs : List ρ), Fresh held (rs.map .release)
  | _, [] => trivial
  | held, r :: rs => fresh_releases (held.erase r) rs

/-! ## Distinct resources -/

/-- Where the environment is fresh, `trace` leads from the resources `before` to those of `after`. -/
def Settles (before : List ρ) (trace : List (Event ρ)) (after : List ρ) : Prop :=
  before.Nodup → Fresh before.toFinset trace →
    Lts.run step before.toFinset trace = some after.toFinset ∧ after.Nodup

section
variable {before between after : List ρ} {es fs : List (Event ρ)}

theorem settles_nil (before : List ρ) : Settles before [] before := fun hdistinct _ => ⟨rfl, hdistinct⟩

theorem Settles.append (h : Settles before es between) (h' : Settles between fs after) :
    Settles before (es ++ fs) after := by
  intro hdistinct hfresh
  obtain ⟨hrun, hbetween⟩ := h hdistinct (fresh_of_append hfresh)
  rw [Lts.run_append_of_run step hrun]
  exact h' hbetween ((fresh_append hrun).mp hfresh).2

theorem Settles.perm (h : Settles before es after) (hp : between.Perm before) : Settles between es after := by
  intro hdistinct hfresh
  have hsame := List.toFinset_eq_of_perm _ _ hp
  rw [hsame] at hfresh ⊢
  exact h (hp.nodup_iff.mp hdistinct) hfresh

theorem settles_acquire (before : List ρ) (r : ρ) : Settles before [.acquire r] (before ++ [r]) := by
  intro hdistinct hfresh
  have hr : r ∉ before := fun hmem => hfresh.1 (List.mem_toFinset.mpr hmem)
  refine ⟨?_, List.nodup_append.mpr ⟨hdistinct, List.nodup_singleton r, fun a ha b hb => ?_⟩⟩
  · rw [run_acquire, Lts.run_nil]
    congr 1
    ext x
    rw [Finset.mem_insert, List.mem_toFinset, List.mem_toFinset, List.mem_append, List.mem_singleton]
    exact or_comm
  · rintro rfl
    exact hr (List.mem_singleton.mp hb ▸ ha)

/-- Some of the resources are released, one after the other. -/
theorem settles_releases : ∀ (rs rest : List ρ), Settles (rs ++ rest) (rs.map .release) rest
  | [], rest => settles_nil rest
  | r :: rs, rest => by
    intro hdistinct hfresh
    rw [List.cons_append] at hdistinct
    obtain ⟨hr, hrest⟩ := List.nodup_cons.mp hdistinct
    have herase : (r :: rs ++ rest).toFinset.erase r = (rs ++ rest).toFinset := by
      rw [List.cons_append, List.toFinset_cons, Finset.erase_insert fun hmem => hr (List.mem_toFinset.mp hmem)]
    rw [List.map_cons, Fresh, herase] at hfresh
    rw [List.map_cons, run_release (by simp), herase]
    exact settles_releases rs rest hrest hfresh

end

end Ownership
