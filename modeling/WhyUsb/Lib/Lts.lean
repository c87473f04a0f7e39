import Mathlib.Logic.Basic
import Mathlib.Data.Option.Basic

/-!
# Executable labelled transition systems

A system is a partial step function `step : σ → α → Option σ`: the action `a`
is enabled in `s` when `step s a` is `some s'`. Runs are lists of actions, so
a concrete run can be evaluated and a property of every run is an induction
over the list (`run_invariant`). `Along` restricts the steps a run may take.
-/

namespace Lts

universe u v
variable {σ : Type u} {α : Type v} (step : σ → α → Option σ)

def run : σ → List α → Option σ
  | s, [] => some s
  | s, a :: as => (step s a).bind fun s' => run s' as

@[simp] theorem run_nil (s : σ) : run step s [] = some s := rfl

theorem run_cons (s : σ) (a : α) (as : List α) :
    run step s (a :: as) = (step s a).bind fun s' => run step s' as := rfl

theorem run_append : ∀ (as bs : List α) (s : σ),
    run step s (as ++ bs) = (run step s as).bind fun s' => run step s' bs
  | [], _, _ => rfl
  | a :: as, bs, s => by
    rw [List.cons_append, run_cons, run_cons, Option.bind_assoc]
    congr 1
    funext s'
    exact run_append as bs s'

theorem run_cons_of_step {s s' : σ} {a : α} (h : step s a = some s') (as : List α) :
    run step s (a :: as) = run step s' as := by
  rw [run_cons, h, Option.bind_some]

theorem run_append_of_run {s s' : σ} {as : List α} (h : run step s as = some s') (bs : List α) :
    run step s (as ++ bs) = run step s' bs := by
  rw [run_append, h, Option.bind_some]

/-- Every step of the run from `s` satisfies `C`. -/
def Along (C : σ → α → Prop) : σ → List α → Prop
  | _, [] => True
  | s, a :: as => C s a ∧ ∀ s', step s a = some s' → Along C s' as

variable {step}

theorem run_invariant_along {C : σ → α → Prop} {P : σ → Prop}
    (hs : ∀ s a s', P s → C s a → step s a = some s' → P s') :
    ∀ {as : List α} {s s' : σ}, P s → Along step C s as → run step s as = some s' → P s'
  | [], s, s', hp, _, h => by
    rw [run_nil, Option.some.injEq] at h
    exact h ▸ hp
  | a :: as, s, s', hp, hc, h => by
    rw [run_cons] at h
    cases hsa : step s a with
    | none => rw [hsa] at h; cases h
    | some s₁ =>
      rw [hsa, Option.bind_some] at h
      exact run_invariant_along hs (hs s a s₁ hp hc.1 hsa) (hc.2 s₁ hsa) h

theorem along_true : ∀ (as : List α) (s : σ), Along step (fun _ _ => True) s as
  | [], _ => trivial
  | _ :: as, _ => ⟨trivial, fun s' _ => along_true as s'⟩

theorem along_of_forall {C : α → Prop} : ∀ {as : List α} (s : σ), (∀ a ∈ as, C a) → Along step (fun _ a => C a) s as
  | [], _, _ => trivial
  | a :: _, _, h => ⟨h a List.mem_cons_self, fun s' _ => along_of_forall s' fun b hb => h b (List.mem_cons_of_mem _ hb)⟩

theorem along_cons_of_step {C : σ → α → Prop} {s s' : σ} {a : α} {as : List α} (h : step s a = some s') (hc : C s a)
    (has : Along step C s' as) : Along step C s (a :: as) := by
  refine ⟨hc, fun t ht => ?_⟩
  rw [h, Option.some.injEq] at ht
  exact ht ▸ has

/-- What every step preserves, every run preserves. -/
theorem run_invariant {P : σ → Prop} (hs : ∀ s a s', P s → step s a = some s' → P s')
    {as : List α} {s s' : σ} (hp : P s) (h : run step s as = some s') : P s' :=
  run_invariant_along (fun s a s' hp _ hsa => hs s a s' hp hsa) hp (along_true as s) h

/-- Two conditions that agree where `P` holds, which the steps of the first preserve, allow the same runs. -/
theorem along_iff {C D : σ → α → Prop} {P : σ → Prop} (hcd : ∀ s a, P s → (C s a ↔ D s a))
    (hs : ∀ s a s', P s → C s a → step s a = some s' → P s') :
    ∀ {as : List α} {s : σ}, P s → (Along step C s as ↔ Along step D s as)
  | [], _, _ => Iff.rfl
  | a :: as, s, hp => by
    constructor
    · intro h
      exact ⟨(hcd s a hp).mp h.1, fun s' hsa => (along_iff hcd hs (hs s a s' hp h.1 hsa)).mp (h.2 s' hsa)⟩
    · intro h
      have hc : C s a := (hcd s a hp).mpr h.1
      exact ⟨hc, fun s' hsa => (along_iff hcd hs (hs s a s' hp hc hsa)).mpr (h.2 s' hsa)⟩

/-- While `Q` lasts, a rank that every counted step lowers bounds the counted steps. -/
theorem run_countP_le {P Q : σ → Prop} {rank : σ → Nat} {p : α → Bool}
    (hs : ∀ s a s', P s → step s a = some s' →
      P s' ∧ (Q s' → Q s ∧ rank s' + (if p a = true then 1 else 0) ≤ rank s)) :
    ∀ {as : List α} {s s' : σ}, P s → run step s as = some s' → Q s' → Q s ∧ rank s' + as.countP p ≤ rank s
  | [], s, s', _, h, hq => by
    rw [run_nil, Option.some.injEq] at h
    exact ⟨h ▸ hq, h ▸ Nat.le_refl _⟩
  | a :: as, s, s', hp, h, hq => by
    rw [run_cons] at h
    cases hsa : step s a with
    | none => rw [hsa] at h; cases h
    | some s₁ =>
      rw [hsa, Option.bind_some] at h
      obtain ⟨hp₁, hrank⟩ := hs s a s₁ hp hsa
      obtain ⟨hq₁, hcount⟩ := run_countP_le hs hp₁ h hq
      obtain ⟨hq, hrank⟩ := hrank hq₁
      refine ⟨hq, ?_⟩
      rw [List.countP_cons]
      omega

theorem run_crosses {Q : σ → Prop} : ∀ {as : List α} {s s' : σ}, Q s → run step s as = some s' → ¬ Q s' →
    ∃ before a after s₁ s₂, as = before ++ a :: after ∧ run step s before = some s₁ ∧ Q s₁ ∧
      step s₁ a = some s₂ ∧ ¬ Q s₂
  | [], s, s', hq, h, hn => by
    rw [run_nil, Option.some.injEq] at h
    exact absurd (h ▸ hq) hn
  | a :: as, s, s', hq, h, hn => by
    rw [run_cons] at h
    cases hsa : step s a with
    | none => rw [hsa] at h; cases h
    | some s₁ =>
      rw [hsa, Option.bind_some] at h
      by_cases hq₁ : Q s₁
      · obtain ⟨before, b, after, t, t', rfl, hrun, ht, hstep, ht'⟩ := run_crosses hq₁ h hn
        exact ⟨a :: before, b, after, t, t', rfl, by rw [run_cons_of_step step hsa, hrun], ht, hstep, ht'⟩
      · exact ⟨[], a, as, s, s₁, rfl, rfl, hq, hsa, hq₁⟩

/-- An event in a trace that has grown was there before or is a new one. -/
theorem append_cons_eq_append {ε : Type u} {before after l more : List ε} {x : ε} (h : before ++ x :: after = l ++ more) :
    (∃ after', after = after' ++ more ∧ l = before ++ x :: after') ∨ x ∈ more := by
  rcases List.append_eq_append_iff.mp h with ⟨between, hl, hafter⟩ | ⟨between, -, hmore⟩
  · cases between with
    | nil =>
      rw [List.nil_append] at hafter
      exact Or.inr (hafter ▸ List.mem_cons_self)
    | cons y after' =>
      obtain ⟨rfl, rfl⟩ := List.cons.inj hafter
      exact Or.inl ⟨after', rfl, hl⟩
  · exact Or.inr (hmore ▸ List.mem_append_right _ List.mem_cons_self)

theorem append_cons_eq_append_singleton {ε : Type u} {before after l : List ε} {x y : ε}
    (h : before ++ x :: after = l ++ [y]) :
    (before = l ∧ x = y ∧ after = []) ∨ ∃ after', after = after' ++ [y] ∧ l = before ++ x :: after' := by
  rcases List.eq_nil_or_concat after with rfl | ⟨after', z, rfl⟩
  · obtain ⟨hbefore, hx⟩ := List.append_inj' h rfl
    exact Or.inl ⟨hbefore, List.singleton_inj.mp hx, rfl⟩
  · rw [List.concat_eq_append, ← List.cons_append, ← List.append_assoc] at h
    obtain ⟨hl, hy⟩ := List.append_inj' h rfl
    exact Or.inr ⟨after', by rw [List.concat_eq_append, List.singleton_inj.mp hy], hl.symm⟩

end Lts
