import Mathlib.Data.List.Forall2

/-!
# Machines that answer each input

`run` pairs each input of a machine with its answer. A machine that takes from
the front of a queue and adds to its back keeps books: over a run, what was
taken and what is left are what there was and what was added. A machine whose
every step is a step of another gives the answers of the other, and one that
answers some of its inputs as another does agrees with it over every run.
-/

namespace Mealy

universe u
variable {σ ι ο α : Type u} (step : ι → σ → ο × σ)

def run : σ → List ι → List (ι × ο) × σ
  | s, [] => ([], s)
  | s, i :: is =>
    let done := step i s
    let rest := run done.2 is
    ((i, done.1) :: rest.1, rest.2)

theorem run_cons (s : σ) (i : ι) (is : List ι) : run step s (i :: is) =
    ((i, (step i s).1) :: (run step (step i s).2 is).1, (run step (step i s).2 is).2) := rfl

variable {step}

/-- The books of each step, where `P` holds, are the books of the run. -/
theorem run_balanced {P : σ → Prop} {queue : σ → List α} {taken added : ι × ο → List α}
    (hkeep : ∀ i s, P s → P (step i s).2)
    (hstep : ∀ i s, P s → taken (i, (step i s).1) ++ queue (step i s).2 = queue s ++ added (i, (step i s).1)) :
    ∀ (is : List ι) {s : σ}, P s →
      (run step s is).1.flatMap taken ++ queue (run step s is).2 = queue s ++ (run step s is).1.flatMap added := by
  intro is
  induction is with
  | nil =>
    intro s _
    exact (List.append_nil _).symm
  | cons i is ih =>
    intro s hs
    rw [run_cons, List.flatMap_cons, List.flatMap_cons, List.append_assoc, ih (hkeep i s hs), ← List.append_assoc,
      hstep i s hs, List.append_assoc]

/-- What the steps of `spec` say of the steps of `step`, its runs say of the runs. -/
theorem run_follows {σ' : Type u} {spec : ι → σ' → ο × σ'} {R : σ → σ' → Prop}
    (hstep : ∀ i s t, R s t → (step i s).1 = (spec i t).1 ∧ R (step i s).2 (spec i t).2) :
    ∀ (is : List ι) {s : σ} {t : σ'}, R s t →
      (run step s is).1 = (run spec t is).1 ∧ R (run step s is).2 (run spec t is).2 := by
  intro is
  induction is with
  | nil =>
    intro s t hrel
    exact ⟨rfl, hrel⟩
  | cons i is ih =>
    intro s t hrel
    obtain ⟨hanswer, hnext⟩ := hstep i s t hrel
    obtain ⟨hrest, hend⟩ := ih hnext
    rw [run_cons, run_cons, hanswer, hrest]
    exact ⟨rfl, hend⟩

/-- The two machines take the inputs that both see in step, and the second is alone with the others. -/
theorem run_agree {σ' ι' ο' : Type u} {step' : ι' → σ' → ο' × σ'} {R : σ → σ' → Prop} {Same : ι → ι' → Prop}
    {Agree : ι × ο → ι' × ο' → Prop} {seen : ι' → Bool}
    (hstep : ∀ i j s t, R s t → Same i j → seen j = true →
      Agree (i, (step i s).1) (j, (step' j t).1) ∧ R (step i s).2 (step' j t).2)
    (hother : ∀ j s t, R s t → seen j = false → R s (step' j t).2) :
    ∀ (js : List ι') {is : List ι} {s : σ} {t : σ'}, List.Forall₂ Same is (js.filter seen) → R s t →
      List.Forall₂ Agree (run step s is).1 ((run step' t js).1.filter fun x => seen x.1) ∧
        R (run step s is).2 (run step' t js).2 := by
  intro js
  induction js with
  | nil =>
    intro is s t his hrel
    cases his
    exact ⟨.nil, hrel⟩
  | cons j js ih =>
    intro is s t his hrel
    rw [run_cons step' t j js, List.filter_cons]
    by_cases hj : seen j
    · rw [List.filter_cons_of_pos hj] at his
      cases his with
      | cons hsame his =>
        obtain ⟨hagree, hnext⟩ := hstep _ j s t hrel hsame hj
        obtain ⟨hrest, hend⟩ := ih his hnext
        rw [if_pos hj, run_cons]
        exact ⟨.cons hagree hrest, hend⟩
    · rw [List.filter_cons_of_neg hj] at his
      rw [if_neg hj]
      exact ih his (hother j s t hrel (Bool.eq_false_iff.mpr hj))

end Mealy
