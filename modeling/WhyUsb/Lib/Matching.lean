import Mathlib.Data.List.Forall2
import Mathlib.Data.List.Perm.Subperm

/-!
# Lists matched in order

`SublistForall₂ R l m` matches the entries of `l`, in order, with entries of
`m`, each used once at most. What is left out of either list leaves a matching,
and matchings compose. Images of matched lists agree where the match says so.
-/

namespace Matching

open List

universe u v w
variable {α : Type u} {β : Type v} {γ : Type w} {R : α → β → Prop} {S : β → γ → Prop}

theorem forall₂_of_sublist {l l' : List α} {m : List β} (hl : l' <+ l) (h : Forall₂ R l m) :
    ∃ m', m' <+ m ∧ Forall₂ R l' m' := by
  induction hl generalizing m with
  | slnil => exact ⟨[], nil_sublist _, .nil⟩
  | cons a _ ih =>
    cases h with
    | cons _ htail =>
      obtain ⟨m', hm, h'⟩ := ih htail
      exact ⟨m', hm.cons _, h'⟩
  | cons_cons a _ ih =>
    cases h with
    | cons hhead htail =>
      obtain ⟨m', hm, h'⟩ := ih htail
      exact ⟨_ :: m', hm.cons_cons _, .cons hhead h'⟩

theorem exists_of_mem_forall₂ {l : List α} {m : List β} (h : Forall₂ R l m) {a : α} (ha : a ∈ l) : ∃ b ∈ m, R a b := by
  obtain ⟨i, hi, rfl⟩ := List.getElem_of_mem ha
  exact ⟨_, List.getElem_mem (h.length_eq ▸ hi), h.get hi (h.length_eq ▸ hi)⟩

theorem forall₂_append_split {l₁ l₂ : List α} {m : List β} (h : Forall₂ R (l₁ ++ l₂) m) :
    ∃ m₁ m₂, Forall₂ R l₁ m₁ ∧ Forall₂ R l₂ m₂ ∧ m = m₁ ++ m₂ := by
  induction l₁ generalizing m with
  | nil => exact ⟨[], m, .nil, h, rfl⟩
  | cons a l₁ ih =>
    cases h with
    | cons hhead htail =>
      obtain ⟨m₁, m₂, h₁, h₂, rfl⟩ := ih htail
      exact ⟨_ :: m₁, m₂, .cons hhead h₁, h₂, rfl⟩

theorem sublistForall₂_of_sublist {l : List α} {m m' : List β} (h : SublistForall₂ R l m) (hm : m <+ m') :
    SublistForall₂ R l m' := by
  obtain ⟨n, hn, hsub⟩ := sublistForall₂_iff.mp h
  exact sublistForall₂_iff.mpr ⟨n, hn, hsub.trans hm⟩

theorem sublistForall₂_append {l l' : List α} {m m' : List β} (h : SublistForall₂ R l m) (h' : Forall₂ R l' m') :
    SublistForall₂ R (l ++ l') (m ++ m') := by
  obtain ⟨n, hn, hsub⟩ := sublistForall₂_iff.mp h
  exact sublistForall₂_iff.mpr ⟨n ++ m', rel_append hn h', hsub.append_right m'⟩

theorem sublistForall₂_comp {l : List α} {m : List β} {n : List γ} (h : SublistForall₂ R l m) (h' : Forall₂ S m n) :
    SublistForall₂ (fun a c => ∃ b, R a b ∧ S b c) l n := by
  induction h generalizing n with
  | nil => exact .nil
  | cons hab _ ih =>
    cases h' with
    | cons hbc htail => exact .cons ⟨_, hab, hbc⟩ (ih htail)
  | cons_right _ ih =>
    cases h' with
    | cons _ htail => exact .cons_right (ih htail)

/-! ## Images of matched lists -/

theorem map_eq_of_forall₂ {f : α → γ} {g : β → γ} (h : ∀ a b, R a b → f a = g b) {l : List α} {m : List β}
    (hl : Forall₂ R l m) : l.map f = m.map g := by
  induction hl with
  | nil => rfl
  | cons hab _ ih => rw [List.map_cons, List.map_cons, ih, h _ _ hab]

theorem filterMap_eq_of_forall₂ {f : α → Option γ} {g : β → γ} (h : ∀ a b, R a b → f a = some (g b)) {l : List α}
    {m : List β} (hl : Forall₂ R l m) : l.filterMap f = m.map g := by
  induction hl with
  | nil => rfl
  | cons hab _ ih => rw [List.filterMap_cons, h _ _ hab, List.map_cons, ih]

theorem subperm_map (f : α → γ) {l m : List α} (h : l <+~ m) : l.map f <+~ m.map f := by
  obtain ⟨l', hperm, hsub⟩ := h
  exact ⟨l'.map f, hperm.map f, hsub.map f⟩

/-- Each entry of the image under `p` is one of the image under `q` or under `r`. -/
theorem subperm_filterMap_append {p q r : α → Option β} (h : ∀ a b, p a = some b → q a = some b ∨ r a = some b) :
    ∀ l : List α, l.filterMap p <+~ l.filterMap q ++ l.filterMap r
  | [] => Subperm.refl _
  | a :: l => by
    have hrest := subperm_filterMap_append h l
    have htail : l.filterMap q ++ l.filterMap r <+~ (a :: l).filterMap q ++ (a :: l).filterMap r := by
      refine (Sublist.append ?_ ?_).subperm
      · exact (sublist_cons_self a l).filterMap q
      · exact (sublist_cons_self a l).filterMap r
    rw [List.filterMap_cons]
    cases hp : p a with
    | none => exact hrest.trans htail
    | some b =>
      obtain hq | hr := h a b hp
      · rw [List.filterMap_cons, hq, List.cons_append]
        refine (subperm_cons b).mpr (hrest.trans ?_)
        exact (((sublist_cons_self a l).filterMap r).append_left _).subperm
      · rw [List.filterMap_cons (f := r), hr]
        refine ((subperm_cons b).mpr (hrest.trans ?_)).trans perm_middle.symm.subperm
        exact (((sublist_cons_self a l).filterMap q).append_right _).subperm

end Matching
