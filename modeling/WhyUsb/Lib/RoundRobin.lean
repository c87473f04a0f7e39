import Mathlib.Data.List.Basic
import Mathlib.Data.List.Nodup

/-!
# Round-robin order

An order without duplicates is served at the front; who is served goes to the
back or leaves, newcomers join at the back, and anyone may be dropped. `ahead k`
is who is served before `k`: as long as `k` is neither served nor dropped, it
only loses members, and each service takes its first. So whoever stays is
served, once, before `k` is.
-/

namespace RoundRobin

universe u
variable {κ : Type u} [DecidableEq κ]

/-- One change of the order, with who was served by it. -/
inductive Move : List κ → Option κ → List κ → Prop
  | skip (l : List κ) : Move l none l
  | join (l : List κ) (x : κ) : x ∉ l → Move l none (l ++ [x])
  | drop (l : List κ) (x : κ) : Move l none (l.filter fun y => y ≠ x)
  | leave (x : κ) (l : List κ) : Move (x :: l) (some x) l
  | rotate (x : κ) (l : List κ) : Move (x :: l) (some x) (l ++ [x])

def ahead (k : κ) (l : List κ) : List κ := l.takeWhile fun x => x ≠ k

/-- Changes of the order through all of which the members of `K` stay in it, with who was served. -/
inductive Turns (K : κ → Prop) : List κ → List κ → List κ → Prop
  | nil (l : List κ) : Turns K l [] l
  | cons {l l₁ l' : List κ} {served : Option κ} {rest : List κ} : Move l served l₁ → (∀ x, K x → x ∈ l₁) →
      Turns K l₁ rest l' → Turns K l (served.toList ++ rest) l'

variable {k : κ} {l l' : List κ}

/-! ## Who stands before `k` -/

theorem ahead_cons_self (k : κ) (l : List κ) : ahead k (k :: l) = [] := by
  rw [ahead, List.takeWhile_cons_of_neg (by simp)]

theorem ahead_cons_of_ne {x : κ} (h : x ≠ k) (l : List κ) : ahead k (x :: l) = x :: ahead k l := by
  rw [ahead, List.takeWhile_cons_of_pos (by simpa using h), ahead]

theorem ahead_append (m : List κ) : ∀ {l : List κ}, k ∈ l → ahead k (l ++ m) = ahead k l
  | [], h => nomatch h
  | x :: l, h => by
    by_cases hx : x = k
    · rw [hx, List.cons_append, ahead_cons_self, ahead_cons_self]
    · rw [List.cons_append, ahead_cons_of_ne hx, ahead_cons_of_ne hx,
        ahead_append m (List.mem_of_ne_of_mem (Ne.symm hx) h)]

theorem ahead_filter {x : κ} (hx : x ≠ k) : ∀ l : List κ,
    ahead k (l.filter fun y => y ≠ x) = (ahead k l).filter fun y => y ≠ x
  | [] => rfl
  | y :: l => by
    by_cases hyk : y = k
    · rw [hyk, List.filter_cons_of_pos (by simpa using hx.symm), ahead_cons_self, ahead_cons_self, List.filter_nil]
    · by_cases hyx : y = x
      · rw [List.filter_cons_of_neg (by simpa using hyx), ahead_cons_of_ne hyk, List.filter_cons_of_neg (by simpa using hyx),
          ahead_filter hx l]
      · rw [List.filter_cons_of_pos (by simpa using hyx), ahead_cons_of_ne hyk, ahead_cons_of_ne hyk,
          List.filter_cons_of_pos (by simpa using hyx), ahead_filter hx l]

theorem ahead_nodup (h : l.Nodup) : (ahead k l).Nodup := (List.takeWhile_prefix _).sublist.nodup h

theorem ahead_append_self : ∀ {l : List κ}, k ∉ l → ahead k (l ++ [k]) = l
  | [], _ => ahead_cons_self k []
  | x :: l, h => by
    rw [List.mem_cons, not_or] at h
    rw [List.cons_append, ahead_cons_of_ne (Ne.symm h.1), ahead_append_self h.2]

theorem ahead_length : ∀ {l : List κ} {p : Nat}, l.Nodup → l[p]? = some k → (ahead k l).length = p
  | x :: l, 0, _, h => by
    rw [List.getElem?_cons_zero, Option.some.injEq] at h
    rw [h, ahead_cons_self, List.length_nil]
  | x :: l, p + 1, hd, h => by
    rw [List.getElem?_cons_succ] at h
    rw [List.nodup_cons] at hd
    have hx : x ≠ k := fun he => hd.1 (he ▸ List.mem_of_getElem? h)
    rw [ahead_cons_of_ne hx, List.length_cons, ahead_length hd.2 h]

/-! ## Changes of the order -/

/-- One change takes members from those before `k`, and whom it serves from their front. -/
theorem Move.ahead {served : Option κ} (h : Move l served l') (hk : k ∈ l) (hk' : k ∈ l') (hs : served ≠ some k) :
    (served.toList ++ RoundRobin.ahead k l').Sublist (RoundRobin.ahead k l) ∧
      ∀ x ∈ RoundRobin.ahead k l, x ∈ l' → some x ≠ served → x ∈ RoundRobin.ahead k l' := by
  cases h with
  | skip => exact ⟨List.Sublist.refl _, fun _ hx _ _ => hx⟩
  | join _ x hx =>
    rw [ahead_append [x] hk]
    exact ⟨List.Sublist.refl _, fun _ hx _ _ => hx⟩
  | drop _ x =>
    have hx : x ≠ k := fun he => by simp [he] at hk'
    rw [ahead_filter hx]
    refine ⟨List.filter_sublist, fun y hy hy' _ => List.mem_filter.mpr ⟨hy, ?_⟩⟩
    exact (List.mem_filter.mp hy').2
  | leave x =>
    have hx : x ≠ k := fun he => hs (congrArg some he)
    rw [ahead_cons_of_ne hx]
    refine ⟨List.Sublist.refl _, fun y hy _ hne => ?_⟩
    rcases List.mem_cons.mp hy with rfl | hy
    · exact absurd rfl hne
    · exact hy
  | rotate x rest =>
    have hx : x ≠ k := fun he => hs (congrArg some he)
    have hrest : k ∈ rest := List.mem_of_ne_of_mem hx.symm hk
    rw [ahead_cons_of_ne hx, ahead_append [x] hrest]
    refine ⟨List.Sublist.refl _, fun y hy _ hne => ?_⟩
    rcases List.mem_cons.mp hy with rfl | hy
    · exact absurd rfl hne
    · exact hy

/-- While `k` stays and waits, those served come from before `k` and in that order, and whoever stays is served or
still before `k`. -/
theorem Turns.ahead {K : κ → Prop} {served : List κ} (h : Turns K l served l') (hkK : K k) :
    k ∈ l → k ∉ served →
      (served ++ RoundRobin.ahead k l').Sublist (RoundRobin.ahead k l) ∧
        ∀ x, K x → x ∈ RoundRobin.ahead k l → x ∈ served ∨ x ∈ RoundRobin.ahead k l' := by
  induction h with
  | nil l => exact fun _ _ => ⟨List.Sublist.refl _, fun _ _ hx => Or.inr hx⟩
  | @cons l l₁ l' s rest hmove hkeep _ ih =>
    intro hk hserved
    have hs : s ≠ some k := by
      rintro rfl
      exact hserved (by simp)
    obtain ⟨hsub, hstay⟩ := hmove.ahead hk (hkeep k hkK) hs
    obtain ⟨hsub', hstay'⟩ := ih (hkeep k hkK) fun hin => hserved (List.mem_append_right _ hin)
    refine ⟨?_, fun x hx hin => ?_⟩
    · rw [List.append_assoc]
      exact (hsub'.append_left _).trans hsub
    · by_cases hserves : some x = s
      · exact Or.inl (List.mem_append_left _ (hserves ▸ List.mem_singleton.mpr rfl))
      · rcases hstay' x hx (hstay x hin (hkeep x hx) hserves) with hin' | hin'
        · exact Or.inl (List.mem_append_right _ hin')
        · exact Or.inr hin'

end RoundRobin
