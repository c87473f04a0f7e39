import Mathlib.Logic.Function.Basic
import Mathlib.Data.List.Count
import Mathlib.Data.List.Pairwise

/-!
# Maps from keys to FIFO lists, and the accounts kept of them

The map is a function `κ → List α`, every value stored under its own key
(`Keyed`). `Ledger` balances what entered against what is held and what left,
with multiplicities; `InOrder` says that what was taken from the front of a
key's list and what is still in it stand in the order of entry; `Parts` reads
the map as one list in order of arrival, sorted by key.
-/

namespace FifoMap

universe u v
variable {κ : Type u} {α : Type v} {keyOf : α → κ} {m : κ → List α}

def Keyed (keyOf : α → κ) (m : κ → List α) : Prop := ∀ k, ∀ a ∈ m k, keyOf a = k

/-- Everything that entered is held or has left, with multiplicities. -/
structure Ledger [BEq α] (keyOf : α → κ) (m : κ → List α) (entered left : List α) : Prop where
  keyed : Keyed keyOf m
  balance : ∀ a, entered.count a = (m (keyOf a)).count a + left.count a

theorem ledger_empty [BEq α] : Ledger keyOf (fun _ => []) [] [] where
  keyed := fun _ _ h => nomatch h
  balance := fun _ => rfl

theorem Ledger.of_perm [BEq α] [LawfulBEq α] {entered left left' : List α} (h : Ledger keyOf m entered left)
    (hp : left.Perm left') : Ledger keyOf m entered left' where
  keyed := h.keyed
  balance := fun a => by rw [h.balance a, hp.count_eq]

theorem count_flatMap [BEq α] [LawfulBEq α] {l : List (κ × List α)} (hd : l.Pairwise fun p q => p.1 ≠ q.1)
    (hk : ∀ p ∈ l, ∀ a ∈ p.2, keyOf a = p.1) {a : α} {xs : List α} (hm : (keyOf a, xs) ∈ l) :
    (l.flatMap Prod.snd).count a = xs.count a := by
  induction l with
  | nil => cases hm
  | cons p l ih =>
    have hrest : ∀ q ∈ l, ∀ b ∈ q.2, keyOf b = q.1 := fun q hq => hk q (List.mem_cons_of_mem _ hq)
    rw [List.flatMap_cons, List.count_append]
    rw [List.pairwise_cons] at hd
    rcases List.mem_cons.mp hm with rfl | hm
    · rw [@List.count_eq_zero_of_not_mem _ _ _ _ (l.flatMap Prod.snd), Nat.add_zero]
      intro ha
      obtain ⟨q, hq, ha⟩ := List.mem_flatMap.mp ha
      exact hd.1 q hq (hrest q hq a ha)
    · rw [ih hd.2 hrest hm, List.count_eq_zero_of_not_mem, Nat.zero_add]
      intro ha
      exact hd.1 _ hm (hk p List.mem_cons_self a ha).symm

variable [DecidableEq κ]

theorem keyed_update (hm : Keyed keyOf m) {k : κ} {xs : List α} (hx : ∀ a ∈ xs, keyOf a = k) :
    Keyed keyOf (Function.update m k xs) := by
  intro k' a ha
  rcases eq_or_ne k' k with rfl | hk
  · rw [Function.update_self] at ha
    exact hx a ha
  · rw [Function.update_of_ne hk] at ha
    exact hm k' a ha

/-! ## Accounting -/

section
variable [BEq α] [LawfulBEq α]

theorem count_update (hm : Keyed keyOf m) {k : κ} {xs : List α} (hx : ∀ a ∈ xs, keyOf a = k) (a : α) :
    (Function.update m k xs (keyOf a)).count a + (m k).count a = (m (keyOf a)).count a + xs.count a := by
  rcases eq_or_ne (keyOf a) k with rfl | hk
  · rw [Function.update_self, Nat.add_comm]
  · rw [Function.update_of_ne hk, List.count_eq_zero_of_not_mem fun ha => hk (hm k a ha),
      List.count_eq_zero_of_not_mem fun ha => hk (hx a ha)]

theorem Ledger.put {entered left : List α} (h : Ledger keyOf m entered left) {k : κ} {a : α} (ha : keyOf a = k) :
    Ledger keyOf (Function.update m k (m k ++ [a])) (entered ++ [a]) left := by
  have hx : ∀ b ∈ m k ++ [a], keyOf b = k := by
    intro b hb
    rcases List.mem_append.mp hb with hb | hb
    · exact h.keyed k b hb
    · rw [List.mem_singleton.mp hb]
      exact ha
  refine ⟨keyed_update h.keyed hx, fun b => ?_⟩
  have hc := count_update h.keyed hx b
  rw [List.count_append] at hc ⊢
  rw [h.balance b]
  omega

/-- What leaves a key's list goes to the other side of the account. -/
theorem Ledger.leave {entered left : List α} (h : Ledger keyOf m entered left) {k : κ} {kept gone : List α}
    (hp : (m k).Perm (kept ++ gone)) : Ledger keyOf (Function.update m k kept) entered (left ++ gone) := by
  have hx : ∀ b ∈ kept, keyOf b = k := fun b hb =>
    h.keyed k b (hp.mem_iff.mpr (List.mem_append_left _ hb))
  refine ⟨keyed_update h.keyed hx, fun b => ?_⟩
  have hc := count_update h.keyed hx b
  rw [hp.count_eq, List.count_append] at hc
  rw [List.count_append, h.balance b]
  omega

end

/-! ## Order -/

def ofKey (keyOf : α → κ) (k : κ) (xs : List α) : List α := xs.filter fun a => decide (keyOf a = k)

theorem ofKey_append (k : κ) (xs ys : List α) : ofKey keyOf k (xs ++ ys) = ofKey keyOf k xs ++ ofKey keyOf k ys :=
  List.filter_append ..

theorem ofKey_singleton_self {k : κ} {a : α} (h : keyOf a = k) : ofKey keyOf k [a] = [a] :=
  List.filter_eq_self.mpr fun b hb => by rw [List.mem_singleton.mp hb, decide_eq_true_eq]; exact h

theorem ofKey_singleton_ne {k : κ} {a : α} (h : keyOf a ≠ k) : ofKey keyOf k [a] = [] :=
  List.filter_eq_nil_iff.mpr fun b hb => by rw [List.mem_singleton.mp hb, decide_eq_true_eq]; exact h

/-- Under each key, what was taken and what is held, in that order, entered in that order. -/
def InOrder (keyOf : α → κ) (m : κ → List α) (entered taken : List α) : Prop :=
  ∀ k, (ofKey keyOf k taken ++ m k).Sublist (ofKey keyOf k entered)

theorem inOrder_empty : InOrder keyOf (fun _ => []) [] [] := fun _ => List.Sublist.slnil

theorem InOrder.put {entered taken : List α} (h : InOrder keyOf m entered taken) {k : κ} {a : α} (ha : keyOf a = k) :
    InOrder keyOf (Function.update m k (m k ++ [a])) (entered ++ [a]) taken := by
  intro k'
  rw [ofKey_append]
  rcases eq_or_ne k' k with rfl | hk
  · rw [Function.update_self, ← List.append_assoc, ofKey_singleton_self ha]
    exact List.Sublist.append (h k') (List.Sublist.refl _)
  · rw [Function.update_of_ne hk]
    exact (h k').trans (List.sublist_append_left ..)

theorem InOrder.take {entered taken : List α} (h : InOrder keyOf m entered taken) {k : κ} {a : α} {rest : List α}
    (hm : m k = a :: rest) (ha : keyOf a = k) : InOrder keyOf (Function.update m k rest) entered (taken ++ [a]) := by
  intro k'
  have hk' := h k'
  rw [ofKey_append]
  rcases eq_or_ne k' k with rfl | hk
  · rw [hm] at hk'
    rwa [Function.update_self, ofKey_singleton_self ha, List.append_assoc, List.singleton_append]
  · rwa [Function.update_of_ne hk, ofKey_singleton_ne (by rw [ha]; exact hk.symm), List.append_nil]

theorem InOrder.drop {entered taken : List α} (h : InOrder keyOf m entered taken) {k : κ} {kept : List α}
    (hs : kept.Sublist (m k)) : InOrder keyOf (Function.update m k kept) entered taken := by
  intro k'
  rcases eq_or_ne k' k with rfl | hk
  · rw [Function.update_self]
    exact ((List.Sublist.refl _).append hs).trans (h k')
  · rw [Function.update_of_ne hk]
    exact h k'

theorem InOrder.clear {entered taken : List α} (h : InOrder keyOf m entered taken) :
    InOrder keyOf (fun _ => []) entered taken := by
  intro k
  rw [List.append_nil]
  exact (List.sublist_append_left ..).trans (h k)

/-! ## One list in order of arrival -/

/-- The map shows, under each key, that key's part of one list. -/
def Parts (keyOf : α → κ) (m : κ → List α) (arrived : List α) : Prop := ∀ k, m k = ofKey keyOf k arrived

section
variable {arrived : List α}

theorem mem_ofKey {k : κ} {a : α} : a ∈ ofKey keyOf k arrived ↔ a ∈ arrived ∧ keyOf a = k := by
  rw [ofKey, List.mem_filter, decide_eq_true_eq]

theorem ofKey_filter (k : κ) (p : α → Bool) :
    ofKey keyOf k (arrived.filter p) = (ofKey keyOf k arrived).filter p := by
  rw [ofKey, ofKey, List.filter_filter, List.filter_filter]
  simp only [Bool.and_comm]

theorem parts_empty : Parts keyOf (fun _ => []) [] := fun _ => rfl

theorem Parts.mem_iff (h : Parts keyOf m arrived) {a : α} : a ∈ arrived ↔ a ∈ m (keyOf a) := by
  rw [h, mem_ofKey, and_iff_left rfl]

theorem Parts.put (h : Parts keyOf m arrived) {k : κ} {a : α} (ha : keyOf a = k) :
    Parts keyOf (Function.update m k (m k ++ [a])) (arrived ++ [a]) := by
  intro k'
  rw [ofKey_append]
  rcases eq_or_ne k' k with rfl | hk
  · rw [Function.update_self, ofKey_singleton_self ha, h]
  · rw [Function.update_of_ne hk, ofKey_singleton_ne (by rw [ha]; exact hk.symm), List.append_nil, h]

/-- The first of its kind under its key is the first of its kind in the list. -/
theorem Parts.erase [BEq α] [LawfulBEq α] (h : Parts keyOf m arrived) {a : α} {before after : List α}
    (hm : m (keyOf a) = before ++ a :: after) (ha : a ∉ before) :
    Parts keyOf (Function.update m (keyOf a) (before ++ after)) (arrived.erase a) := by
  intro k
  rw [ofKey, ← List.erase_filter, ← ofKey, ← h]
  rcases eq_or_ne k (keyOf a) with rfl | hk
  · rw [Function.update_self, hm, List.erase_append_right _ ha, List.erase_cons_head]
  · rw [Function.update_of_ne hk, List.erase_of_not_mem]
    intro hmem
    rw [h, mem_ofKey] at hmem
    exact hk hmem.2.symm

theorem Parts.drop (h : Parts keyOf m arrived) (k : κ) :
    Parts keyOf (Function.update m k []) (arrived.filter fun a => keyOf a ≠ k) := by
  intro k'
  rw [ofKey_filter, ← h]
  rcases eq_or_ne k' k with rfl | hk
  · rw [Function.update_self, eq_comm, List.filter_eq_nil_iff]
    intro a ha
    rw [h, mem_ofKey] at ha
    simp [ha.2]
  · rw [Function.update_of_ne hk, eq_comm, List.filter_eq_self]
    intro a ha
    rw [h, mem_ofKey] at ha
    rw [decide_eq_true_eq, ha.2]
    exact hk

end

end FifoMap
