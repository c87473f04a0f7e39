import Mathlib.Data.List.TakeWhile
import Mathlib.Data.Nat.Init

/-!
# Words between gaps

A text cut into words at the gaps, trimmed at both ends, and cut into entries
at a separator. `Spaced`, `Trimmed` and `Listing` say what a text spaces out,
surrounds and lists, whatever the gaps are: it is what the cuts find, and what
is written that way is cut back.
-/

namespace Words

universe u
variable {α : Type u} {p : α → Bool}

/-- The pieces between gaps that are not empty. -/
def words (p : α → Bool) (text : List α) : List (List α) := (text.splitOnP p).filter (!·.isEmpty)

def trimStart (p : α → Bool) (text : List α) : List α := text.dropWhile p

def trimEnd (p : α → Bool) (text : List α) : List α := (text.reverse.dropWhile p).reverse

def trim (p : α → Bool) (text : List α) : List α := trimEnd p (trimStart p text)

/-- No gap in it, and not empty. -/
def IsWord (p : α → Bool) (w : List α) : Prop := w ≠ [] ∧ ∀ a ∈ w, p a = false

inductive Spaced (p : α → Bool) : List (List α) → List α → Prop
  | nil : Spaced p [] []
  | gap {ws text a} : p a → Spaced p ws text → Spaced p ws (a :: text)
  | last {w} : IsWord p w → Spaced p [w] w
  | cons {w ws text a} : IsWord p w → p a → Spaced p ws text → Spaced p (w :: ws) (w ++ a :: text)

/-- No separator is left in a piece. -/
theorem not_of_mem_splitOnP {text piece : List α} (h : piece ∈ text.splitOnP p) : ∀ a ∈ piece, p a = false := by
  induction text generalizing piece with
  | nil =>
    rw [List.splitOnP_nil, List.mem_singleton] at h
    rw [h]
    nofun
  | cons a text ih =>
    rw [List.splitOnP_cons_eq_if_modifyHead] at h
    by_cases ha : p a
    · rw [if_pos ha, List.mem_cons] at h
      obtain rfl | h := h
      · nofun
      · exact ih h
    · rw [if_neg ha] at h
      obtain ⟨first, rest, hpieces⟩ := List.exists_cons_of_ne_nil (List.splitOnP_ne_nil p text)
      rw [hpieces, List.modifyHead_cons, List.mem_cons] at h
      rw [hpieces] at ih
      obtain rfl | h := h
      · intro b hb
        rw [List.mem_cons] at hb
        obtain rfl | hb := hb
        · exact Bool.eq_false_iff.mpr ha
        · exact ih List.mem_cons_self b hb
      · exact ih (List.mem_cons_of_mem _ h)

/-- The pieces are those that the separators between them make. -/
theorem splitOn_eq_iff [DecidableEq α] {sep : α} {text : List α} {pieces : List (List α)} :
    text.splitOn sep = pieces ↔ pieces ≠ [] ∧ (∀ piece ∈ pieces, sep ∉ piece) ∧ text = [sep].intercalate pieces := by
  constructor
  · rintro rfl
    refine ⟨List.splitOn_ne_nil _ _, fun piece hpiece hmem => ?_, (List.intercalate_splitOn sep).symm⟩
    rw [List.splitOn_eq_splitOnP] at hpiece
    have hnot := not_of_mem_splitOnP hpiece sep hmem
    rw [beq_self_eq_true] at hnot
    cases hnot
  · rintro ⟨hne, hpieces, rfl⟩
    exact List.splitOn_intercalate sep hpieces hne

/-! ## Words -/

theorem words_nil : words p [] = [] := by simp [words, List.splitOnP_nil]

/-- A gap cuts. -/
theorem words_append_gap {a : α} (ha : p a) (xs ys : List α) : words p (xs ++ a :: ys) = words p xs ++ words p ys := by
  rw [words, List.splitOnP_append_cons xs ys ha, List.filter_append]
  rfl

theorem words_gap {a : α} (ha : p a) (text : List α) : words p (a :: text) = words p text := by
  have h := words_append_gap ha [] text
  rwa [List.nil_append, words_nil, List.nil_append] at h

theorem words_word {w : List α} (hw : IsWord p w) : words p w = [w] := by
  rw [words, List.splitOnP_eq_singleton hw.2]
  simp [hw.1]

theorem words_gaps {gap : List α} (h : ∀ a ∈ gap, p a) (text : List α) : words p (gap ++ text) = words p text := by
  induction gap with
  | nil => rfl
  | cons a gap ih =>
    rw [List.cons_append, words_gap (h a List.mem_cons_self)]
    exact ih fun b hb => h b (List.mem_cons_of_mem _ hb)

theorem words_all_gaps {gap : List α} (h : ∀ a ∈ gap, p a) : words p gap = [] := by
  have hcut := words_gaps h []
  rwa [List.append_nil, words_nil] at hcut

theorem words_append_gaps {gap : List α} (h : ∀ a ∈ gap, p a) (text : List α) : words p (text ++ gap) = words p text := by
  cases gap with
  | nil => rw [List.append_nil]
  | cons a gap =>
    have hgap : words p gap = [] := words_all_gaps fun b hb => h b (List.mem_cons_of_mem a hb)
    rw [words_append_gap (h a List.mem_cons_self), hgap, List.append_nil]

theorem Spaced.words_eq {ws : List (List α)} {text : List α} (h : Spaced p ws text) : words p text = ws := by
  induction h with
  | nil => exact words_nil
  | gap ha _ ih => rw [words_gap ha, ih]
  | last hw => exact words_word hw
  | cons hw ha _ ih => rw [words_append_gap ha, words_word hw, ih, List.singleton_append]

/-- The words found are spaced out in the text. -/
theorem spaced_words (p : α → Bool) (text : List α) : Spaced p (words p text) text := by
  induction hlen : text.length using Nat.strong_induction_on generalizing text with
  | h n ih =>
    cases text with
    | nil =>
      rw [words_nil]
      exact .nil
    | cons a rest =>
      by_cases ha : p a
      · rw [words_gap ha]
        exact .gap ha (ih rest.length (by rw [← hlen]; exact Nat.lt_succ_self _) rest rfl)
      · have ha : (!p a) = true := by simpa using ha
        have hword : IsWord p ((a :: rest).takeWhile (!p ·)) := by
          refine ⟨?_, fun b hb => by simpa using List.mem_takeWhile_imp hb⟩
          rw [List.takeWhile_cons_of_pos (p := (!p ·)) ha]
          exact List.cons_ne_nil _ _
        have hsplit := List.takeWhile_append_dropWhile (p := (!p ·)) (l := a :: rest)
        cases hdrop : (a :: rest).dropWhile (!p ·) with
        | nil =>
          rw [hdrop, List.append_nil] at hsplit
          rw [hsplit] at hword
          rw [words_word hword]
          exact .last hword
        | cons b tail =>
          have hb : p b := by
            have hhead := List.head_dropWhile_not (!p ·) (l := a :: rest) (by simp [hdrop])
            simpa [hdrop] using hhead
          have hshort : tail.length < n := by
            have hlength := congrArg List.length hsplit
            rw [hdrop, List.length_append, List.length_cons] at hlength
            have hpos : 0 < ((a :: rest).takeWhile (!p ·)).length := List.length_pos_iff.mpr hword.1
            omega
          rw [hdrop] at hsplit
          rw [← hsplit, words_append_gap hb, words_word hword, List.singleton_append]
          exact .cons hword hb (ih tail.length hshort tail rfl)

theorem words_eq_iff {ws : List (List α)} {text : List α} : words p text = ws ↔ Spaced p ws text := by
  constructor
  · rintro rfl
    exact spaced_words p text
  · exact Spaced.words_eq

/-! ## Trimming -/

theorem trimStart_gaps (p : α → Bool) (text : List α) : ∃ gap, (∀ a ∈ gap, p a) ∧ text = gap ++ trimStart p text :=
  ⟨text.takeWhile p, fun _ ha => List.mem_takeWhile_imp ha, List.takeWhile_append_dropWhile.symm⟩

theorem trimEnd_gaps (p : α → Bool) (text : List α) : ∃ gap, (∀ a ∈ gap, p a) ∧ text = trimEnd p text ++ gap := by
  obtain ⟨gap, hgap, hrev⟩ := trimStart_gaps p text.reverse
  refine ⟨gap.reverse, fun a ha => hgap a (List.mem_reverse.mp ha), ?_⟩
  have h := congrArg List.reverse hrev
  rwa [List.reverse_reverse, List.reverse_append] at h

theorem words_trim (text : List α) : words p (trim p text) = words p text := by
  obtain ⟨front, hfront, hstart⟩ := trimStart_gaps p text
  obtain ⟨back, hback, hend⟩ := trimEnd_gaps p (trimStart p text)
  calc words p (trim p text) = words p (trimEnd p (trimStart p text) ++ back) := (words_append_gaps hback _).symm
    _ = words p (front ++ trimStart p text) := by rw [← hend, words_gaps hfront]
    _ = words p text := by rw [← hstart]

theorem trimStart_eq {gap text : List α} (hgap : ∀ a ∈ gap, p a) (hhead : ∀ a ∈ text.head?, p a = false) :
    trimStart p (gap ++ text) = text := by
  rw [trimStart, List.dropWhile_append_of_pos hgap]
  cases text with
  | nil => rfl
  | cons a text => exact List.dropWhile_cons_of_neg (by rw [hhead a rfl]; exact Bool.false_ne_true)

theorem trimEnd_eq {gap text : List α} (hgap : ∀ a ∈ gap, p a) (hlast : ∀ a ∈ text.getLast?, p a = false) :
    trimEnd p (text ++ gap) = text := by
  have h : trimStart p (gap.reverse ++ text.reverse) = text.reverse :=
    trimStart_eq (fun a ha => hgap a (List.mem_reverse.mp ha)) fun a ha => hlast a (by rwa [List.head?_reverse] at ha)
  rw [trimStart, ← List.reverse_append] at h
  rw [trimEnd, h, List.reverse_reverse]

/-- A gap at the end makes no difference. -/
theorem trim_append_gap {a : α} (ha : p a) (text : List α) : trim p (text ++ [a]) = trim p text := by
  have hend : ∀ xs : List α, trimEnd p (xs ++ [a]) = trimEnd p xs := by
    intro xs
    rw [trimEnd, List.reverse_append, List.reverse_singleton, List.singleton_append, List.dropWhile_cons_of_pos ha]
    rfl
  rw [trim, trim, trimStart, trimStart, List.dropWhile_append]
  by_cases hall : (text.dropWhile p).isEmpty
  · rw [if_pos hall, List.isEmpty_iff.mp hall, List.dropWhile_cons_of_pos ha]
    rfl
  · rw [if_neg hall]
    exact hend _

/-- The text without its gaps at both ends. -/
def Trimmed (p : α → Bool) (inner text : List α) : Prop :=
  (∀ a ∈ inner.head?, p a = false) ∧ (∀ a ∈ inner.getLast?, p a = false) ∧
    ∃ front back, (∀ a ∈ front, p a) ∧ (∀ a ∈ back, p a) ∧ text = front ++ inner ++ back

theorem head_dropWhile (text : List α) : ∀ a ∈ (text.dropWhile p).head?, p a = false := by
  intro a ha
  have h := List.head?_dropWhile_not p text
  rw [Option.mem_def.mp ha] at h
  simpa using h

theorem trim_eq_iff {inner text : List α} : trim p text = inner ↔ Trimmed p inner text := by
  constructor
  · rintro rfl
    obtain ⟨front, hfront, hstart⟩ := trimStart_gaps p text
    obtain ⟨back, hback, hend⟩ := trimEnd_gaps p (trimStart p text)
    refine ⟨fun a ha => head_dropWhile text a ?_, fun a ha => ?_, front, back, hfront, hback, ?_⟩
    · show (trimStart p text).head? = some a
      rw [hend, List.head?_append, show (trimEnd p (trimStart p text)).head? = some a from ha]
      rfl
    · refine head_dropWhile (trimStart p text).reverse a ?_
      rwa [trim, trimEnd, List.getLast?_reverse] at ha
    · rw [List.append_assoc]
      exact hstart.trans (congrArg (front ++ ·) hend)
  · rintro ⟨hhead, hlast, front, back, hfront, hback, rfl⟩
    cases inner with
    | nil =>
      have hstart : trimStart p (front ++ back ++ []) = [] :=
        trimStart_eq (fun a ha => (List.mem_append.mp ha).elim (hfront a) (hback a)) nofun
      rw [List.append_nil] at hstart
      rw [trim, List.append_nil, hstart]
      rfl
    | cons c inner =>
      have hstart : trimStart p (front ++ (c :: inner ++ back)) = c :: inner ++ back := trimStart_eq hfront hhead
      rw [trim, List.append_assoc, hstart]
      exact trimEnd_eq hback hlast

/-! ## Entries -/

section
variable [DecidableEq α] {sep : α}

/-- The pieces between separators, trimmed, without those that are blank. -/
def entries (p : α → Bool) (sep : α) (text : List α) : List (List α) :=
  ((text.splitOn sep).map (trim p)).filter (!·.isEmpty)

/-- Which entries the pieces hold. -/
inductive Listing (p : α → Bool) : List (List α) → List (List α) → Prop
  | nil : Listing p [] []
  | blank {piece pieces es} : Trimmed p [] piece → Listing p pieces es → Listing p (piece :: pieces) es
  | entry {piece e pieces es} : e ≠ [] → Trimmed p e piece → Listing p pieces es →
    Listing p (piece :: pieces) (e :: es)

omit [DecidableEq α] in
theorem listing_iff {pieces es : List (List α)} :
    (pieces.map (trim p)).filter (!·.isEmpty) = es ↔ Listing p pieces es := by
  induction pieces generalizing es with
  | nil =>
    constructor
    · rintro rfl
      exact .nil
    · intro h
      cases h
      rfl
  | cons piece pieces ih =>
    rw [List.map_cons, List.filter_cons]
    by_cases hblank : trim p piece = []
    · rw [if_neg (by simp [hblank]), ih]
      constructor
      · exact .blank (trim_eq_iff.mp hblank)
      · intro h
        cases h with
        | blank _ h => exact h
        | entry hne htrimmed _ => exact absurd ((trim_eq_iff.mpr htrimmed).symm.trans hblank) hne
    · rw [if_pos (by simp [hblank])]
      constructor
      · rintro rfl
        exact .entry hblank (trim_eq_iff.mp rfl) (ih.mp rfl)
      · intro h
        cases h with
        | blank htrimmed _ => exact absurd (trim_eq_iff.mpr htrimmed) hblank
        | entry _ htrimmed h => rw [trim_eq_iff.mpr htrimmed, ih.mpr h]

theorem entries_eq_iff {text : List α} {es : List (List α)} : entries p sep text = es ↔
    ∃ pieces, (pieces ≠ [] ∧ (∀ piece ∈ pieces, sep ∉ piece) ∧ text = [sep].intercalate pieces) ∧ Listing p pieces es := by
  rw [entries, listing_iff]
  constructor
  · intro h
    exact ⟨_, splitOn_eq_iff.mp rfl, h⟩
  · rintro ⟨pieces, hpieces, h⟩
    rwa [splitOn_eq_iff.mpr hpieces]

end

end Words
