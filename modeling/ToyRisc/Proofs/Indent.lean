/-
Folding of four spaces.  What is folded is the occurrence of four spaces in a row
before which none starts; everything else stays.
-/
import ToyRisc.Line.Lexer

namespace ToyRisc

/-- What is folded into a tab. -/
def fourSpaces : List Char := [' ', ' ', ' ', ' ']

/-- `Folded chars folded`: the second list is the first one with its first
occurrence of four spaces turned into a tab. -/
inductive Folded : List Char → List Char → Prop
  | none {chars : List Char} (hnone : ¬ fourSpaces <:+: chars) : Folded chars chars
  -- with three spaces behind it, `before` reaches as far as any earlier occurrence could
  | first (before after : List Char)
      (hfirst : ¬ fourSpaces <:+: before ++ [' ', ' ', ' ']) :
      Folded (before ++ (fourSpaces ++ after)) (before ++ '\t' :: after)

theorem foldIndent_cons {before rest : List Char} {c : Char}
    (h : ¬ fourSpaces <+: c :: rest) :
    foldIndent before (c :: rest) = foldIndent (c :: before) rest := by
  rw [foldIndent]
  rintro tail rfl heq
  exact h ⟨tail, by rw [heq]; rfl⟩

theorem foldIndent_of_not_infix {passed chars : List Char} (h : ¬ fourSpaces <:+: chars) :
    foldIndent passed chars = passed.reverse ++ chars := by
  induction chars generalizing passed with
  | nil => simp [foldIndent]
  | cons c rest ih =>
      rw [List.infix_cons_iff, not_or] at h
      rw [foldIndent_cons h.1, ih h.2, List.reverse_cons, List.append_assoc]
      rfl

/-- Nothing starts with four spaces before their first occurrence. -/
theorem not_prefix_of_first {before : List Char} {c : Char} (after : List Char)
    (h : ¬ fourSpaces <+: c :: (before ++ [' ', ' ', ' '])) :
    ¬ fourSpaces <+: c :: (before ++ (fourSpaces ++ after)) := by
  intro hstart
  have hlonger : c :: (before ++ [' ', ' ', ' ']) <+: c :: (before ++ (fourSpaces ++ after)) :=
    ⟨' ' :: after, by simp [fourSpaces]⟩
  exact h (List.prefix_of_prefix_length_le hstart hlonger (by simp [fourSpaces]))

theorem foldIndent_of_first {passed before : List Char} (after : List Char)
    (h : ¬ fourSpaces <:+: before ++ [' ', ' ', ' ']) :
    foldIndent passed (before ++ (fourSpaces ++ after)) =
      passed.reverse ++ (before ++ '\t' :: after) := by
  induction before generalizing passed with
  | nil => rfl
  | cons c before ih =>
      rw [List.cons_append, List.infix_cons_iff, not_or] at h
      rw [List.cons_append, foldIndent_cons (not_prefix_of_first after h.1), ih h.2,
        List.reverse_cons, List.append_assoc]
      rfl

/-- Folding is a function: it gives the only list that can be its result. -/
theorem Folded.eq_foldIndent {chars folded : List Char} (h : Folded chars folded) :
    foldIndent [] chars = folded := by
  cases h with
  | none hnone => exact foldIndent_of_not_infix hnone
  | first before after hfirst => exact foldIndent_of_first after hfirst

theorem Folded.cons {c : Char} {rest folded : List Char} (hstart : ¬ fourSpaces <+: c :: rest)
    (h : Folded rest folded) : Folded (c :: rest) (c :: folded) := by
  cases h with
  | none hnone =>
      apply Folded.none
      rw [List.infix_cons_iff, not_or]
      exact ⟨hstart, hnone⟩
  | first before after hfirst =>
      apply Folded.first (c :: before) after
      rw [List.cons_append, List.infix_cons_iff, not_or]
      refine ⟨?_, hfirst⟩
      intro hshort
      exact hstart (hshort.trans ⟨' ' :: after, by simp [fourSpaces]⟩)

theorem exists_folded (chars : List Char) : ∃ folded, Folded chars folded := by
  induction chars with
  | nil => exact ⟨[], .none (by decide)⟩
  | cons c rest ih =>
      by_cases hstart : fourSpaces <+: c :: rest
      · obtain ⟨after, hafter⟩ := hstart
        rw [← hafter]
        exact ⟨'\t' :: after, .first [] after (by decide)⟩
      · obtain ⟨folded, hfolded⟩ := ih
        exact ⟨c :: folded, hfolded.cons hstart⟩

theorem folded_foldIndent (chars : List Char) : Folded chars (foldIndent [] chars) := by
  obtain ⟨folded, hfolded⟩ := exists_folded chars
  rw [hfolded.eq_foldIndent]
  exact hfolded

/-- What stands in front of the first hash. -/
def front (chars : List Char) : List Char := chars.takeWhile (· != '#')

theorem front_cons {c : Char} {rest : List Char} (hc : c ≠ '#') :
    front (c :: rest) = c :: front rest :=
  List.takeWhile_cons_of_pos (bne_iff_ne.mpr hc)

theorem front_append_of_not_mem {before : List Char} (h : '#' ∉ before) (rest : List Char) :
    front (before ++ rest) = before ++ front rest := by
  apply List.takeWhile_append_of_pos
  intro c hc
  exact bne_iff_ne.mpr (ne_of_mem_of_not_mem hc h)

theorem front_append_of_mem {before : List Char} (h : '#' ∈ before) (rest : List Char) :
    front (before ++ rest) = front before := by
  induction before with
  | nil => cases h
  | cons c before ih =>
      by_cases hc : c = '#'
      · rw [hc]
        rfl
      · have hmore : '#' ∈ before := (List.mem_cons.mp h).resolve_left (Ne.symm hc)
        rw [List.cons_append, front_cons hc, front_cons hc, ih hmore]

theorem exists_eq_front_append {chars : List Char} (h : '#' ∈ chars) :
    ∃ body, chars = front chars ++ '#' :: body := by
  induction chars with
  | nil => cases h
  | cons c rest ih =>
      by_cases hc : c = '#'
      · rw [hc]
        exact ⟨rest, rfl⟩
      · obtain ⟨body, hbody⟩ := ih ((List.mem_cons.mp h).resolve_left (Ne.symm hc))
        refine ⟨body, ?_⟩
        rw [front_cons hc, List.cons_append, ← hbody]

theorem not_infix_of_start {part whole : List Char} (h : ¬ fourSpaces <:+: whole)
    (hpart : part <+: whole) : ¬ fourSpaces <:+: part :=
  fun hfound => h (hfound.trans hpart.isInfix)

/-- Folding goes on in front of the first hash as if nothing followed. -/
theorem Folded.front {chars folded : List Char} (h : Folded chars folded) :
    Folded (ToyRisc.front chars) (ToyRisc.front folded) := by
  cases h with
  | none hnone => exact .none (not_infix_of_start hnone (List.takeWhile_prefix _))
  | first before after hfirst =>
      by_cases hhash : '#' ∈ before
      · rw [front_append_of_mem hhash, front_append_of_mem hhash]
        apply Folded.none
        apply not_infix_of_start hfirst
        exact (List.takeWhile_prefix _).trans (List.prefix_append _ _)
      · rw [front_append_of_not_mem hhash, front_append_of_not_mem hhash]
        exact .first before (ToyRisc.front after) hfirst

/-- Folding puts in nothing but a tab. -/
theorem Folded.mem_of_mem {chars folded : List Char} (h : Folded chars folded) {c : Char}
    (hc : c ∈ folded) : c ∈ chars ∨ c = '\t' := by
  cases h with
  | none hnone => exact .inl hc
  | first before after hfirst =>
      rcases List.mem_append.mp hc with hbefore | hbehind
      · exact .inl (List.mem_append_left _ hbefore)
      · rcases List.mem_cons.mp hbehind with htab | hafter
        · exact .inr htab
        · exact .inl (List.mem_append_right _ (List.mem_append_right _ hafter))

theorem Folded.not_mem {chars folded : List Char} (h : Folded chars folded) {c : Char}
    (htab : c ≠ '\t') (hc : c ∉ chars) : c ∉ folded := by
  intro hmem
  rcases h.mem_of_mem hmem with hkept | heq
  · exact hc hkept
  · exact htab heq

/-- Folding takes out nothing but spaces. -/
theorem Folded.mem_or_space {chars folded : List Char} (h : Folded chars folded) {c : Char}
    (hc : c ∈ chars) : c ∈ folded ∨ c = ' ' := by
  cases h with
  | none hnone => exact .inl hc
  | first before after hfirst =>
      rcases List.mem_append.mp hc with hbefore | hbehind
      · exact .inl (List.mem_append_left _ hbefore)
      · rcases List.mem_append.mp hbehind with hspace | hafter
        · exact .inr (by simpa [fourSpaces] using hspace)
        · exact .inl (List.mem_append_right _ (List.mem_cons_of_mem _ hafter))

/-- Folding goes on up to a hash as if nothing followed, and the hash stays. -/
theorem exists_folded_hash {before : List Char} (hbefore : '#' ∉ before) (body : List Char) :
    ∃ folded after, Folded (before ++ '#' :: body) (folded ++ '#' :: after) ∧
      Folded before folded ∧ '#' ∉ folded := by
  have hc := folded_foldIndent (before ++ '#' :: body)
  have hfront : front (before ++ '#' :: body) = before := by
    rw [front_append_of_not_mem hbefore]
    simp [front]
  have hfolded := hc.front
  rw [hfront] at hfolded
  have hhash : '#' ∈ foldIndent [] (before ++ '#' :: body) :=
    (hc.mem_or_space (by simp)).resolve_right (by decide)
  obtain ⟨after, hafter⟩ := exists_eq_front_append hhash
  rw [hafter] at hc
  exact ⟨_, after, hc, hfolded, hfolded.not_mem (by decide) hbefore⟩

end ToyRisc
