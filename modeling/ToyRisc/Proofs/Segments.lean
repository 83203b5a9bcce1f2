/-
Expansion segment by segment.  The part of a line in front of its comment is cut at its
dollar signs.  A segment holds an expression if it opens with a parenthesis and closes one;
what is evaluated then reaches to the last parenthesis that the segment closes.  Every other
segment stays as it is, and a line is refused exactly for its first expression without a
value.
-/
import Mathlib.Data.List.Forall2
import ToyRisc.Proofs.Loading

namespace ToyRisc

/-- The value that an evaluator gives to an expression. -/
def Evaluator.Gives (evaluate : Evaluator) (expression : Text) (n : Nat) : Prop :=
  evaluate expression = .ok n

namespace Expansion

/-- Segments, each behind its dollar sign. -/
def joined (segments : List Text) : Text := segments.flatMap (.scalar '$' :: ·)

/-- `Segmented line first segments comment`: a line is cut into what stands in front of its
first dollar sign, what stands behind each of its dollar signs, and its comment, in which
dollar signs do not count. -/
structure Segmented (line first : Text) (segments : List Text) (comment : Text) : Prop where
  line_eq : line = first ++ joined segments ++ comment
  hash : .scalar '#' ∉ first ++ joined segments
  comment_eq : comment = [] ∨ ∃ body, comment = .scalar '#' :: body
  first_plain : .scalar '$' ∉ first
  segments_plain : ∀ segment ∈ segments, .scalar '$' ∉ segment

/-- `Encloses segment expression remainder`: a segment opens with a parenthesis and holds an
expression up to the last parenthesis that it closes. -/
structure Encloses (segment expression remainder : Text) : Prop where
  segment_eq : segment = .scalar '(' :: (expression ++ .scalar ')' :: remainder)
  last : .scalar ')' ∉ remainder

/-- `Rewrites Value segment piece`: what becomes of a segment and its dollar sign, given
which expressions have which values. -/
inductive Rewrites (Value : Text → Nat → Prop) : Text → Text → Prop
  | value {segment expression remainder : Text} {n : Nat}
      (hencloses : Encloses segment expression remainder) (hvalue : Value expression n) :
      Rewrites Value segment (digitText n ++ remainder)
  | kept {segment : Text}
      (hkept : ∀ expression remainder, ¬ Encloses segment expression remainder) :
      Rewrites Value segment (.scalar '$' :: segment)

/-- `FirstFailing Value segments earlier expression remainder`: of the expressions in the
segments the one behind the `earlier` segments is the first without a value. -/
structure FirstFailing (Value : Text → Nat → Prop) (segments earlier : List Text)
    (expression remainder : Text) : Prop where
  found : ∃ segment later, segments = earlier ++ segment :: later ∧
    Encloses segment expression remainder
  fails : ¬ ∃ n, Value expression n
  before : ∀ segment ∈ earlier, ∀ expression remainder, Encloses segment expression remainder →
    ∃ n, Value expression n

section Cutting

theorem isNot_iff {c : Char} {s : Symbol} : isNot c s = true ↔ s ≠ .scalar c := by
  simp [isNot]

theorem isNot_of_not_mem {c : Char} {text : Text} (h : .scalar c ∉ text) :
    ∀ s ∈ text, isNot c s = true := by
  intro s hs
  exact isNot_iff.mpr (ne_of_mem_of_not_mem hs h)

theorem not_mem_takeWhile (c : Char) (text : Text) : .scalar c ∉ text.takeWhile (isNot c) := by
  intro hmem
  exact isNot_iff.mp (List.all_eq_true.mp List.all_takeWhile _ hmem) rfl

/-- What is left behind the text in front of a character starts with that character. -/
theorem dropWhile_isNot (c : Char) (text : Text) :
    text.dropWhile (isNot c) = [] ∨ ∃ rest, text.dropWhile (isNot c) = .scalar c :: rest := by
  cases hrest : text.dropWhile (isNot c) with
  | nil => exact .inl rfl
  | cons s rest =>
      have hstop := List.head?_dropWhile_not (isNot c) text
      have hs : s = .scalar c := by simpa [hrest, isNot] using hstop
      exact .inr ⟨rest, by rw [hs]⟩

/-- A text without a character is all that stands in front of it. -/
theorem takeWhile_isNot_append {c : Char} {text rest : Text} (htext : .scalar c ∉ text)
    (hrest : rest = [] ∨ ∃ more, rest = .scalar c :: more) :
    (text ++ rest).takeWhile (isNot c) = text ∧ (text ++ rest).dropWhile (isNot c) = rest := by
  rw [List.takeWhile_append_of_pos (isNot_of_not_mem htext),
    List.dropWhile_append_of_pos (isNot_of_not_mem htext)]
  rcases hrest with rfl | ⟨more, rfl⟩
  · simp
  · simp [isNot]

@[simp] theorem joined_nil : joined [] = [] := rfl

@[simp] theorem joined_cons (segment : Text) (segments : List Text) :
    joined (segment :: segments) = .scalar '$' :: (segment ++ joined segments) := rfl

@[simp] theorem joined_append (segments others : List Text) :
    joined (segments ++ others) = joined segments ++ joined others :=
  List.flatMap_append

theorem joined_starts (segments : List Text) :
    joined segments = [] ∨ ∃ more, joined segments = .scalar '$' :: more := by
  cases segments with
  | nil => exact .inl rfl
  | cons segment segments => exact .inr ⟨_, rfl⟩

/-- Every text is cut at its dollar signs. -/
theorem exists_joined (text : Text) :
    ∃ first segments, text = first ++ joined segments ∧ .scalar '$' ∉ first ∧
      ∀ segment ∈ segments, .scalar '$' ∉ segment := by
  induction text with
  | nil => exact ⟨[], [], rfl, by simp, by simp⟩
  | cons s text ih =>
      obtain ⟨first, segments, rfl, hfirst, hsegments⟩ := ih
      by_cases hs : s = .scalar '$'
      · rw [hs]
        refine ⟨[], first :: segments, rfl, by simp, ?_⟩
        intro segment hsegment
        rcases List.mem_cons.mp hsegment with rfl | hmore
        · exact hfirst
        · exact hsegments segment hmore
      · refine ⟨s :: first, segments, rfl, ?_, hsegments⟩
        intro hmem
        rcases List.mem_cons.mp hmem with heq | hmore
        · exact hs heq.symm
        · exact hfirst hmore

theorem exists_segmented (line : Text) :
    ∃ first segments comment, Segmented line first segments comment := by
  obtain ⟨first, segments, hhead, hfirst, hsegments⟩ :=
    exists_joined (line.takeWhile (isNot '#'))
  refine ⟨first, segments, line.dropWhile (isNot '#'), ?_, ?_, dropWhile_isNot '#' line,
    hfirst, hsegments⟩
  · rw [← hhead, List.takeWhile_append_dropWhile]
  · rw [← hhead]
    exact not_mem_takeWhile '#' line

variable {line first comment : Text} {segments : List Text}

theorem Segmented.takeWhile_eq (h : Segmented line first segments comment) :
    line.takeWhile (isNot '#') = first ++ joined segments := by
  rw [h.line_eq]
  exact (takeWhile_isNot_append h.hash h.comment_eq).1

theorem Segmented.dropWhile_eq (h : Segmented line first segments comment) :
    line.dropWhile (isNot '#') = comment := by
  rw [h.line_eq]
  exact (takeWhile_isNot_append h.hash h.comment_eq).2

end Cutting

section Segment

variable {segment expression remainder : Text}

/-- A text is cut at its last closing parenthesis. -/
theorem splitLastClose?_eq_some_iff {text : Text} :
    splitLastClose? text = some (expression, remainder) ↔
      text = expression ++ .scalar ')' :: remainder ∧ .scalar ')' ∉ remainder := by
  constructor
  · intro h
    have hcut := List.takeWhile_append_dropWhile (p := isNot ')') (l := text.reverse)
    rcases dropWhile_isNot ')' text.reverse with hnone | ⟨before, hbefore⟩
    · simp [splitLastClose?, hnone] at h
    · simp only [splitLastClose?, hbefore, Option.some.injEq, Prod.mk.injEq] at h
      obtain ⟨rfl, rfl⟩ := h
      rw [hbefore] at hcut
      refine ⟨?_, by simpa using not_mem_takeWhile ')' text.reverse⟩
      simpa using (congrArg List.reverse hcut).symm
  · rintro ⟨rfl, hlast⟩
    have hback : .scalar ')' ∉ remainder.reverse := by simpa using hlast
    obtain ⟨htake, hdrop⟩ :=
      takeWhile_isNot_append hback (.inr ⟨expression.reverse, rfl⟩)
    have hreverse : (expression ++ .scalar ')' :: remainder).reverse =
        remainder.reverse ++ .scalar ')' :: expression.reverse := by simp
    simp [splitLastClose?, hreverse, htake, hdrop]

/-- An expression is found behind a dollar sign where the segment encloses one. -/
theorem expressionAt?_eq_some_iff (hplain : .scalar '$' ∉ segment) {segments : List Text}
    {next : Text} :
    expressionAt? (segment ++ joined segments) = some (expression, remainder, next) ↔
      Encloses segment expression remainder ∧ next = joined segments := by
  have hparts (tail : Text) (htail : .scalar '$' ∉ tail) :=
    takeWhile_isNot_append htail (joined_starts segments)
  constructor
  · intro h
    unfold expressionAt? at h
    split at h
    · rename_i rest hopen
      cases segment with
      | nil =>
          rcases joined_starts segments with hnil | ⟨more, hmore⟩
          · simp [hnil] at hopen
          · simp [hmore] at hopen
      | cons s tail =>
          rw [List.cons_append, List.cons.injEq] at hopen
          obtain ⟨rfl, rfl⟩ := hopen
          obtain ⟨htake, hdrop⟩ := hparts tail (fun hmem => hplain (List.mem_cons_of_mem _ hmem))
          rw [htake, hdrop] at h
          split at h
          · rename_i hsplit
            cases h
            obtain ⟨rfl, hlast⟩ := splitLastClose?_eq_some_iff.mp hsplit
            exact ⟨⟨rfl, hlast⟩, rfl⟩
          · cases h
    · cases h
  · rintro ⟨⟨rfl, hlast⟩, rfl⟩
    obtain ⟨htake, hdrop⟩ := hparts (expression ++ .scalar ')' :: remainder)
      (fun hmem => hplain (List.mem_cons_of_mem _ hmem))
    have hsplit : splitLastClose? (expression ++ .scalar ')' :: remainder) =
        some (expression, remainder) := splitLastClose?_eq_some_iff.mpr ⟨rfl, hlast⟩
    rw [List.cons_append, expressionAt?, htake, hdrop, hsplit]

theorem expressionAt?_eq_none (hplain : .scalar '$' ∉ segment) (segments : List Text)
    (h : ∀ expression remainder, ¬ Encloses segment expression remainder) :
    expressionAt? (segment ++ joined segments) = none := by
  rw [Option.eq_none_iff_forall_ne_some]
  rintro ⟨expression, remainder, next⟩ hsome
  exact h expression remainder ((expressionAt?_eq_some_iff hplain).mp hsome).1

/-- A segment encloses one expression at most. -/
theorem Encloses.unique {other rest : Text} (h : Encloses segment expression remainder)
    (hother : Encloses segment other rest) : other = expression ∧ rest = remainder := by
  obtain ⟨rfl, hlast⟩ := h
  obtain ⟨heq, hrest⟩ := hother
  have hsplit := splitLastClose?_eq_some_iff.mpr ⟨(List.cons.inj heq).2, hrest⟩
  rw [splitLastClose?_eq_some_iff.mpr ⟨rfl, hlast⟩] at hsplit
  cases hsplit
  exact ⟨rfl, rfl⟩

end Segment

section Running

variable {evaluate : Evaluator} {number : Int} {head done segment expression remainder : Text}
  {segments : List Text}

/-- Text without a dollar sign is passed over. -/
theorem expandFrom_append {part : Text} (hpart : .scalar '$' ∉ part) (rest : Text) :
    expandFrom evaluate number head done (part ++ rest) =
      expandFrom evaluate number head (part.reverse ++ done) rest := by
  induction part generalizing done with
  | nil => rfl
  | cons s part ih =>
      rw [List.mem_cons, not_or] at hpart
      rw [List.cons_append, expandFrom, if_neg (Ne.symm hpart.1), ih hpart.2]
      simp

theorem expandFrom_enclosed (hplain : .scalar '$' ∉ segment)
    (hencloses : Encloses segment expression remainder) :
    expandFrom evaluate number head done (joined (segment :: segments)) =
      match evaluate expression with
      | .error cause => .error ⟨cause, ⟨number, offsetOf (written expression) 0 head + 1⟩⟩
      | .ok n =>
          expandFrom evaluate number head ((digitText n ++ remainder).reverse ++ done)
            (joined segments) := by
  have hat : expressionAt? (segment ++ joined segments) =
      some (expression, remainder, joined segments) :=
    (expressionAt?_eq_some_iff hplain).mpr ⟨hencloses, rfl⟩
  rw [joined_cons, expandFrom, if_pos rfl]
  split
  · rename_i hnone
    rw [hat] at hnone
    cases hnone
  · rename_i found after next hsome
    rw [hat] at hsome
    cases hsome
    cases evaluate expression with
    | error cause => rfl
    | ok n => simp only [List.reverse_append]

/-- One segment is rewritten, and expansion goes on behind it. -/
theorem expandFrom_segment {piece : Text} (hplain : .scalar '$' ∉ segment)
    (hrewrites : Rewrites evaluate.Gives segment piece) :
    expandFrom evaluate number head done (joined (segment :: segments)) =
      expandFrom evaluate number head (piece.reverse ++ done) (joined segments) := by
  cases hrewrites with
  | value hencloses hvalue =>
      rw [expandFrom_enclosed hplain hencloses]
      rw [Evaluator.Gives] at hvalue
      rw [hvalue]
  | kept hkept =>
      have hnone := expressionAt?_eq_none hplain segments hkept
      rw [joined_cons, expandFrom, if_pos rfl]
      split
      · rw [expandFrom_append hplain]
        simp
      · rename_i hsome
        rw [hnone] at hsome
        cases hsome

/-- Segment after segment is rewritten. -/
theorem expandFrom_segments {earlier pieces : List Text}
    (hplain : ∀ segment ∈ earlier, .scalar '$' ∉ segment)
    (hrewrites : List.Forall₂ (Rewrites evaluate.Gives) earlier pieces) :
    expandFrom evaluate number head done (joined (earlier ++ segments)) =
      expandFrom evaluate number head (pieces.flatten.reverse ++ done) (joined segments) := by
  induction hrewrites generalizing done with
  | nil => rfl
  | cons hsegment htail ih =>
      rw [List.forall_mem_cons] at hplain
      rw [List.cons_append, expandFrom_segment hplain.1 hsegment, ih hplain.2]
      simp

theorem expandFrom_joined {pieces : List Text}
    (hplain : ∀ segment ∈ segments, .scalar '$' ∉ segment)
    (hrewrites : List.Forall₂ (Rewrites evaluate.Gives) segments pieces) :
    expandFrom evaluate number head done (joined segments) =
      .ok (done.reverse ++ pieces.flatten) := by
  rw [← List.append_nil segments, expandFrom_segments hplain hrewrites, joined_nil, expandFrom]
  simp

end Running

section Choice

variable {Value : Text → Nat → Prop}

/-- A segment is rewritten unless its expression has no value. -/
theorem exists_rewrites {segment : Text}
    (h : ∀ expression remainder, Encloses segment expression remainder →
      ∃ n, Value expression n) : ∃ piece, Rewrites Value segment piece := by
  by_cases hencloses : ∃ expression remainder, Encloses segment expression remainder
  · obtain ⟨expression, remainder, hencloses⟩ := hencloses
    obtain ⟨n, hn⟩ := h expression remainder hencloses
    exact ⟨_, .value hencloses hn⟩
  · exact ⟨_, .kept fun expression remainder henclosed =>
      hencloses ⟨expression, remainder, henclosed⟩⟩

theorem Rewrites.exists_value {segment piece expression remainder : Text}
    (h : Rewrites Value segment piece) (hencloses : Encloses segment expression remainder) :
    ∃ n, Value expression n ∧ piece = digitText n ++ remainder := by
  cases h with
  | value hfound hvalue =>
      obtain ⟨rfl, rfl⟩ := hencloses.unique hfound
      exact ⟨_, hvalue, rfl⟩
  | kept hkept => exact absurd hencloses (hkept expression remainder)

/-- Where segments are rewritten, all their expressions have a value. -/
theorem exists_value_of_forall₂ {segments pieces : List Text}
    {segment expression remainder : Text} (h : List.Forall₂ (Rewrites Value) segments pieces)
    (hsegment : segment ∈ segments) (hencloses : Encloses segment expression remainder) :
    ∃ n, Value expression n := by
  induction h with
  | nil => cases hsegment
  | cons hfirst htail ih =>
      rcases List.mem_cons.mp hsegment with rfl | hmore
      · obtain ⟨n, hn, _⟩ := hfirst.exists_value hencloses
        exact ⟨n, hn⟩
      · exact ih hmore

/-- Segments are all rewritten, or one of them is the first to fail. -/
theorem exists_rewrites_or_firstFailing (Value : Text → Nat → Prop) (segments : List Text) :
    (∃ pieces, List.Forall₂ (Rewrites Value) segments pieces) ∨
      ∃ earlier expression remainder,
        FirstFailing Value segments earlier expression remainder := by
  induction segments with
  | nil => exact .inl ⟨[], .nil⟩
  | cons segment segments ih =>
      by_cases hsegment : ∀ expression remainder, Encloses segment expression remainder →
          ∃ n, Value expression n
      · rcases ih with ⟨pieces, hpieces⟩ | ⟨earlier, expression, remainder, hfirst⟩
        · obtain ⟨piece, hpiece⟩ := exists_rewrites hsegment
          exact .inl ⟨piece :: pieces, .cons hpiece hpieces⟩
        · obtain ⟨failing, later, rfl, hencloses⟩ := hfirst.found
          refine .inr ⟨segment :: earlier, expression, remainder,
            ⟨failing, later, rfl, hencloses⟩, hfirst.fails, ?_⟩
          rw [List.forall_mem_cons]
          exact ⟨hsegment, hfirst.before⟩
      · simp only [Classical.not_forall] at hsegment
        obtain ⟨expression, remainder, hencloses, hfails⟩ := hsegment
        exact .inr ⟨[], expression, remainder, ⟨segment, segments, rfl, hencloses⟩, hfails,
          by simp⟩

theorem exists_forall₂_rewrites {segments : List Text}
    (h : ∀ segment ∈ segments, ∀ expression remainder, Encloses segment expression remainder →
      ∃ n, Value expression n) :
    ∃ pieces, List.Forall₂ (Rewrites Value) segments pieces := by
  rcases exists_rewrites_or_firstFailing Value segments with
    hpieces | ⟨earlier, expression, remainder, hfirst⟩
  · exact hpieces
  · obtain ⟨segment, later, rfl, hencloses⟩ := hfirst.found
    exact absurd (h segment (by simp) expression remainder hencloses) hfirst.fails

end Choice

section Lines

variable {evaluate : Evaluator} {number : Int} {line first comment : Text}
  {segments : List Text}

theorem Segmented.expand_of_rewrites (h : Segmented line first segments comment)
    {pieces : List Text} (hrewrites : List.Forall₂ (Rewrites evaluate.Gives) segments pieces) :
    expand evaluate number line = .ok (first ++ pieces.flatten ++ comment) := by
  have hrun : expandFrom evaluate number (first ++ joined segments) []
      (first ++ joined segments) = .ok (first ++ pieces.flatten) := by
    rw [expandFrom_append h.first_plain, expandFrom_joined h.segments_plain hrewrites]
    simp
  simp only [expand, h.takeWhile_eq, h.dropWhile_eq, hrun, Except.map]

theorem Segmented.expand_of_firstFailing (h : Segmented line first segments comment)
    {earlier : List Text} {expression remainder : Text}
    (hfirst : FirstFailing evaluate.Gives segments earlier expression remainder)
    (number : Int) :
    ∃ cause, evaluate expression = .error cause ∧
      expand evaluate number line = .error ⟨cause, ⟨number,
        offsetOf (written expression) 0 (first ++ joined segments) + 1⟩⟩ := by
  obtain ⟨segment, later, hsegments, hencloses⟩ := hfirst.found
  obtain ⟨pieces, hpieces⟩ := exists_forall₂_rewrites hfirst.before
  cases hcause : evaluate expression with
  | ok n => exact absurd ⟨n, hcause⟩ hfirst.fails
  | error cause =>
      have hplain := h.segments_plain
      rw [hsegments] at hplain
      have hearlier : ∀ part ∈ earlier, .scalar '$' ∉ part :=
        fun part hpart => hplain part (List.mem_append_left _ hpart)
      refine ⟨cause, rfl, ?_⟩
      simp only [expand, h.takeWhile_eq]
      rw [expandFrom_append h.first_plain]
      generalize first ++ joined segments = head
      rw [hsegments, expandFrom_segments hearlier hpieces,
        expandFrom_enclosed (hplain segment (by simp)) hencloses, hcause]
      rfl

/-- What a line expands to. -/
theorem Segmented.expand_eq_ok_iff (h : Segmented line first segments comment) {result : Text} :
    expand evaluate number line = .ok result ↔
      ∃ pieces, List.Forall₂ (Rewrites evaluate.Gives) segments pieces ∧
        result = first ++ pieces.flatten ++ comment := by
  constructor
  · intro hexpand
    rcases exists_rewrites_or_firstFailing evaluate.Gives segments with
      ⟨pieces, hpieces⟩ | ⟨earlier, expression, remainder, hfirst⟩
    · rw [h.expand_of_rewrites hpieces] at hexpand
      cases hexpand
      exact ⟨pieces, hpieces, rfl⟩
    · obtain ⟨cause, _, herror⟩ := h.expand_of_firstFailing hfirst number
      rw [herror] at hexpand
      cases hexpand
  · rintro ⟨pieces, hpieces, rfl⟩
    exact h.expand_of_rewrites hpieces

/-- What a line is refused for. -/
theorem Segmented.exists_firstFailing (h : Segmented line first segments comment)
    {fault : Fault} (hexpand : expand evaluate number line = .error fault) :
    ∃ earlier expression remainder cause,
      FirstFailing evaluate.Gives segments earlier expression remainder ∧
        evaluate expression = .error cause ∧
          fault = ⟨cause, ⟨number,
            offsetOf (written expression) 0 (first ++ joined segments) + 1⟩⟩ := by
  rcases exists_rewrites_or_firstFailing evaluate.Gives segments with
    ⟨pieces, hpieces⟩ | ⟨earlier, expression, remainder, hfirst⟩
  · rw [h.expand_of_rewrites hpieces] at hexpand
    cases hexpand
  · obtain ⟨cause, hcause, herror⟩ := h.expand_of_firstFailing hfirst number
    rw [herror] at hexpand
    cases hexpand
    exact ⟨earlier, expression, remainder, cause, hfirst, hcause, rfl⟩

/-- A line is refused exactly where an expression has no value. -/
theorem Segmented.expand_fails_iff (h : Segmented line first segments comment) :
    (∃ fault, expand evaluate number line = .error fault) ↔
      ∃ segment ∈ segments, ∃ expression remainder,
        Encloses segment expression remainder ∧ ¬ ∃ n, evaluate.Gives expression n := by
  constructor
  · rintro ⟨fault, hexpand⟩
    obtain ⟨earlier, expression, remainder, _, hfirst, _⟩ := h.exists_firstFailing hexpand
    obtain ⟨segment, later, rfl, hencloses⟩ := hfirst.found
    exact ⟨segment, by simp, expression, remainder, hencloses, hfirst.fails⟩
  · rintro ⟨segment, hsegment, expression, remainder, hencloses, hfails⟩
    cases hexpand : expand evaluate number line with
    | error fault => exact ⟨fault, rfl⟩
    | ok result =>
        obtain ⟨pieces, hpieces, _⟩ := h.expand_eq_ok_iff.mp hexpand
        exact absurd (exists_value_of_forall₂ hpieces hsegment hencloses) hfails

/-- A line without an expression stays as it is. -/
theorem expand_of_no_expression (evaluate : Evaluator) (number : Int)
    (h : ¬ [.scalar '$', .scalar '('] <:+: line.takeWhile (isNot '#')) :
    expand evaluate number line = .ok line := by
  obtain ⟨first, segments, comment, hsegmented⟩ := exists_segmented line
  rw [hsegmented.takeWhile_eq] at h
  have hkept : List.Forall₂ (Rewrites evaluate.Gives) segments
      (segments.map (.scalar '$' :: ·)) := by
    rw [List.forall₂_map_right_iff, List.forall₂_same]
    intro segment hsegment
    refine .kept fun expression remainder hencloses => h ?_
    obtain ⟨earlier, later, rfl⟩ := List.append_of_mem hsegment
    refine ⟨first ++ joined earlier, expression ++ .scalar ')' :: remainder ++ joined later, ?_⟩
    simp [hencloses.segment_eq]
  rw [hsegmented.expand_of_rewrites hkept, ← List.flatMap_def, ← joined, ← hsegmented.line_eq]

end Lines

end Expansion

end ToyRisc
