/-
Where a refused expression is reported.  The column is that of the first dollar sign behind
which the text of the expression stands, with its parentheses.  It is the dollar sign of the
expression itself unless an earlier one begins in the same way and goes on.
-/
import ToyRisc.Proofs.Bytes
import ToyRisc.Proofs.RewrittenExpressions

namespace ToyRisc

namespace Expansion

/-- A segment that opens with an expression in parentheses, whatever follows. -/
def OpensWith (expression segment : Text) : Prop :=
  .scalar '(' :: (expression ++ [.scalar ')']) <+: segment

theorem Encloses.opensWith {segment expression remainder : Text}
    (h : Encloses segment expression remainder) : OpensWith expression segment := by
  rw [h.segment_eq]
  exact ⟨remainder, by simp⟩

section Offsets

variable {expression segment : Text} {segments : List Text} {passed : Nat}

/-- What has no dollar sign in it cannot reach into the next segment. -/
theorem prefix_append_iff {part rest : Text} (hpart : .scalar '$' ∉ part)
    (hrest : rest = [] ∨ ∃ more, rest = .scalar '$' :: more) :
    part <+: segment ++ rest ↔ part <+: segment := by
  constructor
  · intro hprefix
    rcases List.prefix_or_prefix_of_prefix hprefix (List.prefix_append segment rest) with
      hinside | ⟨beyond, rfl⟩
    · exact hinside
    · have hbeyond := (List.prefix_append_right_inj segment).mp hprefix
      rcases hrest with rfl | ⟨more, rfl⟩
      · simp [List.prefix_nil.mp hbeyond]
      · cases beyond with
        | nil => simp
        | cons s beyond =>
            obtain ⟨rfl, _⟩ := List.cons_prefix_cons.mp hbeyond
            simp at hpart
  · intro hprefix
    exact hprefix.trans (List.prefix_append segment rest)

theorem written_isPrefixOf_iff (hexpression : .scalar '$' ∉ expression) :
    (written expression).isPrefixOf (.scalar '$' :: (segment ++ joined segments)) = true ↔
      OpensWith expression segment := by
  have hplain : .scalar '$' ∉ .scalar '(' :: (expression ++ [.scalar ')']) := by
    simpa using hexpression
  rw [List.isPrefixOf_iff_prefix]
  change .scalar '$' :: (.scalar '(' :: (expression ++ [.scalar ')'])) <+: _ ↔ _
  rw [List.cons_prefix_cons, prefix_append_iff hplain (joined_starts segments)]
  exact and_iff_right rfl

theorem offsetOf_append {part : Text} (hpart : .scalar '$' ∉ part) (rest : Text) :
    offsetOf (written expression) passed (part ++ rest) =
      offsetOf (written expression) (passed + part.size) rest := by
  induction part generalizing passed with
  | nil => rfl
  | cons s part ih =>
      rw [List.mem_cons, not_or] at hpart
      have hstart : (written expression).isPrefixOf (s :: (part ++ rest)) = false := by
        simp [written, List.isPrefixOf, hpart.1]
      rw [List.cons_append, offsetOf, hstart, if_neg Bool.false_ne_true, ih hpart.2,
        Text.size_cons, Nat.add_assoc]

/-- A segment that does not open with the expression is passed over. -/
theorem offsetOf_joined_of_not (hexpression : .scalar '$' ∉ expression)
    (hsegment : .scalar '$' ∉ segment) (h : ¬ OpensWith expression segment) :
    offsetOf (written expression) passed (joined (segment :: segments)) =
      offsetOf (written expression) (passed + Text.size (.scalar '$' :: segment))
        (joined segments) := by
  rw [joined_cons, offsetOf, if_neg (by rwa [written_isPrefixOf_iff hexpression]),
    offsetOf_append hsegment, Text.size_cons, Nat.add_assoc]

/-- The first segment that opens with an expression is where its text is found. -/
theorem offsetOf_joined (hexpression : .scalar '$' ∉ expression) {skipped later : List Text}
    (hplain : ∀ part ∈ skipped, .scalar '$' ∉ part)
    (hskipped : ∀ part ∈ skipped, ¬ OpensWith expression part)
    (hopens : OpensWith expression segment) :
    offsetOf (written expression) passed (joined (skipped ++ segment :: later)) =
      passed + Text.size (joined skipped) := by
  induction skipped generalizing passed with
  | nil =>
      rw [List.nil_append, joined_cons, offsetOf,
        if_pos ((written_isPrefixOf_iff hexpression).mpr hopens)]
      rfl
  | cons part skipped ih =>
      rw [List.forall_mem_cons] at hplain hskipped
      rw [List.cons_append, offsetOf_joined_of_not hexpression hplain.1 hskipped.1,
        ih hplain.2 hskipped.2, joined_cons, ← List.cons_append, Text.size_append, Nat.add_assoc]

/-- Of the segments that open with an expression there is a first one. -/
theorem exists_first_opensWith (h : ∃ segment ∈ segments, OpensWith expression segment) :
    ∃ skipped segment later, segments = skipped ++ segment :: later ∧
      OpensWith expression segment ∧ ∀ part ∈ skipped, ¬ OpensWith expression part := by
  induction segments with
  | nil =>
      obtain ⟨segment, hsegment, _⟩ := h
      cases hsegment
  | cons head segments ih =>
      by_cases hhead : OpensWith expression head
      · exact ⟨[], head, segments, rfl, hhead, by simp⟩
      · obtain ⟨found, hfound, hopens⟩ := h
        have hmore : found ∈ segments := by
          rcases List.mem_cons.mp hfound with rfl | hmore
          · exact absurd hopens hhead
          · exact hmore
        obtain ⟨skipped, segment, later, rfl, hsegment, hskipped⟩ := ih ⟨found, hmore, hopens⟩
        refine ⟨head :: skipped, segment, later, rfl, hsegment, ?_⟩
        rw [List.forall_mem_cons]
        exact ⟨hhead, hskipped⟩

end Offsets

/-- An expression in front of the first failing one that begins with its text goes on behind
it, and has a value. -/
theorem FirstFailing.exists_longer {Value : Text → Nat → Prop} {segments earlier : List Text}
    {expression remainder segment : Text}
    (h : FirstFailing Value segments earlier expression remainder) (hsegment : segment ∈ earlier)
    (hopens : OpensWith expression segment) :
    ∃ absorbed rest n, Encloses segment (expression ++ .scalar ')' :: absorbed) rest ∧
      Value (expression ++ .scalar ')' :: absorbed) n := by
  obtain ⟨behind, hbehind⟩ := hopens
  by_cases hclosed : .scalar ')' ∈ behind
  · obtain ⟨absorbed, rest, rfl, hlast⟩ := exists_last_close hclosed
    have hencloses : Encloses segment (expression ++ .scalar ')' :: absorbed) rest :=
      ⟨by simp [← hbehind], hlast⟩
    obtain ⟨n, hn⟩ := h.before _ hsegment _ _ hencloses
    exact ⟨absorbed, rest, n, hencloses, hn⟩
  · -- nothing goes on, so the earlier expression is the failing one
    have hencloses : Encloses segment expression behind := ⟨by simp [← hbehind], hclosed⟩
    exact absurd (h.before _ hsegment _ _ hencloses) h.fails

/-- The text of the first failing expression is first found at a segment in front of it, or at
its own. -/
theorem FirstFailing.exists_found {Value : Text → Nat → Prop} {segments earlier : List Text}
    {expression remainder : Text}
    (h : FirstFailing Value segments earlier expression remainder) :
    ∃ skipped segment later, segments = skipped ++ segment :: later ∧
      OpensWith expression segment ∧ (∀ part ∈ skipped, ¬ OpensWith expression part) ∧
        (skipped = earlier ∨ ∃ between, earlier = skipped ++ segment :: between) := by
  obtain ⟨failing, behind, hsegments, hencloses⟩ := h.found
  have hfailing := hencloses.opensWith
  have hmem : failing ∈ segments := by simp [hsegments]
  obtain ⟨skipped, segment, later, hsplit, hsegment, hskipped⟩ :=
    exists_first_opensWith ⟨failing, hmem, hfailing⟩
  refine ⟨skipped, segment, later, hsplit, hsegment, hskipped, ?_⟩
  rw [hsegments] at hsplit
  rcases List.append_eq_append_iff.mp hsplit with
    ⟨between, rfl, hbetween⟩ | ⟨between, rfl, hbetween⟩
  · cases between with
    | nil => exact .inl (by simp)
    | cons part between =>
        -- the failing expression itself would have been skipped
        obtain ⟨rfl, _⟩ := List.cons.inj hbetween
        exact absurd hfailing (hskipped failing (by simp))
  · cases between with
    | nil => exact .inl (by simp)
    | cons part between =>
        obtain ⟨rfl, _⟩ := List.cons.inj hbetween
        exact .inr ⟨between, rfl⟩

/-- A line is searched for an expression up to the first segment that opens with it. -/
theorem Segmented.offsetOf_eq {line first comment expression segment : Text}
    {segments skipped later : List Text} (h : Segmented line first segments comment)
    (hexpression : .scalar '$' ∉ expression) (hsplit : segments = skipped ++ segment :: later)
    (hskipped : ∀ part ∈ skipped, ¬ OpensWith expression part)
    (hopens : OpensWith expression segment) :
    offsetOf (written expression) 0 (first ++ joined segments) =
      Text.size (first ++ joined skipped) := by
  have hplain : ∀ part ∈ skipped, .scalar '$' ∉ part :=
    fun part hpart => h.segments_plain part (by simp [hsplit, hpart])
  rw [hsplit, offsetOf_append h.first_plain, offsetOf_joined hexpression hplain hskipped hopens,
    Nat.zero_add, Text.size_append]

theorem FirstFailing.dollar_not_mem {Value : Text → Nat → Prop} {segments earlier : List Text}
    {expression remainder : Text}
    (h : FirstFailing Value segments earlier expression remainder)
    (hplain : ∀ segment ∈ segments, .scalar '$' ∉ segment) : .scalar '$' ∉ expression := by
  obtain ⟨failing, later, rfl, hencloses⟩ := h.found
  have hdollar := hplain failing (by simp)
  rw [hencloses.segment_eq] at hdollar
  exact fun hmem => hdollar (by simp [hmem])

end Expansion

section Main

open Expansion

/-- Where a line that is refused is reported: at the first of its dollar signs behind which
the text of the failing expression stands.  That is the dollar sign of the failing expression
itself exactly if no expression in front of it begins with the same text; one that does goes
on behind it, and has a value. -/
theorem reported_column_iff (interpret : Interpreter) (definitions : Definitions)
    (number : Int) (line : Text) {fault : Fault}
    (h : expand (evaluatorAt interpret definitions number) number line = .error fault) :
    ∃ first segments comment earlier expression remainder,
      Segmented line first segments comment ∧
      FirstFailing (HasValue interpret definitions number) segments earlier expression remainder ∧
      (fault.position.col = Text.size (first ++ joined earlier) + 1 ↔
        ∀ segment ∈ earlier, ¬ OpensWith expression segment) ∧
      (∃ skipped segment later, segments = skipped ++ segment :: later ∧
        OpensWith expression segment ∧ (∀ part ∈ skipped, ¬ OpensWith expression part) ∧
          fault.position.col = Text.size (first ++ joined skipped) + 1) ∧
      ∀ segment ∈ earlier, OpensWith expression segment →
        ∃ absorbed rest n, Encloses segment (expression ++ .scalar ')' :: absorbed) rest ∧
          HasValue interpret definitions number (expression ++ .scalar ')' :: absorbed) n := by
  obtain ⟨first, segments, comment, hsegmented⟩ := exists_segmented line
  obtain ⟨earlier, expression, remainder, cause, hfailing, _, rfl⟩ :=
    hsegmented.exists_firstFailing h
  rw [evaluatorAt_gives] at hfailing
  obtain ⟨skipped, segment, later, hsplit, hopens, hskipped, hplace⟩ := hfailing.exists_found
  have hoffset := hsegmented.offsetOf_eq (hfailing.dollar_not_mem hsegmented.segments_plain)
    hsplit hskipped hopens
  rw [hoffset]
  refine ⟨first, segments, comment, earlier, expression, remainder, hsegmented, hfailing, ?_,
    ⟨skipped, segment, later, hsplit, hopens, hskipped, rfl⟩,
    fun part hpart hstarts => hfailing.exists_longer hpart hstarts⟩
  rcases hplace with rfl | ⟨between, rfl⟩
  · exact iff_of_true rfl hskipped
  · -- the dollar sign that is found stands in front of the right one
    refine iff_of_false ?_ fun hnone => hnone segment (by simp) hopens
    have hdollar : Symbol.width (.scalar '$') = 1 := by decide
    simp only [joined_append, joined_cons, Text.size_append, Text.size_cons, hdollar]
    omega

/-- An expression with a value, and one whose value is negative. -/
def negativeValue : Text := .ofString "$(1)+$(2 - 3)"

theorem negativeValue_reported :
    expand (evaluatorAt Expression.interpret .empty 1) 1 negativeValue =
        .error ⟨.notImmediate "2 - 3", ⟨1, 6⟩⟩ ∧
      ∃ first segments comment earlier expression remainder,
        Segmented negativeValue first segments comment ∧
        FirstFailing (HasValue Expression.interpret .empty 1) segments earlier expression
          remainder ∧
        ((6 : Int) = Text.size (first ++ joined earlier) + 1 ↔
          ∀ segment ∈ earlier, ¬ OpensWith expression segment) := by
  have hexpand : expand (evaluatorAt Expression.interpret .empty 1) 1 negativeValue =
      .error ⟨.notImmediate "2 - 3", ⟨1, 6⟩⟩ := by decide +kernel
  obtain ⟨first, segments, comment, earlier, expression, remainder, hsegmented, hfailing,
    hcolumn, _⟩ := reported_column_iff Expression.interpret .empty 1 negativeValue hexpand
  exact ⟨hexpand, first, segments, comment, earlier, expression, remainder, hsegmented,
    hfailing, hcolumn⟩

/-- The second expression is refused, and the first one begins with its text. -/
def longerExpression : Text := .ofString "$((1)+(2)) $((1)"

theorem longerExpression_segmented :
    Segmented longerExpression [] [.ofString "((1)+(2)) ", .ofString "((1)"] [] where
  line_eq := by decide +kernel
  hash := by decide +kernel
  comment_eq := .inl rfl
  first_plain := by simp
  segments_plain := by decide +kernel

theorem longerExpression_firstFailing :
    FirstFailing (HasValue Expression.interpret .empty 1) [.ofString "((1)+(2)) ", .ofString "((1)"]
      [.ofString "((1)+(2)) "] (.ofString "(1") [] where
  found := ⟨_, [], rfl, by decide +kernel, by simp⟩
  fails := by
    rintro ⟨n, hn⟩
    rw [← evaluatorAt_gives_iff, Evaluator.Gives] at hn
    have herror : evaluatorAt Expression.interpret .empty 1 (.ofString "(1") =
        .error (.noValue "expected a closing bracket") := by decide +kernel
    rw [herror] at hn
    cases hn
  before := by
    intro segment hsegment expression remainder hencloses
    obtain rfl := List.mem_singleton.mp hsegment
    have hwhole : Encloses (.ofString "((1)+(2)) ") (.ofString "(1)+(2)") (.ofString " ") :=
      ⟨by decide +kernel, by decide +kernel⟩
    obtain ⟨rfl, _⟩ := hwhole.unique hencloses
    exact ⟨3, evaluatorAt_gives_iff.mp (by unfold Evaluator.Gives; decide +kernel)⟩

/-- The column is not always that of the failing expression: it is that of the one that goes
on. -/
theorem longerExpression_misplaced :
    ∃ fault, expand (evaluatorAt Expression.interpret .empty 1) 1 longerExpression = .error fault ∧
      Segmented longerExpression [] [.ofString "((1)+(2)) ", .ofString "((1)"] [] ∧
      FirstFailing (HasValue Expression.interpret .empty 1)
        [.ofString "((1)+(2)) ", .ofString "((1)"] [.ofString "((1)+(2)) "] (.ofString "(1") [] ∧
      fault.position.col ≠ Text.size ([] ++ joined [.ofString "((1)+(2)) "]) + 1 := by
  exact ⟨⟨.noValue "expected a closing bracket", ⟨1, 1⟩⟩, by decide +kernel,
    longerExpression_segmented, longerExpression_firstFailing, by decide +kernel⟩

end Main

end ToyRisc
