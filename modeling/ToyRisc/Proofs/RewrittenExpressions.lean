/-
What becomes of the expressions of a line.  Each is replaced by its value, and a line is
refused for the first that has none.  What is taken as the expression reaches to the last
closing parenthesis in front of the next dollar sign, so an expression is replaced on its own
exactly if no parenthesis is closed behind it up to there.
-/
import ToyRisc.Proofs.Segments

namespace ToyRisc

namespace Expansion

section Values

/-- The value of an expression on the line with a given number, if it is an immediate. -/
def HasValue (interpret : Interpreter) (definitions : Definitions) (number : Int)
    (expression : Text) (n : Nat) : Prop :=
  interpret.valueAt definitions number expression = .ok (some ↑n) ∧ n ≤ 0x7FFFFFFF

/-- What is reported of an expression that has no immediate as its value: why it cannot be
evaluated or, if it can, the expression itself. -/
inductive Reported (interpret : Interpreter) (definitions : Definitions) (number : Int)
    (expression : Text) : Cause → Prop
  | noValue {reason : String}
      (herror : interpret.valueAt definitions number expression = .error reason) :
      Reported interpret definitions number expression (.noValue reason)
  | notImmediate {value : Option Int}
      (hvalue : interpret.valueAt definitions number expression = .ok value)
      (hrange : ∀ n : Nat, value = some ↑n → 0x7FFFFFFF < n) :
      Reported interpret definitions number expression
        (.notImmediate (String.ofList expression.chars))

variable {interpret : Interpreter} {definitions : Definitions} {number : Int} {expression : Text}

theorem evaluatorAt_gives_iff {n : Nat} :
    (evaluatorAt interpret definitions number).Gives expression n ↔
      HasValue interpret definitions number expression n := by
  unfold Evaluator.Gives HasValue evaluatorAt
  split
  · rename_i herror
    simp [herror]
  · rename_i z hz
    split
    · rename_i hrange
      simp only [maxImmediate] at hrange
      simp only [hz, Except.ok.injEq, Option.some.injEq]
      omega
    · rename_i hrange
      simp only [maxImmediate] at hrange
      simp only [hz, reduceCtorEq, Except.ok.injEq, Option.some.injEq, false_iff]
      omega
  · rename_i hvalue
    simp [hvalue]

theorem reported_of_evaluatorAt {cause : Cause}
    (h : evaluatorAt interpret definitions number expression = .error cause) :
    Reported interpret definitions number expression cause := by
  unfold evaluatorAt at h
  split at h
  · rename_i herror
    cases h
    exact .noValue herror
  · rename_i z hz
    split at h
    · cases h
    · rename_i hrange
      cases h
      refine .notImmediate hz ?_
      intro n hn
      cases hn
      simp only [maxImmediate] at hrange
      omega
  · rename_i hvalue
    cases h
    refine .notImmediate hvalue ?_
    intro n hn
    cases hn

theorem evaluatorAt_gives (interpret : Interpreter) (definitions : Definitions) (number : Int) :
    (evaluatorAt interpret definitions number).Gives =
      HasValue interpret definitions number := by
  funext expression n
  exact propext evaluatorAt_gives_iff

end Values

section Alone

variable {evaluate : Evaluator} {number : Int}
  {before segment expression remainder rest found : Text}

theorem segmented_joined {first : Text} {segments : List Text} (hfirst : .scalar '$' ∉ first)
    (hsegments : ∀ segment ∈ segments, .scalar '$' ∉ segment)
    (hhash : .scalar '#' ∉ first ++ joined segments) :
    Segmented (first ++ joined segments) first segments [] where
  line_eq := (List.append_nil _).symm
  hash := hhash
  comment_eq := .inl rfl
  first_plain := hfirst
  segments_plain := hsegments

theorem exists_joined_of_starts (h : rest = [] ∨ ∃ more, rest = .scalar '$' :: more) :
    ∃ segments, rest = joined segments ∧ ∀ segment ∈ segments, .scalar '$' ∉ segment := by
  obtain ⟨first, segments, hrest, hfirst, hsegments⟩ := exists_joined rest
  have hnil : first = [] := by
    cases first with
    | nil => rfl
    | cons s first =>
        rcases h with rfl | ⟨more, rfl⟩
        · cases hrest
        · exact absurd (List.cons.inj hrest).1 (ne_of_mem_of_not_mem List.mem_cons_self hfirst).symm
  rw [hnil] at hrest
  exact ⟨segments, hrest, hsegments⟩

/-- What stands in front of the first dollar sign stays. -/
theorem expand_append_iff (hbefore : .scalar '$' ∉ before)
    (hrest : rest = [] ∨ ∃ more, rest = .scalar '$' :: more)
    (hhash : .scalar '#' ∉ before ++ rest) :
    expand evaluate number (before ++ rest) = .ok found ↔
      ∃ more, expand evaluate number rest = .ok more ∧ found = before ++ more := by
  obtain ⟨segments, rfl, hsegments⟩ := exists_joined_of_starts hrest
  have hbehind : .scalar '#' ∉ [] ++ joined segments :=
    fun hmem => hhash (List.mem_append_right _ hmem)
  rw [(segmented_joined hbefore hsegments hhash).expand_eq_ok_iff,
    ← List.nil_append (joined segments)]
  simp only [(segmented_joined (by simp) hsegments hbehind).expand_eq_ok_iff]
  constructor
  · rintro ⟨pieces, hpieces, rfl⟩
    exact ⟨_, ⟨pieces, hpieces, rfl⟩, by simp⟩
  · rintro ⟨_, ⟨pieces, hpieces, rfl⟩, rfl⟩
    exact ⟨pieces, hpieces, by simp⟩

/-- The first expression of a line is replaced, and the rest expands as it does alone. -/
theorem expand_enclosed_iff (hbefore : .scalar '$' ∉ before) (hsegment : .scalar '$' ∉ segment)
    (hrest : rest = [] ∨ ∃ more, rest = .scalar '$' :: more)
    (hhash : .scalar '#' ∉ before ++ .scalar '$' :: (segment ++ rest))
    (hencloses : Encloses segment expression remainder) :
    expand evaluate number (before ++ .scalar '$' :: (segment ++ rest)) = .ok found ↔
      ∃ n more, evaluate.Gives expression n ∧ expand evaluate number rest = .ok more ∧
        found = before ++ (digitText n ++ remainder) ++ more := by
  obtain ⟨segments, rfl, hsegments⟩ := exists_joined_of_starts hrest
  have hbehind : .scalar '#' ∉ [] ++ joined segments := by
    intro hmem
    apply hhash
    simp only [List.mem_append, List.mem_cons]
    exact .inr (.inr (.inr (by simpa using hmem)))
  have hall : ∀ part ∈ segment :: segments, .scalar '$' ∉ part :=
    List.forall_mem_cons.mpr ⟨hsegment, hsegments⟩
  rw [← joined_cons] at hhash ⊢
  rw [(segmented_joined hbefore hall hhash).expand_eq_ok_iff, ← List.nil_append (joined segments)]
  simp only [(segmented_joined (by simp) hsegments hbehind).expand_eq_ok_iff,
    List.forall₂_cons_left_iff]
  constructor
  · rintro ⟨_, ⟨piece, pieces, hpiece, hpieces, rfl⟩, rfl⟩
    obtain ⟨n, hn, rfl⟩ := hpiece.exists_value hencloses
    exact ⟨n, _, hn, ⟨pieces, hpieces, rfl⟩, by simp⟩
  · rintro ⟨n, _, hn, ⟨pieces, hpieces, rfl⟩, rfl⟩
    exact ⟨_, ⟨_, pieces, .value hencloses hn, hpieces, rfl⟩, by simp⟩

theorem Encloses.absorb {absorbed : Text} (hlast : .scalar ')' ∉ remainder) :
    Encloses (.scalar '(' :: (expression ++ .scalar ')' :: (absorbed ++ .scalar ')' :: remainder)))
      (expression ++ .scalar ')' :: absorbed) remainder :=
  ⟨by simp, hlast⟩

/-- An expression is replaced together with what its segment takes into it. -/
theorem expand_written_iff {follows inner : Text}
    (hbefore : .scalar '$' ∉ before ∧ .scalar '#' ∉ before)
    (hexpression : .scalar '$' ∉ expression ∧ .scalar '#' ∉ expression)
    (hfollows : .scalar '$' ∉ follows) (hrest : rest = [] ∨ ∃ more, rest = .scalar '$' :: more)
    (hhash : .scalar '#' ∉ follows ++ rest)
    (hencloses : Encloses (.scalar '(' :: (expression ++ .scalar ')' :: follows)) inner
      remainder) :
    expand evaluate number (before ++ written expression ++ (follows ++ rest)) = .ok found ↔
      ∃ n more, evaluate.Gives inner n ∧ expand evaluate number rest = .ok more ∧
        found = before ++ (digitText n ++ remainder) ++ more := by
  have hline : before ++ written expression ++ (follows ++ rest) =
      before ++ .scalar '$' ::
        (.scalar '(' :: (expression ++ .scalar ')' :: follows) ++ rest) := by
    simp [written]
  rw [hline]
  apply expand_enclosed_iff hbefore.1 _ hrest _ hencloses
  · simpa [hexpression.1] using hfollows
  · simpa [hbefore.2, hexpression.2] using hhash

theorem close_not_mem_digitText (n : Nat) : .scalar ')' ∉ digitText n := by
  intro hmem
  obtain ⟨c, hc, heq⟩ := List.mem_map.mp hmem
  cases heq
  exact absurd (Decimal.isDigit_of_mem_digits hc) (by decide)

theorem exists_last_close {text : Text} (h : .scalar ')' ∈ text) :
    ∃ front back, text = front ++ .scalar ')' :: back ∧ .scalar ')' ∉ back := by
  obtain ⟨back, front, hreverse, hback⟩ :=
    List.eq_append_cons_of_mem (List.mem_reverse.mpr h)
  refine ⟨front.reverse, back.reverse, ?_, by simpa using hback⟩
  have htext := congrArg List.reverse hreverse
  simpa using htext

end Alone

end Expansion

namespace Source

theorem takeWhile_dropReturn (p : Symbol → Bool) (line : Text) :
    (dropReturn line).takeWhile p <+: line.takeWhile p := by
  rcases dropReturn_cases line with heq | heq
  · simp [heq]
  · generalize dropReturn line = bare at heq
    rw [heq, List.takeWhile_append]
    split
    · exact (List.takeWhile_prefix p).trans (List.prefix_append _ _)
    · exact List.prefix_refl _

/-- A line without an expression loads in the same way whether or not expressions count. -/
theorem loadLine_expressions (settings : LoadSettings) (number : Int) {line : Text}
    (h : ¬ [.scalar '$', .scalar '('] <:+: line.takeWhile (Expansion.isNot '#')) :
    loadLine { settings with expressions := true } number line =
      loadLine { settings with expressions := false } number line := by
  have hbare : ¬ [.scalar '$', .scalar '('] <:+:
      (dropReturn line).takeWhile (Expansion.isNot '#') :=
    fun hfound => h (hfound.trans (takeWhile_dropReturn _ line).isInfix)
  simp only [loadLine, loadTokens, prepare, if_true, Bool.false_eq_true, if_false,
    Expansion.expand_of_no_expression _ number hbare]

theorem loadFrom_congr {settings other : LoadSettings} {number : Int}
    {done : List (List Token)} {lines : List Text}
    (h : ∀ line ∈ lines, ∀ number, loadLine settings number line = loadLine other number line) :
    loadFrom settings number done lines = loadFrom other number done lines := by
  induction lines generalizing number done with
  | nil => rfl
  | cons line lines ih =>
      rw [List.forall_mem_cons] at h
      rw [loadFrom, loadFrom, h.1 number]
      cases loadLine other number line with
      | error error => rfl
      | ok row => exact ih h.2

/-- A text without an expression loads in the same way whether or not expressions count. -/
theorem load_expressions (settings : LoadSettings) {text : Text}
    (h : ∀ line ∈ lines text,
      ¬ [.scalar '$', .scalar '('] <:+: line.takeWhile (Expansion.isNot '#')) :
    load { settings with expressions := true } text =
      load { settings with expressions := false } text :=
  loadFrom_congr fun line hline number => loadLine_expressions settings number (h line hline)

end Source

section Main

open Expansion

/-- Expansion rewrites the expressions of a line and nothing else.  A line is refused exactly
where one of its segments encloses an expression without a value, and for the first of them;
otherwise the digits of its value stand for each expression.  So it makes no difference to a
text without expressions whether they are expanded. -/
theorem expansion_rewrites_exactly (interpret : Interpreter) (definitions : Definitions)
    (number : Int) (line : Text) (settings : LoadSettings) (text : Text) :
    ((∃ first segments comment, Segmented line first segments comment) ∧
      ∀ first segments comment, Segmented line first segments comment →
        ((∃ fault, expand (evaluatorAt interpret definitions number) number line = .error fault) ↔
          ∃ segment ∈ segments, ∃ expression remainder,
            Encloses segment expression remainder ∧
              ¬ ∃ n, HasValue interpret definitions number expression n) ∧
        (∀ fault, expand (evaluatorAt interpret definitions number) number line = .error fault →
          ∃ earlier expression remainder,
            FirstFailing (HasValue interpret definitions number) segments earlier expression
                remainder ∧
              Reported interpret definitions number expression fault.cause ∧
                fault.position.line = number) ∧
        (∀ result, expand (evaluatorAt interpret definitions number) number line = .ok result ↔
          ∃ pieces,
            List.Forall₂ (Rewrites (HasValue interpret definitions number)) segments pieces ∧
              result = first ++ pieces.flatten ++ comment)) ∧
    ((∀ row ∈ Source.lines text,
        ¬ [.scalar '$', .scalar '('] <:+: row.takeWhile (isNot '#')) →
      Source.load { settings with expressions := true } text =
        Source.load { settings with expressions := false } text) := by
  refine ⟨⟨exists_segmented line, ?_⟩, Source.load_expressions settings⟩
  intro first segments comment hsegmented
  rw [← evaluatorAt_gives]
  refine ⟨hsegmented.expand_fails_iff, ?_, fun result => hsegmented.expand_eq_ok_iff⟩
  intro fault hexpand
  obtain ⟨earlier, expression, remainder, cause, hfirst, hcause, rfl⟩ :=
    hsegmented.exists_firstFailing hexpand
  exact ⟨earlier, expression, remainder, hfirst, reported_of_evaluatorAt hcause, rfl⟩

/-- A dollar sign without an expression, an expression, and one that is in a comment. -/
def dollarLine : Text := .ofString "a$x$((4) * 3)b#$(c)"

theorem dollarLine_segmented :
    Segmented dollarLine (.ofString "a") [.ofString "x", .ofString "((4) * 3)b"]
      (.ofString "#$(c)") where
  line_eq := by decide +kernel
  hash := by decide +kernel
  comment_eq := .inr ⟨Text.ofString "$(c)", by decide +kernel⟩
  first_plain := by decide +kernel
  segments_plain := by decide +kernel

theorem dollarLine_rewritten :
    (∃ pieces, List.Forall₂ (Rewrites (HasValue Expression.interpret .empty 7))
        [.ofString "x", .ofString "((4) * 3)b"] pieces ∧
      Text.ofString "a$x12b#$(c)" =
        Text.ofString "a" ++ pieces.flatten ++ Text.ofString "#$(c)") ∧
    Source.load { expressions := true } (.ofString "ret # $(c)") =
      Source.load { expressions := false } (.ofString "ret # $(c)") := by
  obtain ⟨⟨_, hline⟩, hload⟩ :=
    expansion_rewrites_exactly Expression.interpret .empty 7 dollarLine {} (.ofString "ret # $(c)")
  refine ⟨((hline _ _ _ dollarLine_segmented).2.2 _).mp (by decide +kernel), hload ?_⟩
  decide +kernel

/-- When an expression is replaced on its own.  The line is then what stands before it, its
value and the expansion of what follows; this is so exactly if, up to the next dollar sign,
no parenthesis is closed behind the expression.  Otherwise what is evaluated reaches to the
last one that is. -/
theorem expression_alone_iff (interpret : Interpreter) (definitions : Definitions)
    (number : Int) {before expression behind result : Text} {n : Nat}
    (hbefore : .scalar '$' ∉ before ∧ .scalar '#' ∉ before)
    (hexpression : .scalar '$' ∉ expression ∧ .scalar '#' ∉ expression)
    (hvalue : HasValue interpret definitions number expression n) (hbehind : .scalar '#' ∉ behind)
    (hresult : expand (evaluatorAt interpret definitions number) number behind = .ok result) :
    (expand (evaluatorAt interpret definitions number) number
          (before ++ written expression ++ behind) = .ok (before ++ digitText n ++ result) ↔
      .scalar ')' ∉ behind.takeWhile (isNot '$')) ∧
    ∀ absorbed remainder,
      behind.takeWhile (isNot '$') = absorbed ++ .scalar ')' :: remainder →
      .scalar ')' ∉ remainder →
      ∀ found,
        expand (evaluatorAt interpret definitions number) number
            (before ++ written expression ++ behind) = .ok found ↔
          ∃ m more,
            HasValue interpret definitions number (expression ++ .scalar ')' :: absorbed) m ∧
            expand (evaluatorAt interpret definitions number) number
              (behind.dropWhile (isNot '$')) = .ok more ∧
            found = before ++ (digitText m ++ remainder) ++ more := by
  rw [← evaluatorAt_gives] at hvalue ⊢
  have hplain := not_mem_takeWhile '$' behind
  have hrest := dropWhile_isNot '$' behind
  have hparts := List.takeWhile_append_dropWhile (p := isNot '$') (l := behind)
  generalize behind.takeWhile (isNot '$') = follows at hplain hparts ⊢
  generalize behind.dropWhile (isNot '$') = rest at hrest hparts ⊢
  subst hparts
  obtain ⟨more, hmore, rfl⟩ := (expand_append_iff hplain hrest hbehind).mp hresult
  refine ⟨⟨?_, ?_⟩, ?_⟩
  · intro hexpand hclosed
    obtain ⟨absorbed, remainder, rfl, hlast⟩ := exists_last_close hclosed
    obtain ⟨m, other, _, hother, heq⟩ :=
      (expand_written_iff hbefore hexpression hplain hrest hbehind (.absorb hlast)).mp hexpand
    rw [hmore] at hother
    cases hother
    -- the digits of a value would have to end in the parenthesis
    have hcancel : before ++ (digitText n ++ absorbed ++ [.scalar ')']) ++ (remainder ++ more) =
        before ++ digitText m ++ (remainder ++ more) := by simpa using heq
    have hdigits := List.append_cancel_left (List.append_cancel_right hcancel)
    apply close_not_mem_digitText m
    rw [← hdigits]
    simp
  · intro hopen
    apply (expand_written_iff hbefore hexpression hplain hrest hbehind ⟨rfl, hopen⟩).mpr
    exact ⟨n, more, hvalue, hmore, by simp⟩
  · rintro absorbed remainder rfl hlast found
    exact expand_written_iff hbefore hexpression hplain hrest hbehind (.absorb hlast)

/-- A parenthesised expression in front of another one. -/
theorem nestedExpression_alone :
    HasValue Expression.interpret .empty 1 (.ofString "(1 + 2) * 4") 12 ∧
      expand (evaluatorAt Expression.interpret .empty 1) 1 (Text.ofString "ori x1, x2, " ++
          written (.ofString "(1 + 2) * 4") ++ Text.ofString " $(2)") =
        .ok (Text.ofString "ori x1, x2, " ++ digitText 12 ++ Text.ofString " 2") := by
  have hvalue : HasValue Expression.interpret .empty 1 (.ofString "(1 + 2) * 4") 12 :=
    evaluatorAt_gives_iff.mp (by unfold Evaluator.Gives; decide +kernel)
  have hresult : expand (evaluatorAt Expression.interpret .empty 1) 1 (.ofString " $(2)") =
      .ok (.ofString " 2") := by decide +kernel
  have hbefore : .scalar '$' ∉ Text.ofString "ori x1, x2, " ∧
      .scalar '#' ∉ Text.ofString "ori x1, x2, " := by decide +kernel
  refine ⟨hvalue,
    (expression_alone_iff Expression.interpret .empty 1 hbefore ?_ hvalue ?_ hresult).1.mpr ?_⟩
  · decide +kernel
  · decide +kernel
  · decide +kernel

/-- The base register behind an offset. -/
def baseRegister : Text := .ofString "(s0)"

/-- An expression is not always replaced on its own: the base register behind it is taken
into it. -/
theorem baseRegister_absorbed :
    HasValue Expression.interpret .empty 1 (.ofString "4") 4 ∧
      expand (evaluatorAt Expression.interpret .empty 1) 1 baseRegister = .ok baseRegister ∧
      expand (evaluatorAt Expression.interpret .empty 1) 1
          (written (.ofString "4") ++ baseRegister) ≠
        .ok (digitText 4 ++ baseRegister) :=
  ⟨evaluatorAt_gives_iff.mp (by unfold Evaluator.Gives; decide +kernel), by decide +kernel,
    by decide +kernel⟩

end Main

end ToyRisc
