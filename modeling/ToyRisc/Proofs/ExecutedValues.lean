/-
From the value of an expression to the word that is executed.  Where an expression stands
behind a space or a comma and no digit follows it, the digits of its value are a token of their
own, in the place of the expression, and that token is decoded to the same value.  An
expression that has no such value is refused when the line is loaded.
-/
import ToyRisc.Proofs.Gaps
import ToyRisc.Proofs.Payloads
import ToyRisc.Proofs.RewrittenExpressions

namespace ToyRisc

section Folding

variable {chars before behind folded more word : List Char}

/-- Nothing is folded in a word without spaces. -/
theorem Folded.word_append (h : Folded behind more) (hword : ' ' ∉ word) :
    Folded (word ++ behind) (word ++ more) := by
  induction word with
  | nil => exact h
  | cons c word ih =>
      rw [List.mem_cons, not_or] at hword
      apply Folded.cons _ (ih hword.2)
      intro hstart
      obtain ⟨tail, htail⟩ := hstart
      exact hword.1 (List.cons.inj htail).1

/-- A word without spaces keeps its place in a line that is folded: what stands in front of it is
folded as it is alone. -/
theorem Folded.exists_word (h : Folded before folded) (hne : word ≠ []) (hword : ' ' ∉ word)
    (behind : List Char) :
    ∃ more, Folded (before ++ (word ++ behind)) (folded ++ (word ++ more)) ∧
      (more = behind ∨ Folded behind more) := by
  by_cases hfour : fourSpaces <:+: before
  · exact ⟨behind, h.append_of_infix hfour (word ++ behind), .inl rfl⟩
  · have hbehind := folded_foldIndent behind
    refine ⟨_, ?_, .inr hbehind⟩
    rw [h.eq_of_not_infix hfour]
    apply (hbehind.word_append hword).prepend hfour
    obtain ⟨c, rest, rfl⟩ := List.exists_cons_of_ne_nil hne
    intro hspace
    rw [List.cons_append, List.head?_cons, Option.some.injEq] at hspace
    exact hword (hspace ▸ List.mem_cons_self)

theorem Folded.head?_cases (h : Folded chars folded) :
    folded.head? = chars.head? ∨ folded.head? = some '\t' := by
  cases h with
  | none hnone => exact .inl rfl
  | first front back hfirst =>
      by_cases hfront : front = []
      · rw [hfront]
        exact .inr rfl
      · obtain ⟨c, front, rfl⟩ := List.exists_cons_of_ne_nil hfront
        exact .inl rfl

theorem Folded.getLast?_cases (h : Folded chars folded) :
    folded.getLast? = chars.getLast? ∨ folded.getLast? = some '\t' := by
  cases h with
  | none hnone => exact .inl rfl
  | first front back hfirst =>
      by_cases hback : back = []
      · rw [hback]
        exact .inr (by simp)
      · left
        rw [List.append_cons, List.getLast?_append_of_ne_nil _ hback, ← List.append_assoc,
          List.getLast?_append_of_ne_nil _ hback]

end Folding

section Separators

variable {line : Int} {before : List Char} {left tokens : List Token}

/-- Where a line ends with a space, a tab or a comma, its last span can stand before anything. -/
theorem Cuts.fits_of_separator {spans : List Span} (h : Cuts before spans [])
    (hquote : '"' ∉ before) (hhash : '#' ∉ before) {c : Char} (hlast : before.getLast? = some c)
    (hc : c ∈ [' ', '\t', ',']) {span : Span} (hspan : spans.getLast? = some span)
    (hfits : span.Fits none) (next : Option Char) : span.Fits next := by
  have htext : textOf spans = before := by
    rw [← h.text_append, List.append_nil]
  obtain ⟨front, rfl⟩ := List.getLast?_eq_some_iff.mp hspan
  have hinside : ∀ d ∈ span.text, d ∈ before := by
    intro d hd
    rw [← htext]
    exact mem_textOf (by simp) hd
  have hmem : c ∈ span.text := by
    rw [← htext, textOf, List.flatMap_append, List.flatMap_singleton,
      List.getLast?_append_of_ne_nil _ hfits.text_ne_nil] at hlast
    exact List.mem_of_getLast? hlast
  rcases hfits.of_separator_mem hc hmem with ⟨_, hfree⟩ | ⟨body, rfl⟩ | ⟨body, closed, rfl⟩
  · exact hfree next
  · exact absurd (hinside '#' List.mem_cons_self) hhash
  · exact absurd (hinside '"' List.mem_cons_self) hquote

/-- What ends with a space, a tab or a comma is read by itself, whatever follows. -/
theorem passes_of_separator (hscan : (Lexer.scan line 0 [] before).1 = .ok left)
    (hquote : '"' ∉ before) (hhash : '#' ∉ before) {c : Char} (hlast : before.getLast? = some c)
    (hc : c ∈ [' ', '\t', ',']) (other : List Char) : Passes line before other left := by
  obtain ⟨spans, hcuts, himages⟩ := (scan_eq_ok_iff line before left).mp hscan
  refine ⟨spans, ?_, himages⟩
  have htext : textOf spans = before := by
    rw [← hcuts.text_append, List.append_nil]
  have hother : Cuts (textOf spans ++ other) spans other := by
    apply hcuts.of_last_fits
    intro span hspan hfits
    exact hcuts.fits_of_separator hquote hhash hlast hc hspan hfits other.head?
  rwa [htext] at hother

/-- Digits behind what is read by itself are a token, as long as no digit follows. -/
theorem Passes.exists_number {digits more : List Char}
    (h : Passes line before (digits ++ more) left) (hfits : (Span.number digits).Fits more.head?)
    (hscan : (Lexer.scan line 0 [] (before ++ (digits ++ more))).1 = .ok tokens) :
    ∃ right, tokens =
      left ++ ⟨.immediate, String.ofList digits, line, before.length + 1⟩ :: right := by
  obtain ⟨spans, hcuts, himages⟩ := h
  have hbefore : textOf spans = before := List.append_cancel_right hcuts.text_append
  have hnumber : ∀ passed done, Lexer.scan line passed done (digits ++ more) =
      Lexer.scan line (passed + digits.length)
        (⟨.immediate, String.ofList digits, line, passed + 1⟩ :: done) more :=
    fun passed done => Lexer.scan_token hfits (.number digits)
  rw [hcuts.scan himages, hnumber, Lexer.scan_shifted] at hscan
  cases hrest : (Lexer.scan line 0 [] more).1 with
  | error fault =>
      rw [hrest] at hscan
      cases hscan
  | ok right =>
      rw [hrest] at hscan
      cases hscan
      refine ⟨right.map (Token.shifted (before.length + digits.length)), ?_⟩
      simp [hbefore]

end Separators

/-- `token.Delivers place n`: the token is an immediate that starts at this place and is decoded to
this number. -/
structure Token.Delivers (token : Token) (place : Position) (n : Nat) : Prop where
  kind : token.kind = .immediate
  position : token.position = place
  decoded : ∃ word, token.immediate = .ok word ∧ word.toInt = n

theorem delivers_digits {n : Nat} (hn : n ≤ 0x7FFFFFFF) (line col : Int) :
    Token.Delivers ⟨.immediate, String.ofList (Decimal.digits n), line, col⟩ ⟨line, col⟩ n := by
  refine ⟨rfl, rfl, ?_⟩
  have hdecodes : Token.Decodes ⟨.immediate, String.ofList (Decimal.digits n), line, col⟩
      (Decimal.digits n) :=
    Token.decodes_of_literal rfl (Decimal.digits_ne_nil n)
      (fun d hd => Decimal.isDigit_of_mem_digits hd)
  obtain ⟨word, hword, hvalue⟩ := hdecodes.value (by rwa [Decimal.value_digits])
  exact ⟨word, hword, by rw [hvalue, Decimal.value_digits]⟩

/-- The fault is that of an invalid expression on this line. -/
structure Fault.InvalidExpression (fault : Fault) (number : Int) : Prop where
  kind : fault.kind = .invalidExpression
  line : fault.position.line = number

namespace Expansion

/-- `Single before expression behind`: an expression between these texts is the only one in its
line, and no parenthesis is closed behind it. -/
structure Single (before expression behind : Text) : Prop where
  before_plain : .scalar '$' ∉ before ∧ .scalar '#' ∉ before
  expression_plain : .scalar '$' ∉ expression ∧ .scalar '#' ∉ expression
  behind_plain : .scalar ')' ∉ behind ∧ .scalar '$' ∉ behind ∧ .scalar '#' ∉ behind

/-- `Embeds number before expression behind left`: moreover, what stands in front of the expression
is read by itself, to the tokens `left`, and ends with a space or a comma; what stands behind does
not start with a digit. -/
structure Embeds (number : Int) (before expression behind : Text) (left : List Token) : Prop
    extends Single before expression behind where
  before_unquoted : .scalar '"' ∉ before
  before_last : before.getLast? = some (.scalar ' ') ∨ before.getLast? = some (.scalar ',')
  before_reads : tokenize before.chars number = .ok left
  behind_first : ∀ c, behind.chars.head? = some c → c.isDigit = false

/-- Whatever line is refused for an expression is refused as one with an invalid expression. -/
theorem invalidExpression_of_expand {interpret : Interpreter} {definitions : Definitions}
    {number : Int} {line : Text} {fault : Fault}
    (h : expand (evaluatorAt interpret definitions number) number line = .error fault) :
    fault.InvalidExpression number := by
  obtain ⟨first, segments, comment, hsegmented⟩ := exists_segmented line
  obtain ⟨_, _, _, cause, _, hcause, rfl⟩ := hsegmented.exists_firstFailing h
  refine ⟨?_, rfl⟩
  cases reported_of_evaluatorAt hcause with
  | noValue herror => rfl
  | notImmediate hvalue hrange => rfl

namespace Single

variable {interpret : Interpreter} {definitions : Definitions} {number : Int}
  {before expression behind : Text}

theorem shorten (h : Single before expression behind) {shorter : Text}
    (hshorter : shorter <+: behind) : Single before expression shorter := by
  obtain ⟨hclose, hdollar, hhash⟩ := h.behind_plain
  exact ⟨h.before_plain, h.expression_plain, fun hmem => hclose (hshorter.subset hmem),
    fun hmem => hdollar (hshorter.subset hmem), fun hmem => hhash (hshorter.subset hmem)⟩

/-- A single expression is all that is expanded. -/
theorem expand_iff (h : Single before expression behind) {found : Text} :
    expand (evaluatorAt interpret definitions number) number
        (before ++ written expression ++ behind) = .ok found ↔
      ∃ n, HasValue interpret definitions number expression n ∧
        found = before ++ digitText n ++ behind := by
  obtain ⟨hclose, hdollar, hhash⟩ := h.behind_plain
  have hencloses : Encloses (.scalar '(' :: (expression ++ .scalar ')' :: behind)) expression
      behind := ⟨rfl, hclose⟩
  have hnothing : ∀ more, expand (evaluatorAt interpret definitions number) number [] = .ok more ↔
      more = [] := by
    intro more
    rw [expand_of_no_expression _ number (by decide), Except.ok.injEq, eq_comm]
  rw [← List.append_nil behind] at hhash ⊢
  rw [expand_written_iff h.before_plain h.expression_plain hdollar (.inl rfl) hhash hencloses]
  simp [hnothing, evaluatorAt_gives_iff]

theorem exists_fault (h : Single before expression behind)
    (hnone : ¬ ∃ n, HasValue interpret definitions number expression n) :
    ∃ fault, expand (evaluatorAt interpret definitions number) number
        (before ++ written expression ++ behind) = .error fault ∧
      fault.InvalidExpression number := by
  cases hexpand : expand (evaluatorAt interpret definitions number) number
      (before ++ written expression ++ behind) with
  | ok found =>
      obtain ⟨n, hn, _⟩ := h.expand_iff.mp hexpand
      exact absurd ⟨n, hn⟩ hnone
  | error fault => exact ⟨fault, rfl, invalidExpression_of_expand hexpand⟩

end Single

end Expansion

namespace Source

open Expansion

/-- A carriage return is only dropped behind an expression. -/
theorem exists_dropReturn_written (before expression behind : Text) :
    ∃ shorter, shorter <+: behind ∧ dropReturn (before ++ written expression ++ behind) =
      before ++ written expression ++ shorter := by
  rcases dropReturn_cases (before ++ written expression ++ behind) with hkept | hdropped
  · exact ⟨behind, List.prefix_refl behind, hkept⟩
  · rcases List.eq_nil_or_concat behind with rfl | ⟨shorter, c, hbehind⟩
    · have hclosed : before ++ written expression ++ [] =
          before ++ .scalar '$' :: .scalar '(' :: expression ++ [.scalar ')'] := by
        simp [written]
      rw [hclosed] at hdropped
      cases (List.append_inj' hdropped rfl).2
    · rw [List.concat_eq_append] at hbehind
      rw [hbehind, ← List.append_assoc] at hdropped ⊢
      exact ⟨shorter, List.prefix_append shorter [c], (List.append_inj' hdropped rfl).1.symm⟩

theorem not_isBlank_written (before expression behind : Text) :
    Text.isBlank (before ++ written expression ++ behind) = false := by
  rw [Text.isBlank, List.all_eq_false]
  exact ⟨'$', by simp [Text.chars, written, Symbol.char], by decide⟩

/-- A line whose expression has no value is not loaded. -/
theorem exists_loadLine_fault {interpret : Interpreter} {definitions : Definitions} {number : Int}
    {before expression behind : Text} (h : Single before expression behind)
    (hsize : Text.size (before ++ written expression ++ behind) < lineLimit)
    (hnone : ¬ ∃ n, HasValue interpret definitions number expression n) :
    ∃ fault, loadLine ⟨true, definitions, interpret⟩ number
        (before ++ written expression ++ behind) = .error (.fault fault) ∧
      fault.InvalidExpression number := by
  obtain ⟨shorter, hshorter, hline⟩ := exists_dropReturn_written before expression behind
  obtain ⟨fault, hexpand, hfault⟩ := (h.shorten hshorter).exists_fault hnone
  refine ⟨fault, ?_, hfault⟩
  rw [loadLine, if_neg (Nat.not_le.mpr hsize), hline, loadTokens, not_isBlank_written, prepare,
    if_pos rfl, hexpand]
  rfl

end Source

section Main

open Expansion

variable {interpret : Interpreter} {definitions : Definitions} {number : Int}
  {before expression behind : Text}
  {left : List Token}

theorem chars_digitText (n : Nat) : Text.chars (digitText n) = Decimal.digits n := by
  rw [Text.chars, digitText, List.map_map]
  exact List.map_id _

/-- In the folded line the expression stands behind what was in front of it, folded. -/
theorem exists_folded_written (expression behind : Text) {folded : List Char}
    (hfolded : Folded before.chars folded) :
    ∃ rest, Folded (Text.chars (before ++ written expression ++ behind))
      (folded ++ '$' :: '(' :: rest) := by
  have hopens : ['$', '('] ≠ [] := by decide
  have hspace : ' ' ∉ ['$', '('] := by decide
  obtain ⟨more, hline, _⟩ :=
    hfolded.exists_word hopens hspace (Text.chars (expression ++ .scalar ')' :: behind))
  refine ⟨more, ?_⟩
  have hchars : Text.chars (before ++ written expression ++ behind) =
      before.chars ++ (['$', '('] ++ Text.chars (expression ++ .scalar ')' :: behind)) := by
    simp [Text.chars, written, Symbol.char]
  rw [hchars]
  exact hline

namespace Expansion.Embeds

/-- In front of anything, what stands in front of the expression is read by itself. -/
theorem passes (h : Embeds number before expression behind left) {folded : List Char}
    (hfolded : Folded before.chars folded) (other : List Char) :
    Passes number folded other left := by
  have hquote : '"' ∉ folded :=
    hfolded.not_mem (by decide) (char_not_mem_chars (by decide) h.before_unquoted)
  have hhash : '#' ∉ folded :=
    hfolded.not_mem (by decide) (char_not_mem_chars (by decide) h.before_plain.2)
  have hscan := h.before_reads
  rw [tokenize_eq_scan hfolded] at hscan
  have hlast : ∃ c ∈ [' ', '\t', ','], folded.getLast? = some c := by
    rcases hfolded.getLast?_cases with hsame | htab
    · rw [hsame, Text.chars, List.getLast?_map]
      rcases h.before_last with hspace | hcomma
      · exact ⟨' ', by decide, by rw [hspace]; rfl⟩
      · exact ⟨',', by decide, by rw [hcomma]; rfl⟩
    · exact ⟨'\t', by decide, htab⟩
  obtain ⟨c, hc, hlast⟩ := hlast
  exact passes_of_separator hscan hquote hhash hlast hc other

/-- The digits of a number in the place of the expression are read as this number. -/
theorem exists_delivers (h : Embeds number before expression behind left) {folded : List Char}
    (hfolded : Folded before.chars folded) {n : Nat} (hn : n ≤ 0x7FFFFFFF) {tokens : List Token}
    (htokens : tokenize (Text.chars (before ++ digitText n ++ behind)) number = .ok tokens) :
    ∃ token right, tokens = left ++ token :: right ∧
      token.Delivers ⟨number, folded.length + 1⟩ n := by
  have hdigits : ∀ d ∈ Decimal.digits n, d.isDigit = true :=
    fun d hd => Decimal.isDigit_of_mem_digits hd
  obtain ⟨more, hline, hmore⟩ := hfolded.exists_word (Decimal.digits_ne_nil n)
    (not_mem_of_class hdigits (by decide)) behind.chars
  have hfits : (Span.number (Decimal.digits n)).Fits more.head? := by
    refine ⟨Decimal.digits_ne_nil n, hdigits, ?_⟩
    intro c hc
    rcases hmore with rfl | hbehind
    · exact h.behind_first c hc
    · rcases hbehind.head?_cases with hsame | htab
      · rw [hsame] at hc
        exact h.behind_first c hc
      · rw [htab] at hc
        cases hc
        decide
  rw [Text.chars_append, Text.chars_append, chars_digitText, List.append_assoc,
    tokenize_eq_scan hline] at htokens
  obtain ⟨right, hright⟩ := (h.passes hfolded _).exists_number hfits htokens
  exact ⟨_, right, hright, delivers_digits hn number _⟩

end Expansion.Embeds

/-- The value of an expression is the value executed.  Where the expression has a value that is
an immediate, the digits of this value stand for it; if the line is then accepted, it has a token
where the expression stood, its first four spaces folded, and this token is decoded to the same
value.  Otherwise the line is refused for an invalid expression. -/
theorem expanded_value_is_executed (interpret : Interpreter) (definitions : Definitions)
    (number : Int) (before expression behind : Text) (left : List Token)
    (h : Embeds number before expression behind left) :
    (∀ n, HasValue interpret definitions number expression n →
      expand (evaluatorAt interpret definitions number) number
          (before ++ written expression ++ behind) = .ok (before ++ digitText n ++ behind) ∧
      ∃ folded rest, Folded before.chars folded ∧
        Folded (Text.chars (before ++ written expression ++ behind))
          (folded ++ '$' :: '(' :: rest) ∧
        ∀ tokens, tokenize (Text.chars (before ++ digitText n ++ behind)) number = .ok tokens →
          ∃ token right, tokens = left ++ token :: right ∧
            token.Delivers ⟨number, folded.length + 1⟩ n) ∧
    ((¬ ∃ n, HasValue interpret definitions number expression n) →
      (∃ fault, expand (evaluatorAt interpret definitions number) number
          (before ++ written expression ++ behind) = .error fault ∧
        fault.InvalidExpression number) ∧
      (Text.size (before ++ written expression ++ behind) < Source.lineLimit →
        ∃ fault, Source.loadLine ⟨true, definitions, interpret⟩ number
            (before ++ written expression ++ behind) = .error (.fault fault) ∧
          fault.InvalidExpression number)) := by
  have hsingle := h.toSingle
  constructor
  · intro n hvalue
    have hexpand := hsingle.expand_iff.mpr ⟨n, hvalue, rfl⟩
    have hfolded := folded_foldIndent before.chars
    obtain ⟨rest, hrest⟩ := exists_folded_written expression behind hfolded
    refine ⟨hexpand, _, rest, hfolded, hrest, ?_⟩
    intro tokens htokens
    exact h.exists_delivers hfolded hvalue.2 htokens
  · intro hnone
    refine ⟨hsingle.exists_fault hnone, ?_⟩
    intro hsize
    exact Source.exists_loadLine_fault hsingle hsize hnone

/-- An instruction behind four spaces, up to its last operand. -/
def indentedAddi : Text := .ofString "    addi s0, zero,"

/-- The tokens of this instruction on line 7. -/
def addiTokens : List Token :=
  [⟨.tab, "", 7, 1⟩, ⟨.instruction, "addi", 7, 2⟩, ⟨.register, "13", 7, 7⟩, ⟨.comma, "", 7, 9⟩,
    ⟨.register, "0", 7, 11⟩, ⟨.comma, "", 7, 15⟩]

/-- An expression for the greatest immediate. -/
def greatestImmediate : Text := .ofString "WORD * 536870911 + 3"

/-- An expression for a greater number, on line 7. -/
def beyondImmediates : Text := .ofString "WORD * 536870911 + LINENO"

theorem indentedAddi_embeds {expression : Text}
    (h : .scalar '$' ∉ expression ∧ .scalar '#' ∉ expression) :
    Embeds 7 indentedAddi expression (.ofString "\t") addiTokens where
  before_plain := by decide +kernel
  expression_plain := h
  behind_plain := by decide +kernel
  before_unquoted := by decide +kernel
  before_last := by decide +kernel
  before_reads := by decide +kernel
  behind_first := by
    intro c hc
    cases hc
    decide

/-- The greatest immediate comes through, in column 16, and what is greater is not loaded. -/
theorem indentedAddi_executed :
    (∃ tokens token right,
      tokenize (Text.chars (indentedAddi ++ digitText 2147483647 ++ Text.ofString "\t")) 7 =
          .ok tokens ∧
        tokens = addiTokens ++ token :: right ∧ token.Delivers ⟨7, 16⟩ 2147483647) ∧
      ∃ fault, Source.loadLine { expressions := true } 7
          (indentedAddi ++ written beyondImmediates ++ Text.ofString "\t") =
            .error (.fault fault) ∧
        fault.InvalidExpression 7 := by
  obtain ⟨hreplaced, _⟩ := expanded_value_is_executed Expression.interpret .empty 7 _
    greatestImmediate _ _ (indentedAddi_embeds (by decide +kernel))
  obtain ⟨_, hrefused⟩ := expanded_value_is_executed Expression.interpret .empty 7 _
    beyondImmediates _ _ (indentedAddi_embeds (by decide +kernel))
  constructor
  · have hvalue : HasValue Expression.interpret .empty 7 greatestImmediate 2147483647 :=
      evaluatorAt_gives_iff.mp (by unfold Evaluator.Gives; decide +kernel)
    obtain ⟨_, folded, _, hfolded, _, hread⟩ := hreplaced 2147483647 hvalue
    have htokens : tokenize (Text.chars
        (indentedAddi ++ digitText 2147483647 ++ Text.ofString "\t")) 7 =
          .ok (addiTokens ++ [⟨.immediate, "2147483647", 7, 16⟩, ⟨.tab, "", 7, 26⟩]) := by
      decide +kernel
    obtain ⟨token, right, hsplit, hdelivers⟩ := hread _ htokens
    have hlength : folded.length = 15 := by
      rw [← hfolded.eq_foldIndent]
      decide +kernel
    rw [hlength] at hdelivers
    exact ⟨_, token, right, htokens, hsplit, hdelivers⟩
  · have hnone : ¬ ∃ n, HasValue Expression.interpret .empty 7 beyondImmediates n := by
      intro hvalue
      obtain ⟨n, hn⟩ := hvalue
      have hgives : evaluatorAt Expression.interpret .empty 7 beyondImmediates = .ok n :=
        evaluatorAt_gives_iff.mpr hn
      have herror : evaluatorAt Expression.interpret .empty 7 beyondImmediates =
          .error (.notImmediate "WORD * 536870911 + LINENO") := by decide +kernel
      rw [herror] at hgives
      cases hgives
    exact (hrefused hnone).2 (by decide +kernel)

end Main

end ToyRisc
