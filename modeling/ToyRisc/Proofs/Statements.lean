/-
What the row of a line holds.  Blanks and comments aside, a line is a sequence of lexemes,
and each of them stands for one token of its row; the tabs in front are the marks that a
program leaves out.
-/
import Mathlib.Data.List.Forall2
import ToyRisc.Proofs.CommentLines
import ToyRisc.Proofs.Labels

namespace ToyRisc

/-- Whether a span stands for something. -/
def Span.isLexeme : Span → Bool
  | blank _ => false
  | comment _ => false
  | _ => true

/-- The lexemes of some spans from the first one on that is no tab. -/
def statement (spans : List Span) : List Span :=
  (spans.filter Span.isLexeme).dropWhile (· == .tab)

/-- The spans that a line is cut into. -/
def spansOf : List Char → List Span
  | [] => []
  | c :: cs => (Span.cut c cs).1 :: spansOf (Span.cut c cs).2
termination_by cs => cs.length
decreasing_by
  exact Span.cut_rest_length c cs

/-- What a token has of the span it stands for. -/
def Span.StandsAs (span : Span) (token : Token) : Prop := span.Means token.kind token.literal

namespace Span

theorem isLexeme_of_silent {span : Span} (h : span.Silent) : span.isLexeme = false := by
  cases h <;> rfl

theorem isLexeme_of_means {span : Span} {kind : Kind} {literal : String}
    (h : span.Means kind literal) : span.isLexeme = true := by
  cases h <;> rfl

/-- Of the spans that stand for a token, a tab is the one that stands for a mark. -/
theorem StandsAs.tab_iff {span : Span} {token : Token} (h : span.StandsAs token) :
    (span == .tab) = Row.isMark token := by
  rw [Bool.eq_iff_iff, beq_iff_eq, Row.isMark, beq_iff_eq]
  constructor
  · rintro rfl
    have hmeans : Span.tab.Means token.kind token.literal := h
    generalize token.kind = kind at hmeans ⊢
    generalize token.literal = literal at hmeans
    cases hmeans
    rfl
  · intro hkind
    rw [StandsAs, hkind] at h
    exact h.eq_tab

end Span

section Lexemes

variable {line : Int} {passed : Nat} {spans : List Span} {tokens : List Token}

theorem Images.lexemes (h : Images line passed spans tokens) :
    List.Forall₂ Span.StandsAs (spans.filter Span.isLexeme) tokens := by
  induction h with
  | nil passed => exact .nil
  | silent hsilent htail ih =>
      rw [List.filter_cons_of_neg (by simp [Span.isLexeme_of_silent hsilent])]
      exact ih
  | token hmeans htail ih =>
      rw [List.filter_cons_of_pos (Span.isLexeme_of_means hmeans)]
      exact .cons hmeans ih

/-- Tabs in front are left out of the one as marks in front are left out of the other. -/
theorem forall₂_dropWhile {left : List Span} (h : List.Forall₂ Span.StandsAs left tokens) :
    List.Forall₂ Span.StandsAs (left.dropWhile (· == .tab)) (tokens.dropWhile Row.isMark) := by
  induction h with
  | nil => exact .nil
  | @cons span token left tokens hfirst htail ih =>
      rw [List.dropWhile_cons, List.dropWhile_cons, ← hfirst.tab_iff]
      split
      · exact ih
      · exact .cons hfirst htail

/-- A row has one token for each lexeme of its line, marks and tabs in front left aside. -/
theorem Images.statement (h : Images line passed spans tokens) :
    List.Forall₂ Span.StandsAs (statement spans) (Row.ofTokens tokens).body :=
  forall₂_dropWhile h.lexemes

theorem cuts_spansOf (c : List Char) : Cuts c (spansOf c) [] := by
  fun_induction spansOf c with
  | case1 => exact .nil []
  | case2 c cs ih =>
      rw [← Span.cut_text c cs]
      exact .cons (Span.cut_fits c cs) ih

/-- A line is cut in one way only. -/
theorem Cuts.unique {c : List Char} {others : List Span} (h : Cuts c spans [])
    (hother : Cuts c others []) : spans = others := by
  generalize hrest : ([] : List Char) = rest at h
  induction h generalizing others with
  | nil rest =>
      subst hrest
      generalize hnil : ([] : List Char) = c at hother
      cases hother with
      | nil => rfl
      | cons hfits htail =>
          exact absurd (List.append_eq_nil_iff.mp hnil.symm).1 hfits.text_ne_nil
  | @cons span spans remaining rest hfits htail ih =>
      generalize hc : span.text ++ remaining = c at hother
      cases hother with
      | nil => exact absurd (List.append_eq_nil_iff.mp hc).1 hfits.text_ne_nil
      | cons hother htailOther =>
          obtain ⟨rfl, rfl⟩ := Span.eq_of_fits hfits hother hc
          rw [ih htailOther hrest]

theorem cuts_tabs (n : Nat) {c rest : List Char} (h : Cuts c spans rest) :
    Cuts (List.replicate n '\t' ++ c) (List.replicate n .tab ++ spans) rest := by
  induction n with
  | zero => exact h
  | succ n ih =>
      have htab : Span.tab.Fits (List.replicate n '\t' ++ c).head? := trivial
      exact .cons htab ih

theorem statement_tabs (n : Nat) (spans : List Span) :
    ToyRisc.statement (List.replicate n .tab ++ spans) = ToyRisc.statement spans := by
  induction n with
  | zero => rfl
  | succ n ih => exact ih

theorem Cuts.fits_of_mem {c rest : List Char} (h : Cuts c spans rest) {span : Span}
    (hspan : span ∈ spans) : ∃ next, span.Fits next ∧ ∀ d ∈ span.text, d ∈ c := by
  induction h with
  | nil rest => cases hspan
  | @cons first spans remaining rest hfits htail ih =>
      rcases List.mem_cons.mp hspan with rfl | hmore
      · exact ⟨_, hfits, fun d hd => List.mem_append_left _ hd⟩
      · obtain ⟨next, hnext, htext⟩ := ih hmore
        exact ⟨next, hnext, fun d hd => List.mem_append_right _ (htext d hd)⟩

theorem Cuts.exists_wordChar {c rest word : List Char} {colon : Bool} (h : Cuts c spans rest)
    (hword : .word word colon ∈ spans) : ∃ d ∈ c, isWordChar d = true := by
  obtain ⟨next, hfits, htext⟩ := h.fits_of_mem hword
  have hfirst := List.head_mem hfits.word_ne_nil
  refine ⟨_, htext _ ?_, hfits.isWordChar_of_word _ hfirst⟩
  cases colon with
  | true => exact List.mem_append_left _ hfirst
  | false => exact hfirst

/-- Where a line is accepted, the spans it is cut into stand for its tokens. -/
theorem Cuts.images {c : List Char} (h : Cuts c spans [])
    (hscan : (Lexer.scan line 0 [] c).1 = .ok tokens) : Images line 0 spans tokens := by
  obtain ⟨others, hcuts, himages⟩ := (scan_eq_ok_iff line c tokens).mp hscan
  rw [h.unique hcuts]
  exact himages

end Lexemes

/-- Only a word before a colon stands for a label. -/
theorem Span.Means.eq_label {span : Span} {literal : String} (h : span.Means .label literal) :
    ∃ chars, span = .word chars true ∧ literal = String.ofList chars := by
  cases h with
  | label chars => exact ⟨chars, rfl, rfl⟩
  | keyword hword hkeyword => exact absurd (kind_of_keyword? hkeyword) (by decide)

theorem Span.Means.of_label {chars : List Char} {kind : Kind} {literal : String}
    (h : (Span.word chars true).Means kind literal) :
    kind = .label ∧ literal = String.ofList chars := by
  cases h
  exact ⟨rfl, rfl⟩

/-- A row declares a label exactly where its line opens with the word of that label and a
colon. -/
theorem Images.declared?_iff {line : Int} {passed : Nat} {spans : List Span} {tokens : List Token}
    (h : Images line passed spans tokens) (word : List Char) :
    (Row.ofTokens tokens).declared? = some (String.ofList word) ↔
      ∃ more, ToyRisc.statement spans = .word word true :: more := by
  have hstatement := h.statement
  rw [Row.declared?]
  cases hbody : (Row.ofTokens tokens).body with
  | nil =>
      rw [hbody, List.forall₂_nil_right_iff] at hstatement
      simp [hstatement]
  | cons first rest =>
      rw [hbody] at hstatement
      obtain ⟨span, more, hfirst, _, hspans⟩ := List.forall₂_cons_right_iff.mp hstatement
      rw [hspans]
      constructor
      · intro hdeclared
        have hkind : first.kind = .label := by
          by_contra hkind
          simp [hkind] at hdeclared
        rw [Span.StandsAs, hkind] at hfirst
        obtain ⟨chars, rfl, hliteral⟩ := hfirst.eq_label
        have hname : String.ofList chars = String.ofList word := by
          simpa [hkind, hliteral] using hdeclared
        rw [String.ofList_injective hname]
        exact ⟨more, rfl⟩
      · rintro ⟨others, hsame⟩
        cases hsame
        obtain ⟨hkind, hliteral⟩ := hfirst.of_label
        simp [hkind, hliteral]

namespace Source

/-- `LineReads settings text i spans`: line `i` of the text is cut into these spans, when its
expressions are expanded and its first four spaces folded. -/
def LineReads (settings : LoadSettings) (text : Text) (i : Nat) (spans : List Span) : Prop :=
  ∃ (line prepared : Text) (c : List Char), (lines text)[i]? = some line ∧
    prepare settings (1 + i) (dropReturn line) = .ok prepared ∧ Folded prepared.chars c ∧
      Cuts c spans []

/-- `RowReads settings text n i row spans`: row `n` of the loaded text is the row of line `i`,
and that line is cut into these spans. -/
structure RowReads (settings : LoadSettings) (text : Text) (n i : Nat) (row : List Token)
    (spans : List Span) : Prop where
  kept : (load settings text).rows[n]? = some row
  line : LineReads settings text i spans
  images : Images (1 + i) 0 spans row

variable {settings : LoadSettings} {text : Text}

theorem rowReads_of_tokenize {n i : Nat} {line prepared : Text} {row : List Token}
    (hkept : (load settings text).rows[n]? = some row) (hline : (lines text)[i]? = some line)
    (hprepare : prepare settings (1 + i) (dropReturn line) = .ok prepared)
    (htokens : tokenize prepared.chars (1 + i) = .ok row) :
    RowReads settings text n i row (spansOf (foldIndent [] prepared.chars)) where
  kept := hkept
  line := ⟨line, prepared, _, hline, hprepare, folded_foldIndent _, cuts_spansOf _⟩
  images := (cuts_spansOf _).images htokens

/-- Every row is that of a line. -/
theorem exists_rowReads {n : Nat} {row : List Token}
    (h : (load settings text).rows[n]? = some row) :
    ∃ i spans, RowReads settings text n i row spans := by
  obtain ⟨i, line, hi, hkeeps, hload⟩ := exists_line_of_mem_load (List.mem_of_getElem? h)
  rcases loadLine_cases hload with ⟨_, rfl⟩ | ⟨_, prepared, hprepare, htokens⟩
  · cases hkeeps
  · exact ⟨i, _, rowReads_of_tokenize h hi hprepare htokens⟩

theorem not_isBlankChar_of_isWordChar {c : Char} (h : isWordChar c = true) :
    isBlankChar c = false := by
  simp only [isWordChar, Char.le_def, UInt32.le_iff_toNat_le, Bool.or_eq_true,
    Bool.and_eq_true, decide_eq_true_eq, beq_iff_eq] at h
  have hrange : 0x41 ≤ c.toNat ∧ c.toNat ≤ 0x7A := by
    rcases h with (⟨hlow, hhigh⟩ | ⟨hlow, hhigh⟩) | rfl
    · exact ⟨Nat.le_trans (by decide) hlow, hhigh⟩
    · exact ⟨hlow, Nat.le_trans hhigh (by decide)⟩
    · decide
  simp only [isBlankChar, Bool.or_eq_false_iff, Bool.and_eq_false_iff, decide_eq_false_iff_not,
    beq_eq_false_iff_ne]
  omega

/-- A line with a word in it is not blank. -/
theorem not_isBlank_of_word {number : Int} {line prepared : Text} {c : List Char}
    {spans : List Span} {word : List Char} {colon : Bool}
    (hprepare : prepare settings number line = .ok prepared) (hfolded : Folded prepared.chars c)
    (hcuts : Cuts c spans []) (hword : .word word colon ∈ spans) : line.isBlank = false := by
  obtain ⟨d, hd, hclass⟩ := hcuts.exists_wordChar hword
  by_contra hblank
  have hall : ∀ b ∈ line.chars, isBlankChar b = true := by
    simpa [Text.isBlank] using hblank
  have hdollar : '$' ∉ front line.chars := by
    intro hmem
    exact absurd (hall '$' ((List.takeWhile_sublist _).subset hmem)) (by decide)
  obtain rfl := prepare_eq_of_not_mem hprepare hdollar
  have hblankChar := not_isBlankChar_of_isWordChar hclass
  rcases hfolded.mem_of_mem hd with hmem | rfl
  · rw [hall d hmem] at hblankChar
    cases hblankChar
  · cases hclass

theorem keeps_of_body {row : List Token} (h : (Row.ofTokens row).body ≠ []) :
    keeps row = true := by
  cases row with
  | nil => exact absurd rfl h
  | cons first rest =>
      cases rest with
      | nil =>
          by_contra hdropped
          have hmark : Row.isMark first = true := by
            simpa [keeps, Row.isMark] using hdropped
          exact h (List.dropWhile_cons_of_pos hmark)
      | cons second rest => rfl

/-- In a text that loads, every line that opens with a word has a row. -/
theorem exists_rowReads_of_word (hload : (load settings text).error = none) {i : Nat}
    {spans more : List Span} {word : List Char} {colon : Bool}
    (hline : LineReads settings text i spans)
    (hopens : statement spans = .word word colon :: more) :
    ∃ n row, RowReads settings text n i row spans := by
  obtain ⟨line, prepared, c, hi, hprepare, hfolded, hcuts⟩ := hline
  obtain ⟨row, hrow, hkept⟩ := (loads_of_load hload).exists_row hi
  have hword : .word word colon ∈ spans := by
    have hmem : .word word colon ∈ statement spans := by
      rw [hopens]
      exact List.mem_cons_self
    exact List.mem_of_mem_filter ((List.dropWhile_sublist _).subset hmem)
  have hfilled := not_isBlank_of_word hprepare hfolded hcuts hword
  rcases loadLine_cases hrow with ⟨hblank, _⟩ | ⟨_, found, hfound, htokens⟩
  · rw [hfilled] at hblank
    cases hblank
  · obtain rfl := Except.ok.inj (hprepare.symm.trans hfound)
    have himages : Images (1 + i) 0 spans row := by
      apply hcuts.images
      rw [← hfolded.eq_foldIndent]
      exact htokens
    have hbody : (Row.ofTokens row).body ≠ [] := by
      have hstatement := himages.statement
      rw [hopens] at hstatement
      rintro hnil
      rw [hnil] at hstatement
      cases hstatement
    obtain ⟨n, hn⟩ := List.getElem?_of_mem (hkept (keeps_of_body hbody))
    exact ⟨n, row, hn, ⟨line, prepared, c, hi, hprepare, hfolded, hcuts⟩, himages⟩

end Source

end ToyRisc
