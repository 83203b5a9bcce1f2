/-
What lexing does to a line.  The line is cut into spans that fit, one after the
other; each span is silent, stands for a token, or is refused.  The scanner goes
over the spans up to the first one that is refused, and never looks further than
one character behind it.
-/
import ToyRisc.Proofs.Indent
import ToyRisc.Proofs.Numerals
import ToyRisc.Proofs.Spans
import ToyRisc.Text.Symbol

namespace ToyRisc

/-- Results of lexing can be compared. -/
instance decidableEqExcept {ε α : Type} [DecidableEq ε] [DecidableEq α] :
    DecidableEq (Except ε α)
  | .ok a, .ok b => decidable_of_iff (a = b) (by simp)
  | .error a, .error b => decidable_of_iff (a = b) (by simp)
  | .ok _, .error _ => .isFalse (by simp)
  | .error _, .ok _ => .isFalse (by simp)

namespace Span

/-- Spans that contribute nothing. -/
inductive Silent : Span → Prop
  | blank (c : Char) : Silent (.blank c)
  | comment (body : List Char) : Silent (.comment body)

/-- The kind and the literal a span stands for. -/
inductive Means : Span → Kind → String → Prop
  | tab : Means .tab .tab ""
  | comma : Means .comma .comma ""
  | openParen : Means .openParen .openParen ""
  | closeParen : Means .closeParen .closeParen ""
  | register {letter : Char} {base : Nat} {digits : List Char}
      (hbase : registerBase? letter = some base) (hvalue : Decimal.value digits < 2 ^ 31) :
      Means (.register letter digits) .register
        (Decimal.text (base + Decimal.value digits : Nat))
  | label (chars : List Char) : Means (.word chars true) .label (String.ofList chars)
  | mnemonic {chars : List Char} (hword : lowerWord (String.ofList chars) ∈ mnemonics) :
      Means (.word chars false) .instruction (lowerWord (String.ofList chars))
  | keyword {chars : List Char} {kind : Kind} {literal : String}
      (hword : lowerWord (String.ofList chars) ∉ mnemonics)
      (hkeyword : keyword? (String.ofList chars) = some (kind, literal)) :
      Means (.word chars false) kind literal
  | ident {chars : List Char} (hword : lowerWord (String.ofList chars) ∉ mnemonics)
      (hkeyword : keyword? (String.ofList chars) = none) :
      Means (.word chars false) .ident (String.ofList chars)
  | number (digits : List Char) : Means (.number digits) .immediate (String.ofList digits)
  | directive (name : List Char) : Means (.directive name) .directive (String.ofList name)
  | quoted (body : List Char) (closed : Bool) :
      Means (.quoted body closed) .ident (String.ofList body)

/-- The kinds that reserved words have. -/
theorem kind_of_keyword? {name literal : String} {kind : Kind}
    (h : keyword? name = some (kind, literal)) : kind ∈ [.register, .ret, .ecall, .nop] := by
  unfold keyword? at h
  split at h <;> cases h <;> decide

/-- Spans that are refused, and why. -/
inductive Refused : Span → Cause → Prop
  | illegal (c : Char) : Refused (.illegal c) (.illegalCharacter c)
  | register {digits : List Char} (letter : Char) (hvalue : 2 ^ 31 ≤ Decimal.value digits) :
      Refused (.register letter digits) (.registerName (String.ofList (letter :: digits)))

theorem read_of_silent {span : Span} (h : span.Silent) : span.read = .ok none := by
  cases h <;> rfl

theorem registerBase?_isSome {letter : Char} (h : letter ∈ registerLetters) :
    ∃ base, registerBase? letter = some base :=
  Option.isSome_iff_exists.mp ((isRegisterLetter_iff letter).mpr h)

theorem isMnemonic_iff (name : String) : isMnemonic name = true ↔ lowerWord name ∈ mnemonics := by
  simp [isMnemonic]

theorem read_of_means {span : Span} {next : Option Char} {kind : Kind} {literal : String}
    (hfits : span.Fits next) (h : span.Means kind literal) :
    span.read = .ok (some (kind, literal)) := by
  cases h with
  | register hbase hvalue =>
      obtain ⟨_, hdigits, hrun⟩ := hfits
      simp only [read, registerIndex?_of_digits hbase hdigits hrun.inside, if_pos hvalue]
  | mnemonic hword =>
      simp [read, classify, (isMnemonic_iff _).mpr hword]
  | keyword hword hkeyword =>
      simp [read, classify, isMnemonic_iff, hword, hkeyword]
  | ident hword hkeyword =>
      simp [read, classify, isMnemonic_iff, hword, hkeyword]
  | _ => rfl

theorem read_of_refused {span : Span} {next : Option Char} {cause : Cause}
    (hfits : span.Fits next) (h : span.Refused cause) : span.read = .error cause := by
  cases h with
  | illegal c => rfl
  | register letter hvalue =>
      obtain ⟨hletter, hdigits, hrun⟩ := hfits
      obtain ⟨base, hbase⟩ := registerBase?_isSome hletter
      simp only [read, registerIndex?_of_digits hbase hdigits hrun.inside,
        if_neg (Nat.not_lt.mpr hvalue)]

/-- What a span that fits can be. -/
theorem Fits.silent_or_means_or_refused {span : Span} {next : Option Char}
    (hfits : span.Fits next) :
    span.Silent ∨ (∃ kind literal, span.Means kind literal) ∨ ∃ cause, span.Refused cause := by
  cases span with
  | blank c => exact .inl (.blank c)
  | comment body => exact .inl (.comment body)
  | tab => exact .inr (.inl ⟨_, _, .tab⟩)
  | comma => exact .inr (.inl ⟨_, _, .comma⟩)
  | openParen => exact .inr (.inl ⟨_, _, .openParen⟩)
  | closeParen => exact .inr (.inl ⟨_, _, .closeParen⟩)
  | register letter digits =>
      obtain ⟨base, hbase⟩ := registerBase?_isSome hfits.1
      by_cases hvalue : Decimal.value digits < 2 ^ 31
      · exact .inr (.inl ⟨_, _, .register hbase hvalue⟩)
      · exact .inr (.inr ⟨_, .register letter (Nat.not_lt.mp hvalue)⟩)
  | word chars colon =>
      cases colon with
      | true => exact .inr (.inl ⟨_, _, .label chars⟩)
      | false =>
          by_cases hword : lowerWord (String.ofList chars) ∈ mnemonics
          · exact .inr (.inl ⟨_, _, .mnemonic hword⟩)
          · cases hkeyword : keyword? (String.ofList chars) with
            | none => exact .inr (.inl ⟨_, _, .ident hword hkeyword⟩)
            | some found => exact .inr (.inl ⟨_, _, .keyword hword hkeyword⟩)
  | number digits => exact .inr (.inl ⟨_, _, .number digits⟩)
  | directive name => exact .inr (.inl ⟨_, _, .directive name⟩)
  | quoted body closed => exact .inr (.inl ⟨_, _, .quoted body closed⟩)
  | illegal c => exact .inr (.inr ⟨_, .illegal c⟩)

end Span

/-- `Cuts c spans rest`: the front of `c` consists of these spans, one after the
other, each of which fits before what follows it; `rest` is left over. -/
inductive Cuts : List Char → List Span → List Char → Prop
  | nil (rest : List Char) : Cuts rest [] rest
  | cons {span : Span} {spans : List Span} {remaining rest : List Char}
      (hfits : span.Fits remaining.head?) (htail : Cuts remaining spans rest) :
      Cuts (span.text ++ remaining) (span :: spans) rest

/-- `Images line passed spans tokens`: spans that start behind `passed` characters
of a line stand for these tokens.  None of them is refused. -/
inductive Images (line : Int) : Nat → List Span → List Token → Prop
  | nil (passed : Nat) : Images line passed [] []
  | silent {passed : Nat} {span : Span} {spans : List Span} {tokens : List Token}
      (hsilent : span.Silent) (htail : Images line (passed + span.width) spans tokens) :
      Images line passed (span :: spans) tokens
  | token {passed : Nat} {span : Span} {spans : List Span} {tokens : List Token}
      {kind : Kind} {literal : String} (hmeans : span.Means kind literal)
      (htail : Images line (passed + span.width) spans tokens) :
      Images line passed (span :: spans) (⟨kind, literal, line, passed + 1⟩ :: tokens)

namespace Lexer

variable {line : Int} {passed : Nat} {done : List Token} {span : Span} {remaining : List Char}

/-- The scanner cuts off the span that fits. -/
theorem exists_cut_of_fits (hfits : span.Fits remaining.head?) :
    ∃ c cs, span.text ++ remaining = c :: cs ∧ Span.cut c cs = (span, remaining) := by
  cases htext : span.text with
  | nil => exact absurd htext hfits.text_ne_nil
  | cons c more =>
      refine ⟨c, more ++ remaining, rfl, ?_⟩
      apply Span.cut_eq_of_fits hfits
      rw [htext]
      rfl

theorem scan_silent (hfits : span.Fits remaining.head?) (hsilent : span.Silent) :
    scan line passed done (span.text ++ remaining) =
      scan line (passed + span.width) done remaining := by
  obtain ⟨c, cs, htext, hcut⟩ := exists_cut_of_fits hfits
  rw [htext, scan, hcut]
  simp only [Span.read_of_silent hsilent]

theorem scan_token {kind : Kind} {literal : String} (hfits : span.Fits remaining.head?)
    (hmeans : span.Means kind literal) :
    scan line passed done (span.text ++ remaining) =
      scan line (passed + span.width) (⟨kind, literal, line, passed + 1⟩ :: done) remaining := by
  obtain ⟨c, cs, htext, hcut⟩ := exists_cut_of_fits hfits
  rw [htext, scan, hcut]
  simp only [Span.read_of_means hfits hmeans]

theorem scan_refused {cause : Cause} (hfits : span.Fits remaining.head?)
    (hrefused : span.Refused cause) :
    (scan line passed done (span.text ++ remaining)).1 =
      .error ⟨cause, ⟨line, passed + 1⟩⟩ := by
  obtain ⟨c, cs, htext, hcut⟩ := exists_cut_of_fits hfits
  rw [htext, scan, hcut]
  simp only [Span.read_of_refused hfits hrefused]

end Lexer

/-- The characters of some spans. -/
def textOf (spans : List Span) : List Char := spans.flatMap Span.text

namespace Cuts

variable {c rest : List Char} {spans : List Span}

theorem text_append (h : Cuts c spans rest) : textOf spans ++ rest = c := by
  induction h with
  | nil rest => rfl
  | cons hfits htail ih =>
      rw [← ih, textOf, List.flatMap_cons, List.append_assoc]
      rfl

/-- The scanner goes over spans that stand for tokens. -/
theorem scan (h : Cuts c spans rest) {line : Int} {passed : Nat} {tokens : List Token}
    (himages : Images line passed spans tokens) (done : List Token) :
    Lexer.scan line passed done c =
      Lexer.scan line (passed + (textOf spans).length) (tokens.reverse ++ done) rest := by
  induction h generalizing passed tokens done with
  | nil rest =>
      cases himages
      rfl
  | @cons span spans remaining rest hfits htail ih =>
      have hlength : (textOf (span :: spans)).length = span.width + (textOf spans).length := by
        simp [textOf, Span.width]
      cases himages with
      | silent hsilent himages =>
          rw [Lexer.scan_silent hfits hsilent, ih himages, hlength, Nat.add_assoc]
      | token hmeans himages =>
          rw [Lexer.scan_token hfits hmeans, ih himages, hlength, Nat.add_assoc,
            List.reverse_cons, List.append_assoc]
          rfl

end Cuts

/-- `Offends chars cause decided`: what stands at the front of `chars` is refused,
and the first `decided` characters settle that: the illegal character alone, or
the register with the character behind its digits. -/
inductive Offends : List Char → Cause → Nat → Prop
  | foreign {c : Char} (rest : List Char) (hc : IsForeign c) :
      Offends (c :: rest) (.illegalCharacter c) 1
  | register {letter : Char} {digits : List Char} (rest : List Char)
      (hletter : letter ∈ registerLetters) (hdigits : Maximal Char.isDigit digits rest.head?)
      (hvalue : 2 ^ 31 ≤ Decimal.value digits) :
      Offends (letter :: (digits ++ rest)) (.registerName (String.ofList (letter :: digits)))
        (digits.length + 2)

namespace Offends

variable {chars : List Char} {cause : Cause} {decided : Nat}

theorem of_refused {span : Span} {remaining : List Char} (hfits : span.Fits remaining.head?)
    (hrefused : span.Refused cause) :
    ∃ decided, Offends (span.text ++ remaining) cause decided := by
  cases hrefused with
  | illegal c => exact ⟨_, .foreign remaining hfits⟩
  | register letter hvalue =>
      obtain ⟨hletter, _, hdigits⟩ := hfits
      exact ⟨_, .register remaining hletter hdigits hvalue⟩

theorem exists_refused (h : Offends chars cause decided) :
    ∃ span remaining, chars = Span.text span ++ remaining ∧ span.Fits remaining.head? ∧
      span.Refused cause := by
  cases h with
  | @foreign c rest hc => exact ⟨.illegal c, rest, rfl, hc, .illegal c⟩
  | @register letter digits rest hletter hdigits hvalue =>
      have hne : digits ≠ [] := by
        rintro rfl
        exact absurd hvalue (by decide)
      exact ⟨.register letter digits, rest, rfl, ⟨hletter, hne, hdigits⟩,
        .register letter hvalue⟩

theorem scan (h : Offends chars cause decided) (line : Int) (passed : Nat)
    (done : List Token) :
    (Lexer.scan line passed done chars).1 = .error ⟨cause, ⟨line, passed + 1⟩⟩ := by
  obtain ⟨span, remaining, rfl, hfits, hrefused⟩ := h.exists_refused
  exact Lexer.scan_refused hfits hrefused

end Offends

/-- Every line is cut into spans that stand for tokens, up to its end or to
something that offends. -/
theorem exists_cuts (line : Int) (c : List Char) (passed : Nat) :
    ∃ spans rest tokens, Cuts c spans rest ∧ Images line passed spans tokens ∧
      (rest = [] ∨ ∃ cause decided, Offends rest cause decided) := by
  -- each cut takes at least one character, so what is left is a shorter line
  induction hlength : c.length using Nat.strongRecOn generalizing c passed with
  | ind n ih =>
      cases c with
      | nil => exact ⟨[], [], [], .nil [], .nil passed, .inl rfl⟩
      | cons d ds =>
          have hfits := Span.cut_fits d ds
          have htext := Span.cut_text d ds
          have hshorter := Span.cut_rest_length d ds
          generalize (Span.cut d ds).1 = span at hfits htext
          generalize (Span.cut d ds).2 = remaining at hfits htext hshorter
          obtain ⟨spans, rest, tokens, hcuts, himages, hend⟩ :=
            ih remaining.length (by omega) remaining (passed + span.width) rfl
          rw [← htext]
          rcases hfits.silent_or_means_or_refused with
            hsilent | ⟨kind, literal, hmeans⟩ | ⟨cause, hrefused⟩
          · exact ⟨_, rest, _, .cons hfits hcuts, .silent hsilent himages, hend⟩
          · exact ⟨_, rest, _, .cons hfits hcuts, .token hmeans himages, hend⟩
          · obtain ⟨decided, hoffends⟩ := Offends.of_refused hfits hrefused
            exact ⟨[], _, [], .nil _, .nil passed, .inr ⟨cause, decided, hoffends⟩⟩

theorem Cuts.scan_nil {c : List Char} {spans : List Span} {line : Int} {tokens : List Token}
    (hcuts : Cuts c spans []) (himages : Images line 0 spans tokens) :
    (Lexer.scan line 0 [] c).1 = .ok tokens := by
  rw [hcuts.scan himages, Lexer.scan]
  simp

theorem Cuts.scan_offends {c rest : List Char} {spans : List Span} {line : Int}
    {tokens : List Token} {cause : Cause} {decided : Nat} (hcuts : Cuts c spans rest)
    (himages : Images line 0 spans tokens) (hoffends : Offends rest cause decided) :
    (Lexer.scan line 0 [] c).1 = .error ⟨cause, ⟨line, (textOf spans).length + 1⟩⟩ := by
  rw [hcuts.scan himages, hoffends.scan, Nat.zero_add]

theorem scan_eq_ok_iff (line : Int) (c : List Char) (tokens : List Token) :
    (Lexer.scan line 0 [] c).1 = .ok tokens ↔
      ∃ spans, Cuts c spans [] ∧ Images line 0 spans tokens := by
  constructor
  · intro hscan
    obtain ⟨spans, rest, found, hcuts, himages, hend⟩ := exists_cuts line c 0
    rcases hend with rfl | ⟨cause, decided, hoffends⟩
    · rw [hcuts.scan_nil himages] at hscan
      cases hscan
      exact ⟨spans, hcuts, himages⟩
    · rw [hcuts.scan_offends himages hoffends] at hscan
      cases hscan
  · rintro ⟨spans, hcuts, himages⟩
    exact hcuts.scan_nil himages

/-- Lexing accounts for every character: a line has these tokens exactly where, its
first four spaces folded, it is cut without a gap into spans that stand for them. -/
theorem tokenize_eq_ok_iff (text : Text) (line : Int) (tokens : List Token) :
    tokenize text.chars line = .ok tokens ↔
      ∃ c spans, Folded text.chars c ∧ Cuts c spans [] ∧ Images line 0 spans tokens := by
  have hscan := scan_eq_ok_iff line (foldIndent [] text.chars) tokens
  constructor
  · intro h
    obtain ⟨spans, hcuts, himages⟩ := hscan.mp h
    exact ⟨_, spans, folded_foldIndent text.chars, hcuts, himages⟩
  · rintro ⟨c, spans, hfolded, hcuts, himages⟩
    apply hscan.mpr
    rw [hfolded.eq_foldIndent]
    exact ⟨spans, hcuts, himages⟩

end ToyRisc
