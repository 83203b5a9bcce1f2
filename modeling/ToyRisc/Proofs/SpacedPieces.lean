/-
Lines in pieces.  A space between two pieces of a line keeps them apart: the left piece is
read as if the line ended with it, and the right piece as if the line began with it, only
further to the right.  Where the left piece holds no quotation mark and no hash, nothing in
it is still open at the space.
-/
import ToyRisc.Proofs.Bytes
import ToyRisc.Proofs.LexingFaults
import ToyRisc.Proofs.Loading

namespace ToyRisc

/-- The token so many columns further to the right. -/
def Token.shifted (n : Nat) (token : Token) : Token := { token with col := token.col + n }

/-- The fault so many columns further to the right. -/
def Fault.shifted (n : Nat) (fault : Fault) : Fault :=
  { fault with position := { fault.position with col := fault.position.col + n } }

namespace Span

/-- Spans that go on up to the end of the line, whatever stands there. -/
inductive Open : Span → Prop
  | comment (body : List Char) : Open (.comment body)
  | quoted (body : List Char) : Open (.quoted body false)

/-- A span that is not open fits in front of a blank. -/
theorem Fits.before_blank {span : Span} {next : Option Char} (h : span.Fits next)
    (hclosed : ¬ span.Open) {c : Char} (hc : c = ' ' ∨ c = '\t') : span.Fits (some c) := by
  have hword : isWordChar c = false := by rcases hc with rfl | rfl <;> decide
  have hdigit : c.isDigit = false := by rcases hc with rfl | rfl <;> decide
  have hcolon : c ≠ ':' := by rcases hc with rfl | rfl <;> decide
  have hrun : ∀ {p : Char → Bool} {run : List Char}, Maximal p run next → p c = false →
      Maximal p run (some c) := by
    intro p run hmaximal hstop
    refine ⟨hmaximal.inside, ?_⟩
    rintro d ⟨⟩
    exact hstop
  cases span with
  | comment body => exact absurd (.comment body) hclosed
  | register letter digits => exact ⟨h.1, h.2.1, hrun h.2.2 hdigit⟩
  | word chars colon =>
      cases colon with
      | true => exact h
      | false =>
          obtain ⟨hchars, hmaximal, _, _⟩ := h
          refine ⟨hchars, hrun hmaximal hword, by simpa using hcolon, ?_⟩
          rintro letter _ _ d ⟨⟩
          exact hdigit
  | number digits => exact ⟨h.1, hrun h.2 hdigit⟩
  | directive name => exact hrun h hword
  | quoted body closed =>
      cases closed with
      | true => exact h
      | false => exact absurd (.quoted body) hclosed
  | _ => exact h

theorem not_open_of_not_mem {span : Span} (hquote : '"' ∉ span.text) (hhash : '#' ∉ span.text) :
    ¬ span.Open := by
  rintro (⟨body⟩ | ⟨body⟩)
  · exact hhash List.mem_cons_self
  · exact hquote List.mem_cons_self

end Span

section Scanning

variable {line : Int} {passed : Nat} {spans : List Span} {tokens : List Token}

theorem Images.shifted (h : Images line passed spans tokens) (n : Nat) :
    Images line (passed + n) spans (tokens.map (Token.shifted n)) := by
  induction h with
  | nil passed => exact .nil _
  | @silent passed span spans tokens hsilent htail ih =>
      rw [Nat.add_right_comm] at ih
      exact .silent hsilent ih
  | @token passed span spans tokens kind literal hmeans htail ih =>
      rw [Nat.add_right_comm] at ih
      have hfirst : Token.shifted n ⟨kind, literal, line, passed + 1⟩ =
          ⟨kind, literal, line, (passed + n : Nat) + 1⟩ := by
        simp [Token.shifted]
        omega
      rw [List.map_cons, hfirst]
      exact .token hmeans ih

/-- What a scan finds behind `n` characters and some tokens is what it finds at the start of
a line, that much further to the right. -/
theorem Lexer.scan_shifted (line : Int) (n : Nat) (done : List Token) (c : List Char) :
    (Lexer.scan line n done c).1 =
      match (Lexer.scan line 0 [] c).1 with
      | .error fault => .error (fault.shifted n)
      | .ok tokens => .ok (done.reverse ++ tokens.map (Token.shifted n)) := by
  obtain ⟨spans, rest, tokens, hcuts, himages, hend⟩ := exists_cuts line c 0
  have hshifted := himages.shifted n
  rw [Nat.zero_add] at hshifted
  rcases hend with rfl | ⟨cause, decided, hoffends⟩
  · rw [hcuts.scan_nil himages, hcuts.scan hshifted, Lexer.scan]
    simp
  · rw [hcuts.scan_offends himages hoffends, hcuts.scan hshifted, hoffends.scan]
    simp only [Fault.shifted, Except.error.injEq, Fault.mk.injEq, Position.mk.injEq, true_and]
    omega

theorem mem_textOf {span : Span} {c : Char} (hspan : span ∈ spans) (hc : c ∈ span.text) :
    c ∈ textOf spans :=
  List.mem_flatMap.mpr ⟨span, hspan, hc⟩

/-- What is read up to the end of a line is read in the same way in front of a blank. -/
theorem Cuts.before_blank {c rest other : List Char} (h : Cuts c spans rest)
    (hquote : '"' ∉ textOf spans) (hhash : '#' ∉ textOf spans) :
    Cuts (textOf spans ++ ' ' :: other) spans (' ' :: other) := by
  apply h.of_last_fits
  intro span hlast hfits
  have hspan : span ∈ spans := List.mem_of_getLast? hlast
  exact hfits.before_blank (Span.not_open_of_not_mem (fun hmem => hquote (mem_textOf hspan hmem))
    (fun hmem => hhash (mem_textOf hspan hmem))) (.inl rfl)

/-- What offends at the end of a line offends in front of a space. -/
theorem Offends.before_space {chars : List Char} {cause : Cause} {decided : Nat}
    (h : Offends chars cause decided) (other : List Char) :
    Offends (chars ++ ' ' :: other) cause decided := by
  cases h with
  | foreign rest hc => exact .foreign _ hc
  | @register letter digits rest hletter hdigits hvalue =>
      rw [List.cons_append, List.append_assoc]
      apply Offends.register _ hletter _ hvalue
      refine ⟨hdigits.inside, ?_⟩
      intro d hd
      cases rest with
      | nil =>
          cases hd
          decide
      | cons first rest =>
          cases hd
          exact hdigits.boundary d rfl

end Scanning

/-- A line of two pieces with a space between them, in characters. -/
theorem scan_space_append (line : Int) {left : List Char} (right : List Char)
    (hquote : '"' ∉ left) (hhash : '#' ∉ left) :
    (Lexer.scan line 0 [] (left ++ ' ' :: right)).1 =
      match (Lexer.scan line 0 [] left).1, (Lexer.scan line 0 [] right).1 with
      | .error fault, _ => .error fault
      | .ok _, .error fault => .error (fault.shifted (left.length + 1))
      | .ok tokens, .ok more =>
          .ok (tokens ++ more.map (Token.shifted (left.length + 1))) := by
  obtain ⟨spans, rest, tokens, hcuts, himages, hend⟩ := exists_cuts line left 0
  have htext := hcuts.text_append
  rcases hend with rfl | ⟨cause, decided, hoffends⟩
  · rw [List.append_nil] at htext
    rw [← htext] at hquote hhash
    have hbefore : Cuts (textOf spans ++ ' ' :: right) spans (' ' :: right) :=
      hcuts.before_blank hquote hhash
    have hblank : (Span.blank ' ').Fits right.head? := .inl rfl
    have hspace : Lexer.scan line (0 + (textOf spans).length) (tokens.reverse ++ [])
        (' ' :: right) = Lexer.scan line (0 + (textOf spans).length + 1) (tokens.reverse ++ [])
          right := Lexer.scan_silent hblank (.blank ' ')
    have hwhole := hbefore.scan himages []
    rw [hspace, htext] at hwhole
    rw [hcuts.scan_nil himages, hwhole, Lexer.scan_shifted]
    cases (Lexer.scan line 0 [] right).1 with
    | error fault => simp
    | ok more => simp
  · have hother : (rest ++ ' ' :: right).head? = rest.head? := by
      rw [List.head?_append, List.head?_eq_some_head hoffends.chars_ne_nil]
      rfl
    have hbefore := hcuts.transfer (.inl hother)
    rw [← List.append_assoc, htext] at hbefore
    rw [hcuts.scan_offends himages hoffends,
      hbefore.scan_offends himages (hoffends.before_space right)]

/-- Four spaces in the text are four spaces in its bytes. -/
theorem not_fourSpaces_of_bytes {bytes : List UInt8}
    (h : ¬ [0x20, 0x20, 0x20, 0x20] <:+: bytes) :
    ¬ fourSpaces <:+: (Text.ofBytes bytes).chars := by
  intro hfound
  obtain ⟨found, ⟨left, right, htext⟩, hfour⟩ := List.infix_map_iff.mp hfound
  have hascii : found = Text.ofBytes [0x20, 0x20, 0x20, 0x20] := by
    have hspace : ∀ s ∈ found, s = .scalar ' ' := by
      intro s hs
      have hmem : s.char ∈ fourSpaces := by
        rw [hfour]
        exact List.mem_map_of_mem hs
      exact Symbol.eq_scalar_of_char (by simpa [fourSpaces] using hmem) (by decide)
    have hlength : found.length = 4 := by
      have hmap := congrArg List.length hfour
      simpa [fourSpaces] using hmap.symm
    rw [List.eq_replicate_of_mem hspace, hlength]
    decide +kernel
  rw [hascii, List.append_assoc] at htext
  obtain ⟨front, back, rfl, _⟩ :=
    Text.exists_bytes_of_ofBytes_append (by decide +kernel) (by decide) htext.symm
  exact h ⟨front, back, by simp⟩

theorem tokenize_eq_scan {chars folded : List Char} (h : Folded chars folded) (line : Int) :
    tokenize chars line = (Lexer.scan line 0 [] folded).1 := by
  rw [tokenize, Lexer.lex, Lexer.ofChars, h.eq_foldIndent]

/-- Lexing takes a line apart at a space.  Where the left piece has no quotation mark and no
hash in it, and no four spaces stand in a row, the first fault of the line is that of the left
piece, and then that of the right piece; without a fault, the tokens are those of the left
piece and then those of the right piece.  What is from the right piece stands as many columns
further to the right as there are characters in front of it. -/
theorem tokenize_space_append (left right : List UInt8) (line : Int) (hquote : 0x22 ∉ left)
    (hhash : 0x23 ∉ left)
    (hspaces : ¬ [0x20, 0x20, 0x20, 0x20] <:+: left ++ 0x20 :: right) :
    tokenize (Text.ofBytes (left ++ 0x20 :: right)).chars line =
      match tokenize (Text.ofBytes left).chars line,
          tokenize (Text.ofBytes right).chars line with
      | .error fault, _ => .error fault
      | .ok _, .error fault => .error (fault.shifted ((Text.ofBytes left).length + 1))
      | .ok tokens, .ok more =>
          .ok (tokens ++ more.map (Token.shifted ((Text.ofBytes left).length + 1))) := by
  have hleft : ¬ [0x20, 0x20, 0x20, 0x20] <:+: left :=
    fun hfound => hspaces (hfound.trans (List.prefix_append _ _).isInfix)
  have hright : ¬ [0x20, 0x20, 0x20, 0x20] <:+: right :=
    fun hfound => hspaces (hfound.trans ⟨left ++ [0x20], [], by simp⟩)
  rw [tokenize_eq_scan (.none (not_fourSpaces_of_bytes hspaces)),
    tokenize_eq_scan (.none (not_fourSpaces_of_bytes hleft)),
    tokenize_eq_scan (.none (not_fourSpaces_of_bytes hright))]
  have hchars : (Text.ofBytes (left ++ 0x20 :: right)).chars =
      (Text.ofBytes left).chars ++ ' ' :: (Text.ofBytes right).chars := by
    rw [Text.ofBytes_append (by decide), Text.chars_append]
    rfl
  have hlength : (Text.ofBytes left).chars.length = (Text.ofBytes left).length :=
    List.length_map _
  rw [hchars, ← hlength]
  exact scan_space_append line _
    (char_not_mem_chars (by decide) (Text.scalar_not_mem_ofBytes (b := 0x22) (by decide) hquote))
    (char_not_mem_chars (by decide) (Text.scalar_not_mem_ofBytes (b := 0x23) (by decide) hhash))

/-- The bytes of `add s`. -/
def loneLetter : List UInt8 := [97, 100, 100, 32, 115]

/-- The bytes of `1 `, and the lead byte of a character that is not there. -/
def cutShort : List UInt8 := [49, 32, 0xC3]

/-- A register letter at the end of a piece stays a word, whatever digit the next piece begins
with; and a character that is cut short is refused in its place in the line. -/
theorem cutShort_behind_loneLetter :
    tokenize (Text.ofBytes (loneLetter ++ 0x20 :: [49])).chars 1 =
        .ok [⟨.instruction, "add", 1, 1⟩, ⟨.ident, "s", 1, 5⟩, ⟨.immediate, "1", 1, 7⟩] ∧
      tokenize (Text.ofBytes (loneLetter ++ 0x20 :: cutShort)).chars 1 =
        .error ⟨.illegalCharacter (Char.ofNat 0xFFFD), ⟨1, 9⟩⟩ := by
  constructor
  · rw [tokenize_space_append loneLetter [49] 1 (by decide) (by decide) (by decide)]
    decide +kernel
  · rw [tokenize_space_append loneLetter cutShort 1 (by decide) (by decide) (by decide)]
    decide +kernel

end ToyRisc
