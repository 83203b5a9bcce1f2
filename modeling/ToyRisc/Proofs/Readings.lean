/-
What a line says, wherever its tokens stand.  A line that is read span by span says what its
parts say, one after the other; spaces say nothing, and four spaces in the place of a tab leave
a line readable.
-/
import ToyRisc.Proofs.CommentStart
import ToyRisc.Proofs.SpacedPieces

namespace ToyRisc

/-- So many spaces. -/
def spaces (n : Nat) : List Char := List.replicate n ' '

theorem exists_spaces {n : Nat} (hn : 0 < n) (c : List Char) :
    ∃ more, spaces n ++ c = ' ' :: (spaces more ++ c) := by
  obtain ⟨more, rfl⟩ := Nat.exists_eq_succ_of_ne_zero (Nat.ne_of_gt hn)
  exact ⟨more, rfl⟩

namespace Span

/-- A space, a tab or a comma in a span is all of it, and can stand before anything, unless the
span is a comment or a quotation. -/
theorem Fits.of_separator_mem {span : Span} {next : Option Char} (hfits : span.Fits next)
    {c : Char} (hc : c ∈ [' ', '\t', ',']) (hmem : c ∈ span.text) :
    (span.text = [c] ∧ ∀ other, span.Fits other) ∨ (∃ body, span = .comment body) ∨
      ∃ body closed, span = .quoted body closed := by
  have hsolid : isWordChar c = false ∧ c.isDigit = false ∧ c ∉ [':', '.', '(', ')'] := by
    simp only [List.mem_cons, List.not_mem_nil, or_false] at hc
    rcases hc with rfl | rfl | rfl <;> decide
  obtain ⟨hword, hdigit, hmark⟩ := hsolid
  simp only [List.mem_cons, List.not_mem_nil, or_false, not_or] at hmark
  cases span with
  | comment body => exact .inr (.inl ⟨body, rfl⟩)
  | quoted body closed => exact .inr (.inr ⟨body, closed, rfl⟩)
  | blank d =>
      rw [List.mem_singleton.mp hmem]
      exact .inl ⟨rfl, fun _ => hfits⟩
  | tab | comma =>
      rw [List.mem_singleton.mp hmem]
      exact .inl ⟨rfl, fun _ => trivial⟩
  | openParen => exact absurd (List.mem_singleton.mp hmem) hmark.2.2.1
  | closeParen => exact absurd (List.mem_singleton.mp hmem) hmark.2.2.2
  | register letter digits =>
      rcases List.mem_cons.mp hmem with rfl | hdigits
      · rw [isWordChar_of_mem_registerLetters hfits.1] at hword
        cases hword
      · exact absurd hdigits (not_mem_of_class hfits.2.2.inside hdigit)
  | word chars colon =>
      have hchars : c ∈ chars := by cases colon <;> simpa [text, hmark.1] using hmem
      exact absurd hchars (not_mem_of_class hfits.isWordChar_of_word hword)
  | number digits => exact absurd hmem (not_mem_of_class hfits.2.inside hdigit)
  | directive name =>
      have hname : c ∈ name := (List.mem_cons.mp hmem).resolve_left hmark.2.1
      exact absurd hname (not_mem_of_class hfits.inside hword)
  | illegal d =>
      have hforeign := hfits.mark
      rw [← List.mem_singleton.mp hmem] at hforeign
      simp only [List.mem_cons, List.not_mem_nil, or_false, not_or] at hc hforeign
      tauto

/-- Only comments and quotations have a tab in them, apart from the tab itself. -/
theorem Fits.of_tab_mem {span : Span} {next : Option Char} (hfits : span.Fits next)
    (htab : '\t' ∈ span.text) :
    span = .tab ∨ (∃ body, span = .comment body) ∨ ∃ body closed, span = .quoted body closed := by
  rcases hfits.of_separator_mem (by decide) htab with ⟨htext, hfree⟩ | hother
  · have htabs : Span.tab.Fits ([] : List Char).head? := trivial
    exact .inl (eq_of_fits (hfree _) htabs (by rw [htext]; rfl)).1
  · exact .inr hother

/-- Spans that are not refused. -/
def Readable (span : Span) : Prop := span.Silent ∨ ∃ kind literal, span.Means kind literal

/-- Four spaces in the place of a tab bring in no other character. -/
theorem not_mem_untabbed {q : Char} (hq : q ≠ ' ') {before after : List Char}
    (h : q ∉ before ++ '\t' :: after) : q ∉ before ++ (fourSpaces ++ after) := by
  simp only [List.mem_append, List.mem_cons, not_or] at h
  simp [fourSpaces, hq, h.1, h.2.2]

theorem Fits.comment_untabbed {next : Option Char} {before after : List Char}
    (hfits : (Span.comment (before ++ '\t' :: after)).Fits next) :
    (Span.comment (before ++ (fourSpaces ++ after))).Fits next := by
  have hnewline : '\n' ∉ before ++ '\t' :: after :=
    fun hmem => absurd (hfits.inside '\n' hmem) (by decide)
  refine ⟨?_, hfits.boundary⟩
  intro c hc
  exact bne_iff_ne.mpr (ne_of_mem_of_not_mem hc (not_mem_untabbed (by decide) hnewline))

theorem Fits.quoted_untabbed {next : Option Char} {closed : Bool} {before after : List Char}
    (hfits : (Span.quoted (before ++ '\t' :: after) closed).Fits next) :
    (Span.quoted (before ++ (fourSpaces ++ after)) closed).Fits next := by
  cases closed with
  | true => exact not_mem_untabbed (by decide) hfits
  | false => exact ⟨not_mem_untabbed (by decide) hfits.1, hfits.2⟩

/-- The tab of a quotation is in its body. -/
theorem exists_body_of_quoted {body before after : List Char} {closed : Bool}
    (htext : (Span.quoted body closed).text = before ++ '\t' :: after) :
    ∃ front back, body = front ++ '\t' :: back ∧
      (Span.quoted (front ++ (fourSpaces ++ back)) closed).text =
        before ++ (fourSpaces ++ after) := by
  cases before with
  | nil => simp [text] at htext
  | cons c front =>
      obtain ⟨rfl, hbody⟩ := List.cons.inj htext
      cases closed with
      | false => exact ⟨front, after, hbody, rfl⟩
      | true =>
          -- the mark that closes the quotation is behind the tab
          have hclosed : body ++ ['"'] = front ++ '\t' :: after := hbody
          rcases List.eq_nil_or_concat after with rfl | ⟨back, d, rfl⟩
          · have hlast := congrArg List.getLast? hclosed
            simp at hlast
          · have hsplit : body ++ ['"'] = front ++ '\t' :: back ++ [d] := by
              simpa using hclosed
            obtain ⟨rfl, hd⟩ := List.append_inj' hsplit rfl
            obtain rfl : '"' = d := by simpa using hd
            exact ⟨front, back, rfl, by simp [text]⟩

/-- A tab inside a span can be put as four spaces. -/
theorem Fits.exists_of_tab {span : Span} {next : Option Char} (hfits : span.Fits next)
    {before after : List Char} (htext : span.text = before ++ '\t' :: after) :
    (span = .tab ∧ before = [] ∧ after = []) ∨
      ∃ other : Span, other.Readable ∧ other.Fits next ∧
        other.text = before ++ (fourSpaces ++ after) := by
  have hmem : '\t' ∈ span.text := by
    rw [htext]
    simp
  rcases hfits.of_tab_mem hmem with rfl | ⟨body, rfl⟩ | ⟨body, closed, rfl⟩
  · cases before with
    | nil => exact .inl ⟨rfl, rfl, (List.cons.inj htext).2.symm⟩
    | cons c before => simp [text] at htext
  · cases before with
    | nil => simp [text] at htext
    | cons c before =>
        obtain ⟨rfl, rfl⟩ := List.cons.inj htext
        exact .inr ⟨.comment _, .inl (.comment _), hfits.comment_untabbed, rfl⟩
  · obtain ⟨front, back, rfl, hother⟩ := exists_body_of_quoted htext
    exact .inr ⟨.quoted _ closed, .inr ⟨_, _, .quoted _ closed⟩, hfits.quoted_untabbed, hother⟩

/-- A span in front of a blank is not open. -/
theorem Fits.not_open {span : Span} {c : Char} (hfits : span.Fits (some c)) (hc : c ≠ '\n') :
    ¬ span.Open := by
  rintro (⟨body⟩ | ⟨body⟩)
  · have hstop := hfits.boundary c rfl
    exact hc (by simpa using hstop)
  · cases hfits.2

end Span

section Reading

variable {line : Int} {passed : Nat} {spans : List Span} {tokens : List Token}

theorem Images.readable (h : Images line passed spans tokens) :
    ∀ span ∈ spans, span.Readable := by
  induction h with
  | nil passed => exact nofun
  | silent hsilent htail ih =>
      intro span hspan
      rcases List.mem_cons.mp hspan with rfl | hmore
      · exact .inl hsilent
      · exact ih span hmore
  | token hmeans htail ih =>
      intro span hspan
      rcases List.mem_cons.mp hspan with rfl | hmore
      · exact .inr ⟨_, _, hmeans⟩
      · exact ih span hmore

theorem exists_images (line : Int) (passed : Nat) (h : ∀ span ∈ spans, span.Readable) :
    ∃ tokens, Images line passed spans tokens := by
  induction spans generalizing passed with
  | nil => exact ⟨[], .nil passed⟩
  | cons span spans ih =>
      obtain ⟨tokens, himages⟩ := ih (passed + span.width)
        fun other hother => h other (List.mem_cons_of_mem span hother)
      rcases h span List.mem_cons_self with hsilent | ⟨kind, literal, hmeans⟩
      · exact ⟨tokens, .silent hsilent himages⟩
      · exact ⟨_, .token hmeans himages⟩

theorem cuts_fourSpaces {c rest : List Char} (h : Cuts c spans rest) :
    Cuts (fourSpaces ++ c) (List.replicate 4 (.blank ' ') ++ spans) rest := by
  have hfits : ∀ next, (Span.blank ' ').Fits next := fun _ => .inl rfl
  exact .cons (hfits _) (.cons (hfits _) (.cons (hfits _) (.cons (hfits _) h)))

/-- A span that fits in front of a tab, or of more that ends at it, fits with four spaces in
its place. -/
theorem Cuts.cons_of_tab {span : Span} {more after rest : List Char}
    (hfits : span.Fits (more ++ '\t' :: after).head?)
    (h : Cuts (more ++ (fourSpaces ++ after)) spans rest) :
    Cuts (span.text ++ more ++ (fourSpaces ++ after)) (span :: spans) rest := by
  rw [List.append_assoc]
  apply Cuts.cons _ h
  cases more with
  | nil => exact hfits.before_blank (hfits.not_open (by decide)) (.inl rfl)
  | cons d more => exact hfits

/-- A line that can be read can be read with four spaces in the place of a tab. -/
theorem Cuts.exists_of_tab {c rest before after : List Char} (h : Cuts c spans rest)
    (hrest : rest = []) (hreadable : ∀ span ∈ spans, span.Readable)
    (hc : c = before ++ '\t' :: after) :
    ∃ others, Cuts (before ++ (fourSpaces ++ after)) others rest ∧
      ∀ span ∈ others, span.Readable := by
  induction h generalizing before with
  | nil rest =>
      rw [hrest] at hc
      simp at hc
  | @cons span spans remaining rest hfits htail ih =>
      rw [List.forall_mem_cons] at hreadable
      -- the tab is behind the span, or it is part of it
      have hbehind : ∀ more, before = span.text ++ more → remaining = more ++ '\t' :: after →
          ∃ others, Cuts (before ++ (fourSpaces ++ after)) others rest ∧
            ∀ other ∈ others, other.Readable := by
        rintro more rfl rfl
        obtain ⟨others, hcuts, hothers⟩ := ih hrest hreadable.2 rfl
        exact ⟨span :: others, hcuts.cons_of_tab hfits,
          List.forall_mem_cons.mpr ⟨hreadable.1, hothers⟩⟩
      rcases List.append_eq_append_iff.mp hc with ⟨more, hbefore, hremaining⟩ |
        ⟨more, htext, hmore⟩
      · exact hbehind more hbefore hremaining
      · cases more with
        | nil => exact hbehind [] (by simpa using htext.symm) (by simpa using hmore.symm)
        | cons d more =>
            obtain ⟨rfl, rfl⟩ := List.cons.inj hmore
            rcases hfits.exists_of_tab htext with ⟨rfl, rfl, rfl⟩ | ⟨other, hother, hnext, hsame⟩
            · refine ⟨_, cuts_fourSpaces htail, ?_⟩
              intro found hfound
              rcases List.mem_append.mp hfound with hblank | hbehind
              · rw [List.eq_of_mem_replicate hblank]
                exact .inl (.blank ' ')
              · exact hreadable.2 found hbehind
            · refine ⟨other :: spans, ?_, List.forall_mem_cons.mpr ⟨hother, hreadable.2⟩⟩
              have hcuts := Cuts.cons hnext htail
              rw [hsame] at hcuts
              simpa using hcuts

end Reading

/-- What a token says, wherever it stands. -/
def Token.content (token : Token) : Kind × String := (token.kind, token.literal)

/-- What tokens say one after the other. -/
def contents (tokens : List Token) : List (Kind × String) := tokens.map Token.content

theorem contents_shifted (n : Nat) (tokens : List Token) :
    contents (tokens.map (Token.shifted n)) = contents tokens := by
  rw [contents, contents, List.map_map]
  rfl

/-- What a line says that is read as it stands, with nothing folded, if it is accepted. -/
def reading (line : Int) (c : List Char) : Option (List (Kind × String)) :=
  match (Lexer.scan line 0 [] c).1 with
  | .ok tokens => some (contents tokens)
  | .error _ => none

/-- `Passes line before rest tokens`: what stands in front of `rest` is read by itself, to
these tokens. -/
def Passes (line : Int) (before rest : List Char) (tokens : List Token) : Prop :=
  ∃ spans, Cuts (before ++ rest) spans rest ∧ Images line 0 spans tokens

section Reading

variable {line : Int} {before rest c : List Char} {tokens : List Token}
  {said : List (Kind × String)}

theorem reading_eq_some_iff :
    reading line c = some said ↔
      ∃ tokens, (Lexer.scan line 0 [] c).1 = .ok tokens ∧ contents tokens = said := by
  rw [reading]
  cases (Lexer.scan line 0 [] c).1 with
  | ok tokens => simp
  | error fault => simp

/-- What a line says is what its parts say, if they are read one by one. -/
theorem Passes.reading_append (h : Passes line before rest tokens) :
    reading line (before ++ rest) = (reading line rest).map (contents tokens ++ ·) := by
  obtain ⟨spans, hcuts, himages⟩ := h
  rw [reading, reading, hcuts.scan himages, Lexer.scan_shifted]
  cases (Lexer.scan line 0 [] rest).1 with
  | error fault => rfl
  | ok more =>
      simp only [List.append_nil, List.reverse_reverse, Option.map_some, Option.some.injEq]
      rw [contents, List.map_append, ← contents, ← contents, contents_shifted]

theorem reading_space (line : Int) (c : List Char) : reading line (' ' :: c) = reading line c := by
  have hfits : (Span.blank ' ').Fits c.head? := .inl rfl
  have hpasses : Passes line [' '] c [] :=
    ⟨[.blank ' '], .cons hfits (.nil c), .silent (.blank ' ') (.nil 1)⟩
  have hreading := hpasses.reading_append
  simpa [contents] using hreading

theorem reading_spaces (line : Int) (n : Nat) (c : List Char) :
    reading line (spaces n ++ c) = reading line c := by
  induction n with
  | zero => rfl
  | succ n ih => exact (reading_space line (spaces n ++ c)).trans ih

theorem reading_tab (line : Int) (c : List Char) :
    reading line ('\t' :: c) = (reading line c).map ((Kind.tab, "") :: ·) := by
  have hfits : Span.tab.Fits c.head? := trivial
  have hpasses : Passes line ['\t'] c [⟨.tab, "", line, 1⟩] :=
    ⟨[.tab], .cons hfits (.nil c), .token .tab (.nil 1)⟩
  exact hpasses.reading_append

/-- What is read by itself in front of a space is read so in front of any blank. -/
theorem Passes.before_blank (h : Passes line before (' ' :: rest) tokens) {d : Char}
    (hd : d = ' ' ∨ d = '\t') (other : List Char) :
    Passes line before (d :: other) tokens := by
  obtain ⟨spans, hcuts, himages⟩ := h
  have hbefore : textOf spans = before := List.append_cancel_right hcuts.text_append
  refine ⟨spans, ?_, himages⟩
  rw [← hbefore]
  apply hcuts.of_last_fits
  intro span _ hfits
  exact hfits.before_blank (hfits.not_open (by decide)) hd

theorem Passes.scan_before (h : Passes line before rest tokens) :
    (Lexer.scan line 0 [] before).1 = .ok tokens := by
  obtain ⟨spans, hcuts, himages⟩ := h
  have hbefore : textOf spans = before := List.append_cancel_right hcuts.text_append
  have hend := hcuts.transfer (.inr rfl)
  rw [hbefore, List.append_nil] at hend
  exact hend.scan_nil himages

theorem exists_reading_of_tab {after : List Char}
    (h : (reading line (before ++ '\t' :: after)).isSome) :
    (reading line (before ++ (fourSpaces ++ after))).isSome := by
  obtain ⟨said, hsaid⟩ := Option.isSome_iff_exists.mp h
  obtain ⟨tokens, hscan, _⟩ := reading_eq_some_iff.mp hsaid
  obtain ⟨spans, hcuts, himages⟩ := (scan_eq_ok_iff line _ tokens).mp hscan
  obtain ⟨others, hothers, hreadable⟩ := hcuts.exists_of_tab rfl himages.readable rfl
  obtain ⟨found, hfound⟩ := exists_images line 0 hreadable
  rw [reading, hothers.scan_nil hfound]
  rfl

/-- What is accepted with its first four spaces folded is accepted as it stands. -/
theorem Folded.exists_reading {folded : List Char} (h : Folded c folded)
    (hsome : (reading line folded).isSome) : (reading line c).isSome := by
  cases h with
  | none hnone => exact hsome
  | first before after hfirst => exact exists_reading_of_tab hsome

end Reading

end ToyRisc
