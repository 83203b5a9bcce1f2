/-
Lines of nothing but a comment.  In front of the comment there may be indentation,
of which each tab, and the first four spaces in a row, come to an indentation mark;
these marks are all the tokens of such a line.  A line without any other token is
one of these lines.
-/
import ToyRisc.Proofs.Expansion
import ToyRisc.Proofs.Loading

namespace ToyRisc

/-- A line of nothing but a comment and, in front of it, indentation that comes to so
many tabs. -/
def CommentLine (line : Text) (tabs : Nat) : Prop :=
  ∃ (indent folded : List Char) (body : Text),
    line = indent.map .scalar ++ .scalar '#' :: body ∧ (∀ c ∈ indent, c = ' ' ∨ c = '\t') ∧
      Folded indent folded ∧ tabs = folded.count '\t'

/-- Tokens that are all indentation marks. -/
def AllMarks (row : List Token) : Prop := ∀ token ∈ row, token.kind = .tab

/-- Only a tab stands for an indentation mark. -/
theorem Span.Means.eq_tab {span : Span} {literal : String} (h : span.Means .tab literal) :
    span = .tab := by
  cases h with
  | tab => rfl
  | keyword hword hkeyword => exact absurd (kind_of_keyword? hkeyword) (by decide)

section Tokens

variable {line : Int} {passed : Nat}

/-- Indentation and a comment are cut into the marks and the comment. -/
theorem exists_cuts_of_indent {indent body : List Char}
    (hindent : ∀ c ∈ indent, c = ' ' ∨ c = '\t') (hbody : '\n' ∉ body) :
    ∃ spans tokens, Cuts (indent ++ '#' :: body) spans [] ∧ Images line passed spans tokens ∧
      AllMarks tokens ∧ tokens.length = indent.count '\t' := by
  induction indent generalizing passed with
  | nil =>
      have hfits : (Span.comment body).Fits ([] : List Char).head? :=
        Maximal.of_not_mem hbody (.inl rfl)
      refine ⟨[.comment body], [], ?_, .silent (.comment body) (.nil _), by simp [AllMarks], rfl⟩
      simpa [Span.text] using Cuts.cons hfits (.nil [])
  | cons c indent ih =>
      have hmore : ∀ d ∈ indent, d = ' ' ∨ d = '\t' :=
        fun d hd => hindent d (List.mem_cons_of_mem c hd)
      rcases hindent c List.mem_cons_self with rfl | rfl
      · obtain ⟨spans, tokens, hcuts, himages, hmarks, hlength⟩ := @ih (passed + 1) hmore
        have hfits : (Span.blank ' ').Fits (indent ++ '#' :: body).head? := .inl rfl
        exact ⟨_, tokens, .cons hfits hcuts, .silent (.blank ' ') himages, hmarks, by simpa⟩
      · obtain ⟨spans, tokens, hcuts, himages, hmarks, hlength⟩ := @ih (passed + 1) hmore
        have hfits : Span.tab.Fits (indent ++ '#' :: body).head? := trivial
        refine ⟨_, _, .cons hfits hcuts, .token .tab himages, ?_, by simpa⟩
        intro token htoken
        rcases List.mem_cons.mp htoken with rfl | hrest
        · rfl
        · exact hmarks token hrest

theorem indent_of_cuts {c rest : List Char} {spans : List Span} {tokens : List Token}
    (hcuts : Cuts c spans rest) (hrest : rest = []) (himages : Images line passed spans tokens)
    (hmarks : AllMarks tokens) (hnewline : '\n' ∉ c) :
    ∀ d ∈ front c, d = ' ' ∨ d = '\t' := by
  induction hcuts generalizing passed tokens with
  | nil rest =>
      rw [hrest]
      simp [front]
  | @cons span spans remaining rest hfits htail ih =>
      have hremaining : '\n' ∉ remaining :=
        fun hmem => hnewline (List.mem_append_right _ hmem)
      cases himages with
      | silent hsilent himages =>
          cases hsilent with
          | blank b =>
              rcases hfits with rfl | rfl
              · have hmore := ih hrest himages hmarks hremaining
                simpa [front, Span.text] using hmore
              · simp [Span.text] at hnewline
          | comment body => simp [front, Span.text]
      | @token _ _ _ tokens kind literal hmeans himages =>
          have hkind : kind = .tab := hmarks _ List.mem_cons_self
          subst hkind
          rw [hmeans.eq_tab]
          have hmore := ih hrest himages
            (fun token htoken => hmarks token (List.mem_cons_of_mem _ htoken)) hremaining
          simpa [front, Span.text] using hmore

theorem front_indent {indent : List Char} (hindent : ∀ c ∈ indent, c = ' ' ∨ c = '\t')
    (body : List Char) : front (indent ++ '#' :: body) = indent := by
  have hhash : '#' ∉ indent := fun hmem => by simpa using hindent '#' hmem
  rw [front_append_of_not_mem hhash]
  simp [front]

/-- Indentation and a comment have the marks of the folded indentation as tokens. -/
theorem exists_tokenize_of_indent (number : Int) {indent folded body : List Char}
    (hindent : ∀ c ∈ indent, c = ' ' ∨ c = '\t') (hfolded : Folded indent folded)
    (hbody : '\n' ∉ body) :
    ∃ tokens, tokenize (indent ++ '#' :: body) number = .ok tokens ∧ AllMarks tokens ∧
      tokens.length = folded.count '\t' := by
  -- the scanner sees the folded indentation, then the hash
  have hplain : '#' ∉ indent := fun hmem => by simpa using hindent '#' hmem
  obtain ⟨found, rest, hc, hfound, _⟩ := exists_folded_hash hplain body
  obtain rfl : found = folded := by rw [← hfound.eq_foldIndent, hfolded.eq_foldIndent]
  have hmarks : ∀ c ∈ found, c = ' ' ∨ c = '\t' := by
    intro c hmem
    rcases hfolded.mem_of_mem hmem with hkept | htab
    · exact hindent c hkept
    · exact .inr htab
  have hsource : '\n' ∉ indent ++ '#' :: body := by
    intro hmem
    rcases List.mem_append.mp hmem with hmem | hmem
    · simpa using hindent '\n' hmem
    · exact hbody ((List.mem_cons.mp hmem).resolve_left (by decide))
  have hnewline : '\n' ∉ rest := by
    intro hmem
    apply hc.not_mem (by decide) hsource
    exact List.mem_append_right _ (List.mem_cons_of_mem _ hmem)
  obtain ⟨spans, tokens, hcuts, himages, hall, hlength⟩ :=
    @exists_cuts_of_indent number 0 found rest hmarks hnewline
  rw [← hc.eq_foldIndent] at hcuts
  exact ⟨tokens, hcuts.scan_nil himages, hall, hlength⟩

/-- Where all tokens of a line are marks, there is nothing but indentation in front
of its first hash. -/
theorem indent_of_tokenize {chars : List Char} {row : List Token}
    (h : tokenize chars line = .ok row) (hmarks : AllMarks row) (hnewline : '\n' ∉ chars) :
    ∀ c ∈ front chars, c = ' ' ∨ c = '\t' := by
  have hc := folded_foldIndent chars
  obtain ⟨spans, hcuts, himages⟩ := (scan_eq_ok_iff line _ row).mp h
  have hfolded : '\n' ∉ foldIndent [] chars := hc.not_mem (by decide) hnewline
  intro c hmem
  rcases hc.front.mem_or_space hmem with hkept | hspace
  · exact indent_of_cuts hcuts rfl himages hmarks hfolded c hkept
  · exact .inl hspace

end Tokens

section Lines

open Source

variable {settings : LoadSettings} {number : Int} {line text : Text}

/-- Where expansion leaves nothing but indentation in front of the first hash, it has
replaced nothing: digits would be there. -/
theorem prepare_eq_of_indent (h : prepare settings number line = .ok text)
    (hindent : ∀ c ∈ front text.chars, c = ' ' ∨ c = '\t') : text = line := by
  rcases prepare_cases h with heq | ⟨evaluate, more, rfl, hmore⟩
  · exact heq
  have hhash : '#' ∉ Text.chars more := by
    intro hmem
    obtain ⟨s, hs, hchar⟩ := List.mem_map.mp hmem
    rcases hmore.mem_or_digit hs with hhead | ⟨c, hc, rfl⟩
    · have hnot := List.all_eq_true.mp List.all_takeWhile s hhead
      rw [Symbol.eq_scalar_of_char hchar (by decide)] at hnot
      cases hnot
    · rw [show c = '#' from hchar] at hc
      cases hc
  rcases hmore.eq_or_digit with rfl | ⟨c, hc, hmem⟩
  · exact List.takeWhile_append_dropWhile
  · have hfront : c ∈ front (Text.chars (more ++ line.dropWhile (Expansion.isNot '#'))) := by
      rw [Text.chars_append, front_append_of_not_mem hhash]
      exact List.mem_append_left _ (List.mem_map_of_mem hmem)
    rcases hindent c hfront with rfl | rfl
    · cases hc
    · cases hc

/-- A carriage return at its end is part of the comment. -/
theorem commentLine_dropReturn_iff (line : Text) (tabs : Nat) :
    CommentLine (dropReturn line) tabs ↔ CommentLine line tabs := by
  rcases dropReturn_cases line with heq | heq
  · rw [heq]
  constructor
  · rintro ⟨indent, folded, body, hline, hrest⟩
    refine ⟨indent, folded, body ++ [.scalar '\r'], ?_, hrest⟩
    rw [heq, hline]
    simp
  · rintro ⟨indent, folded, body, hline, hrest⟩
    refine ⟨indent, folded, body.dropLast, ?_, hrest⟩
    have hbody : body ≠ [] := by
      rintro rfl
      rw [heq] at hline
      cases (List.append_inj' hline rfl).2
    have hdrop := congrArg List.dropLast (heq.symm.trans hline)
    rwa [List.dropLast_concat, List.dropLast_append_of_ne_nil (by simp),
      List.dropLast_cons_of_ne_nil hbody] at hdrop

/-- The tokens of a comment line are its indentation marks. -/
theorem CommentLine.marks {tabs : Nat} {row : List Token} (hcomment : CommentLine line tabs)
    (hnewline : .scalar '\n' ∉ line) (hload : loadLine settings number line = .ok row) :
    AllMarks row ∧ row.length = tabs := by
  have hbare := newline_not_mem_chars (newline_not_mem_dropReturn hnewline)
  obtain ⟨indent, folded, body, hline, hindent, hfolded, rfl⟩ :=
    (commentLine_dropReturn_iff line tabs).mpr hcomment
  have hchars : Text.chars (dropReturn line) = indent ++ '#' :: Text.chars body := by
    rw [hline]
    simp [Text.chars, Symbol.char, Function.comp_def]
  rw [hchars] at hbare
  rcases loadLine_cases hload with ⟨hblank, _⟩ | ⟨_, text, hprepare, htokens⟩
  · rw [Text.isBlank, hchars] at hblank
    have hhash := List.all_eq_true.mp hblank '#' (by simp)
    exact absurd hhash (by decide)
  · have hdollar : '$' ∉ front (Text.chars (dropReturn line)) := by
      rw [hchars, front_indent hindent]
      exact fun hmem => by simpa using hindent '$' hmem
    rw [prepare_eq_of_not_mem hprepare hdollar, hchars] at htokens
    obtain ⟨tokens, hfound, hall, hlength⟩ :=
      exists_tokenize_of_indent number hindent hfolded
        (fun hmem => hbare (List.mem_append_right _ (List.mem_cons_of_mem _ hmem)))
    rw [htokens] at hfound
    cases hfound
    exact ⟨hall, hlength⟩

theorem map_scalar_chars {text : Text}
    (h : ∀ c ∈ Text.chars text, c = ' ' ∨ c = '\t') : (Text.chars text).map .scalar = text := by
  induction text with
  | nil => rfl
  | cons s rest ih =>
      have hs : .scalar s.char = s := by
        rcases h s.char List.mem_cons_self with hspace | htab
        · rw [hspace, Symbol.eq_scalar_of_char hspace (by decide)]
        · rw [htab, Symbol.eq_scalar_of_char htab (by decide)]
      have hrest := ih (fun c hc => h c (List.mem_cons_of_mem _ hc))
      change .scalar s.char :: (Text.chars rest).map .scalar = s :: rest
      rw [hs, hrest]

/-- A line that is not blank and has nothing but indentation in front of its first
hash is a comment line. -/
theorem exists_commentLine_of_indent (hblank : line.isBlank = false)
    (hindent : ∀ c ∈ front line.chars, c = ' ' ∨ c = '\t') : ∃ tabs, CommentLine line tabs := by
  have hsplit : line.takeWhile (Expansion.isNot '#') ++ line.dropWhile (Expansion.isNot '#') =
      line := List.takeWhile_append_dropWhile
  rw [← chars_takeWhile] at hindent
  cases hbehind : line.dropWhile (Expansion.isNot '#') with
  | nil =>
      -- without a hash the whole line would be indentation
      rw [hbehind, List.append_nil] at hsplit
      rw [hsplit] at hindent
      have hall : line.isBlank = true := by
        apply List.all_eq_true.mpr
        intro c hc
        rcases hindent c hc with rfl | rfl
        · decide
        · decide
      rw [hall] at hblank
      cases hblank
  | cons s body =>
      have hs : s = .scalar '#' := by
        have hstop := List.head?_dropWhile_not (Expansion.isNot '#') line
        simpa [hbehind, Expansion.isNot] using hstop
      obtain ⟨folded, hfolded⟩ :=
        exists_folded (Text.chars (line.takeWhile (Expansion.isNot '#')))
      refine ⟨folded.count '\t', _, folded, body, ?_, hindent, hfolded, rfl⟩
      rw [map_scalar_chars hindent, ← hs, ← hbehind, hsplit]

/-- A line whose tokens are indentation marks, and at least one, is a comment line. -/
theorem exists_commentLine_of_allMarks {row : List Token} (hnewline : .scalar '\n' ∉ line)
    (hload : loadLine settings number line = .ok row) (hmarks : AllMarks row)
    (hne : row ≠ []) : ∃ tabs, CommentLine line tabs := by
  rcases loadLine_cases hload with ⟨_, hnil⟩ | ⟨hblank, text, hprepare, htokens⟩
  · exact absurd hnil hne
  have htext : .scalar '\n' ∉ text := by
    intro hmem
    rcases mem_or_digit_of_prepare hprepare hmem with hline | ⟨c, hc, heq⟩
    · exact newline_not_mem_dropReturn hnewline hline
    · cases heq
      cases hc
  have hindent := indent_of_tokenize htokens hmarks (newline_not_mem_chars htext)
  rw [prepare_eq_of_indent hprepare hindent] at hindent
  obtain ⟨tabs, hcomment⟩ := exists_commentLine_of_indent hblank hindent
  exact ⟨tabs, (commentLine_dropReturn_iff line tabs).mp hcomment⟩

end Lines

end ToyRisc
