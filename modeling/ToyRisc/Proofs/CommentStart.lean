/-
Where a comment starts.  Expansion takes the first hash of a line for the start of its
comment, and the scanner the first hash that is no part of a quotation.  They agree unless
the scanner comes to the hash inside a quotation, behind an odd number of quotation marks.
-/
import Mathlib.Algebra.Ring.Parity
import ToyRisc.Proofs.LexingFaults
import ToyRisc.Proofs.Segments

namespace ToyRisc

theorem not_mem_of_class {p : Char → Bool} {run : List Char} {q : Char}
    (hrun : ∀ c ∈ run, p c = true) (hq : p q = false) : q ∉ run := by
  intro hmem
  rw [hrun q hmem] at hq
  cases hq

namespace Span

/-- Only comments and quotations have hashes and quotation marks in them. -/
theorem Fits.comment_or_quoted_or_plain {span : Span} {next : Option Char}
    (hfits : span.Fits next) :
    (∃ body, span = .comment body) ∨ (∃ body closed, span = .quoted body closed) ∨
      ∀ q, q = '#' ∨ q = '"' → q ∉ span.text := by
  have hword : ∀ q, q = '#' ∨ q = '"' → isWordChar q = false := by
    rintro q (rfl | rfl) <;> decide
  have hdigit : ∀ q, q = '#' ∨ q = '"' → q.isDigit = false := by
    rintro q (rfl | rfl) <;> decide
  cases span with
  | comment body => exact .inl ⟨body, rfl⟩
  | quoted body closed => exact .inr (.inl ⟨body, closed, rfl⟩)
  | blank c =>
      refine .inr (.inr ?_)
      rintro q (rfl | rfl) <;> rcases hfits with rfl | rfl <;> decide
  | tab | comma | openParen | closeParen =>
      refine .inr (.inr ?_)
      rintro q (rfl | rfl) <;> decide
  | register letter digits =>
      refine .inr (.inr fun q hq => ?_)
      have hletter := isWordChar_of_mem_registerLetters hfits.1
      exact List.not_mem_cons_of_ne_of_not_mem (ne_of_class hletter (hword q hq)).symm
        (not_mem_of_class hfits.2.2.inside (hdigit q hq))
  | word chars colon =>
      refine .inr (.inr fun q hq => ?_)
      have hchars : ∀ c ∈ chars, isWordChar c = true := by
        cases colon with
        | true => exact hfits.2
        | false => exact hfits.2.1.inside
      have hrun := not_mem_of_class hchars (hword q hq)
      have hcolon : q ≠ ':' := by rcases hq with rfl | rfl <;> decide
      cases colon <;> simp [text, hrun, hcolon]
  | number digits =>
      exact .inr (.inr fun q hq => not_mem_of_class hfits.2.inside (hdigit q hq))
  | directive name =>
      refine .inr (.inr fun q hq => ?_)
      have hdot : q ≠ '.' := by rcases hq with rfl | rfl <;> decide
      exact List.not_mem_cons_of_ne_of_not_mem hdot
        (not_mem_of_class hfits.inside (hword q hq))
  | illegal c =>
      refine .inr (.inr fun q hq hmem => hfits.mark ?_)
      rw [← List.mem_singleton.mp hmem]
      rcases hq with rfl | rfl <;> decide

/-- A span that ends before the end of the line closes the quotation that it opens. -/
theorem Fits.even_count_quote {span : Span} {c : Char} (hfits : span.Fits (some c))
    (hhash : '#' ∉ span.text) : Even (span.text.count '"') := by
  rcases hfits.comment_or_quoted_or_plain with ⟨body, rfl⟩ | ⟨body, closed, rfl⟩ | hplain
  · simp [text] at hhash
  · cases closed with
    | true =>
        have hbody : body.count '"' = 0 := List.count_eq_zero.mpr hfits
        simp [text, hbody]
    | false => cases hfits.2
  · rw [List.count_eq_zero.mpr (hplain '"' (.inr rfl))]
    exact Even.zero

end Span

section Scanning

variable {line : Int}

theorem Cuts.append {c middle rest : List Char} {spans more : List Span}
    (h : Cuts c spans middle) (hmore : Cuts middle more rest) :
    Cuts c (spans ++ more) rest := by
  induction h with
  | nil middle => exact hmore
  | cons hfits htail ih => exact .cons hfits (ih hmore)

theorem Images.append {passed : Nat} {spans more : List Span} {tokens others : List Token}
    (h : Images line passed spans tokens)
    (hmore : Images line (passed + (textOf spans).length) more others) :
    Images line passed (spans ++ more) (tokens ++ others) := by
  have hlength (span : Span) (spans : List Span) (passed : Nat) :
      passed + (textOf (span :: spans)).length =
        passed + span.width + (textOf spans).length := by
    simp [textOf, Span.width, Nat.add_assoc]
  induction h with
  | nil passed => exact hmore
  | silent hsilent htail ih =>
      rw [hlength] at hmore
      exact .silent hsilent (ih hmore)
  | token hmeans htail ih =>
      rw [hlength] at hmore
      exact .token hmeans (ih hmore)

theorem Cuts.even_count_quote {c rest : List Char} {spans : List Span} (h : Cuts c spans rest)
    (hrest : rest ≠ []) (hhash : '#' ∉ textOf spans) : Even ((textOf spans).count '"') := by
  induction h with
  | nil rest => exact Even.zero
  | @cons span spans remaining rest hfits htail ih =>
      rw [textOf, List.flatMap_cons] at hhash ⊢
      rw [List.mem_append, not_or] at hhash
      have hremaining : remaining ≠ [] := by
        rw [← htail.text_append]
        exact List.append_ne_nil_of_right_ne_nil _ hrest
      rw [List.head?_eq_some_head hremaining] at hfits
      rw [List.count_append]
      exact (hfits.even_count_quote hhash.1).add (ih hrest hhash.2)

namespace Reaches

variable {before rest : List Char}

theorem start (line : Int) (c : List Char) : Reaches line [] c :=
  ⟨[], [], .nil c, .nil 0⟩

/-- Scanning goes on behind a span that is not refused. -/
theorem extend {span : Span} {remaining : List Char}
    (h : Reaches line before (span.text ++ remaining)) (hfits : span.Fits remaining.head?)
    (hread : span.Silent ∨ ∃ kind literal, span.Means kind literal) :
    Reaches line (before ++ span.text) remaining := by
  obtain ⟨spans, tokens, hcuts, himages⟩ := h
  have hcut : Cuts (before ++ span.text ++ remaining) (spans ++ [span]) remaining := by
    rw [List.append_assoc]
    exact hcuts.append (.cons hfits (.nil remaining))
  rcases hread with hsilent | ⟨kind, literal, hmeans⟩
  · exact ⟨_, _, hcut, himages.append (.silent hsilent (.nil _))⟩
  · exact ⟨_, _, hcut, himages.append (.token hmeans (.nil _))⟩

/-- Scanning comes to the start of a span with all quotations closed. -/
theorem even_count_quote (h : Reaches line before rest) (hrest : rest ≠ [])
    (hhash : '#' ∉ before) : Even (before.count '"') := by
  obtain ⟨spans, tokens, hcuts, _⟩ := h
  have hbefore : textOf spans = before := List.append_cancel_right hcuts.text_append
  rw [← hbefore] at hhash ⊢
  exact hcuts.even_count_quote hrest hhash

/-- What has been read holds no fault. -/
theorem lt_col (h : Reaches line before rest) {fault : Fault}
    (hscan : (Lexer.scan line 0 [] (before ++ rest)).1 = .error fault) :
    (before.length : Int) < fault.position.col := by
  obtain ⟨spans, tokens, hcuts, himages⟩ := h
  have hbefore : textOf spans = before := List.append_cancel_right hcuts.text_append
  obtain ⟨more, left, others, hmore, hothers, hend⟩ :=
    exists_cuts line rest (0 + (textOf spans).length)
  have hall := hcuts.append hmore
  have himage := himages.append hothers
  rcases hend with rfl | ⟨cause, decided, hoffends⟩
  · rw [hall.scan_nil himage] at hscan
    cases hscan
  · rw [hall.scan_offends himage hoffends] at hscan
    cases hscan
    have hlength : before.length ≤ (textOf (spans ++ more)).length := by
      simp [textOf, ← hbefore]
    dsimp only
    omega

end Reaches

/-- `InQuotation line before after`: the hash between `before` and `after` is part of a
quotation.  Scanning comes to the mark that opens it, and no other mark stands between them. -/
def InQuotation (line : Int) (before after : List Char) : Prop :=
  ∃ opening quotation, before = opening ++ '"' :: quotation ∧ '"' ∉ quotation ∧
    Reaches line opening ('"' :: (quotation ++ '#' :: after))

namespace InQuotation

variable {before after : List Char}

theorem odd_count_quote (h : InQuotation line before after) (hhash : '#' ∉ before) :
    Odd (before.count '"') := by
  obtain ⟨opening, quotation, rfl, hquotation, hreaches⟩ := h
  have hopening : '#' ∉ opening := fun hmem => hhash (List.mem_append_left _ hmem)
  have heven := hreaches.even_count_quote (List.cons_ne_nil _ _) hopening
  rw [List.count_append, List.count_cons_self, List.count_eq_zero.mpr hquotation]
  exact heven.add_one

/-- The quotation is read as a whole, and the hash with it. -/
theorem exists_reaches (h : InQuotation line before after) :
    ∃ beyond rest, after = beyond ++ rest ∧ Reaches line (before ++ '#' :: beyond) rest := by
  obtain ⟨opening, quotation, rfl, hquotation, hreaches⟩ := h
  by_cases hclosed : '"' ∈ after
  · obtain ⟨beyond, rest, rfl, hbeyond⟩ := List.eq_append_cons_of_mem hclosed
    have hfits : (Span.quoted (quotation ++ '#' :: beyond) true).Fits rest.head? := by
      simpa [Span.Fits, hquotation] using hbeyond
    refine ⟨beyond ++ ['"'], rest, by simp, ?_⟩
    have hextend := Reaches.extend (by simpa [Span.text] using hreaches) hfits
      (.inr ⟨_, _, .quoted _ true⟩)
    simpa [Span.text] using hextend
  · have hfits : (Span.quoted (quotation ++ '#' :: after) false).Fits ([] : List Char).head? := by
      simpa [Span.Fits, hquotation] using hclosed
    refine ⟨after, [], by simp, ?_⟩
    have hextend := Reaches.extend (by simpa [Span.text] using hreaches) hfits
      (.inr ⟨_, _, .quoted _ false⟩)
    simpa [Span.text] using hextend

end InQuotation

/-- Scanning stops in front of a hash. -/
def StopsBefore (line : Int) (before after : List Char) : Prop :=
  ∃ fault, (Lexer.scan line 0 [] (before ++ '#' :: after)).1 = .error fault ∧
    fault.position.col ≤ before.length

/-- A span at the front of a line with a hash ends in front of the hash, unless the hash is
part of it. -/
theorem exists_left_of_text {left after remaining : List Char} {span : Span}
    (htext : span.text ++ remaining = left ++ '#' :: after) (hhash : '#' ∉ span.text) :
    ∃ more, left = span.text ++ more ∧ remaining = more ++ '#' :: after := by
  rcases List.append_eq_append_iff.mp htext with ⟨more, hleft, hmore⟩ | ⟨more, hspan, hmore⟩
  · exact ⟨more, hleft, hmore⟩
  · cases more with
    | nil => exact ⟨[], by simpa using hspan.symm, by simpa using hmore.symm⟩
    | cons d more =>
        obtain ⟨rfl, _⟩ := List.cons.inj hmore
        exact absurd (by simp [hspan]) hhash

/-- A span with the first hash of a line in it is a quotation, unless the hash opens it. -/
theorem exists_quotation_of_text {left after remaining : List Char} {span : Span}
    (hfits : span.Fits remaining.head?) (htext : span.text ++ remaining = left ++ '#' :: after)
    (hleft : left ≠ []) (hhash : '#' ∉ left) (hspan : '#' ∈ span.text) :
    ∃ quotation, left = '"' :: quotation ∧ '"' ∉ quotation := by
  obtain ⟨d, quotation, rfl⟩ := List.exists_cons_of_ne_nil hleft
  rw [List.mem_cons, not_or] at hhash
  rcases hfits.comment_or_quoted_or_plain with ⟨body, rfl⟩ | ⟨body, closed, rfl⟩ | hplain
  · exact absurd (List.cons.inj htext).1 hhash.1
  · have hbody : '"' ∉ body := by
      cases closed with
      | true => exact hfits
      | false => exact hfits.1
    obtain ⟨tail, htail⟩ : ∃ tail, (Span.quoted body closed).text ++ remaining =
        '"' :: (body ++ tail) := by
      cases closed with
      | true => exact ⟨'"' :: remaining, by simp [Span.text]⟩
      | false => exact ⟨remaining, rfl⟩
    have hinside : '#' ∈ body := by
      cases closed <;> simpa [Span.text] using hspan
    rw [htail, List.cons_append] at htext
    obtain ⟨rfl, hrest⟩ := List.cons.inj htext
    -- the body and the line have the same first hash
    have hfront : quotation = front body := by
      rw [← front_append_of_mem hinside tail, hrest, front_append_of_not_mem hhash.2]
      simp [front]
    refine ⟨quotation, rfl, fun hmem => hbody ?_⟩
    rw [hfront] at hmem
    exact (List.takeWhile_prefix _).subset hmem
  · exact absurd hspan (hplain '#' (.inl rfl))

/-- One span on the way to the first hash of a line: it is refused, it holds the hash, or it
ends in front of the hash. -/
theorem Reaches.exists_span_to_hash {before left after : List Char}
    (h : Reaches line before (left ++ '#' :: after)) (hleft : left ≠ []) (hhash : '#' ∉ left) :
    StopsBefore line (before ++ left) after ∨ InQuotation line (before ++ left) after ∨
      ∃ passed more, left = passed ++ more ∧ passed ≠ [] ∧
        Reaches line (before ++ passed) (more ++ '#' :: after) := by
  obtain ⟨d, ds, rfl⟩ := List.exists_cons_of_ne_nil hleft
  have hfits := Span.cut_fits d (ds ++ '#' :: after)
  have htext := Span.cut_text d (ds ++ '#' :: after)
  generalize (Span.cut d (ds ++ '#' :: after)).1 = span at hfits htext
  generalize (Span.cut d (ds ++ '#' :: after)).2 = remaining at hfits htext
  rw [← List.cons_append] at htext
  by_cases hspan : '#' ∈ span.text
  · obtain ⟨quotation, hquotation, hplain⟩ :=
      exists_quotation_of_text hfits htext hleft hhash hspan
    rw [hquotation] at h ⊢
    exact .inr (.inl ⟨before, quotation, rfl, hplain, h⟩)
  obtain ⟨more, hmore, rfl⟩ := exists_left_of_text htext hspan
  rw [← htext] at h
  rcases hfits.silent_or_means_or_refused with hsilent | hmeans | ⟨cause, hrefused⟩
  · exact .inr (.inr ⟨_, more, hmore, hfits.text_ne_nil, h.extend hfits (.inl hsilent)⟩)
  · exact .inr (.inr ⟨_, more, hmore, hfits.text_ne_nil, h.extend hfits (.inr hmeans)⟩)
  · obtain ⟨decided, hoffends⟩ := Offends.of_refused hfits hrefused
    have hscan := h.scan_offends hoffends
    rw [htext, ← List.append_assoc] at hscan
    refine .inl ⟨_, hscan, ?_⟩
    simp only [List.length_append, List.length_cons]
    omega

/-- Scanning up to the first hash of a line. -/
theorem Reaches.exists_to_hash {before left after : List Char}
    (h : Reaches line before (left ++ '#' :: after)) (hhash : '#' ∉ left) :
    StopsBefore line (before ++ left) after ∨ InQuotation line (before ++ left) after ∨
      Reaches line (before ++ left) ('#' :: after) := by
  -- each span takes at least one character of what is left
  induction hlength : left.length using Nat.strongRecOn generalizing before left with
  | ind n ih =>
      by_cases hleft : left = []
      · subst hleft
        exact .inr (.inr (by simpa using h))
      · rcases h.exists_span_to_hash hleft hhash with hstops | hquotation | hmore
        · exact .inl hstops
        · exact .inr (.inl hquotation)
        · obtain ⟨passed, more, rfl, hpassed, hreaches⟩ := hmore
          have hpos := List.length_pos_iff.mpr hpassed
          rw [List.length_append] at hlength
          rw [← List.append_assoc]
          exact ih more.length (by omega) hreaches
            (fun hmem => hhash (List.mem_append_right _ hmem)) rfl

/-- A comment starts at the first hash of a line, or scanning stops in front of it, exactly
if the hash is not in a quotation. -/
theorem reaches_or_stopsBefore_iff {before after : List Char} (hhash : '#' ∉ before) :
    Reaches line before ('#' :: after) ∨ StopsBefore line before after ↔
      ¬ InQuotation line before after := by
  constructor
  · rintro (hreaches | ⟨fault, hscan, hcol⟩) hquotation
    · have heven := hreaches.even_count_quote (List.cons_ne_nil _ _) hhash
      exact Nat.not_even_iff_odd.mpr (hquotation.odd_count_quote hhash) heven
    · obtain ⟨beyond, rest, rfl, hbeyond⟩ := hquotation.exists_reaches
      have hlt := hbeyond.lt_col (by simpa using hscan)
      rw [List.length_append] at hlt
      omega
  · intro hquotation
    rcases (Reaches.start line (before ++ '#' :: after)).exists_to_hash hhash with
      hstops | hfound | hreaches
    · exact .inr hstops
    · exact absurd hfound hquotation
    · exact .inl hreaches

end Scanning

section Lines

open Expansion

variable {evaluate : Evaluator} {number : Int} {head text : Text}

/-- What follows the first hash makes no difference to what stands in front of it. -/
theorem expand_comment_iff (hhead : .scalar '#' ∉ head) (body : Text) :
    expand evaluate number (head ++ .scalar '#' :: body) = .ok text ↔
      ∃ more, expand evaluate number head = .ok more ∧ text = more ++ .scalar '#' :: body := by
  obtain ⟨htake, hdrop⟩ := takeWhile_isNot_append hhead (.inr ⟨body, rfl⟩)
  obtain ⟨htakeAll, hdropAll⟩ := takeWhile_isNot_append hhead (.inl rfl)
  rw [List.append_nil] at htakeAll hdropAll
  simp only [expand, htake, hdrop, htakeAll, hdropAll]
  cases expandFrom evaluate number head [] head with
  | error fault => simp [Except.map]
  | ok more => simp [Except.map, eq_comm]

/-- Expansion puts no hash into a line. -/
theorem hash_not_mem_of_expand (hhead : .scalar '#' ∉ head)
    (h : expand evaluate number head = .ok text) : '#' ∉ text.chars := by
  intro hmem
  obtain ⟨s, hs, hchar⟩ := List.mem_map.mp hmem
  rw [Symbol.eq_scalar_of_char hchar (by decide)] at hs
  obtain ⟨more, rfl, hmore⟩ := exists_expands_of_expand h
  rcases List.mem_append.mp hs with hfront | hcomment
  · rcases hmore.mem_or_digit hfront with hkept | ⟨c, hc, heq⟩
    · exact hhead ((List.takeWhile_prefix _).subset hkept)
    · cases heq
      cases hc
  · exact hhead ((List.dropWhile_suffix _).subset hcomment)

/-- Where expansion and scanning place the start of a comment.  On a line without a hash
there is none.  Otherwise expansion takes the first hash for its start, and the scanner does
too, unless it stops in front of the hash or the hash is in a quotation: it then stands behind
an odd number of quotation marks, and is read with what follows it in the quotation. -/
theorem comment_start_iff (evaluate : Evaluator) (number : Int) {line text : Text}
    (h : expand evaluate number line = .ok text) :
    (.scalar '#' ∉ line → ∀ before after, Folded text.chars (before ++ '#' :: after) →
      ¬ Reaches number before ('#' :: after)) ∧
    ∀ head body, line = head ++ .scalar '#' :: body → .scalar '#' ∉ head →
      ∃ more before after, expand evaluate number head = .ok more ∧
        text = more ++ .scalar '#' :: body ∧ Folded more.chars before ∧
        Folded text.chars (before ++ '#' :: after) ∧
        (Reaches number before ('#' :: after) ∨
            (∃ fault, tokenize text.chars number = .error fault ∧
              fault.position.col ≤ before.length) ↔
          ¬ InQuotation number before after) ∧
        (Reaches number before ('#' :: after) → Even (before.count '"')) ∧
        (InQuotation number before after → Odd (before.count '"') ∧
          ∃ beyond rest, after = beyond ++ rest ∧
            Reaches number (before ++ '#' :: beyond) rest) := by
  refine ⟨fun hline before after hfolded _ => ?_, ?_⟩
  · exact hfolded.not_mem (by decide) (hash_not_mem_of_expand hline h) (by simp)
  · rintro head body rfl hhead
    obtain ⟨more, hmore, rfl⟩ := (expand_comment_iff hhead body).mp h
    have hhash := hash_not_mem_of_expand hhead hmore
    obtain ⟨before, after, hall, hbefore, hplain⟩ := exists_folded_hash hhash (Text.chars body)
    have hchars : Text.chars (more ++ .scalar '#' :: body) =
        Text.chars more ++ '#' :: Text.chars body := Text.chars_append _ _
    have htokenize : tokenize (Text.chars (more ++ .scalar '#' :: body)) number =
        (Lexer.scan number 0 [] (before ++ '#' :: after)).1 := by
      rw [hchars, ← hall.eq_foldIndent]
      rfl
    refine ⟨more, before, after, hmore, rfl, hbefore, hchars ▸ hall, ?_, ?_, ?_⟩
    · rw [htokenize]
      exact reaches_or_stopsBefore_iff hplain
    · exact fun hreaches => hreaches.even_count_quote (List.cons_ne_nil _ _) hplain
    · exact fun hquotation =>
        ⟨hquotation.odd_count_quote hplain, hquotation.exists_reaches⟩

/-- An expression in a quotation, and one in a comment behind it. -/
def quotedExpression : Text := .ofString "\"a$(1)\" # $(2)"

theorem quotedExpression_comment_start :
    expand (evaluatorAt Expression.interpret .empty 1) 1 quotedExpression =
        .ok (.ofString "\"a1\" # $(2)") ∧
      ∃ more before after,
        expand (evaluatorAt Expression.interpret .empty 1) 1 (.ofString "\"a$(1)\" ") = .ok more ∧
        Folded more.chars before ∧
        (Reaches 1 before ('#' :: after) ∨
            (∃ fault, tokenize (Text.ofString "\"a1\" # $(2)").chars 1 = .error fault ∧
              fault.position.col ≤ before.length) ↔
          ¬ InQuotation 1 before after) := by
  have hexpand : expand (evaluatorAt Expression.interpret .empty 1) 1 quotedExpression =
      .ok (.ofString "\"a1\" # $(2)") := by decide +kernel
  obtain ⟨more, before, after, hmore, _, hbefore, _, hagree, _⟩ :=
    (comment_start_iff (evaluatorAt Expression.interpret .empty 1) 1 hexpand).2
      (Text.ofString "\"a$(1)\" ")
      (Text.ofString " $(2)") (by decide +kernel) (by decide +kernel)
  exact ⟨hexpand, more, before, after, hmore, hbefore, hagree⟩

/-- A hash in a quotation, and an expression behind it. -/
def quotedHash : Text := .ofString "\"#\" $(1)"

/-- The scanner does not always take the hash for the start of a comment: it reads it in the
quotation, and comes to the expression that has been left as it is. -/
theorem quotedHash_disagrees :
    expand (evaluatorAt Expression.interpret .empty 1) 1 quotedHash = .ok quotedHash ∧
      quotedHash = .scalar '"' :: .scalar '#' :: Text.ofString "\" $(1)" ∧
      Folded quotedHash.chars ('"' :: '#' :: "\" $(1)".toList) ∧
      ¬ Reaches 1 ['"'] ('#' :: "\" $(1)".toList) ∧
      tokenize quotedHash.chars 1 = .error ⟨.illegalCharacter '$', ⟨1, 5⟩⟩ := by
  refine ⟨by decide +kernel, by decide +kernel, .none (by decide +kernel), ?_, by decide +kernel⟩
  intro hreaches
  have heven := hreaches.even_count_quote (List.cons_ne_nil _ _) (by decide)
  exact absurd heven (by decide)

end Lines

end ToyRisc
