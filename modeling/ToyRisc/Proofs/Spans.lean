/-
The grammar of spans.  Whether a span can stand at some place is a matter of its
own characters and of the one that follows it.  Exactly one span can stand at the
front of a line, and it is the one the scanner cuts off.
-/
import ToyRisc.Line.Span

namespace ToyRisc

/-- A run of characters of one class that cannot go on: the next character, if
there is one, does not belong to the class. -/
structure Maximal (p : Char → Bool) (run : List Char) (next : Option Char) : Prop where
  inside : ∀ c ∈ run, p c = true
  boundary : ∀ c, next = some c → p c = false

namespace Maximal

variable {p : Char → Bool} {run rest : List Char}

theorem of_takeWhile (p : Char → Bool) (cs : List Char) :
    Maximal p (cs.takeWhile p) (cs.dropWhile p).head? where
  inside := by
    intro c hc
    exact List.all_eq_true.mp List.all_takeWhile c hc
  boundary := by
    intro c hc
    have hhead := List.head?_dropWhile_not p cs
    rw [hc] at hhead
    exact hhead

/-- A run up to the next `q`, or to the end. -/
theorem of_not_mem {q : Char} {next : Option Char} (hrun : q ∉ run)
    (hnext : next = none ∨ next = some q) : Maximal (· != q) run next where
  inside := by
    intro c hc
    exact bne_iff_ne.mpr (ne_of_mem_of_not_mem hc hrun)
  boundary := by
    intro c hc
    rw [hc] at hnext
    rcases hnext with hnext | hnext
    · cases hnext
    · cases hnext
      exact bne_self_eq_false q

theorem cons {c : Char} {next : Option Char} (hc : p c = true) (h : Maximal p run next) :
    Maximal p (c :: run) next where
  inside := by
    intro d hd
    rcases List.mem_cons.mp hd with rfl | hd
    · exact hc
    · exact h.inside d hd
  boundary := h.boundary

theorem tail {c : Char} {next : Option Char} (h : Maximal p (c :: run) next) :
    Maximal p run next where
  inside := fun d hd => h.inside d (List.mem_cons_of_mem c hd)
  boundary := h.boundary

theorem takeWhile_append (h : Maximal p run rest.head?) : (run ++ rest).takeWhile p = run := by
  rw [List.takeWhile_append_of_pos h.inside]
  cases rest with
  | nil => simp
  | cons c cs => simp [h.boundary c rfl]

theorem dropWhile_append (h : Maximal p run rest.head?) : (run ++ rest).dropWhile p = rest := by
  rw [List.dropWhile_append_of_pos h.inside]
  cases rest with
  | nil => rfl
  | cons c cs => simp [h.boundary c rfl]

end Maximal

/-- The letters that numbered registers are named with. -/
def registerLetters : List Char := ['x', 't', 's', 'a']

/-- A character that starts no span. -/
structure IsForeign (c : Char) : Prop where
  mark : c ∉ [' ', '\n', '\t', ',', '(', ')', '.', '"', '#', '_']
  letter : c.isAlpha = false
  digit : c.isDigit = false

theorem isWordChar_eq (c : Char) : isWordChar c = (c.isAlpha || c == '_') := by
  have halpha : c.isAlpha = (c.isUpper || c.isLower) := rfl
  have hupper : c.isUpper = (decide ('A' ≤ c) && decide (c ≤ 'Z')) := Bool.decide_and _ _
  have hlower : c.isLower = (decide ('a' ≤ c) && decide (c ≤ 'z')) := rfl
  rw [isWordChar, halpha, hupper, hlower, Bool.or_comm (decide ('a' ≤ c) && _)]

theorem isRegisterLetter_iff (c : Char) : isRegisterLetter c = true ↔ c ∈ registerLetters := by
  unfold isRegisterLetter registerBase? registerLetters
  split <;> simp_all

/-- Characters differ where a class holds one of them only. -/
theorem ne_of_class {p : Char → Bool} {c d : Char} (hc : p c = true) (hd : p d = false) :
    c ≠ d := by
  rintro rfl
  rw [hc] at hd
  cases hd

theorem not_isWordChar_of_isDigit {c : Char} (hc : c.isDigit = true) : isWordChar c = false := by
  have hne : c ≠ '_' := ne_of_class hc (by decide)
  simp only [Char.isDigit, ge_iff_le, Bool.and_eq_true, decide_eq_true_eq,
    UInt32.le_iff_toNat_le] at hc
  simp only [isWordChar, Char.le_def, UInt32.le_iff_toNat_le, Bool.or_eq_false_iff,
    Bool.and_eq_false_iff, decide_eq_false_iff_not, beq_eq_false_iff_ne]
  refine ⟨⟨.inl ?_, .inl ?_⟩, hne⟩
  · have hbelow : '9'.val.toNat < 'a'.val.toNat := by decide
    omega
  · have hbelow : '9'.val.toNat < 'A'.val.toNat := by decide
    omega

theorem isWordChar_of_mem_registerLetters {c : Char} (hc : c ∈ registerLetters) :
    isWordChar c = true := by
  simp only [registerLetters, List.mem_cons, List.not_mem_nil, or_false] at hc
  rcases hc with rfl | rfl | rfl | rfl <;> decide

namespace Span

/-- Whether a span can stand in front of a given character, or at the end of the
line. -/
def Fits : Span → Option Char → Prop
  | blank c, _ => c = ' ' ∨ c = '\n'
  | comment body, next => Maximal (· != '\n') body next
  | tab, _ => True
  | comma, _ => True
  | openParen, _ => True
  | closeParen, _ => True
  | register letter digits, next =>
      letter ∈ registerLetters ∧ digits ≠ [] ∧ Maximal Char.isDigit digits next
  | word chars true, _ => chars ≠ [] ∧ ∀ c ∈ chars, isWordChar c = true
  | word chars false, next =>
      chars ≠ [] ∧ Maximal isWordChar chars next ∧ next ≠ some ':' ∧
        -- a register letter directly before a digit is no word
        ∀ letter ∈ registerLetters, chars = [letter] → ∀ d, next = some d → d.isDigit = false
  | number digits, next => digits ≠ [] ∧ Maximal Char.isDigit digits next
  | directive name, next => Maximal isWordChar name next
  | quoted body true, _ => '"' ∉ body
  | quoted body false, next => '"' ∉ body ∧ next = none
  | illegal c, _ => IsForeign c

theorem cut_of_isWordChar {c : Char} (cs : List Char) (hc : isWordChar c = true) :
    cut c cs =
      if isRegisterLetter c && startsWithDigit cs then
        (.register c (cs.takeWhile Char.isDigit), cs.dropWhile Char.isDigit)
      else cutWord c cs := by
  have hne : ∀ d, isWordChar d = false → (c == d) = false := by
    intro d hd
    exact beq_eq_false_iff_ne.mpr (ne_of_class hc hd)
  unfold cut
  rw [hne ' ' (by decide), hne '\n' (by decide), hne '\t' (by decide), hne ',' (by decide),
    hne '(' (by decide), hne ')' (by decide), hc]
  rfl

theorem cut_of_isDigit {c : Char} (cs : List Char) (hc : c.isDigit = true) :
    cut c cs = (.number (c :: cs.takeWhile Char.isDigit), cs.dropWhile Char.isDigit) := by
  have hne : ∀ d, Char.isDigit d = false → (c == d) = false := by
    intro d hd
    exact beq_eq_false_iff_ne.mpr (ne_of_class hc hd)
  unfold cut
  rw [hne ' ' (by decide), hne '\n' (by decide), hne '\t' (by decide), hne ',' (by decide),
    hne '(' (by decide), hne ')' (by decide), not_isWordChar_of_isDigit hc, hc]
  rfl

theorem cut_of_isForeign {c : Char} (cs : List Char) (hc : IsForeign c) :
    cut c cs = (.illegal c, cs) := by
  have hne : ∀ d ∈ [' ', '\n', '\t', ',', '(', ')', '.', '"', '#', '_'], (c == d) = false := by
    intro d hd
    exact beq_eq_false_iff_ne.mpr (ne_of_mem_of_not_mem hd hc.mark).symm
  have hword : isWordChar c = false := by
    rw [isWordChar_eq, hc.letter, hne '_' (by simp), Bool.or_false]
  unfold cut
  rw [hne ' ' (by simp), hne '\n' (by simp), hne '\t' (by simp), hne ',' (by simp),
    hne '(' (by simp), hne ')' (by simp), hword, hc.digit, hne '.' (by simp), hne '"' (by simp),
    hne '#' (by simp)]
  rfl

theorem takeWhile_ne_nil_of_startsWithDigit {cs : List Char} (h : startsWithDigit cs = true) :
    cs.takeWhile Char.isDigit ≠ [] := by
  cases cs with
  | nil => cases h
  | cons d ds =>
      have hd : d.isDigit = true := h
      simp [hd]

theorem startsWithDigit_eq_false_iff (cs : List Char) :
    startsWithDigit cs = false ↔ ∀ d, cs.head? = some d → d.isDigit = false := by
  cases cs with
  | nil => simp [startsWithDigit]
  | cons d ds => simp [startsWithDigit]

theorem cutWord_fits {c : Char} {cs : List Char} (hc : isWordChar c = true)
    (hregister : ¬ (isRegisterLetter c && startsWithDigit cs) = true) :
    (cutWord c cs).1.Fits (cutWord c cs).2.head? := by
  have hrun := (Maximal.of_takeWhile isWordChar cs).cons hc
  unfold cutWord
  split
  · exact ⟨List.cons_ne_nil _ _, hrun.inside⟩
  · rename_i hcolon
    refine ⟨List.cons_ne_nil _ _, hrun, ?_, ?_⟩
    · intro hnext
      obtain ⟨rest, hrest⟩ := List.head?_eq_some_iff.mp hnext
      exact hcolon rest hrest
    · intro letter hletter hchars
      obtain ⟨rfl, htake⟩ := List.cons.inj hchars
      have hcs := List.takeWhile_append_dropWhile (p := isWordChar) (l := cs)
      rw [htake, List.nil_append] at hcs
      rw [(isRegisterLetter_iff c).mpr hletter, Bool.true_and, Bool.not_eq_true] at hregister
      rw [hcs]
      exact (startsWithDigit_eq_false_iff cs).mp hregister

theorem cutQuoted_fits (cs : List Char) : (cutQuoted cs).1.Fits (cutQuoted cs).2.head? := by
  have hrun := Maximal.of_takeWhile (· != '"') cs
  have hbody : '"' ∉ cs.takeWhile (· != '"') := by
    intro hmem
    exact absurd (hrun.inside '"' hmem) (by decide)
  unfold cutQuoted
  split
  · exact ⟨hbody, rfl⟩
  · exact hbody

/-- The span that is cut off fits before what remains. -/
theorem cut_fits (c : Char) (cs : List Char) : (cut c cs).1.Fits (cut c cs).2.head? := by
  cases hword : isWordChar c with
  | true =>
      rw [cut_of_isWordChar cs hword]
      split
      · rename_i hregister
        rw [Bool.and_eq_true] at hregister
        exact ⟨(isRegisterLetter_iff c).mp hregister.1,
          takeWhile_ne_nil_of_startsWithDigit hregister.2, .of_takeWhile _ cs⟩
      · rename_i hregister
        exact cutWord_fits hword hregister
  | false =>
      cases hdigit : c.isDigit with
      | true =>
          rw [cut_of_isDigit cs hdigit]
          exact ⟨List.cons_ne_nil _ _, (Maximal.of_takeWhile Char.isDigit cs).cons hdigit⟩
      | false =>
          rw [isWordChar_eq, Bool.or_eq_false_iff] at hword
          by_cases hmark : c ∈ [' ', '\n', '\t', ',', '(', ')', '.', '"', '#', '_']
          · simp only [List.mem_cons, List.not_mem_nil, or_false] at hmark
            rcases hmark with rfl | rfl | rfl | rfl | rfl | rfl | rfl | rfl | rfl | rfl
            · exact .inl rfl
            · exact .inr rfl
            · trivial
            · trivial
            · trivial
            · trivial
            · exact .of_takeWhile _ cs
            · exact cutQuoted_fits cs
            · exact .of_takeWhile _ cs
            · cases hword.2
          · have hforeign : IsForeign c := ⟨hmark, hword.1, hdigit⟩
            rw [cut_of_isForeign cs hforeign]
            exact hforeign

theorem startsWithDigit_append_of_word {more : List Char} (rest : List Char)
    (hmore : ∀ d ∈ more, isWordChar d = true) (hne : more ≠ []) :
    startsWithDigit (more ++ rest) = false := by
  cases more with
  | nil => exact absurd rfl hne
  | cons d ds =>
      have hd := hmore d List.mem_cons_self
      cases hdigit : d.isDigit with
      | false => exact hdigit
      | true =>
          rw [not_isWordChar_of_isDigit hdigit] at hd
          cases hd

theorem cutWord_append_colon {c : Char} {more : List Char} (rest : List Char)
    (hmore : ∀ d ∈ more, isWordChar d = true) :
    cutWord c (more ++ ':' :: rest) = (.word (c :: more) true, rest) := by
  have hrun : Maximal isWordChar more (':' :: rest).head? := by
    refine ⟨hmore, ?_⟩
    rintro d ⟨⟩
    decide
  simp only [cutWord, hrun.takeWhile_append, hrun.dropWhile_append]

theorem cutWord_append {c : Char} {more rest : List Char}
    (hrun : Maximal isWordChar more rest.head?) (hcolon : rest.head? ≠ some ':') :
    cutWord c (more ++ rest) = (.word (c :: more) false, rest) := by
  simp only [cutWord, hrun.takeWhile_append, hrun.dropWhile_append]
  split
  · simp at hcolon
  · rfl

theorem cutQuoted_append_quote {body : List Char} (rest : List Char) (hbody : '"' ∉ body) :
    cutQuoted (body ++ '"' :: rest) = (.quoted body true, rest) := by
  have hrun : Maximal (· != '"') body ('"' :: rest).head? := .of_not_mem hbody (.inr rfl)
  simp only [cutQuoted, hrun.takeWhile_append, hrun.dropWhile_append]

theorem cutQuoted_of_not_mem {body : List Char} (hbody : '"' ∉ body) :
    cutQuoted (body ++ []) = (.quoted body false, []) := by
  have hrun : Maximal (· != '"') body [].head? := .of_not_mem hbody (.inl rfl)
  simp only [cutQuoted, hrun.takeWhile_append, hrun.dropWhile_append]

theorem cut_comment {body rest : List Char} (hrun : Maximal (· != '\n') body rest.head?) :
    cut '#' (body ++ rest) = (.comment body, rest) := by
  change (Span.comment _, _) = _
  rw [hrun.takeWhile_append, hrun.dropWhile_append]

theorem cut_directive {name rest : List Char} (hrun : Maximal isWordChar name rest.head?) :
    cut '.' (name ++ rest) = (.directive name, rest) := by
  change (Span.directive _, _) = _
  rw [hrun.takeWhile_append, hrun.dropWhile_append]

theorem cut_number {c : Char} {ds rest : List Char}
    (hrun : Maximal Char.isDigit (c :: ds) rest.head?) :
    cut c (ds ++ rest) = (.number (c :: ds), rest) := by
  rw [cut_of_isDigit _ (hrun.inside c List.mem_cons_self), hrun.tail.takeWhile_append,
    hrun.tail.dropWhile_append]

theorem cut_register {letter : Char} {digits rest : List Char} (hletter : letter ∈ registerLetters)
    (hdigits : digits ≠ []) (hrun : Maximal Char.isDigit digits rest.head?) :
    cut letter (digits ++ rest) = (.register letter digits, rest) := by
  have hstart : startsWithDigit (digits ++ rest) = true := by
    cases digits with
    | nil => exact absurd rfl hdigits
    | cons d ds => exact hrun.inside d List.mem_cons_self
  rw [cut_of_isWordChar _ (isWordChar_of_mem_registerLetters hletter),
    (isRegisterLetter_iff letter).mpr hletter, hstart, hrun.takeWhile_append,
    hrun.dropWhile_append]
  rfl

theorem cut_label {c : Char} {more : List Char} (rest : List Char)
    (hchars : ∀ d ∈ c :: more, isWordChar d = true) :
    cut c (more ++ ':' :: rest) = (.word (c :: more) true, rest) := by
  have hmore : ∀ d ∈ more, isWordChar d = true :=
    fun d hd => hchars d (List.mem_cons_of_mem c hd)
  have hstart : startsWithDigit (more ++ ':' :: rest) = false := by
    cases more with
    | nil => rfl
    | cons d ds => exact startsWithDigit_append_of_word _ hmore (List.cons_ne_nil d ds)
  rw [cut_of_isWordChar _ (hchars c List.mem_cons_self), hstart, Bool.and_false]
  exact cutWord_append_colon rest hmore

theorem cut_word {c : Char} {more rest : List Char}
    (hrun : Maximal isWordChar (c :: more) rest.head?) (hcolon : rest.head? ≠ some ':')
    (hregister : ∀ letter ∈ registerLetters, c :: more = [letter] →
      ∀ d, rest.head? = some d → d.isDigit = false) :
    cut c (more ++ rest) = (.word (c :: more) false, rest) := by
  have hstart : (isRegisterLetter c && startsWithDigit (more ++ rest)) = false := by
    cases hletter : isRegisterLetter c with
    | false => rfl
    | true =>
        cases more with
        | nil =>
            have hmem := (isRegisterLetter_iff c).mp hletter
            exact (startsWithDigit_eq_false_iff rest).mpr (hregister c hmem rfl)
        | cons d ds =>
            exact startsWithDigit_append_of_word rest hrun.tail.inside (List.cons_ne_nil d ds)
  rw [cut_of_isWordChar _ (hrun.inside c List.mem_cons_self), hstart]
  exact cutWord_append hrun.tail hcolon

/-- Only one span can stand at the front of a line: whatever fits is what is cut
off. -/
theorem cut_eq_of_fits {span : Span} {c : Char} {cs rest : List Char}
    (hfits : span.Fits rest.head?) (htext : span.text ++ rest = c :: cs) :
    cut c cs = (span, rest) := by
  cases span with
  | blank d =>
      simp only [text, List.cons_append, List.nil_append, List.cons.injEq] at htext
      obtain ⟨rfl, rfl⟩ := htext
      rcases hfits with rfl | rfl <;> rfl
  | comment body =>
      simp only [text, List.cons_append, List.cons.injEq] at htext
      obtain ⟨rfl, rfl⟩ := htext
      exact cut_comment hfits
  | tab | comma | openParen | closeParen =>
      simp only [text, List.cons_append, List.nil_append, List.cons.injEq] at htext
      obtain ⟨rfl, rfl⟩ := htext
      rfl
  | register letter digits =>
      simp only [text, List.cons_append, List.cons.injEq] at htext
      obtain ⟨rfl, rfl⟩ := htext
      exact cut_register hfits.1 hfits.2.1 hfits.2.2
  | word chars colon =>
      cases chars with
      | nil => cases colon <;> exact absurd rfl hfits.1
      | cons d more =>
          cases colon with
          | true =>
              simp only [text, if_true, List.cons_append, List.append_assoc, List.nil_append,
                List.cons.injEq] at htext
              obtain ⟨rfl, rfl⟩ := htext
              exact cut_label rest hfits.2
          | false =>
              simp only [text, Bool.false_eq_true, if_false, List.cons_append,
                List.cons.injEq] at htext
              obtain ⟨rfl, rfl⟩ := htext
              obtain ⟨_, hrun, hcolon, hregister⟩ := hfits
              exact cut_word hrun hcolon hregister
  | number digits =>
      obtain ⟨hdigits, hrun⟩ := hfits
      cases digits with
      | nil => exact absurd rfl hdigits
      | cons d ds =>
          simp only [text, List.cons_append, List.cons.injEq] at htext
          obtain ⟨rfl, rfl⟩ := htext
          exact cut_number hrun
  | directive name =>
      simp only [text, List.cons_append, List.cons.injEq] at htext
      obtain ⟨rfl, rfl⟩ := htext
      exact cut_directive hfits
  | quoted body closed =>
      cases closed with
      | true =>
          simp only [text, if_true, List.cons_append, List.append_assoc, List.nil_append,
            List.cons.injEq] at htext
          obtain ⟨rfl, rfl⟩ := htext
          exact cutQuoted_append_quote rest hfits
      | false =>
          simp only [text, Bool.false_eq_true, if_false, List.cons_append,
            List.cons.injEq] at htext
          obtain ⟨rfl, rfl⟩ := htext
          obtain rfl := List.head?_eq_none_iff.mp hfits.2
          exact cutQuoted_of_not_mem hfits.1
  | illegal d =>
      simp only [text, List.cons_append, List.nil_append, List.cons.injEq] at htext
      obtain ⟨rfl, rfl⟩ := htext
      exact cut_of_isForeign _ hfits

/-- A span that fits somewhere covers at least one character. -/
theorem Fits.text_ne_nil {span : Span} {next : Option Char} (hfits : span.Fits next) :
    span.text ≠ [] := by
  cases span with
  | word chars colon =>
      cases colon with
      | true => simp [text]
      | false => simpa [text] using hfits.1
  | number digits => exact hfits.1
  | _ => simp [text]

theorem Fits.word_ne_nil {chars : List Char} {colon : Bool} {next : Option Char}
    (hfits : (Span.word chars colon).Fits next) : chars ≠ [] := by
  cases colon with
  | true => exact hfits.1
  | false => exact hfits.1

theorem Fits.isWordChar_of_word {chars : List Char} {colon : Bool} {next : Option Char}
    (hfits : (Span.word chars colon).Fits next) : ∀ c ∈ chars, isWordChar c = true := by
  cases colon with
  | true => exact hfits.2
  | false => exact hfits.2.1.inside

/-- A word fits before what cannot go on with it, whatever letter it starts with. -/
theorem fits_word {chars : List Char} {next : Option Char} (hne : chars ≠ [])
    (hchars : ∀ c ∈ chars, isWordChar c = true)
    (hnext : ∀ c, next = some c → isWordChar c = false ∧ c.isDigit = false ∧ c ≠ ':') :
    (Span.word chars false).Fits next := by
  refine ⟨hne, ⟨hchars, fun c hc => (hnext c hc).1⟩, ?_, ?_⟩
  · intro hcolon
    exact (hnext ':' hcolon).2.2 rfl
  · intro letter _ _ d hd
    exact (hnext d hd).2.1

/-- A line reads in one way: spans that fit at its front are the same. -/
theorem eq_of_fits {left right : Span} {leftRest rightRest : List Char}
    (hleft : left.Fits leftRest.head?) (hright : right.Fits rightRest.head?)
    (htext : left.text ++ leftRest = right.text ++ rightRest) :
    left = right ∧ leftRest = rightRest := by
  cases hline : left.text ++ leftRest with
  | nil => exact absurd (List.append_eq_nil_iff.mp hline).1 hleft.text_ne_nil
  | cons c cs =>
      have hcut := cut_eq_of_fits hleft hline
      rw [cut_eq_of_fits hright (htext ▸ hline)] at hcut
      cases hcut
      exact ⟨rfl, rfl⟩

end Span

end ToyRisc
