/-
Where lexing fails.  The fault names the first thing that offends: the characters
in front of it lex by themselves, and no character behind it has a say.
-/
import ToyRisc.Proofs.Lexing

namespace ToyRisc

theorem Maximal.at_end {p : Char → Bool} {run : List Char} {next : Option Char}
    (h : Maximal p run next) : Maximal p run none where
  inside := h.inside
  boundary := by
    intro c hc
    cases hc

namespace Span

/-- A span that fits somewhere also fits at the end of a line. -/
theorem Fits.at_end {span : Span} {next : Option Char} (h : span.Fits next) :
    span.Fits none := by
  cases span with
  | comment body => exact Maximal.at_end h
  | register letter digits => exact ⟨h.1, h.2.1, h.2.2.at_end⟩
  | word chars colon =>
      cases colon with
      | true => exact h
      | false =>
          obtain ⟨hchars, hrun, _, _⟩ := h
          refine ⟨hchars, hrun.at_end, nofun, ?_⟩
          intro letter _ _ d hd
          cases hd
  | number digits => exact ⟨h.1, h.2.at_end⟩
  | directive name => exact Maximal.at_end h
  | quoted body closed =>
      cases closed with
      | true => exact h
      | false => exact ⟨h.1, rfl⟩
  | _ => exact h

end Span

/-- The passed spans stand in front of any other rest before which the last one of them
fits. -/
theorem Cuts.of_last_fits {c rest other : List Char} {spans : List Span} (h : Cuts c spans rest)
    (hlast : ∀ span, spans.getLast? = some span → span.Fits rest.head? → span.Fits other.head?) :
    Cuts (textOf spans ++ other) spans other := by
  induction h with
  | nil rest => exact .nil other
  | @cons span spans remaining rest hfits htail ih =>
      have htext : textOf (span :: spans) ++ other = span.text ++ (textOf spans ++ other) := by
        simp [textOf]
      rw [htext]
      cases htail with
      | nil => exact .cons (hlast span rfl hfits) (.nil other)
      | @cons next more behind _ hnext hmore =>
          -- a span sees no more of what follows than its first character
          have hhead : ∀ tail, (next.text ++ tail).head? = next.text.head? := by
            intro tail
            rw [List.head?_append, List.head?_eq_some_head hnext.text_ne_nil]
            rfl
          have hsame : (textOf (next :: more) ++ other).head? = (next.text ++ behind).head? := by
            rw [textOf, List.flatMap_cons, List.append_assoc, hhead, hhead]
          rw [← hsame] at hfits
          exact .cons hfits (ih hlast)

/-- The passed spans stand in front of any other rest as well, as long as it starts
with the same character or with none. -/
theorem Cuts.transfer {c rest other : List Char} {spans : List Span} (h : Cuts c spans rest)
    (hother : other.head? = rest.head? ∨ other = []) :
    Cuts (textOf spans ++ other) spans other := by
  apply h.of_last_fits
  intro span _ hfits
  rcases hother with hsame | rfl
  · rw [hsame]
    exact hfits
  · exact hfits.at_end

/-- `Reaches line before rest`: scanning comes to `rest` at the start of a span and
has read everything before it. -/
def Reaches (line : Int) (before rest : List Char) : Prop :=
  ∃ spans tokens, Cuts (before ++ rest) spans rest ∧ Images line 0 spans tokens

namespace Reaches

variable {line : Int} {before rest : List Char}

theorem transfer (h : Reaches line before rest) {other : List Char}
    (hother : other.head? = rest.head? ∨ other = []) : Reaches line before other := by
  obtain ⟨spans, tokens, hcuts, himages⟩ := h
  have hbefore : textOf spans = before := List.append_cancel_right hcuts.text_append
  have htransfer := hcuts.transfer hother
  rw [hbefore] at htransfer
  exact ⟨spans, tokens, htransfer, himages⟩

/-- What has been read lexes by itself. -/
theorem scan_before (h : Reaches line before rest) :
    ∃ tokens, (Lexer.scan line 0 [] before).1 = .ok tokens := by
  obtain ⟨spans, tokens, hcuts, himages⟩ := h.transfer (.inr rfl)
  rw [List.append_nil] at hcuts
  exact ⟨tokens, hcuts.scan_nil himages⟩

theorem scan_offends (h : Reaches line before rest) {cause : Cause} {decided : Nat}
    (hoffends : Offends rest cause decided) :
    (Lexer.scan line 0 [] (before ++ rest)).1 =
      .error ⟨cause, ⟨line, before.length + 1⟩⟩ := by
  obtain ⟨spans, tokens, hcuts, himages⟩ := h
  have hbefore : textOf spans = before := List.append_cancel_right hcuts.text_append
  rw [hcuts.scan_offends himages hoffends, hbefore]

end Reaches

/-- Lists that agree on a front and on one more place. -/
theorem exists_eq_append_of_take_eq (front rest : List Char) {other : List Char}
    (h : other.take (front.length + 1) = (front ++ rest).take (front.length + 1)) :
    ∃ remaining, other = front ++ remaining ∧ remaining.head? = rest.head? := by
  have hfront : other.take front.length = front := by
    have htake := congrArg (List.take front.length) h
    simpa [List.take_take] using htake
  have hnext : other[front.length]? = rest.head? := by
    have hget := congrArg (fun l : List Char => l[front.length]?) h
    simp only [List.getElem?_take, Nat.lt_succ_self, if_true] at hget
    rw [hget, List.getElem?_append_right (Nat.le_refl _), Nat.sub_self,
      List.head?_eq_getElem?]
  refine ⟨other.drop front.length, ?_, ?_⟩
  · conv => lhs; rw [← List.take_append_drop front.length other, hfront]
  · rw [List.head?_drop, hnext]

namespace Offends

variable {chars other : List Char} {cause : Cause} {decided : Nat}

theorem decided_pos (h : Offends chars cause decided) : 0 < decided := by
  cases h <;> omega

theorem chars_ne_nil (h : Offends chars cause decided) : chars ≠ [] := by
  cases h <;> simp

theorem kind (h : Offends chars cause decided) :
    cause.kind = .illegalCharacter ∨ cause.kind = .invalidRegister := by
  cases h with
  | foreign rest hc => exact .inl rfl
  | register rest hletter hdigits hvalue => exact .inr rfl

/-- Nothing behind the deciding characters matters. -/
theorem of_take_eq (h : Offends chars cause decided)
    (hother : other.take decided = chars.take decided) : Offends other cause decided := by
  cases h with
  | @foreign c rest hc =>
      obtain ⟨remaining, rfl, hnext⟩ :=
        exists_eq_append_of_take_eq [] (c :: rest) hother
      obtain ⟨tail, rfl⟩ := List.head?_eq_some_iff.mp hnext
      exact .foreign tail hc
  | @register letter digits rest hletter hdigits hvalue =>
      obtain ⟨remaining, rfl, hnext⟩ :=
        exists_eq_append_of_take_eq (letter :: digits) rest hother
      rw [← hnext] at hdigits
      exact .register remaining hletter hdigits hvalue

end Offends

/-- A fault that lexing reports behind `passed` characters of `c`, where it has to:
what stands there offends, and what stands before it lexes by itself. -/
structure FaultAt (line : Int) (c : List Char) (passed : Nat) (fault : Fault) : Prop where
  kind : fault.kind = .illegalCharacter ∨ fault.kind = .invalidRegister
  position : fault.position = ⟨line, passed + 1⟩
  within : passed < c.length
  reached : Reaches line (c.take passed) (c.drop passed)
  offends : ∃ decided, Offends (c.drop passed) fault.cause decided
  earliest : ∃ tokens, (Lexer.scan line 0 [] (c.take passed)).1 = .ok tokens

theorem exists_faultAt_of_scan {line : Int} {c : List Char} {fault : Fault}
    (h : (Lexer.scan line 0 [] c).1 = .error fault) :
    ∃ passed, FaultAt line c passed fault := by
  obtain ⟨spans, rest, tokens, hcuts, himages, hend⟩ := exists_cuts line c 0
  rcases hend with rfl | ⟨cause, decided, hoffends⟩
  · rw [hcuts.scan_nil himages] at h
    cases h
  · rw [hcuts.scan_offends himages hoffends] at h
    cases h
    have hc := hcuts.text_append
    have hreaches : Reaches line (textOf spans) rest :=
      ⟨spans, tokens, by rw [hc]; exact hcuts, himages⟩
    have htake : c.take (textOf spans).length = textOf spans := by simp [← hc]
    have hdrop : c.drop (textOf spans).length = rest := by simp [← hc]
    refine ⟨(textOf spans).length, hoffends.kind, rfl, ?_, ?_, ?_, ?_⟩
    · have hpos := List.length_pos_iff.mpr hoffends.chars_ne_nil
      rw [← hc, List.length_append]
      omega
    · rw [htake, hdrop]
      exact hreaches
    · rw [hdrop]
      exact ⟨decided, hoffends⟩
    · rw [htake]
      exact hreaches.scan_before

/-- A line that agrees with `c` on the deciding characters fails in the same way. -/
theorem Reaches.scan_of_take_eq {line : Int} {c other : List Char} {passed decided : Nat}
    {cause : Cause} (hreaches : Reaches line (c.take passed) (c.drop passed))
    (hoffends : Offends (c.drop passed) cause decided)
    (hother : other.take (passed + decided) = c.take (passed + decided)) :
    (Lexer.scan line 0 [] other).1 = .error ⟨cause, ⟨line, passed + 1⟩⟩ := by
  have hfront : other.take passed = c.take passed := by
    have htake := congrArg (List.take passed) hother
    simpa [List.take_take] using htake
  have hrest : (other.drop passed).take decided = (c.drop passed).take decided := by
    rw [List.take_drop, List.take_drop, hother]
  have hnext : (other.drop passed).head? = (c.drop passed).head? := by
    have hhead := congrArg List.head? hrest
    have hdecided := Nat.ne_zero_of_lt hoffends.decided_pos
    rw [List.head?_take, List.head?_take, if_neg hdecided, if_neg hdecided] at hhead
    exact hhead
  have hlength : (c.take passed).length = passed := by
    have hwithin := List.length_pos_iff.mpr hoffends.chars_ne_nil
    rw [List.length_drop] at hwithin
    rw [List.length_take]
    omega
  have hscan := (hreaches.transfer (.inl hnext)).scan_offends (hoffends.of_take_eq hrest)
  rw [← hfront, List.take_append_drop, hfront, hlength] at hscan
  exact hscan

/-- Lexing fails only at something that offends, and at the first such place;
conversely it fails wherever it reaches something that offends, whatever follows
the characters that decide it. -/
theorem tokenize_fails_exactly (text : Text) (line : Int) {c : List Char}
    (hfolded : Folded text.chars c) :
    (∀ fault, tokenize text.chars line = .error fault →
        ∃ passed, FaultAt line c passed fault) ∧
      ∀ passed cause decided, Reaches line (c.take passed) (c.drop passed) →
        Offends (c.drop passed) cause decided →
          tokenize text.chars line = .error ⟨cause, ⟨line, passed + 1⟩⟩ ∧
            ∀ other : List Char, other.take (passed + decided) = c.take (passed + decided) →
              (Lexer.scan line 0 [] other).1 = .error ⟨cause, ⟨line, passed + 1⟩⟩ := by
  have htokenize : tokenize text.chars line = (Lexer.scan line 0 [] c).1 := by
    rw [← hfolded.eq_foldIndent]
    rfl
  rw [htokenize]
  refine ⟨fun fault h => exists_faultAt_of_scan h, ?_⟩
  intro passed cause decided hreaches hoffends
  exact ⟨hreaches.scan_of_take_eq hoffends rfl,
    fun other hother => hreaches.scan_of_take_eq hoffends hother⟩

/-- Of a register and a sign that are both refused, the register stands first. -/
def wideRegister : Text := .ofString "    add x2147483648, x1, -1"

theorem wideRegister_fails_exactly :
    Folded wideRegister.chars "\tadd x2147483648, x1, -1".toList ∧
      ∃ passed, FaultAt 4 "\tadd x2147483648, x1, -1".toList passed
        ⟨.registerName "x2147483648", ⟨4, 6⟩⟩ := by
  have hfolded : Folded wideRegister.chars "\tadd x2147483648, x1, -1".toList :=
    .first [] "add x2147483648, x1, -1".toList (by decide)
  exact ⟨hfolded, (tokenize_fails_exactly wideRegister 4 hfolded).1 _ (by decide +kernel)⟩

end ToyRisc
