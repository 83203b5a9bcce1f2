/-
Calling a lexer over and over.  A call that meets a register out of range leaves the lexer
behind it, and the next call goes on from there; a call that meets an illegal character
leaves the lexer in front of it, for ever; and at the end of the line nothing is left to
read.  No character of the line is read by two calls.
-/
import ToyRisc.Proofs.Lexing

namespace ToyRisc

namespace Lexer

/-- The lexer after so many calls. -/
def again (lexer : Lexer) : Nat → Lexer
  | 0 => lexer
  | n + 1 => (lexer.again n).lex.2

/-- What a call returns that comes behind `n` others. -/
def answer (lexer : Lexer) (n : Nat) : Except Fault (List Token) := (lexer.again n).lex.1

theorem again_lex (lexer : Lexer) (n : Nat) : lexer.lex.2.again n = lexer.again (n + 1) := by
  induction n with
  | zero => rfl
  | succ n ih =>
      rw [again, ih]
      rfl

theorem answer_lex (lexer : Lexer) (n : Nat) : lexer.lex.2.answer n = lexer.answer (n + 1) := by
  rw [answer, again_lex]
  rfl

theorem again_add (lexer : Lexer) (m n : Nat) :
    lexer.again (m + n) = (lexer.again m).again n := by
  induction n with
  | zero => rfl
  | succ n ih =>
      rw [Nat.add_succ, again, ih]
      rfl

/-- A lexer that a call leaves where it is stays there. -/
theorem again_of_stays {lexer : Lexer} (h : lexer.lex.2 = lexer) (n : Nat) :
    lexer.again n = lexer := by
  induction n with
  | zero => rfl
  | succ n ih => rw [again, ih, h]

theorem lex_end (line : Int) (passed : Nat) :
    lex ⟨line, passed, []⟩ = (.ok [], ⟨line, passed, []⟩) := by
  rw [lex, scan]
  rfl

/-- In front of an illegal character nothing moves. -/
theorem scan_foreign {c : Char} (hc : IsForeign c) (line : Int) (passed : Nat)
    (done : List Token) (cs : List Char) :
    scan line passed done (c :: cs) =
      (.error ⟨.illegalCharacter c, ⟨line, passed + 1⟩⟩, ⟨line, passed, c :: cs⟩) := by
  rw [scan, resume, Span.cut_of_isForeign cs hc]
  rfl

/-- A register out of range is passed over. -/
theorem scan_register {letter : Char} {digits remaining : List Char}
    (hfits : (Span.register letter digits).Fits remaining.head?)
    (hvalue : 2 ^ 31 ≤ Decimal.value digits) (line : Int) (passed : Nat) (done : List Token) :
    scan line passed done (letter :: (digits ++ remaining)) =
      (.error ⟨.registerName (String.ofList (letter :: digits)), ⟨line, passed + 1⟩⟩,
        ⟨line, passed + (digits.length + 1), remaining⟩) := by
  have hcut : Span.cut letter (digits ++ remaining) = (.register letter digits, remaining) :=
    Span.cut_eq_of_fits hfits rfl
  rw [scan, resume, hcut]
  simp only [Span.read_of_refused hfits (.register letter hvalue)]
  rfl

end Lexer

/-- A register out of range at which a call ends: how many characters earlier calls had
passed, and what this call read in front of the register. -/
structure Stop where
  passed : Nat
  before : List Span
  letter : Char
  digits : List Char

namespace Stop

/-- The characters that the call goes over. -/
def text (stop : Stop) : List Char := textOf stop.before ++ stop.letter :: stop.digits

/-- Where the register stands. -/
def column (stop : Stop) : Nat := stop.passed + (textOf stop.before).length + 1

def fault (line : Int) (stop : Stop) : Fault :=
  ⟨.registerName (String.ofList (stop.letter :: stop.digits)), ⟨line, stop.column⟩⟩

/-- The register is the first thing in `c` that is refused, and `remaining` is behind it. -/
structure At (line : Int) (stop : Stop) (c remaining : List Char) : Prop where
  reached : Cuts c stop.before (stop.letter :: (stop.digits ++ remaining))
  readable : ∃ tokens, Images line stop.passed stop.before tokens
  register : (Span.register stop.letter stop.digits).Fits remaining.head?
  outOfRange : 2 ^ 31 ≤ Decimal.value stop.digits

variable {line : Int} {stop : Stop} {c remaining : List Char}

theorem At.text_append (h : stop.At line c remaining) : stop.text ++ remaining = c := by
  rw [text, List.append_assoc]
  exact h.reached.text_append

/-- A call ends at the register and leaves the lexer behind it. -/
theorem At.lex (h : stop.At line c remaining) :
    Lexer.lex ⟨line, stop.passed, c⟩ =
      (.error (stop.fault line), ⟨line, stop.passed + stop.text.length, remaining⟩) := by
  obtain ⟨tokens, himages⟩ := h.readable
  have hlength : stop.passed + (textOf stop.before).length + (stop.digits.length + 1) =
      stop.passed + stop.text.length := by
    rw [text, List.length_append, List.length_cons, Nat.add_assoc]
  rw [Lexer.lex, h.reached.scan himages, Lexer.scan_register h.register h.outOfRange, hlength]
  rfl

end Stop

/-- `Stops line passed c stops rest`: calls that start behind `passed` characters, in front
of `c`, end at these registers, one after the other; `rest` is behind the last of them. -/
inductive Stops (line : Int) : Nat → List Char → List Stop → List Char → Prop
  | nil (passed : Nat) (rest : List Char) : Stops line passed rest [] rest
  | cons {stop : Stop} {stops : List Stop} {c remaining rest : List Char}
      (hstop : stop.At line c remaining)
      (htail : Stops line (stop.passed + stop.text.length) remaining stops rest) :
      Stops line stop.passed c (stop :: stops) rest

namespace Stops

variable {line : Int} {passed : Nat} {c rest : List Char} {stops : List Stop}

theorem text_append (h : Stops line passed c stops rest) :
    stops.flatMap Stop.text ++ rest = c := by
  induction h with
  | nil passed rest => rfl
  | cons hstop htail ih => rw [List.flatMap_cons, List.append_assoc, ih, hstop.text_append]

/-- The calls that end at the registers bring the lexer behind the last of them. -/
theorem again_length (h : Stops line passed c stops rest) :
    Lexer.again ⟨line, passed, c⟩ stops.length =
      ⟨line, passed + (stops.flatMap Stop.text).length, rest⟩ := by
  induction h with
  | nil passed rest => rfl
  | cons hstop htail ih =>
      rw [List.length_cons, ← Lexer.again_lex, hstop.lex, ih, List.flatMap_cons,
        List.length_append, Nat.add_assoc]

theorem passed_le (h : Stops line passed c stops rest) : ∀ stop ∈ stops, passed ≤ stop.passed := by
  induction h with
  | nil passed rest => exact nofun
  | cons hstop htail ih =>
      intro other hother
      rcases List.mem_cons.mp hother with rfl | hother
      · exact Nat.le_refl _
      · exact Nat.le_trans (Nat.le_add_right _ _) (ih other hother)

theorem column_pairwise (h : Stops line passed c stops rest) :
    (stops.map Stop.column).Pairwise (· < ·) := by
  induction h with
  | nil passed rest => exact .nil
  | @cons stop stops c remaining rest hstop htail ih =>
      rw [List.map_cons, List.pairwise_cons]
      refine ⟨?_, ih⟩
      intro column hcolumn
      obtain ⟨other, hother, rfl⟩ := List.mem_map.mp hcolumn
      have hpassed := htail.passed_le other hother
      simp only [Stop.text, List.length_append, List.length_cons] at hpassed
      simp only [Stop.column]
      omega

/-- Each of the calls starts where the one before it ended, and reports its register. -/
theorem call {i : Nat} {stop : Stop} (h : Stops line passed c stops rest)
    (hi : stops[i]? = some stop) :
    Lexer.again ⟨line, passed, c⟩ i = ⟨line, stop.passed, c.drop (stop.passed - passed)⟩ ∧
      Lexer.answer ⟨line, passed, c⟩ i = .error (stop.fault line) := by
  induction h generalizing i with
  | nil passed rest => cases hi
  | @cons first stops c remaining rest hfirst htail ih =>
      cases i with
      | zero =>
          obtain rfl : first = stop := by simpa using hi
          refine ⟨?_, ?_⟩
          · rw [Nat.sub_self]
            rfl
          · rw [Lexer.answer, Lexer.again, hfirst.lex]
      | succ i =>
          rw [List.getElem?_cons_succ] at hi
          obtain ⟨hagain, hanswer⟩ := ih hi
          have hpassed := htail.passed_le stop (List.mem_of_getElem? hi)
          have hdrop : remaining.drop (stop.passed - (first.passed + first.text.length)) =
              c.drop (stop.passed - first.passed) := by
            have hlength : first.text.length ≤ stop.passed - first.passed := by omega
            rw [← hfirst.text_append, List.drop_append, List.drop_eq_nil_of_le hlength,
              List.nil_append, Nat.sub_sub]
          rw [← Lexer.again_lex, ← Lexer.answer_lex, hfirst.lex, hagain, hdrop]
          exact ⟨rfl, hanswer⟩

end Stops

/-- Every line has such registers, up to a part without one: that part is read to its end or
to an illegal character. -/
theorem exists_stops (line : Int) (passed : Nat) (c : List Char) :
    ∃ stops spans tokens rest, Stops line passed c stops (textOf spans ++ rest) ∧
      Cuts (textOf spans ++ rest) spans rest ∧
      Images line (passed + (stops.flatMap Stop.text).length) spans tokens ∧
      (rest = [] ∨ ∃ d tail, rest = d :: tail ∧ IsForeign d) := by
  -- what is behind a register is a shorter line
  induction hlength : c.length using Nat.strongRecOn generalizing c passed with
  | ind n ih =>
      obtain ⟨spans, rest, tokens, hcuts, himages, hend⟩ := exists_cuts line c passed
      have htext := hcuts.text_append
      have hlast : Stops line passed c [] (textOf spans ++ rest) := by
        rw [htext]
        exact .nil passed c
      have hwhole : Cuts (textOf spans ++ rest) spans rest := by
        rw [htext]
        exact hcuts
      rcases hend with rfl | ⟨cause, decided, hoffends⟩
      · exact ⟨[], spans, tokens, [], hlast, hwhole, himages, .inl rfl⟩
      · cases hoffends with
        | foreign tail hd =>
            exact ⟨[], spans, tokens, _, hlast, hwhole, himages, .inr ⟨_, tail, rfl, hd⟩⟩
        | @register letter digits remaining hletter hdigits hvalue =>
            have hne : digits ≠ [] := by
              rintro rfl
              exact absurd hvalue (by decide)
            have hstop : Stop.At line ⟨passed, spans, letter, digits⟩ c remaining :=
              ⟨hcuts, ⟨tokens, himages⟩, ⟨hletter, hne, hdigits⟩, hvalue⟩
            have hshorter : remaining.length < n := by
              have hsum := congrArg List.length hstop.text_append
              simp only [Stop.text, List.length_append, List.length_cons] at hsum
              omega
            obtain ⟨stops, more, others, behind, hstops, hmore, hothers, hbehind⟩ :=
              ih remaining.length hshorter
                (passed + (Stop.mk passed spans letter digits).text.length) remaining rfl
            refine ⟨_, more, others, behind, .cons hstop hstops, hmore, ?_, hbehind⟩
            rw [List.flatMap_cons, List.length_append, ← Nat.add_assoc]
            exact hothers

/-- How the answers of a lexer go on from its `n`th call, which comes to `rest` behind
`passed` characters. -/
inductive Lexer.Ends (lexer : Lexer) (n : Nat) (tokens : List Token) (passed : Nat) :
    List Char → Prop
  /-- One success, and then nothing is left. -/
  | done (hfirst : lexer.answer n = .ok tokens) (hlater : ∀ i, n < i → lexer.answer i = .ok []) :
      Ends lexer n tokens passed []
  /-- One and the same illegal character for ever. -/
  | illegal {c : Char} (rest : List Char) (hc : IsForeign c)
      (hever : ∀ i, n ≤ i →
        lexer.answer i = .error ⟨.illegalCharacter c, ⟨lexer.line, passed + 1⟩⟩) :
      Ends lexer n tokens passed (c :: rest)

/-- What comes of calling a lexer over and over, where `c` is what it has in front of it at
first.  The calls of `stops` end at a register out of range.  The call behind them is the
first one that does not: it reads `spans`, which stand for `tokens`, and comes to `rest`. -/
structure Lexer.Calls (lexer : Lexer) (c : List Char) (stops : List Stop) (spans : List Span)
    (tokens : List Token) (rest : List Char) : Prop where
  /-- Each register is the first thing that is refused behind the one before it. -/
  registers : Stops lexer.line 0 c stops (textOf spans ++ rest)
  refused : ∀ i stop, stops[i]? = some stop → lexer.answer i = .error (stop.fault lexer.line)
  ascending : (stops.map Stop.column).Pairwise (· < ·)
  last : Cuts (textOf spans ++ rest) spans rest
  images : Images lexer.line (stops.flatMap Stop.text).length spans tokens
  ending : lexer.Ends stops.length tokens (stops.flatMap Stop.text ++ textOf spans).length rest
  /-- Each character belongs to one call only, and calls start where the part of the line
  that belongs to them does. -/
  apart : stops.flatMap Stop.text ++ (textOf spans ++ rest) = c
  places : ∀ i stop, stops[i]? = some stop →
    lexer.again i = ⟨lexer.line, stop.passed, c.drop stop.passed⟩
  lastPlace : lexer.again stops.length =
    ⟨lexer.line, (stops.flatMap Stop.text).length, textOf spans ++ rest⟩
  laterPlace : ∀ i, stops.length < i →
    lexer.again i = ⟨lexer.line, (stops.flatMap Stop.text ++ textOf spans).length, rest⟩

namespace Lexer

variable {lexer : Lexer} {n passed : Nat} {tokens : List Token} {spans : List Span}
  {rest : List Char}

/-- At the end and in front of an illegal character, a scan leaves the lexer where it is. -/
theorem scan_stays (hend : rest = [] ∨ ∃ c tail, rest = c :: tail ∧ IsForeign c) (line : Int)
    (passed : Nat) (done : List Token) :
    (scan line passed done rest).2 = ⟨line, passed, rest⟩ := by
  rcases hend with rfl | ⟨c, tail, rfl, hc⟩
  · rw [scan]
  · rw [scan_foreign hc]

/-- Once a call comes to such a place, all later calls start there. -/
theorem again_of_last (hplace : lexer.again n = ⟨lexer.line, passed, textOf spans ++ rest⟩)
    (hlast : Cuts (textOf spans ++ rest) spans rest)
    (himages : Images lexer.line passed spans tokens)
    (hend : rest = [] ∨ ∃ c tail, rest = c :: tail ∧ IsForeign c) {i : Nat} (hi : n < i) :
    lexer.again i = ⟨lexer.line, passed + (textOf spans).length, rest⟩ := by
  obtain ⟨k, rfl⟩ := Nat.exists_eq_add_of_le (Nat.succ_le_of_lt hi)
  have hreached : lexer.again n.succ = ⟨lexer.line, passed + (textOf spans).length, rest⟩ := by
    rw [again, hplace, lex, hlast.scan himages, scan_stays hend]
  have hstays : (lex ⟨lexer.line, passed + (textOf spans).length, rest⟩).2 =
      ⟨lexer.line, passed + (textOf spans).length, rest⟩ := scan_stays hend _ _ _
  rw [again_add, hreached, again_of_stays hstays]

theorem ends_of_last (hplace : lexer.again n = ⟨lexer.line, passed, textOf spans ++ rest⟩)
    (hlast : Cuts (textOf spans ++ rest) spans rest)
    (himages : Images lexer.line passed spans tokens)
    (hend : rest = [] ∨ ∃ c tail, rest = c :: tail ∧ IsForeign c) :
    lexer.Ends n tokens (passed + (textOf spans).length) rest := by
  have hlater : ∀ i, n < i → lexer.again i = ⟨lexer.line, passed + (textOf spans).length, rest⟩ :=
    fun i hi => again_of_last hplace hlast himages hend hi
  rcases hend with rfl | ⟨c, tail, rfl, hc⟩
  · refine .done ?_ ?_
    · rw [answer, hplace, lex, hlast.scan himages, scan]
      simp
    · intro i hi
      rw [answer, hlater i hi, lex_end]
  · refine .illegal tail hc ?_
    intro i hi
    rcases Nat.eq_or_lt_of_le hi with rfl | hi
    · rw [answer, hplace, lex, hlast.scan himages, scan_foreign hc]
    · rw [answer, hlater i hi, lex, scan_foreign hc]

/-- The answers of one lexer, called over and over on any text.  At first it refuses
registers out of range, finitely many of them and each further to the right than the one
before; then it either finds one and the same illegal character for ever, or it once returns
the tokens that are left, and nothing from then on. -/
theorem calls_of_text (text : Text) (line : Int) :
    ∃ c stops spans tokens rest, Folded text.chars c ∧
      (ofChars text.chars line).Calls c stops spans tokens rest := by
  obtain ⟨stops, spans, tokens, rest, hstops, hlast, himages, hend⟩ :=
    exists_stops line 0 (foldIndent [] text.chars)
  have hplace := hstops.again_length
  rw [Nat.zero_add] at himages hplace
  refine ⟨_, stops, spans, tokens, rest, folded_foldIndent text.chars, ?_⟩
  exact {
    registers := hstops
    refused := fun i stop hi => (hstops.call hi).2
    ascending := hstops.column_pairwise
    last := hlast
    images := himages
    ending := by
      rw [List.length_append]
      exact ends_of_last hplace hlast himages hend
    apart := hstops.text_append
    places := fun i stop hi => (hstops.call hi).1
    lastPlace := hplace
    laterPlace := by
      intro i hi
      rw [List.length_append]
      exact again_of_last hplace hlast himages hend hi }

/-- Two registers out of range, and then a line that is read to its end. -/
example : [0, 1, 2, 3].map (ofChars "x2147483648 add t2147483648, s1".toList 1).answer =
    [.error ⟨.registerName "x2147483648", ⟨1, 1⟩⟩, .error ⟨.registerName "t2147483648", ⟨1, 17⟩⟩,
      .ok [⟨.comma, "", 1, 28⟩, ⟨.register, "14", 1, 30⟩], .ok []] := by
  decide +kernel

end Lexer

end ToyRisc
