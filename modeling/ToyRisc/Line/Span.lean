/-
Spans of a line.  The scanner cuts a line into spans, one after the other and
without a gap; each span determines by itself what it contributes: nothing, a
token or a fault.
-/
import ToyRisc.Fault
import ToyRisc.Vocabulary

namespace ToyRisc

/-- A piece of a line that is read at once. -/
inductive Span where
  /-- A space or a line end. -/
  | blank (c : Char)
  /-- What follows a hash, up to the line end. -/
  | comment (body : List Char)
  | tab
  | comma
  | openParen
  | closeParen
  /-- A register letter directly before digits. -/
  | register (letter : Char) (digits : List Char)
  /-- A word, and whether a colon follows it. -/
  | word (chars : List Char) (colon : Bool)
  | number (digits : List Char)
  /-- The word after a dot, which may be empty. -/
  | directive (name : List Char)
  /-- What follows a quotation mark, and whether another one closes it. -/
  | quoted (body : List Char) (closed : Bool)
  /-- A character that starts no other span. -/
  | illegal (c : Char)
  deriving DecidableEq, Repr

namespace Span

/-- The characters a span covers. -/
def text : Span → List Char
  | blank c => [c]
  | comment body => '#' :: body
  | tab => ['\t']
  | comma => [',']
  | openParen => ['(']
  | closeParen => [')']
  | register letter digits => letter :: digits
  | word chars colon => if colon then chars ++ [':'] else chars
  | number digits => digits
  | directive name => '.' :: name
  | quoted body closed => '"' :: (if closed then body ++ ['"'] else body)
  | illegal c => [c]

def width (span : Span) : Nat := span.text.length

def startsWithDigit : List Char → Bool
  | [] => false
  | c :: _ => c.isDigit

/-- Cuts a word, with the colon that makes it a declaration. -/
def cutWord (c : Char) (cs : List Char) : Span × List Char :=
  match cs.dropWhile isWordChar with
  | ':' :: rest => (.word (c :: cs.takeWhile isWordChar) true, rest)
  | rest => (.word (c :: cs.takeWhile isWordChar) false, rest)

/-- Cuts the quoted text whose opening mark has just been read. -/
def cutQuoted (cs : List Char) : Span × List Char :=
  match cs.dropWhile (· != '"') with
  | [] => (.quoted (cs.takeWhile (· != '"')) false, [])
  | _ :: rest => (.quoted (cs.takeWhile (· != '"')) true, rest)

/-- Cuts the span that starts with `c` off the front of a line; the second part
is what remains. -/
def cut (c : Char) (cs : List Char) : Span × List Char :=
  if c == ' ' || c == '\n' then (.blank c, cs)
  else if c == '\t' then (.tab, cs)
  else if c == ',' then (.comma, cs)
  else if c == '(' then (.openParen, cs)
  else if c == ')' then (.closeParen, cs)
  else if isWordChar c then
    if isRegisterLetter c && startsWithDigit cs then
      (.register c (cs.takeWhile Char.isDigit), cs.dropWhile Char.isDigit)
    else cutWord c cs
  else if c.isDigit then
    (.number (c :: cs.takeWhile Char.isDigit), cs.dropWhile Char.isDigit)
  else if c == '.' then (.directive (cs.takeWhile isWordChar), cs.dropWhile isWordChar)
  else if c == '"' then cutQuoted cs
  else if c == '#' then
    (.comment (cs.takeWhile (· != '\n')), cs.dropWhile (· != '\n'))
  else (.illegal c, cs)

/-- A span and a rest that make up the line `c :: cs`, the first character in the
span. -/
def Covers (c : Char) (cs : List Char) (part : Span × List Char) : Prop :=
  ∃ more, part.1.text = c :: more ∧ more ++ part.2 = cs

theorem cutWord_covers (c : Char) (cs : List Char) : Covers c cs (cutWord c cs) := by
  have h := List.takeWhile_append_dropWhile (p := isWordChar) (l := cs)
  unfold cutWord
  split
  · rename_i rest hrest
    rw [hrest] at h
    exact ⟨cs.takeWhile isWordChar ++ [':'], rfl, by simpa using h⟩
  · exact ⟨cs.takeWhile isWordChar, rfl, h⟩

theorem cutQuoted_covers (cs : List Char) : Covers '"' cs (cutQuoted cs) := by
  have h := List.takeWhile_append_dropWhile (p := (· != '"')) (l := cs)
  unfold cutQuoted
  split
  · rename_i hrest
    rw [hrest] at h
    exact ⟨cs.takeWhile (· != '"'), rfl, h⟩
  · rename_i d rest hrest
    have hd : d = '"' := by
      have hp := List.head?_dropWhile_not (· != '"') cs
      rw [hrest] at hp
      simpa using hp
    rw [hrest, hd] at h
    exact ⟨cs.takeWhile (· != '"') ++ ['"'], rfl, by simpa using h⟩

/-- Nothing is lost and nothing is read twice: a span and what remains make up
the line. -/
theorem cut_covers (c : Char) (cs : List Char) : Covers c cs (cut c cs) := by
  have hrun : ∀ p : Char → Bool, cs.takeWhile p ++ cs.dropWhile p = cs :=
    fun _ => List.takeWhile_append_dropWhile
  unfold cut
  refine iteInduction (fun _ => ⟨[], rfl, rfl⟩) (fun _ => ?_)
  refine iteInduction (fun hc => ⟨[], by rw [beq_iff_eq.mp hc]; rfl, rfl⟩) (fun _ => ?_)
  refine iteInduction (fun hc => ⟨[], by rw [beq_iff_eq.mp hc]; rfl, rfl⟩) (fun _ => ?_)
  refine iteInduction (fun hc => ⟨[], by rw [beq_iff_eq.mp hc]; rfl, rfl⟩) (fun _ => ?_)
  refine iteInduction (fun hc => ⟨[], by rw [beq_iff_eq.mp hc]; rfl, rfl⟩) (fun _ => ?_)
  refine iteInduction (fun _ => ?_) (fun _ => ?_)
  · exact iteInduction (fun _ => ⟨_, rfl, hrun Char.isDigit⟩) (fun _ => cutWord_covers c cs)
  refine iteInduction (fun _ => ⟨_, rfl, hrun Char.isDigit⟩) (fun _ => ?_)
  refine iteInduction (fun hc => ?_) (fun _ => ?_)
  · rw [beq_iff_eq.mp hc]
    exact ⟨_, rfl, hrun isWordChar⟩
  refine iteInduction (fun hc => ?_) (fun _ => ?_)
  · rw [beq_iff_eq.mp hc]
    exact cutQuoted_covers cs
  refine iteInduction (fun hc => ?_) (fun _ => ⟨[], rfl, rfl⟩)
  rw [beq_iff_eq.mp hc]
  exact ⟨_, rfl, hrun (· != '\n')⟩

theorem cut_text (c : Char) (cs : List Char) :
    (cut c cs).1.text ++ (cut c cs).2 = c :: cs := by
  obtain ⟨more, htext, hrest⟩ := cut_covers c cs
  rw [htext, List.cons_append, hrest]

/-- A span covers at least one character. -/
theorem cut_width_pos (c : Char) (cs : List Char) : 0 < (cut c cs).1.width := by
  obtain ⟨more, htext, _⟩ := cut_covers c cs
  rw [width, htext]
  exact Nat.succ_pos more.length

theorem cut_rest_length (c : Char) (cs : List Char) :
    (cut c cs).2.length < (c :: cs).length := by
  have htext := congrArg List.length (cut_text c cs)
  have hpos := cut_width_pos c cs
  rw [List.length_append] at htext
  unfold width at hpos
  omega

/-- What a word means where no colon follows it. -/
def classify (name : String) : Kind × String :=
  if isMnemonic name then (.instruction, lowerWord name)
  else (keyword? name).getD (.ident, name)

/-- What a span contributes: a kind and a literal, or nothing. -/
def read : Span → Except Cause (Option (Kind × String))
  | blank _ => .ok none
  | comment _ => .ok none
  | tab => .ok (some (.tab, ""))
  | comma => .ok (some (.comma, ""))
  | openParen => .ok (some (.openParen, ""))
  | closeParen => .ok (some (.closeParen, ""))
  | register letter digits =>
      match registerIndex? letter digits with
      | some index => .ok (some (.register, Decimal.text index))
      | none => .error (.registerName (String.ofList (letter :: digits)))
  | word chars true => .ok (some (.label, String.ofList chars))
  | word chars false => .ok (some (classify (String.ofList chars)))
  | number digits => .ok (some (.immediate, String.ofList digits))
  | directive name => .ok (some (.directive, String.ofList name))
  | quoted body _ => .ok (some (.ident, String.ofList body))
  | illegal c => .error (.illegalCharacter c)

end Span

end ToyRisc
