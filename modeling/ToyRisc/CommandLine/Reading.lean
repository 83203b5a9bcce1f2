/-
Values of flags.  Truth values have a few spellings; whole numbers may be given
in several bases, with single underscores between digits.
-/
import ToyRisc.Radix

namespace ToyRisc.CommandLine

def readBool? (text : String) : Option Bool :=
  if ["1", "t", "T", "TRUE", "true", "True"].contains text then some true
  else if ["0", "f", "F", "FALSE", "false", "False"].contains text then some false
  else none

/-- Whether every underscore stands between two digits; `afterDigit` says that a
digit, or the mark of a base, has just been read. -/
def underscoresFit (afterDigit : Bool) : List Char → Bool
  | [] => true
  | '_' :: c :: rest => afterDigit && c != '_' && underscoresFit true (c :: rest)
  | ['_'] => false
  | _ :: rest => underscoresFit true rest

/-- Reads digits of a base among which underscores may stand. -/
def readDigits? (base : Nat) (cs : List Char) : Option Nat :=
  let digits := cs.filter (· != '_')
  if digits.all (Radix.isDigitOf base) then
    some (Radix.valueOf base digits)
  else none

/-- Reads a number without its sign.  A zero in front marks base eight, and a
letter behind it another base. -/
def readMagnitude? (cs : List Char) : Option Nat :=
  match cs with
  | [] => none
  | '0' :: mark :: c :: rest =>
      let based (base : Nat) : Option Nat :=
        if underscoresFit true (c :: rest) then readDigits? base (c :: rest) else none
      match mark with
      | 'b' | 'B' => based 2
      | 'o' | 'O' => based 8
      | 'x' | 'X' => based 16
      | _ => if underscoresFit false cs then readDigits? 8 cs else none
  | '0' :: _ => if underscoresFit false cs then readDigits? 8 cs else none
  | _ => if underscoresFit false cs then readDigits? 10 cs else none

/-- Half of the numbers that a word of 64 bits holds. -/
def wordHalf : Nat := 0x8000000000000000

/-- Reads a whole number of 64 bits. -/
def readInt? (text : String) : Option Int :=
  match text.toList with
  | '-' :: cs =>
      (readMagnitude? cs).bind fun n => if n ≤ wordHalf then some (-(n : Int)) else none
  | '+' :: cs => (readMagnitude? cs).bind fun n => if n < wordHalf then some (n : Int) else none
  | cs => (readMagnitude? cs).bind fun n => if n < wordHalf then some (n : Int) else none

end ToyRisc.CommandLine
