/-
Decimal numerals.  Writing gives the usual digits, in groups of three where a
message asks for them.  Reading goes from left to right and stops at the first
fault, so a numeral too large for its width is out of range even if rubbish
follows.
-/
namespace ToyRisc.Decimal

def digitChar (n : Nat) : Char := Char.ofNat ('0'.toNat + n)

/-- The digits of a number, most significant first. -/
def digits (n : Nat) : List Char :=
  if n < 10 then [digitChar n]
  else digits (n / 10) ++ [digitChar (n % 10)]
termination_by n

/-- An integer's digits behind its sign, if that is negative. -/
def signed (write : List Char → List Char) : Int → List Char
  | .ofNat n => write (digits n)
  | .negSucc n => '-' :: write (digits (n + 1))

def text (z : Int) : String := String.ofList (signed id z)

/-- Digits with a comma before every group of three, counted from the right. -/
def commas (ds : List Char) : List Char :=
  if ds.length ≤ 3 then ds
  else commas (ds.take (ds.length - 3)) ++ ',' :: ds.drop (ds.length - 3)
termination_by ds.length

/-- The text of an integer with its digits grouped by thousands. -/
def grouped (z : Int) : String := String.ofList (signed commas z)

def digitValue (c : Char) : Nat := c.toNat - '0'.toNat

def value (ds : List Char) : Nat := ds.foldl (fun n c => 10 * n + digitValue c) 0

inductive ReadError where
  | malformed
  | outOfRange
  deriving DecidableEq, Repr

/-- Continues a numeral whose value so far is `n`; no value on the way may pass
`limit`. -/
def readFrom (limit : Nat) : Nat → List Char → Except ReadError Nat
  | n, [] => .ok n
  | n, c :: cs =>
      if c.isDigit then
        if 10 * n + digitValue c ≤ limit then readFrom limit (10 * n + digitValue c) cs
        else .error .outOfRange
      else .error .malformed

/-- Reads an unsigned numeral of the given width. -/
def readUnsigned (bits : Nat) : List Char → Except ReadError Nat
  | [] => .error .malformed
  | c :: cs => readFrom (Nat.pow 2 bits - 1) 0 (c :: cs)

/-- Bounds a magnitude by what a signed word of the given width holds. -/
def withSign (bits : Nat) (negative : Bool) (n : Nat) : Except ReadError Int :=
  if negative then
    if n ≤ Nat.pow 2 (bits - 1) then .ok (-(n : Int)) else .error .outOfRange
  else
    if n < Nat.pow 2 (bits - 1) then .ok (n : Int) else .error .outOfRange

/-- Reads a numeral with an optional sign into a signed word of the given
width. -/
def readSigned (bits : Nat) (cs : List Char) : Except ReadError Int :=
  match cs with
  | '-' :: rest => (readUnsigned bits rest).bind (withSign bits true)
  | '+' :: rest => (readUnsigned bits rest).bind (withSign bits false)
  | rest => (readUnsigned bits rest).bind (withSign bits false)

end ToyRisc.Decimal
