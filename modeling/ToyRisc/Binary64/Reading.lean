/-
Reading floating numbers.  A numeral is decimal, or hexadecimal with an exponent
of two; single underscores may stand between its digits.  The number nearest to
the numeral is taken.
-/
import ToyRisc.Binary64
import ToyRisc.Decimal
import ToyRisc.Radix

namespace ToyRisc.Binary64

/-- The value of the digits of an exponent.  Digits behind the point where it has
passed ten thousand do not count. -/
def exponentValue (digits : List Char) : Nat :=
  digits.foldl (fun n c => if n < 10000 then 10 * n + Decimal.digitValue c else n) 0

/-- The number nearest to digits before and behind a point, times a power of ten,
if it is finite. -/
def ofDigits? (whole fraction : List Char) (exponent : Int) : Option Float :=
  let digits := (whole ++ fraction).dropWhile (· == '0')
  ofDecimal? (Decimal.value digits) digits.length (exponent - fraction.length)

/-- The number nearest to `n * 2 ^ exponent`, if it is finite. -/
def ofBinary? (n : Nat) (exponent : Int) : Option Float :=
  let size : Int := n.log2 + exponent
  if n = 0 ∨ size < -1100 then some 0.0
  else if 1100 < size then none
  else
    let x :=
      if 0 ≤ exponent then Float.ofInt (scale n exponent.toNat)
      else
        Float.ofScientific (n * Nat.pow 5 (-exponent).toNat) true (-exponent).toNat
    if x.isInf then none else some x

/-- Whether every underscore stands between two digits, given the kind of what
stands before: a digit, an underscore or something else. -/
def underscoresFit (isDigit : Char → Bool) (afterDigit afterUnderscore : Bool) :
    List Char → Bool
  | [] => !afterUnderscore
  | c :: cs =>
      if isDigit c then underscoresFit isDigit true false cs
      else if c == '_' then afterDigit && underscoresFit isDigit false true cs
      else !afterUnderscore && underscoresFit isDigit false false cs

/-- A numeral cut at the mark of its exponent.  The exponent has a sign and digits;
nothing else may follow. -/
def splitExponent? (isMark : Char → Bool) (cs : List Char) :
    Option (List Char × Option Int) :=
  match cs.dropWhile (!isMark ·) with
  | [] => some (cs, none)
  | _ :: behind =>
      let value (negative : Bool) (digits : List Char) : Option Int :=
        match digits with
        | [] => none
        | c :: _ =>
            if c.isDigit && digits.all (fun d => d.isDigit || d == '_') then
              let n : Int := exponentValue (digits.filter Char.isDigit)
              some (if negative then -n else n)
            else none
      let exponent :=
        match behind with
        | '+' :: digits => value false digits
        | '-' :: digits => value true digits
        | digits => value false digits
      exponent.map fun e => (cs.takeWhile (!isMark ·), some e)

/-- The digits before and behind the point of a numeral, which may hold
underscores. -/
def splitPoint? (isDigit : Char → Bool) (cs : List Char) : Option (List Char × List Char) :=
  let digits := cs.filter (· != '_')
  let whole := digits.takeWhile isDigit
  let fraction :=
    match digits.dropWhile isDigit with
    | '.' :: rest => rest
    | rest => rest
  if fraction.all isDigit && !(whole ++ fraction).isEmpty then some (whole, fraction)
  else none

/-- Reads a numeral that has no sign. -/
def readMagnitude? (cs : List Char) : Option Float :=
  let hexadecimal (digits : List Char) : Option Float := do
    let (mantissa, exponent) ← splitExponent? (fun c => c == 'p' || c == 'P') digits
    let (whole, fraction) ← splitPoint? (Radix.isDigitOf 16) mantissa
    let e ← exponent
    if underscoresFit (Radix.isDigitOf 16) true false digits then
      ofBinary? (Radix.valueOf 16 (whole ++ fraction)) (e - 4 * fraction.length)
    else none
  match cs with
  | '0' :: 'x' :: c :: rest | '0' :: 'X' :: c :: rest => hexadecimal (c :: rest)
  | _ => do
      let (mantissa, exponent) ← splitExponent? (fun c => c == 'e' || c == 'E') cs
      let (whole, fraction) ← splitPoint? Char.isDigit mantissa
      if underscoresFit Char.isDigit false false cs then
        ofDigits? whole fraction (exponent.getD 0)
      else none

/-- Reads a numeral with an optional sign. -/
def read? (cs : List Char) : Option Float :=
  match cs with
  | '+' :: rest => readMagnitude? rest
  | '-' :: rest => (readMagnitude? rest).map fun x => -x
  | rest => readMagnitude? rest

end ToyRisc.Binary64
