/-
Writing floating numbers.  A number is shown with the fewest digits that read
back as the same number, or with six digits behind the point; where both would
do, the exponent decides whether it is written out.
-/
import ToyRisc.Binary64
import ToyRisc.Decimal

namespace ToyRisc.Binary64

/-- The digits `d` and the place `n` of the number `0.d * 10 ^ n`. -/
structure Expansion where
  digits : List Char
  point : Int

/-- Compares `c * 10 ^ k` with `n * 2 ^ q`. -/
def compareScaled (c : Nat) (k : Int) (n : Nat) (q : Int) : Ordering :=
  compare (c * Nat.pow 10 k.toNat * Nat.pow 2 (-q).toNat)
    (n * Nat.pow 2 q.toNat * Nat.pow 10 (-k).toNat)

/-- The quotient of `n * 2 ^ q` by `10 ^ k`, with the remainder and the divisor. -/
def quotient (n : Nat) (q k : Int) : Nat × Nat × Nat :=
  let dividend := n * Nat.pow 2 q.toNat * Nat.pow 10 (-k).toNat
  let divisor := Nat.pow 10 k.toNat * Nat.pow 2 (-q).toNat
  (dividend / divisor, dividend % divisor, divisor)

/-- The least power of ten that is greater than `n * 2 ^ q`. -/
def pointOf (n : Nat) (q : Int) : Int :=
  let guess : Int := Int.fdiv ((n.log2 + q) * 30103) 100000
  let above (d : Int) : Bool := compareScaled 1 d n q == .gt
  if above guess then guess
  else if above (guess + 1) then guess + 1
  else guess + 2

/-- The expansion of `c * 10 ^ k` without the zeros at its end. -/
def expansionOf (c : Nat) (k : Int) : Expansion :=
  let digits := Decimal.digits c
  ⟨(digits.reverse.dropWhile (· == '0')).reverse, digits.length + k⟩

/-- The numbers that are nearer to `mantissa * 2 ^ exponent` than to any other
floating number: those between two bounds, in units of a quarter of the last
place.  The bounds belong to them if the mantissa is even. -/
def isNear (mantissa : Nat) (exponent : Int) (c : Nat) (k : Int) : Bool :=
  let isLeast := mantissa == 0x10000000000000 && exponent != -1074
  let low := compareScaled c k (4 * mantissa - (if isLeast then 1 else 2)) (exponent - 2)
  let high := compareScaled c k (4 * mantissa + 2) (exponent - 2)
  if mantissa % 2 == 0 then low != .lt && high != .gt else low == .gt && high == .lt

/-- Whether a rest belongs to the next number rather than to `below`; a half goes to
the even one. -/
def isMoreThanHalf (below rest divisor : Nat) : Bool :=
  2 * rest > divisor || (2 * rest == divisor && below % 2 == 1)

/-- The expansion with a given number of digits that is nearest among those that
read back, if there is one. -/
def expansionWith? (mantissa : Nat) (exponent point : Int) (size : Nat) : Option Expansion :=
  let k := point - size
  let (below, rest, divisor) := quotient mantissa exponent k
  let nearest := if isMoreThanHalf below rest divisor then below + 1 else below
  let other := if nearest == below then below + 1 else below
  if isNear mantissa exponent nearest k then some (expansionOf nearest k)
  else if isNear mantissa exponent other k then some (expansionOf other k)
  else none

/-- The shortest expansion that reads back.  Seventeen digits always do. -/
def shortest (mantissa : Nat) (exponent : Int) : Expansion :=
  let point := pointOf mantissa exponent
  let sizes := [1, 2, 3, 4, 5, 6, 7, 8, 9, 10, 11, 12, 13, 14, 15, 16, 17]
  (sizes.findSome? (expansionWith? mantissa exponent point)).getD ⟨['0'], 1⟩

/-- The whole number nearest to `n * 2 ^ q / 10 ^ k`; a half goes to the even
neighbour. -/
def rounded (n : Nat) (q k : Int) : Nat :=
  let (below, rest, divisor) := quotient n q k
  if isMoreThanHalf below rest divisor then below + 1 else below

/-- The text of an exponent: its sign and at least two digits. -/
def exponentText (mark : Char) (e : Int) : List Char :=
  let digits := Decimal.digits e.natAbs
  mark :: (if e < 0 then '-' else '+') :: (if digits.length < 2 then '0' :: digits else digits)

/-- A number written with one digit before the point and an exponent. -/
def scientific (mark : Char) (digits : List Char) (e : Int) : List Char :=
  match digits with
  | [] => []
  | [d] => d :: exponentText mark e
  | d :: ds => d :: '.' :: ds ++ exponentText mark e

/-- A number written out; a whole number has a zero behind the point. -/
def positional (expansion : Expansion) : List Char :=
  let digits := expansion.digits
  if expansion.point ≤ 0 then
    '0' :: '.' :: List.replicate (-expansion.point).toNat '0' ++ digits
  else
    let size := expansion.point.toNat
    let whole := digits.take size ++ List.replicate (size - digits.length) '0'
    let fraction := digits.drop size
    whole ++ '.' :: (if fraction.isEmpty then ['0'] else fraction)

/-- The shortest text of a positive number.  It has an exponent if that is below
-4 or above 5. -/
def shortText (mark : Char) (mantissa : Nat) (exponent : Int) : List Char :=
  let expansion := shortest mantissa exponent
  let e := expansion.point - 1
  if e < -4 ∨ 6 ≤ e then scientific mark expansion.digits e else positional expansion

/-- The text of a number with an exponent and six digits behind the point. -/
def longText (mark : Char) (mantissa : Nat) (exponent : Int) : List Char :=
  if mantissa = 0 then scientific mark (List.replicate 7 '0') 0
  else
    let point := pointOf mantissa exponent
    let digits := Decimal.digits (rounded mantissa exponent (point - 7))
    if digits.length = 7 then scientific mark digits (point - 1)
    else scientific mark (digits.take 7) point

/-- The text of a number written out with six digits behind the point. -/
def fixedText (mantissa : Nat) (exponent : Int) : List Char :=
  let digits := Decimal.digits (rounded mantissa exponent (-6))
  let padded := List.replicate (7 - digits.length) '0' ++ digits
  padded.take (padded.length - 6) ++ '.' :: padded.drop (padded.length - 6)

inductive Style where
  | short
  | long
  | fixed
  deriving DecidableEq, Repr

/-- The text of a number; `mark` stands before an exponent. -/
def text (style : Style) (mark : Char) (x : Float) : String :=
  match parts? x with
  | none => if x > 0 then "+inf" else if x < 0 then "-inf" else "nan"
  | some parts =>
      let sign := if x.toBits.toNat < 0x8000000000000000 then [] else ['-']
      let magnitude :=
        match style with
        | .short =>
            if parts.mantissa = 0 then ['0', '.', '0']
            else shortText mark parts.mantissa.natAbs parts.exponent
        | .long => longText mark parts.mantissa.natAbs parts.exponent
        | .fixed => fixedText parts.mantissa.natAbs parts.exponent
      String.ofList (sign ++ magnitude)

end ToyRisc.Binary64
