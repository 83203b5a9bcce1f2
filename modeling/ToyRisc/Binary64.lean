/-
Double-precision numbers taken apart.  A finite number is a whole number times
a power of two, and exact comparison, truncation and remainder are computed on
these two parts.
-/
namespace ToyRisc.Binary64

/-- A whole number times a power of two. -/
def scale (n : Int) (k : Nat) : Int := n * (Nat.pow 2 k : Nat)

/-- The number `mantissa * 2 ^ exponent`. -/
structure Parts where
  mantissa : Int
  exponent : Int

/-- The parts of a finite number. -/
def parts? (x : Float) : Option Parts :=
  let bits : Nat := x.toBits.toNat
  let fraction : Nat := bits % 0x10000000000000
  let level : Nat := bits / 0x10000000000000 % 0x800
  let sign : Int := if bits < 0x8000000000000000 then 1 else -1
  if level = 0x7FF then none
  else if level = 0 then some ⟨sign * fraction, -1074⟩
  else some ⟨sign * (fraction + 0x10000000000000), (level : Int) - 1075⟩

/-- The whole number on the near side of zero. -/
def truncate? (x : Float) : Option Int :=
  (parts? x).map fun p =>
    if 0 ≤ p.exponent then scale p.mantissa p.exponent.toNat
    else p.mantissa.tdiv (scale 1 (-p.exponent).toNat)

/-- Compares a whole number with a number, exactly.  Something that is not a
number counts as the greater. -/
def compareInt (n : Int) (x : Float) : Ordering :=
  match parts? x with
  | some p =>
      if 0 ≤ p.exponent then compare n (scale p.mantissa p.exponent.toNat)
      else compare (scale n (-p.exponent).toNat) p.mantissa
  | none => if x < 0 then .gt else .lt

/-- Compares two numbers; something that is not a number is the greatest. -/
def compareFloat (x y : Float) : Ordering :=
  if x < y then .lt
  else if x > y then .gt
  else if x == y then .eq
  else if x == x then .lt
  else if y == y then .gt
  else .eq

/-- The remainder of the truncated division, with the sign of `x`. -/
def remainder (x y : Float) : Float :=
  match parts? x, parts? y with
  | some p, some q =>
      let low := min p.exponent q.exponent
      let a := scale p.mantissa (p.exponent - low).toNat
      let b := scale q.mantissa (q.exponent - low).toNat
      (Float.ofInt (a.tmod b)).scaleB low
  | some _, none => if y == y then x else y
  | none, _ => 0.0 / 0.0

/-- The remainder of the floored division, with the sign of `y`. -/
def modulo (x y : Float) : Float :=
  let r := remainder x y
  if (x < 0) != (y < 0) && r != 0 then r + y else r

/-- The number nearest to `digits * 10 ^ exponent`, if it is finite.  `size` is
the number of significant digits. -/
def ofDecimal? (digits : Nat) (size : Nat) (exponent : Int) : Option Float :=
  if digits = 0 then some 0.0
  else if 400 < (size : Int) + exponent then none
  else if (size : Int) + exponent < -400 then some 0.0
  else
    let x := Float.ofScientific digits (decide (exponent < 0)) exponent.natAbs
    if x.isInf then none else some x

end ToyRisc.Binary64
