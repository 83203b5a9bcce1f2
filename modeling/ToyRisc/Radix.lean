/-
Numerals in any base up to 36.
-/
namespace ToyRisc.Radix

/-- The value of a digit in any base up to 36. -/
def digitValue? (c : Char) : Option Nat :=
  if c.isDigit then some (c.toNat - '0'.toNat)
  else if 'a' ≤ c ∧ c ≤ 'z' then some (c.toNat - 'a'.toNat + 10)
  else if 'A' ≤ c ∧ c ≤ 'Z' then some (c.toNat - 'A'.toNat + 10)
  else none

def isDigitOf (base : Nat) (c : Char) : Bool :=
  match digitValue? c with
  | some n => decide (n < base)
  | none => false

def valueOf (base : Nat) (digits : List Char) : Nat :=
  digits.foldl (fun n c => base * n + (digitValue? c).getD 0) 0

/-- The digit of a number below sixteen. -/
def digitChar (isUpper : Bool) (n : Nat) : Char :=
  if n < 10 then Char.ofNat ('0'.toNat + n)
  else if isUpper then Char.ofNat ('A'.toNat + (n - 10))
  else Char.ofNat ('a'.toNat + (n - 10))

/-- Puts the digits of a number in some base in front of others. -/
def digitsFrom (isUpper : Bool) (base n : Nat) (behind : List Char) : List Char :=
  if h : n < base ∨ base < 2 then digitChar isUpper n :: behind
  else
    have : n / base < n := Nat.div_lt_self (by omega) (by omega)
    digitsFrom isUpper base (n / base) (digitChar isUpper (n % base) :: behind)
termination_by n

def text (isUpper : Bool) (base : Nat) : Int → String
  | .ofNat n => String.ofList (digitsFrom isUpper base n [])
  | .negSucc n => String.ofList ('-' :: digitsFrom isUpper base (n + 1) [])

end ToyRisc.Radix
