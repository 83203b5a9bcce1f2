/-
Values made of other values: numbers of strings and strings of numbers.
-/
import ToyRisc.Binary64.Reading
import ToyRisc.Expression.Operator

namespace ToyRisc.Expression

namespace Conversion

/-- Reads the digits of a numeral that has no sign. -/
def readDigits? (base : Nat) (digits : List Char) : Option Nat :=
  if !digits.isEmpty && digits.all (Radix.isDigitOf base) then
    some (Radix.valueOf base digits)
  else none

/-- The base that a mark in front of a numeral stands for. -/
def markedBase? : Char → Option Nat
  | 'o' | 'O' => some 8
  | 'x' | 'X' => some 16
  | 'b' | 'B' => some 2
  | _ => none

/-- Reads a numeral without its sign.  A mark of the base may stand in front; base
0 takes the base from the mark. -/
def readMagnitude? (base : Nat) (cs : List Char) : Option Nat :=
  let plain := readDigits? (if base = 0 then 10 else base) cs
  match cs with
  | '0' :: mark :: rest =>
      match if rest.isEmpty then none else markedBase? mark with
      | some marked =>
          if base = 0 ∨ base = marked then readDigits? marked rest else plain
      | none =>
          if base = 0 then if (mark :: rest).all (· == '0') then some 0 else none
          else plain
  | _ => plain

def readInt? (base : Nat) (cs : List Char) : Option Int :=
  match cs with
  | '+' :: rest => (readMagnitude? base rest).map fun n => (n : Int)
  | '-' :: rest => (readMagnitude? base rest).map fun n => -(n : Int)
  | _ => (readMagnitude? base cs).map fun n => (n : Int)

/-- Bytes as characters that stand for themselves; no numeral holds others. -/
def latin (image : ByteArray) : List Char := image.toList.map fun b => Char.ofNat b.toNat

def base? : Option Value → Option Nat
  | none => some 10
  | some value =>
      match value.small? with
      | some n => if n = 0 ∨ (2 ≤ n ∧ n ≤ 36) then some n.toNat else none
      | none => none

def toInt (argument : Value) (base : Option Value) : Except Error Value :=
  match argument, base with
  | .string image, base =>
      match (base? base).bind fun n => readInt? n (latin image) with
      | some n => .ok (.int n)
      | none => .error (.badArguments "int")
  | .bool value, none => .ok (.int (if value then 1 else 0))
  | value, none =>
      match value.wholePart? with
      | some n => .ok (.int n)
      | none => .error (.badArguments "int")
  | _, some _ => .error (.badArguments "int")

/-- The numbers that are written as words. -/
def wordNumber? (cs : List Char) : Option Float :=
  match String.ofList (cs.map Char.toLower) with
  | "inf" | "+inf" | "infinity" | "+infinity" => some (1.0 / 0.0)
  | "-inf" | "-infinity" => some (-1.0 / 0.0)
  | "nan" | "+nan" | "-nan" => some (0.0 / 0.0)
  | _ => none

def toFloat : Value → Except Error Value
  | .bool value => .ok (.float (if value then 1.0 else 0.0))
  | .int n => do .ok (.float (← Value.toFloat n))
  | .float x => .ok (.float x)
  | .string image =>
      match (wordNumber? (latin image)).or (Binary64.read? (latin image)) with
      | some x => .ok (.float x)
      | none => .error (.badArguments "float")
  | _ => .error (.badArguments "float")

/-- A string with every stray byte replaced. -/
def wellFormed (image : ByteArray) : ByteArray :=
  (String.ofList (Value.characters image)).toUTF8

/-- Puts the byte that a number stands for behind others. -/
def pushByte (image : ByteArray) (value : Value) : Eval ByteArray :=
  match value.byte? with
  | some b => pure (image.push b)
  | none => throw (.badArguments "bytes")

def toBytes (value : Value) : Eval Value := do
  match value with
  | .bytes image => pure (.bytes image)
  | .string image => pure (.bytes (wellFormed image))
  | _ => do pure (.bytes (← (← Eval.walk "bytes" value).fold pushByte ByteArray.empty))

def toStr (value : Value) : Eval Value := do
  match value with
  | .bytes image => pure (.string (wellFormed image))
  | _ => pure (.string ((← get).plain value))

/-- The number of a single character or byte. -/
def toOrd : Value → Except Error Value
  | .string image =>
      match Value.characters image with
      | [c] => .ok (.int c.toNat)
      | _ => .error (.badArguments "ord")
  | .bytes image =>
      match image.toList with
      | [b] => .ok (.int b.toNat)
      | _ => .error (.badArguments "ord")
  | _ => .error (.badArguments "ord")

def toChr (value : Value) : Except Error Value :=
  match Template.character? value with
  | some c => .ok (Value.ofString (String.singleton c))
  | none => .error (.badArguments "chr")

/-- A 32-bit number that equal strings share. -/
def stringHash (image : ByteArray) : Int :=
  ((Value.characters image).foldl (fun h c => 31 * h + Int32.ofNat c.toNat) (0 : Int32)).toInt

def bytesHash (image : ByteArray) : Int :=
  (image.toList.foldl (fun h b => (h ^^^ b.toUInt32) * 16777619) (2166136261 : UInt32)).toNat

/-- A number that equal values share. -/
def toHash : Value → Except Error Value
  | .string image => .ok (.int (stringHash image))
  | .bytes image => .ok (.int (bytesHash image))
  | _ => .error (.badArguments "hash")

def absolute : Value → Except Error Value
  | .int n => .ok (.int n.natAbs)
  | .float x => .ok (.float x.abs)
  | _ => .error (.unfit "abs")

end Conversion

end ToyRisc.Expression
