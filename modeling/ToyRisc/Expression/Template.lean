/-
Templates: strings with places that are filled with values.  One kind marks its
places with a percent sign and a letter that says how the value is written, the
other kind with braces.
-/
import ToyRisc.Expression.Rendering

namespace ToyRisc.Expression

namespace Template

/-- The byte of a character that takes one. -/
def code (c : Char) : UInt8 := c.toNat.toUInt8

/-- A part of a template with percent signs. -/
inductive Piece where
  | literal (b : UInt8)
  /-- A value, taken by its key or as the next one, and how it is written. -/
  | value (key : Option ByteArray) (letter : Char)

/-- What has just been read. -/
inductive Reading where
  | plain
  /-- A percent sign. -/
  | percent
  /-- The first bytes of a key, most recent first. -/
  | key (read : List UInt8)
  /-- A whole key. -/
  | keyed (key : ByteArray)

/-- The pieces of a template with percent signs, behind those already read. -/
def pieces (reading : Reading) (read : Array Piece) : List UInt8 → Except Error (Array Piece)
  | [] =>
      match reading with
      | .plain => .ok read
      | _ => .error .badFormat
  | b :: bs =>
      match reading with
      | .plain =>
          if b = code '%' then pieces .percent read bs
          else pieces .plain (read.push (.literal b)) bs
      | .percent =>
          if b = code '%' then pieces .plain (read.push (.literal b)) bs
          else if b = code '(' then pieces (.key []) read bs
          else pieces .plain (read.push (.value none (Char.ofNat b.toNat))) bs
      | .key bytes =>
          if b = code ')' then pieces (.keyed bytes.reverse.toByteArray) read bs
          else pieces (.key (b :: bytes)) read bs
      | .keyed key =>
          pieces .plain (read.push (.value (some key) (Char.ofNat b.toNat))) bs

def wholeText (isUpper : Bool) (base : Nat) (value : Value) : Except Error ByteArray :=
  match value.wholePart? with
  | some n => .ok (Radix.text isUpper base n).toUTF8
  | none => .error .badFormat

def floatText (style : Binary64.Style) (mark : Char) : Value → Except Error ByteArray
  | .int n => .ok (Binary64.text style mark (Float.ofInt n)).toUTF8
  | .float x => .ok (Binary64.text style mark x).toUTF8
  | _ => .error .badFormat

/-- A number that has no such form: the letter itself is written, unless the number
is not finite. -/
def unknownFloatText : Value → Except Error ByteArray
  | .int n => .ok (rest (Float.ofInt n))
  | .float x => .ok (rest x)
  | _ => .error .badFormat
where
  /-- What is written. -/
  rest (x : Float) : ByteArray :=
    if x.isFinite then "%F".toUTF8 else (Binary64.text .short 'e' x).toUTF8

/-- The character of a code point; a surrogate has none. -/
def characterOf (n : Nat) : Char :=
  if 0xD800 ≤ n ∧ n < 0xE000 then Char.ofNat 0xFFFD else Char.ofNat n

def character? (value : Value) : Option Char :=
  match value.small? with
  | some n => if 0 ≤ n ∧ n ≤ 0x10FFFF then some (characterOf n.toNat) else none
  | none => none

/-- One character, given by its number or as a string. -/
def characterText : Value → Except Error ByteArray
  | .string image =>
      match Value.characters image with
      | [c] => .ok (String.singleton c).toUTF8
      | _ => .error .badFormat
  | value =>
      match character? value with
      | some c => .ok (String.singleton c).toUTF8
      | none => .error .badFormat

/-- A value as a letter says. -/
def convert (store : Store) (letter : Char) (value : Value) : Except Error ByteArray :=
  match letter with
  | 's' => .ok (store.plain value)
  | 'r' => .ok (store.shown value).toUTF8
  | 'd' | 'i' => wholeText false 10 value
  | 'o' => wholeText false 8 value
  | 'x' => wholeText false 16 value
  | 'X' => wholeText true 16 value
  | 'e' => floatText .long 'e' value
  | 'E' => floatText .long 'E' value
  | 'f' => floatText .fixed 'e' value
  | 'F' => unknownFloatText value
  | 'g' => floatText .short 'e' value
  | 'G' => floatText .short 'E' value
  | 'c' => characterText value
  | '%' => .ok "%".toUTF8
  | _ => .error .badFormat

/-- The value under a key, where there are keys. -/
def valueUnder (store : Store) (key : ByteArray) : Value → Except Error Value
  | .dict address =>
      match (store.dictionary address).find? (.string key) with
      | .ok (some value) => .ok value
      | _ => .error .noSuchKey
  | _ => .error .badFormat

/-- Fills pieces, behind what has been written; `left` values are still to be
used. -/
def fill (store : Store) (values : Value) (out : ByteArray) (left : List Value) :
    List Piece → Except Error ByteArray
  | [] =>
      match values, left with
      | .dict _, _ => .ok out
      | _, [] => .ok out
      | _, _ => .error .badFormat
  | .literal b :: pieces => fill store values (out.push b) left pieces
  | .value (some key) letter :: pieces => do
      let value ← valueUnder store key values
      fill store values (out ++ (← convert store letter value)) left.tail pieces
  | .value none letter :: pieces =>
      match left with
      | [] => .error .badFormat
      | value :: left => do
          fill store values (out ++ (← convert store letter value)) left pieces

/-- A template with percent signs, filled with a value or with the values of a
tuple. -/
def interpolate (store : Store) (template : ByteArray) (values : Value) :
    Except Error Value := do
  let read ← pieces .plain #[] template.toList
  let left :=
    match values with
    | .tuple items => items
    | value => [value]
  .ok (.string (← fill store values ByteArray.empty left read.toList))

/-- A part of a template with braces. -/
inductive Part where
  | literal (b : UInt8)
  | field (text : List UInt8)

/-- What has just been read of a template with braces. -/
inductive BraceReading where
  | plain
  /-- An opening brace. -/
  | opened
  /-- A closing brace. -/
  | closed
  /-- The first bytes of a field, most recent first. -/
  | field (read : List UInt8)

/-- The parts of a template with braces, behind those already read.  A brace that is
written twice stands for itself. -/
def parts (reading : BraceReading) (read : Array Part) : List UInt8 → Except Error (Array Part)
  | [] =>
      match reading with
      | .plain => .ok read
      | _ => .error .badFormat
  | b :: bs =>
      match reading with
      | .plain =>
          if b = code '\x7b' then parts .opened read bs
          else if b = code '\x7d' then parts .closed read bs
          else parts .plain (read.push (.literal b)) bs
      | .opened =>
          if b = code '\x7b' then parts .plain (read.push (.literal b)) bs
          else if b = code '\x7d' then parts .plain (read.push (.field [])) bs
          else parts (.field [b]) read bs
      | .closed =>
          if b = code '\x7d' then parts .plain (read.push (.literal b)) bs
          else .error .badFormat
      | .field bytes =>
          if b = code '\x7d' then parts .plain (read.push (.field bytes.reverse)) bs
          else parts (.field (b :: bytes)) read bs

/-- How the fields used so far have been numbered. -/
inductive Numbering where
  | unused
  /-- By their order; the next one has the given number. -/
  | automatic (next : Nat)
  | manual

/-- The value of a field, by its name, and how fields are numbered from now on. -/
def fieldValue (values : List Value) (named : List (ByteArray × Value))
    (numbering : Numbering) (name : List UInt8) : Except Error (Value × Numbering) :=
  let digits := name.map fun b => Char.ofNat b.toNat
  let at? (n : Nat) (after : Numbering) : Except Error (Value × Numbering) :=
    match values[n]? with
    | some value => .ok (value, after)
    | none => .error .badFormat
  if name.isEmpty then
    match numbering with
    | .unused => at? 0 (.automatic 1)
    | .automatic next => at? next (.automatic (next + 1))
    | .manual => .error .badFormat
  else if digits.all Char.isDigit then
    match numbering with
    | .automatic _ => .error .badFormat
    | _ => at? (Decimal.value digits) .manual
  else
    match named.find? fun entry => entry.1 == name.toByteArray with
    | some (_, value) => .ok (value, numbering)
    | none => .error .badFormat

/-- A field split into its name and the letter that says how the value is written.
What follows a colon has to be empty. -/
def splitField (text : List UInt8) : Except Error (List UInt8 × List UInt8) :=
  let isNot (c : Char) (b : UInt8) : Bool := b != code c
  let beforeColon (text : List UInt8) : Except Error (List UInt8) :=
    if (text.dropWhile (isNot ':')).length ≤ 1 then .ok (text.takeWhile (isNot ':'))
    else .error .badFormat
  match text.dropWhile (isNot '!') with
  | [] => do .ok (← beforeColon text, [code 's'])
  | _ :: conversion => do .ok (text.takeWhile (isNot '!'), ← beforeColon conversion)

/-- Fills the parts of a template with braces, behind what has been written. -/
def fillParts (store : Store) (values : List Value) (named : List (ByteArray × Value))
    (out : ByteArray) (numbering : Numbering) : List Part → Except Error ByteArray
  | [] => .ok out
  | .literal b :: parts => fillParts store values named (out.push b) numbering parts
  | .field text :: parts => do
      let (name, conversion) ← splitField text
      let (value, numbering) ← fieldValue values named numbering name
      let written ←
        if conversion = [code 's'] then .ok (store.plain value)
        else if conversion = [code 'r'] then .ok (store.shown value).toUTF8
        else .error .badFormat
      fillParts store values named (out ++ written) numbering parts

/-- A template with braces, filled with values in order or by name. -/
def format (store : Store) (template : ByteArray) (values : List Value)
    (named : List (ByteArray × Value)) : Except Error Value := do
  let read ← parts .plain #[] template.toList
  .ok (.string (← fillParts store values named ByteArray.empty .unused read.toList))

end Template

end ToyRisc.Expression
