/-
Values of expressions.  Truth values are not numbers, whole numbers have no
bound, and strings are bytes.  Lists, dictionaries and functions are known by
their address in a store; everything else is what it shows.
-/
import ToyRisc.Binary64
import ToyRisc.Expression.Error
import ToyRisc.Expression.Vocabulary

namespace ToyRisc.Expression

/-- An arithmetic progression of words: `length` numbers from `start` on, each
`step` from the next, none of them at or beyond `stop`. -/
structure Progression where
  start : Int64
  stop : Int64
  step : Int64
  length : Int64
  deriving DecidableEq

namespace Progression

/-- The progression from `start` up or down to `stop`.  The length wraps around like
every word. -/
def between (start stop step : Int64) : Progression :=
  { start, stop, step,
    length :=
      if 0 < step then if start < stop then (stop - 1 - start) / step + 1 else 0
      else if stop < start then (start - 1 - stop) / (-step) + 1
      else 0 }

def size (p : Progression) : Nat := p.length.toInt.toNat

def get (p : Progression) (n : Nat) : Int := (p.start + Int64.ofNat n * p.step).toInt

/-- The part between two places, taking only every `step`-th number. -/
def slice (p : Progression) (first last step : Int) : Progression :=
  between (p.start + p.step * Int64.ofInt first) (p.start + p.step * Int64.ofInt last)
    (p.step * Int64.ofInt step)

def same (p q : Progression) : Bool :=
  p.length == q.length
    && (p.length == 0 || (p.start == q.start && (p.length == 1 || p.step == q.step)))

/-- Whether a small number is among those of the progression. -/
def holds (p : Progression) (n : Int) : Bool :=
  let distance := Int64.ofInt n - p.start
  let place := distance / p.step
  distance % p.step == 0 && decide (0 ≤ place) && decide (place < p.length)

end Progression

/-- The ways of walking through a string. -/
inductive View where
  /-- Byte by byte, each a string. -/
  | elems
  /-- Byte by byte, each a number. -/
  | elemOrds
  /-- Character by character, each a string. -/
  | codepoints
  /-- Character by character, each a number. -/
  | codepointOrds
  deriving DecidableEq, Repr

inductive Value where
  | nothing
  | bool (value : Bool)
  | int (value : Int)
  | float (value : Float)
  | string (image : ByteArray)
  | bytes (image : ByteArray)
  | tuple (items : List Value)
  | list (address : Nat)
  | dict (address : Nat)
  | range (progression : Progression)
  /-- A string that can be walked through. -/
  | stringView (view : View) (image : ByteArray)
  /-- A byte string that can be walked through. -/
  | bytesView (image : ByteArray)
  | function (address : Nat)
  | builtin (which : Builtin)
  /-- A method of a value.  Each time it is asked for it is another one. -/
  | method (serial : Nat) (receiver : Value) (which : Method)

namespace Value

def typeName : Value → String
  | nothing => "NoneType"
  | bool _ => "bool"
  | int _ => "int"
  | float _ => "float"
  | string _ => "string"
  | bytes _ => "bytes"
  | tuple _ => "tuple"
  | list _ => "list"
  | dict _ => "dict"
  | range _ => "range"
  | stringView .elems _ | stringView .elemOrds _ => "string.elems"
  | stringView .codepoints _ | stringView .codepointOrds _ => "string.codepoints"
  | bytesView _ => "bytes.elems"
  | function _ => "function"
  | builtin _ | method .. => "builtin_function_or_method"

def ofString (text : String) : Value := string text.toUTF8

/-- A value as a 32-bit number. -/
def small? : Value → Option Int
  | int n => if -0x80000000 ≤ n ∧ n < 0x80000000 then some n else none
  | _ => none

/-- A value as a 64-bit number. -/
def word? : Value → Option Int
  | int n => if -0x8000000000000000 ≤ n ∧ n < 0x8000000000000000 then some n else none
  | _ => none

def byte? : Value → Option UInt8
  | int n => if 0 ≤ n ∧ n < 256 then some n.toNat.toUInt8 else none
  | _ => none

/-- A number without what is behind its point. -/
def wholePart? : Value → Option Int
  | int n => some n
  | float x => Binary64.truncate? x
  | _ => none

def methods : Value → List (String × Method)
  | string _ => Method.ofStrings
  | bytes _ => Method.ofBytes
  | list _ => Method.ofLists
  | dict _ => Method.ofDicts
  | _ => []

def isCallable : Value → Bool
  | function _ | builtin _ | method .. => true
  | _ => false

mutual

/-- A number that equal values share, if the value can be a key. -/
def hash? : Value → Option UInt64
  | nothing => some 3
  | bool value => some (if value then 7 else 5)
  | int n => some (hash n)
  | float x =>
      match Binary64.truncate? x with
      | some n => some (hash n)
      | none => some 11
  | string image => some (mixHash 13 (hash image))
  | bytes image => some (mixHash 17 (hash image))
  | tuple items => hashAll? 19 items
  | function address => some (mixHash 23 (hash address))
  | builtin which => some (mixHash 29 (hash which.name))
  | method serial .. => some (mixHash 31 (hash serial))
  | list _ | dict _ | range _ | stringView .. | bytesView _ => none

/-- A number that equal sequences share, behind what has been mixed so far. -/
def hashAll? (seed : UInt64) : List Value → Option UInt64
  | [] => some seed
  | item :: items =>
      match hash? item with
      | some h => hashAll? (mixHash seed h) items
      | none => none

end

end Value

end ToyRisc.Expression
