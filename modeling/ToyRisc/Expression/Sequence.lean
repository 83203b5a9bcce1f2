/-
Values with several parts: their length, walking through them, and their items
and slices.  Strings and byte strings have items, but cannot be walked through.
-/
import ToyRisc.Expression.Comparison
import ToyRisc.Text.Symbol

namespace ToyRisc.Expression

/-- Values that follow one another, each computed when it is asked for. -/
structure Walk where
  size : Nat
  get : Nat → Value

namespace Walk

def ofArray (items : Array Value) : Walk := ⟨items.size, fun n => items.getD n .nothing⟩

/-- Pushes `left` values from the `n`-th one on. -/
def pushFrom (walk : Walk) (read : Array Value) (n : Nat) : Nat → Array Value
  | 0 => read
  | left + 1 => pushFrom walk (read.push (walk.get n)) (n + 1) left

def toArray (walk : Walk) : Array Value := walk.pushFrom #[] 0 walk.size

/-- Whether one of `left` values from the `n`-th one on passes a test. -/
def anyFrom (walk : Walk) (test : Value → Bool) (n : Nat) : Nat → Bool
  | 0 => false
  | left + 1 => test (walk.get n) || anyFrom walk test (n + 1) left

def any (walk : Walk) (test : Value → Bool) : Bool := walk.anyFrom test 0 walk.size

/-- Goes on from a result with `left` values from the `n`-th one on. -/
def foldFrom {α : Type} (walk : Walk) (f : α → Value → Eval α) (result : α) (n : Nat) :
    Nat → Eval α
  | 0 => pure result
  | left + 1 => do
      let result ← f result (walk.get n)
      foldFrom walk f result (n + 1) left

def fold {α : Type} (walk : Walk) (f : α → Value → Eval α) (result : α) : Eval α :=
  walk.foldFrom f result 0 walk.size

end Walk

namespace Value

/-- One byte of a string as a string. -/
def oneByte (image : ByteArray) (n : Nat) : ByteArray := image.extract n (n + 1)

/-- One byte of a string as a number. -/
def byteNumber (image : ByteArray) (n : Nat) : Value := int (image[n]?.getD 0).toNat

def characters (image : ByteArray) : List Char := (Text.ofBytes image.toList).chars

end Value

def View.walk (view : View) (image : ByteArray) : Walk :=
  match view with
  | .elems => ⟨image.size, fun n => .string (Value.oneByte image n)⟩
  | .elemOrds => ⟨image.size, Value.byteNumber image⟩
  | .codepoints =>
      .ofArray ((Value.characters image).map fun c =>
        Value.ofString (String.singleton c)).toArray
  | .codepointOrds =>
      .ofArray ((Value.characters image).map fun c => Value.int c.toNat).toArray

namespace Store

/-- Walking through a value that allows it. -/
def walk? (store : Store) : Value → Option Walk
  | .list address => some (.ofArray (store.items address))
  | .tuple items => some (.ofArray items.toArray)
  | .dict address => some (.ofArray ((store.dictionary address).entries.map (·.1)))
  | .range progression => some ⟨progression.size, fun n => .int (progression.get n)⟩
  | .stringView view image => some (view.walk image)
  | .bytesView image => some ⟨image.size, Value.byteNumber image⟩
  | _ => none

/-- The number of parts of a value that tells it. -/
def length? (store : Store) : Value → Option Nat
  | .string image | .bytes image => some image.size
  | .list address => some (store.items address).size
  | .tuple items => some items.length
  | .dict address => some (store.dictionary address).size
  | .range progression =>
      if 0 ≤ progression.length then some progression.size else none
  | .stringView .elems image | .stringView .elemOrds image => some image.size
  | _ => none

end Store

namespace Eval

def walk (what : String) (value : Value) : Eval Walk := do
  match (← get).walk? value with
  | some walk => pure walk
  | none => throw (.unfit what)

def elements (what : String) (value : Value) : Eval (Array Value) := do
  pure (← walk what value).toArray

/-- The items of a value that has exactly so many. -/
def exactly (count : Nat) (value : Value) : Eval (List Value) := do
  let walk ← walk "an assignment" value
  if walk.size = count then pure walk.toArray.toList else throw .wrongCount

end Eval

namespace Value

/-- The place of an index in a sequence; negative ones count from the end. -/
def position (length : Nat) (index : Value) : Except Error Nat :=
  match small? index with
  | none => .error (.unfit "an index")
  | some n =>
      let n := if n < 0 then n + length else n
      if 0 ≤ n ∧ n < length then .ok n.toNat else .error .outOfRange

/-- An index where there may be none; negative ones count from the end. -/
def bound (length : Nat) (absent : Int) : Value → Except Error Int
  | nothing => .ok absent
  | index =>
      match small? index with
      | some n => .ok (if n < 0 then n + length else n)
      | none => .error (.unfit "an index")

/-- A number brought between zero and a length. -/
def clamp (length : Nat) (n : Int) : Nat := min n.toNat length

/-- The part of a sequence between two indices. -/
def span (length : Nat) (low high : Value) : Except Error (Nat × Nat) := do
  let first ← bound length 0 low
  let last ← bound length length high
  .ok (clamp length first, clamp length last)

/-- The places that a slice takes: the first one, the one it does not reach, and
the distance between two of them. -/
structure Stride where
  first : Int
  last : Int
  step : Int

/-- The places that a slice takes from a sequence of the given length. -/
def stride (length : Nat) (low high step : Value) : Except Error Stride := do
  let step ←
    match step with
    | nothing => .ok 1
    | value =>
        match small? value with
        | some n => .ok n
        | none => .error (.unfit "a slice")
  if step = 0 then throw (.unfit "a slice")
  if 0 < step then
    let (first, last) ← span length low high
    .ok ⟨first, max first last, step⟩
  else
    let first := min (← bound length (length - 1) low) (length - 1)
    let last := max (-1) (← bound length (-1) high)
    .ok ⟨max first last, last, step⟩

def Stride.size (s : Stride) : Nat :=
  if 0 < s.step then ((s.last - s.first + s.step - 1) / s.step).toNat
  else ((s.first - s.last - s.step - 1) / (-s.step)).toNat

def Stride.places (s : Stride) : List Nat :=
  (List.range s.size).map fun (n : Nat) => (s.first + s.step * n).toNat

/-- The items of an array at the places. -/
def Stride.pick (s : Stride) (items : Array Value) : Array Value :=
  if s.step = 1 then items.extract s.first.toNat s.last.toNat
  else (s.places.filterMap (items[·]?)).toArray

/-- The bytes at the places. -/
def Stride.pickBytes (s : Stride) (image : ByteArray) : ByteArray :=
  if s.step = 1 then image.extract s.first.toNat s.last.toNat
  else (s.places.filterMap (image[·]?)).toByteArray

end Value

namespace Eval

/-- The item of a container under an index or a key. -/
def item (container key : Value) : Eval Value := do
  let store ← get
  match container with
  | .list address => do
      let items := store.items address
      let n ← Value.position items.size key
      pure (items.getD n .nothing)
  | .tuple items => do
      let n ← Value.position items.length key
      pure (items.getD n .nothing)
  | .string image => do
      let n ← Value.position image.size key
      pure (.string (Value.oneByte image n))
  | .bytes image => do
      let n ← Value.position image.size key
      pure (.bytes (Value.oneByte image n))
  | .range progression => do
      let n ← Value.position progression.size key
      pure (.int (progression.get n))
  | .stringView .elems image => do
      let n ← Value.position image.size key
      pure (.string (Value.oneByte image n))
  | .stringView .elemOrds image => do
      let n ← Value.position image.size key
      pure (Value.byteNumber image n)
  | .dict address => do
      match ← (store.dictionary address).find? key with
      | some value => pure value
      | none => throw .noSuchKey
  | _ => throw (.unfit "an index")

/-- Puts a value under an index or a key of a container. -/
def setItem (container key value : Value) : Eval Unit := do
  match container with
  | .list address => do
      let n ← Value.position ((← get).items address).size key
      changeList address fun items => items.setIfInBounds n value
  | .dict address => putEntry address key value
  | _ => throw (.unfit "an index")

/-- The part of a sequence that a slice takes. -/
def slice (container low high step : Value) : Eval Value := do
  match container with
  | .list address => do
      let items := (← get).items address
      newList ((← Value.stride items.size low high step).pick items)
  | .tuple items => do
      let s ← Value.stride items.length low high step
      pure (.tuple (s.pick items.toArray).toList)
  | .string image => do
      pure (.string ((← Value.stride image.size low high step).pickBytes image))
  | .bytes image => do
      pure (.bytes ((← Value.stride image.size low high step).pickBytes image))
  | .range progression => do
      let s ← Value.stride progression.size low high step
      pure (.range (progression.slice s.first s.last s.step))
  | _ => throw (.unfit "a slice")

end Eval

end ToyRisc.Expression
