/-
Dictionaries.  The entries stand in the order in which their keys first came in;
a table of hashes finds the place of a key.  Keys hold neither lists nor
dictionaries, so comparing them needs no store.
-/
import Std.Data.HashMap
import ToyRisc.Expression.Value

namespace ToyRisc.Expression

namespace Value

/-- How deeply values are compared. -/
def compareLimit : Nat := 10

/-- Whether two values are equal that do not consist of other values. -/
def sameAtom : Value → Value → Bool
  | nothing, nothing => true
  | bool a, bool b => a == b
  | int a, int b => a == b
  | int a, float b => Binary64.compareInt a b == .eq
  | float a, int b => Binary64.compareInt b a == .eq
  | float a, float b => Binary64.compareFloat a b == .eq
  | string a, string b => a == b
  | bytes a, bytes b => a == b
  | range a, range b => a.same b
  | stringView v a, stringView w b => v == w && a == b
  | bytesView a, bytesView b => a == b
  | function a, function b => a == b
  | builtin a, builtin b => a == b
  | method a .., method b .. => a == b
  | _, _ => false

/-- Whether two sequences of the same length have equal items; the first unequal
ones decide. -/
def allSame (same : Value → Value → Except Error Bool) :
    List Value → List Value → Except Error Bool
  | x :: xs, y :: ys => do if ← same x y then allSame same xs ys else .ok false
  | [], [] => .ok true
  | _, _ => .ok false

/-- Whether two keys are equal, compared down to a depth. -/
def sameKeyWithin : Nat → Value → Value → Except Error Bool
  | 0, _, _ => .error .tooDeep
  | depth + 1, left, right =>
      match left, right with
      | tuple xs, tuple ys =>
          if xs.length = ys.length then allSame (sameKeyWithin depth) xs ys else .ok false
      | _, _ => .ok (sameAtom left right)

def sameKey (left right : Value) : Except Error Bool := sameKeyWithin compareLimit left right

end Value

/-- Entries in the order of their insertion. -/
structure Dictionary where
  /-- The entries; one that is removed leaves its place empty. -/
  slots : Array (Option (Value × Value))
  /-- The places of the keys with a given hash. -/
  places : Std.HashMap UInt64 (List Nat)
  /-- How many entries there are. -/
  size : Nat

namespace Dictionary

def empty : Dictionary := ⟨#[], ∅, 0⟩

def entries (d : Dictionary) : Array (Value × Value) := d.slots.filterMap id

/-- The first of some places that holds a key. -/
def search (d : Dictionary) (key : Value) : List Nat → Except Error (Option Nat)
  | [] => .ok none
  | n :: ns =>
      match d.slots.getD n none with
      | some (other, _) => do
          if ← Value.sameKey key other then .ok (some n) else search d key ns
      | none => search d key ns

/-- The hash of a key and its place, if it has one. -/
def locate (d : Dictionary) (key : Value) : Except Error (UInt64 × Option Nat) :=
  match key.hash? with
  | none => .error .unhashable
  | some hash => do .ok (hash, ← d.search key (d.places.getD hash []))

def entryAt? (d : Dictionary) (place : Option Nat) : Option (Value × Value) :=
  place.bind fun n => d.slots.getD n none

def find? (d : Dictionary) (key : Value) : Except Error (Option Value) := do
  let (_, place) ← d.locate key
  .ok ((d.entryAt? place).map (·.2))

/-- Puts a value at the place of its key, or behind all others. -/
def put (d : Dictionary) (located : UInt64 × Option Nat) (key value : Value) : Dictionary :=
  match located with
  | (_, some n) =>
      { d with slots := d.slots.modify n fun entry => entry.map fun e => (e.1, value) }
  | (hash, none) =>
      let known := d.slots.size :: d.places.getD hash []
      { slots := d.slots.push (some (key, value))
        places := d.places.insert hash known
        size := d.size + 1 }

def insert (d : Dictionary) (key value : Value) : Except Error Dictionary := do
  let located ← d.locate key
  .ok (d.put located key value)

def removeAt (d : Dictionary) (hash : UInt64) (n : Nat) : Dictionary :=
  let known := (d.places.getD hash []).filter (· != n)
  { slots := d.slots.modify n fun _ => none
    places := d.places.insert hash known
    size := d.size - 1 }

def insertAll (d : Dictionary) : List (Value × Value) → Except Error Dictionary
  | [] => .ok d
  | (key, value) :: entries => do (← d.insert key value).insertAll entries

end Dictionary

end ToyRisc.Expression
