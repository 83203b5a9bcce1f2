/-
Equality and order of values.  Equality crosses from whole numbers to floating
ones and no further; comparing nested values stops at a fixed depth.
-/
import ToyRisc.Expression.Store

namespace ToyRisc.Expression

namespace Store

def sameEntries (same : Value → Value → Except Error Bool) (other : Dictionary) :
    List (Value × Value) → Except Error Bool
  | [] => .ok true
  | (key, x) :: entries =>
      match other.find? key with
      | .ok (some y) => do
          if ← same x y then sameEntries same other entries else .ok false
      | _ => .ok false

/-- Whether two values are equal, compared down to a depth. -/
def equalWithin (store : Store) : Nat → Value → Value → Except Error Bool
  | 0, _, _ => .error .tooDeep
  | depth + 1, left, right =>
      match left, right with
      | .tuple xs, .tuple ys =>
          if xs.length = ys.length then Value.allSame (equalWithin store depth) xs ys
          else .ok false
      | .list a, .list b =>
          let xs := store.items a
          let ys := store.items b
          if xs.size = ys.size then
            Value.allSame (equalWithin store depth) xs.toList ys.toList
          else .ok false
      | .dict a, .dict b =>
          let d := store.dictionary a
          let e := store.dictionary b
          if d.size = e.size then
            sameEntries (equalWithin store depth) e d.entries.toList
          else .ok false
      | _, _ => .ok (Value.sameAtom left right)

def equal (store : Store) (left right : Value) : Except Error Bool :=
  store.equalWithin Value.compareLimit left right

def compareBytes : List UInt8 → List UInt8 → Ordering
  | [], [] => .eq
  | [], _ :: _ => .lt
  | _ :: _, [] => .gt
  | a :: as, b :: bs =>
      if a < b then .lt else if b < a then .gt else compareBytes as bs

/-- The order of two sequences: that of the first unequal items, or else that of
the lengths. -/
def compareItems (same : Value → Value → Except Error Bool)
    (order : Value → Value → Except Error Ordering) :
    List Value → List Value → Except Error Ordering
  | x :: xs, y :: ys => do
      if ← same x y then compareItems same order xs ys else order x y
  | [], [] => .ok .eq
  | [], _ :: _ => .ok .lt
  | _ :: _, [] => .ok .gt

/-- The order of two values that have one, compared down to a depth. -/
def orderWithin (store : Store) : Nat → Value → Value → Except Error Ordering
  | 0, _, _ => .error .tooDeep
  | depth + 1, left, right =>
      let sequences (xs ys : List Value) : Except Error Ordering :=
        compareItems (store.equalWithin depth) (orderWithin store depth) xs ys
      match left, right with
      | .bool a, .bool b => .ok (compare a.toNat b.toNat)
      | .int a, .int b => .ok (compare a b)
      | .int a, .float b => .ok (Binary64.compareInt a b)
      | .float a, .int b => .ok (Binary64.compareInt b a).swap
      | .float a, .float b => .ok (Binary64.compareFloat a b)
      | .string a, .string b => .ok (compareBytes a.toList b.toList)
      | .bytes a, .bytes b => .ok (compareBytes a.toList b.toList)
      | .tuple xs, .tuple ys => sequences xs ys
      | .list a, .list b => sequences (store.items a).toList (store.items b).toList
      | _, _ => .error (.unfit "a comparison")

def order (store : Store) (left right : Value) : Except Error Ordering :=
  store.orderWithin Value.compareLimit left right

def placeAmong? (store : Store) (value : Value) (n : Nat) :
    List Value → Except Error (Option Nat)
  | [] => .ok none
  | other :: others => do
      if ← store.equal other value then .ok (some n)
      else placeAmong? store value (n + 1) others

end Store

end ToyRisc.Expression
