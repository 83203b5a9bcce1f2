/-
The methods of lists and dictionaries, and of values as a whole.
-/
import ToyRisc.Expression.StringMethod

namespace ToyRisc.Expression

namespace Eval

def itemsAt (address : Nat) : Eval (Array Value) := do pure ((← get).items address)

def entriesAt (address : Nat) : Eval (Array (Value × Value)) := do
  pure ((← get).dictionary address).entries

/-- Takes an item out of a list; a negative index counts from the end. -/
def takeItem (address : Nat) (index : Int) : Eval Value := do
  let items ← itemsAt address
  let n := if index < 0 then index + items.size else index
  match if n < 0 then none else items[n.toNat]? with
  | some value => do
      changeList address fun items => items.eraseIdxIfInBounds n.toNat
      pure value
  | none => throw .outOfRange

/-- Puts a value in front of an item of a list, or behind the last one. -/
def insertItem (address : Nat) (index : Int) (value : Value) : Eval Unit := do
  let size := (← itemsAt address).size
  let n := Value.clamp size (if index < 0 then index + size else index)
  changeList address fun items => items.insertIdxIfInBounds n value

/-- The place of a value in a part of a list. -/
def placeOf (address : Nat) (value low high : Value) : Eval Nat := do
  let items ← itemsAt address
  let (first, last) ← Value.span items.size low high
  match ← (← get).placeAmong? value first (items.extract first last).toList with
  | some n => pure n
  | none => throw .noSuchItem

def firstEntry? (address : Nat) : Eval (Option (Value × Value)) := do
  pure (((← get).dictionary address).slots.findSome? id)

def entry? (address : Nat) (key : Value) : Eval (Option Value) := do
  ((← get).dictionary address).find? key

end Eval

open Eval in
def ListMethod.apply (method : ListMethod) (address : Nat) (args : Args) : Eval Value := do
  let values ← args.byPosition (Method.list method).name 0 3
  match method, values.map (·.word?), values with
  | .append, _, [value] => changeList address fun items => items.push value
  | .clear, _, [] => changeList address fun _ => #[]
  | .extend, _, [source] => do
      let more ← elements "extend" source
      changeList address fun items => items ++ more
  | .index, _, value :: bounds => do
      let n ← placeOf address value (bounds.headD .nothing) (bounds.tail.headD .nothing)
      return .int n
  | .insert, [some n, _], [_, value] => insertItem address n value
  | .pop, _, [] => return ← takeItem address (-1)
  | .pop, [some n], _ => return ← takeItem address n
  | .remove, _, [value] => do
      requireIdleList address
      let n ← placeOf address value .nothing .nothing
      changeList address fun items => items.eraseIdxIfInBounds n
  | _, _, _ => throw (.badArguments (Method.list method).name)
  pure .nothing

open Eval in
def DictMethod.apply (method : DictMethod) (address : Nat) (args : Args) : Eval Value := do
  if method = .update then
    updateDict address args
    return .nothing
  match method, ← args.byPosition (Method.dict method).name 0 2 with
  | .clear, [] => do
      changeDict address fun _ => .empty
      pure .nothing
  | .get, [key] => do pure ((← entry? address key).getD .nothing)
  | .get, [key, default] => do pure ((← entry? address key).getD default)
  | .items, [] => do
      newList ((← entriesAt address).map fun (key, value) => .tuple [key, value])
  | .keys, [] => do newList ((← entriesAt address).map (·.1))
  | .values, [] => do newList ((← entriesAt address).map (·.2))
  | .pop, [key] => do
      match ← takeEntry address key with
      | some value => pure value
      | none => throw .noSuchKey
  | .pop, [key, default] => do pure ((← takeEntry address key).getD default)
  | .popItem, [] => do
      match ← firstEntry? address with
      | some (key, value) => do
          let _ ← takeEntry address key
          pure (.tuple [key, value])
      | none => throw .emptySequence
  | .setDefault, [key] => setDefault address key .nothing
  | .setDefault, [key, default] => setDefault address key default
  | _, _ => throw (.badArguments (Method.dict method).name)
where
  /-- The value under a key, which is put there first if there is none. -/
  setDefault (address : Nat) (key default : Value) : Eval Value := do
    match ← entry? address key with
    | some value => pure value
    | none => do
        putEntry address key default
        pure default

def Method.apply (method : Method) (receiver : Value) (args : Args) : Eval Value :=
  match method, receiver with
  | .list which, .list address => which.apply address args
  | .dict which, .dict address => which.apply address args
  | .string which, .string image => which.apply image args
  | .byteElems, .bytes image => do
      args.requireNone method.name
      pure (.bytesView image)
  | _, _ => throw (.unfit "a method")

end ToyRisc.Expression
