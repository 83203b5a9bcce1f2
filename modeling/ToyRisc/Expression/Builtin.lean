/-
The functions that expressions can call without defining them.  Some of them call
a function that is given to them; how that is done is a parameter.
-/
import ToyRisc.Expression.Arguments
import ToyRisc.Expression.Conversion
import ToyRisc.Expression.Sorting

namespace ToyRisc.Expression

/-- How a value is called. -/
abbrev Caller := Value → Args → Eval Value

namespace Eval

def member? (object : Value) (text : String) : Eval (Option Value) := do
  match object.methods.lookup text with
  | some which => pure (some (← newMethod object which))
  | none => pure none

def putPair (address : Nat) (pair : Value) : Eval Unit := do
  if (← get).length? pair != some 2 then throw (.badArguments "dict")
  match ← exactly 2 pair with
  | [key, value] => whileWalking pair (putEntry address key value)
  | _ => throw (.badArguments "dict")

/-- Puts named values into a dictionary; no name may occur twice. -/
def putNamed (address : Nat) : List (ByteArray × Value) → Eval Unit
  | [] => pure ()
  | (name, value) :: named => do
      if named.any (·.1 == name) then throw (.badArguments "dict")
      putEntry address (.string name) value
      putNamed address named

def putEntries (address : Nat) : List (Value × Value) → Eval Unit
  | [] => pure ()
  | (key, value) :: entries => do
      putEntry address key value
      putEntries address entries

/-- Puts arguments into a dictionary: the entries of another one or pairs, and named
values. -/
def updateDict (address : Nat) (args : Args) : Eval Unit := do
  match args.positional with
  | [] => pure ()
  | [.dict other] => putEntries address ((← get).dictionary other).entries.toList
  | [source] => do
      let walk ← walk "dict" source
      whileWalking source (walk.fold (fun _ pair => putPair address pair) ())
  | _ => throw (.badArguments "dict")
  putNamed address args.named

/-- What a value is ordered by: what a function gives for it, or the value itself. -/
def keyOf (call : Caller) (key : Option Value) (value : Value) : Eval Value :=
  match key with
  | none => pure value
  | some function => call function (.single value)

def requireCallable (key : Option Value) : Eval Unit :=
  match key with
  | none => pure ()
  | some function => if function.isCallable then pure () else throw (.unfit "a key")

/-- The better of the best value so far and another one, with their keys.  Of two
equally good ones the first stays. -/
def better (isGreatest : Bool) (best : Option (Value × Value)) (key value : Value) :
    Eval (Option (Value × Value)) := do
  match best with
  | none => pure (some (key, value))
  | some (bestKey, _) => do
      let wanted := if isGreatest then Ordering.gt else Ordering.lt
      if (← order key bestKey) == wanted then pure (some (key, value)) else pure best

/-- The greatest or the least of several values, or of those in one. -/
def extremum (call : Caller) (isGreatest : Bool) (args : Args) : Eval Value := do
  let source ←
    match args.positional with
    | [] => throw (.badArguments "max")
    | [single] => pure single
    | several => pure (.tuple several)
  let key := (← Args.byName ⟨[], args.named⟩ "max" ["key"]).head?.getD none
  requireCallable key
  let walk ← walk "max" source
  let best ← whileWalking source <| walk.fold (fun best value => do
    let k ← keyOf call key value
    better isGreatest best k value) none
  match best with
  | some (_, value) => pure value
  | none => throw .emptySequence

/-- The values of a sequence in order. -/
def sortedList (call : Caller) (args : Args) : Eval Value := do
  match ← args.byName "sorted" ["iterable", "key", "reverse"] with
  | [some source, key, reverse] => do
      let reverse ←
        match reverse with
        | none => pure false
        | some (.bool value) => pure value
        | some _ => throw (.badArguments "sorted")
      requireCallable key
      let walk ← walk "sorted" source
      let pairs ← whileWalking source <| walk.fold (fun (pairs : Array (Value × Value)) value => do
        let k ← keyOf call key value
        pure (pairs.push (k, value))) #[]
      let store ← get
      let less (a b : Value × Value) : Except Error Bool := do
        .ok ((← store.order a.1 b.1) == .lt)
      let ordered ← Sorting.sort (if reverse then fun a b => less b a else less) pairs.toList
      newList (ordered.map (·.2)).toArray
  | _ => throw (.badArguments "sorted")

/-- The values of several sequences side by side, as long as all of them have some. -/
def zipped (args : List Value) : Eval Value := do
  let walks ← args.mapM (walk "zip")
  let rows := (walks.map (·.size)).min?.getD 0
  let row (n : Nat) : Value := .tuple (walks.map (·.get n))
  newList ((List.range rows).map row).toArray

def enumerated (source : Value) (start : Int) : Eval Value := do
  let values ← elements "enumerate" source
  let number (n : Nat) : Int := (Int64.ofInt start + Int64.ofNat n).toInt
  newList (values.mapIdx fun n value => .tuple [.int (number n), value])

def progression (args : List Value) : Except Error Value :=
  match args.map (·.word?) with
  | [some stop] => .ok (.range (.between 0 (Int64.ofInt stop) 1))
  | [some start, some stop] =>
      .ok (.range (.between (Int64.ofInt start) (Int64.ofInt stop) 1))
  | [some start, some stop, some step] =>
      if step = 0 then .error (.badArguments "range")
      else
        .ok (.range (.between (Int64.ofInt start) (Int64.ofInt stop) (Int64.ofInt step)))
  | _ => .error (.badArguments "range")

def nameOf (value : Value) : Except Error String :=
  match value with
  | .string image => .ok (String.ofList (Value.characters image))
  | _ => .error (.badArguments "getattr")

end Eval

open Eval in
def Builtin.apply (call : Caller) (builtin : Builtin) (args : Args) : Eval Value := do
  let some (least, most) := arity builtin
    | special call builtin args
  match builtin, ← args.byPosition builtin.name least most with
  | .abs, [a] => Conversion.absolute a
  | .all, [a] => do
      let store ← get
      pure (.bool !((← walk "all" a).any fun value => !store.truth value))
  | .any, [a] => do
      let store ← get
      pure (.bool ((← walk "any" a).any store.truth))
  | .bool, [] => pure (.bool false)
  | .bool, [a] => do pure (.bool (← truth a))
  | .bytes, [a] => Conversion.toBytes a
  | .chr, [a] => Conversion.toChr a
  | .dir, [a] => newList (a.methods.map fun m => Value.ofString m.1).toArray
  | .enumerate, [a] => enumerated a 0
  | .enumerate, [a, start] =>
      match start.word? with
      | some n => enumerated a n
      | none => throw (.badArguments "enumerate")
  | .float, [] => pure (.float 0.0)
  | .float, [a] => Conversion.toFloat a
  | .getattr, [a, name] => do
      match ← member? a (← nameOf name) with
      | some value => pure value
      | none => throw (.unfit "getattr")
  | .getattr, [a, name, default] => do
      pure ((← member? a (← nameOf name)).getD default)
  | .hasattr, [a, name] => do pure (.bool (← member? a (← nameOf name)).isSome)
  | .hash, [a] => Conversion.toHash a
  | .len, [a] => do
      match (← get).length? a with
      | some n => pure (.int n)
      | none => throw (.unfit "len")
  | .list, [] => newList #[]
  | .list, [a] => do newList (← elements "list" a)
  | .ord, [a] => Conversion.toOrd a
  | .range, args => progression args
  | .repr, [a] => do pure (Value.ofString ((← get).shown a))
  | .reversed, [a] => do newList (← elements "reversed" a).reverse
  | .str, [a] => Conversion.toStr a
  | .tuple, [] => pure (.tuple [])
  | .tuple, [a] => do pure (.tuple (← elements "tuple" a).toList)
  | .type, [a] => pure (Value.ofString a.typeName)
  | .zip, args => zipped args
  | _, _ => throw (.badArguments builtin.name)
where
  /-- How many arguments a function takes, if it takes them by position only. -/
  arity : Builtin → Option (Nat × Nat)
    | .abs | .all | .any | .bytes | .chr | .dir | .hash | .len | .ord | .repr | .reversed
    | .str | .type => some (1, 1)
    | .bool | .float | .list | .tuple => some (0, 1)
    | .enumerate => some (1, 2)
    | .getattr => some (2, 3)
    | .hasattr => some (2, 2)
    | .range => some (1, 3)
    | .zip => some (0, args.positional.length)
    | .dict | .fail | .int | .max | .min | .print | .sorted => none
  /-- The functions that take arguments by name, or call other functions. -/
  special (call : Caller) (builtin : Builtin) (args : Args) : Eval Value := do
    match builtin with
    | .dict => do
        let made ← newDict .empty
        match made with
        | .dict address => updateDict address args
        | _ => pure ()
        pure made
    | .int => do
        match ← args.byName "int" ["x", "base"] with
        | [some a, base] => Conversion.toInt a base
        | _ => throw (.badArguments "int")
    | .max => extremum call true args
    | .min => extremum call false args
    | .print => do
        match ← Args.byName ⟨[], args.named⟩ "print" ["sep"] with
        | [none] | [some (.string _)] => pure .nothing
        | _ => throw (.badArguments "print")
    | .sorted => sortedList call args
    | _ => throw .failed

end ToyRisc.Expression
