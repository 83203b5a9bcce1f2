/-
Arguments of calls, and how parameters take them: first those given by position,
then those given by name; what is left over goes to the parameters that collect
it.
-/
import ToyRisc.Expression.Sequence

namespace ToyRisc.Expression

structure Args where
  positional : List Value
  named : List (ByteArray × Value)

namespace Args

def single (value : Value) : Args := ⟨[value], []⟩

/-- The arguments of a function that takes them by position only, between `least` and
`most` of them. -/
def byPosition (args : Args) (function : String) (least most : Nat) :
    Except Error (List Value) :=
  let count := args.positional.length
  if args.named.isEmpty && decide (least ≤ count) && decide (count ≤ most) then
    .ok args.positional
  else .error (.badArguments function)

def requireNone (args : Args) (function : String) : Except Error Unit := do
  let _ ← args.byPosition function 0 0

/-- Gives a named argument to the parameter of that name, if it has none yet. -/
def giveNamed (function : String) (name : ByteArray) (value : Value) :
    List (String × Option Value) → Except Error (List (String × Option Value))
  | [] => .error (.badArguments function)
  | (text, taken) :: params =>
      if text.toUTF8 == name then
        match taken with
        | none => .ok ((text, some value) :: params)
        | some _ => .error (.badArguments function)
      else do .ok ((text, taken) :: (← giveNamed function name value params))

/-- Gives every argument to a parameter; the parameters that are left have none. -/
def byName (args : Args) (function : String) (params : List String) :
    Except Error (List (Option Value)) := do
  if params.length < args.positional.length then throw (.badArguments function)
  let values := args.positional.map some
  let taken := params.zip (values ++ List.replicate (params.length - values.length) none)
  let taken ← args.named.foldlM (fun taken (name, value) =>
    giveNamed function name value taken) taken
  .ok (taken.map (·.2))

end Args

/-- Parameters of a function while they take their arguments. -/
structure Binding where
  /-- The parameters that take one argument, with what they have taken. -/
  singles : Array (Param × Option Value)
  /-- The named arguments that no such parameter takes. -/
  surplus : Dictionary

namespace Binding

/-- Gives a named argument to a parameter, or to the one that collects them. -/
def giveNamed (closure : Closure) (collects : Bool) (binding : Binding) (name : ByteArray)
    (value : Value) : Except Error Binding :=
  match binding.singles.findIdx? fun (param, _) => param.name.toUTF8 == name with
  | some n =>
      match binding.singles[n]? with
      | some (param, none) =>
          .ok { binding with singles := binding.singles.setIfInBounds n (param, some value) }
      | _ => .error (.badArguments closure.name)
  | none => do
      if !collects then throw (.badArguments closure.name)
      let surplus ← binding.surplus.insert (.string name) value
      if surplus.size = binding.surplus.size then throw (.badArguments closure.name)
      .ok { binding with surplus }

/-- The values of the parameters that take one argument, completed by defaults. -/
def complete (closure : Closure) (defaults : List Value) :
    List (Param × Option Value) → Except Error (List Value)
  | [] => .ok []
  | (param, taken) :: singles =>
      match taken, param.kind, defaults with
      | some value, .optional, _ :: defaults => do
          .ok (value :: (← complete closure defaults singles))
      | some value, _, _ => do .ok (value :: (← complete closure defaults singles))
      | none, .optional, value :: defaults => do
          .ok (value :: (← complete closure defaults singles))
      | none, _, _ => .error (.badArguments closure.name)

end Binding

/-- The number of arguments that parameters take by position. -/
def Param.places (params : List Param) : Nat := (params.takeWhile (·.kind.isSingle)).length

/-- Gives the parameters of a function their arguments, in the order of their
slots. -/
def Closure.bind (closure : Closure) (args : Args) : Eval (List Value) := do
  let params := closure.params
  let singles := params.filter (·.kind.isSingle)
  let collectsPlaced := params.any (·.kind = .rest)
  let collectsNamed := params.any (·.kind = .namedRest)
  let places := Param.places params
  let placed := args.positional.take places
  let surplus := args.positional.drop places
  if !surplus.isEmpty && !collectsPlaced then throw (.badArguments closure.name)
  let values := placed.map some
  let taken :=
    (singles.zip (values ++ List.replicate (singles.length - values.length) none)).toArray
  let binding ← args.named.foldlM (fun (binding : Binding) (name, value) =>
    binding.giveNamed closure collectsNamed name value) ⟨taken, .empty⟩
  let single ← Binding.complete closure closure.defaults binding.singles.toList
  let rest := if collectsPlaced then [Value.tuple surplus] else []
  if collectsNamed then
    pure (single ++ rest ++ [← Eval.newDict binding.surplus])
  else pure (single ++ rest)

def Closure.newFrame (closure : Closure) (args : Args) : Eval Nat := do
  let values ← closure.bind args
  let empty := List.replicate (closure.shape.slots - values.length) none
  Eval.newFrame ⟨closure.outer, (values.map some ++ empty).toArray⟩

end ToyRisc.Expression
