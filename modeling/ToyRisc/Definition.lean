/-
Definitions: names with integer values, given as `NAME=VALUE`.  A later
definition of a name replaces an earlier one, and reading stops at the first
item that is malformed.
-/
import ToyRisc.Decimal
import ToyRisc.Text.Quoted

namespace ToyRisc

/-- Names with their values, each name once. -/
structure Definitions where
  entries : List (String × Int)
  deriving DecidableEq, Repr

/-- Why an item is not a definition. -/
inductive DefinitionError where
  /-- There is no equals sign, or no name in front of it. -/
  | noName (item : String)
  /-- The value cannot be read. -/
  | badValue (item : String) (value : String) (reason : Decimal.ReadError)
  deriving DecidableEq, Repr

def DefinitionError.message : DefinitionError → String
  | noName item => "malformed definition " ++ Quoted.quote item
  | badValue item value reason =>
      "malformed definition " ++ Quoted.quote item ++ ": strconv.Atoi: parsing "
        ++ Quoted.quote value ++ ": "
        ++ (match reason with
          | .malformed => "invalid syntax"
          | .outOfRange => "value out of range")

namespace Definitions

def empty : Definitions := ⟨[]⟩

/-- Defines a name, whatever it stood for before. -/
def define (definitions : Definitions) (name : String) (value : Int) : Definitions :=
  ⟨(name, value) :: definitions.entries.filter (·.1 != name)⟩

def find? (definitions : Definitions) (name : String) : Option Int :=
  definitions.entries.lookup name

/-- The entries in the order of their names. -/
def sorted (definitions : Definitions) : List (String × Int) :=
  definitions.entries.mergeSort fun left right => decide (left.1 ≤ right.1)

def readItem (item : String) : Except DefinitionError (String × Int) :=
  let name := item.toList.takeWhile (· != '=')
  match item.toList.dropWhile (· != '=') with
  | [] => .error (.noName item)
  | _ :: value =>
      if name.isEmpty then .error (.noName item)
      else
        match Decimal.readSigned 64 value with
        | .ok number => .ok (String.ofList name, number)
        | .error reason => .error (.badValue item (String.ofList value) reason)

/-- Adds items in order, up to the first malformed one. -/
def addItems (definitions : Definitions) :
    List String → Definitions × Option DefinitionError
  | [] => (definitions, none)
  | item :: items =>
      match readItem item with
      | .ok (name, value) => (definitions.define name value).addItems items
      | .error error => (definitions, some error)

def ofItems (items : List String) : Definitions × Option DefinitionError :=
  empty.addItems items

end Definitions

end ToyRisc
