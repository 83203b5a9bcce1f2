/-
Message templates.  A template holds slots that are filled in order; numbers
are written with their digits grouped, texts as they are.
-/
import ToyRisc.Decimal

namespace ToyRisc.Message

/-- What fills a slot. -/
inductive Arg where
  | text (s : String)
  | number (z : Int)
  deriving DecidableEq, Repr

def Arg.write : Arg → String
  | .text s => s
  | .number z => Decimal.grouped z

/-- The name of an argument's type, shown where the argument does not fit. -/
def Arg.typeName : Arg → String
  | .text _ => "string"
  | .number _ => "int"

/-- An argument with its type, as a misfit shows it. -/
def Arg.labelled (arg : Arg) : String := arg.typeName ++ "=" ++ arg.write

/-- What a numeric slot writes. -/
def Arg.writeNumber : Arg → String
  | .number z => Decimal.grouped z
  | .text s => "%!d(" ++ Arg.labelled (.text s) ++ ")"

/-- Arguments left over once some slot was filled. -/
def surplus (used : Bool) (args : List Arg) : String :=
  if used && !args.isEmpty then
    "%!(EXTRA " ++ String.intercalate ", " (args.map Arg.labelled) ++ ")"
  else ""

/-- Fills the slots of a template from left to right. -/
def fillFrom (used : Bool) : List Char → List Arg → String
  | [], args => surplus used args
  | '%' :: '%' :: rest, args => "%" ++ fillFrom used rest args
  | '%' :: 'v' :: rest, [] => "%!v(MISSING)" ++ fillFrom used rest []
  | '%' :: 'v' :: rest, arg :: args => arg.write ++ fillFrom true rest args
  | '%' :: 'd' :: rest, [] => "%!d(MISSING)" ++ fillFrom used rest []
  | '%' :: 'd' :: rest, arg :: args => arg.writeNumber ++ fillFrom true rest args
  | c :: rest, args => String.singleton c ++ fillFrom used rest args

def fill (template : String) (args : List Arg) : String :=
  fillFrom false template.toList args

end ToyRisc.Message
