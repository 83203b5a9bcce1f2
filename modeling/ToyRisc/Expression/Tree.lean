/-
The structure of expressions and statements.  As read, a tree holds names as
strings; once they are resolved it holds the places that the names stand for,
and says for every function how much room its variables take.  Both are
parameters of the types.
-/
namespace ToyRisc.Expression

inductive UnaryOp where
  | negate
  | plus
  | complement
  | not
  deriving DecidableEq, Repr

/-- Operators that compute from both operands. -/
inductive BinaryOp where
  | add | sub | mul | div | floorDiv | mod
  | bitAnd | bitOr | bitXor | shiftLeft | shiftRight
  | equal | notEqual | less | greater | lessEqual | greaterEqual
  | isIn | isNotIn
  deriving DecidableEq, Repr

/-- How a parameter takes its argument. -/
inductive ParamKind where
  /-- By position or by name. -/
  | plain
  /-- By position or by name, or from its default. -/
  | optional
  /-- Not at all: the parameters behind it are given by name only. -/
  | divider
  /-- It takes the arguments that are left by position. -/
  | rest
  /-- It takes the arguments that are left by name. -/
  | namedRest
  deriving DecidableEq, Repr

def ParamKind.isSingle : ParamKind → Bool
  | plain | optional => true
  | divider | rest | namedRest => false

/-- A parameter of a function; a divider has no name. -/
structure Param where
  name : String
  kind : ParamKind
  deriving DecidableEq, Repr

mutual

/-- An expression over names `ν`, with a shape `σ` for every function. -/
inductive Tree (ν σ : Type) where
  /-- The value that stands for nothing. -/
  | nothing
  | name (place : ν)
  | int (value : Nat)
  | float (value : Float)
  | string (image : ByteArray)
  | bytes (image : ByteArray)
  | list (items : List (Tree ν σ))
  | tuple (items : List (Tree ν σ))
  /-- Keys and values in turn. -/
  | dict (entries : List (Tree ν σ))
  /-- The values of an expression for every item of a source. -/
  | listOf (body target source : Tree ν σ) (clauses : List (Clause ν σ))
  /-- The entries given by two expressions for every item of a source. -/
  | dictOf (key value target source : Tree ν σ) (clauses : List (Clause ν σ))
  | unary (op : UnaryOp) (operand : Tree ν σ)
  | binary (op : BinaryOp) (left right : Tree ν σ)
  | both (left right : Tree ν σ)
  | either (left right : Tree ν σ)
  | choose (condition yes no : Tree ν σ)
  | index (container key : Tree ν σ)
  | slice (container low high step : Tree ν σ)
  | member (object : Tree ν σ) (text : String)
  /-- A call.  The last arguments are named by the keywords; one value may hold
  further arguments and another one further named ones. -/
  | call (function : Tree ν σ) (args : List (Tree ν σ)) (keywords : List String)
      (rest namedRest : Option (Tree ν σ))
  /-- A function of an expression, with the defaults of its optional parameters. -/
  | lambda (shape : σ) (params : List Param) (defaults : List (Tree ν σ)) (body : Tree ν σ)

/-- A further part of a comprehension. -/
inductive Clause (ν σ : Type) where
  /-- Goes through the items of a source. -/
  | each (target source : Tree ν σ)
  /-- Goes on only under a condition. -/
  | only (condition : Tree ν σ)

end

inductive Statement (ν σ : Type) where
  | pass
  /-- Ends the innermost loop. -/
  | leave
  /-- Goes on with the next item of the innermost loop. -/
  | next
  /-- Ends the function with a value. -/
  | give (tree : Tree ν σ)
  | value (tree : Tree ν σ)
  | assign (target tree : Tree ν σ)
  /-- Assigns what an operator makes of the target and a value. -/
  | update (op : BinaryOp) (target tree : Tree ν σ)
  | branch (condition : Tree ν σ) (yes no : List (Statement ν σ))
  | loop (target source : Tree ν σ) (body : List (Statement ν σ))
  /-- Assigns a function to a name. -/
  | define (place : ν) (name : String) (shape : σ) (params : List Param)
      (defaults : List (Tree ν σ)) (body : List (Statement ν σ))

/-- An expression as it is read. -/
abbrev RawTree := Tree String Unit

abbrev RawClause := Clause String Unit

abbrev RawStatement := Statement String Unit

end ToyRisc.Expression
