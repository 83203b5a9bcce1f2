/-
Why an expression has no value.
-/
namespace ToyRisc.Expression

/-- The reasons for which an expression has no value. -/
inductive Error where
  | badCharacter (c : Char)
  | badNumber
  | badString
  | badIndent
  /-- Something else should stand here. -/
  | expected (what : String)
  | tooDeep
  | undefinedName (name : String)
  | unassignedName
  | reassignedName (name : String)
  | repeatedName (name : String)
  | badTarget
  | badParameters
  /-- A statement that only stands in a function, or only in a loop. -/
  | misplaced (what : String)
  | wrongCount
  /-- The operator or function does not take these values. -/
  | unfit (what : String)
  | divisionByZero
  | shiftCount
  | tooLarge
  | outOfRange
  | noSuchKey
  | noSuchItem
  | repeatedKey
  | unhashable
  | emptySequence
  | badFormat
  | badArguments (function : String)
  /-- A list or dictionary is changed while it is being walked through. -/
  | busy
  | recursion
  /-- The expression itself asks to fail. -/
  | failed
  deriving DecidableEq, Repr

def Error.message : Error → String
  | badCharacter c => "unexpected input character '" ++ String.singleton c ++ "'"
  | badNumber => "invalid number"
  | badString => "invalid string"
  | badIndent => "unindent does not match any outer indentation level"
  | expected what => "expected " ++ what
  | tooDeep => "nesting is too deep"
  | undefinedName name => "undefined: " ++ name
  | unassignedName => "variable is read before it is assigned"
  | reassignedName name => "cannot reassign " ++ name
  | repeatedName name => "repeated name " ++ name
  | badTarget => "cannot assign to this expression"
  | badParameters => "parameters in the wrong order"
  | misplaced what => what ++ " is out of place"
  | wrongCount => "wrong number of values to unpack"
  | unfit what => what ++ " does not take these values"
  | divisionByZero => "division by zero"
  | shiftCount => "invalid shift count"
  | tooLarge => "value is too large"
  | outOfRange => "index is out of range"
  | noSuchKey => "no such key"
  | noSuchItem => "no such item"
  | repeatedKey => "repeated key"
  | unhashable => "unhashable key"
  | emptySequence => "empty sequence"
  | badFormat => "invalid format"
  | badArguments function => function ++ ": wrong arguments"
  | busy => "changed during iteration"
  | recursion => "function called recursively"
  | failed => "failed"

end ToyRisc.Expression
