/-
Faults.  A fault is a cause at a place.  Each cause belongs to one kind and
has one detail text; the full message names kind, place and detail.
-/
import ToyRisc.Message
import ToyRisc.Token.Pattern

namespace ToyRisc

/-- The kinds of positioned faults. -/
inductive FaultKind where
  | illegalCharacter
  | invalidRegister
  | syntaxError
  | unexpectedToken
  | unknownLabel
  | unknownInstruction
  | unknownDirective
  | missingGlobal
  | invalidDirective
  | invalidExpression
  deriving DecidableEq, Repr

def FaultKind.text : FaultKind → String
  | illegalCharacter => "illegal character"
  | invalidRegister => "invalid register call"
  | syntaxError => "syntax error"
  | unexpectedToken => "unexpected token"
  | unknownLabel => "unknown label"
  | unknownInstruction => "unknown instruction"
  | unknownDirective => "unknown directive"
  | missingGlobal => "missing global directive"
  | invalidDirective => "invalid directive"
  | invalidExpression => "invalid expression"

/-- Why a register cannot be accessed. -/
inductive RegisterError where
  /-- The index names no register. -/
  | bounds (index : Int)
  /-- Register 0 cannot be written. -/
  | constant
  deriving DecidableEq, Repr

def RegisterError.message : RegisterError → String
  | bounds index =>
      Message.fill "register %v is outside of register bounds" [.number index]
  | constant => "register 0 is an unchangeable constant"

def badRegisterName (name : String) : String :=
  Message.fill "invalid register call '%v'" [.text name]

/-- Why a row or a line is refused. -/
inductive Cause where
  | illegalCharacter (c : Char)
  /-- A name or literal that names no register. -/
  | registerName (name : String)
  | registerAccess (error : RegisterError)
  | counterOutside (counter : Int)
  | missingOperand (slot : Slot)
  | wrongOperand (slot : Slot) (found : Kind)
  | immediateRange (literal : String)
  | emptyRow (row : Nat)
  | unexpectedToken (found : Kind)
  | unknownLabel (name : String)
  | unknownInstruction (mnemonic : String)
  | unknownDirective (name : String)
  | missingGlobal (found : Kind)
  | misplacedDirective (name : String)
  /-- An expression whose value is no immediate. -/
  | notImmediate (expression : String)
  /-- An expression that has no value. -/
  | noValue (reason : String)
  deriving DecidableEq, Repr

namespace Cause

def kind : Cause → FaultKind
  | illegalCharacter _ => .illegalCharacter
  | registerName _ => .invalidRegister
  | registerAccess _ => .invalidRegister
  | counterOutside _ => .invalidRegister
  | missingOperand _ => .syntaxError
  | wrongOperand _ _ => .syntaxError
  | immediateRange _ => .syntaxError
  | emptyRow _ => .unexpectedToken
  | unexpectedToken _ => .unexpectedToken
  | unknownLabel _ => .unknownLabel
  | unknownInstruction _ => .unknownInstruction
  | unknownDirective _ => .unknownDirective
  | missingGlobal _ => .missingGlobal
  | misplacedDirective _ => .invalidDirective
  | notImmediate _ => .invalidExpression
  | noValue _ => .invalidExpression

def detail : Cause → String
  | illegalCharacter c => Message.fill "illegal character '%v'" [.text (String.singleton c)]
  | registerName name => badRegisterName name
  | registerAccess error => error.message
  | counterOutside counter =>
      Message.fill "program counter %v is outside of the program" [.number counter]
  | missingOperand slot =>
      Message.fill "expected '%v', but found nothing instead" [.text slot.render]
  | wrongOperand slot found =>
      Message.fill "expected '%v', but found '%v' instead"
        [.text slot.render, .text found.lowerName]
  | immediateRange literal =>
      Message.fill "immediate '%v' is out of range" [.text literal]
  | emptyRow row => Message.fill "program line %v is empty" [.number row]
  | unexpectedToken found => Message.fill "unexpected token '%v'" [.text found.name]
  | unknownLabel name => Message.fill "unknown label '%v'" [.text name]
  | unknownInstruction mnemonic =>
      Message.fill "unknown instruction '%v'" [.text mnemonic]
  | unknownDirective name => Message.fill "unknown directive '%v'" [.text name]
  | missingGlobal found =>
      Message.fill
        "expected '.global [label name]' at the top of the file, but found '%v' instead"
        [.text found.lowerName]
  | misplacedDirective name =>
      Message.fill "directive '%v' can only be used at the top of the file" [.text name]
  | notImmediate expression =>
      Message.fill "$(%v) is not a non-negative 32-bit integer" [.text expression]
  | noValue reason => reason

end Cause

/-- A cause at a place. -/
structure Fault where
  cause : Cause
  position : Position
  deriving DecidableEq, Repr

/-- The message that names a kind, a place and a detail.  An unknown column and
an empty detail are left out. -/
def positioned (kind : String) (place : Position) (detail : String) : String :=
  kind ++ " from line " ++ Decimal.grouped place.line
    ++ (if place.col = 0 then "" else ", col " ++ Decimal.grouped place.col)
    ++ (if detail.isEmpty then "" else ": " ++ detail)

namespace Fault

def kind (fault : Fault) : FaultKind := fault.cause.kind

def message (fault : Fault) : String :=
  positioned fault.kind.text fault.position fault.cause.detail

end Fault

def Token.refuse {α : Type} (token : Token) (cause : Cause) : Except Fault α :=
  .error ⟨cause, token.position⟩

end ToyRisc
