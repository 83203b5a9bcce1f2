/-
Token kinds.  Every kind has a code; codes that name no kind are kept as they
are, so that a row built by hand can carry them.
-/
import ToyRisc.Decimal

namespace ToyRisc

inductive Kind where
  /-- A mnemonic, in lower case. -/
  | instruction
  /-- A plain word or the body of a quoted text. -/
  | ident
  /-- A register, its index as the literal. -/
  | register
  /-- A run of digits. -/
  | immediate
  /-- The declaration of a label, without its colon. -/
  | label
  | comma
  /-- A word after a dot. -/
  | directive
  | string
  | ret
  /-- An indentation mark. -/
  | tab
  | openParen
  | closeParen
  | ecall
  | nop
  | comment
  /-- A code that names no kind. -/
  | other (code : Int)
  deriving DecidableEq, Repr

namespace Kind

/-- The kinds that have a name, in the order of their codes. -/
def named : List Kind :=
  [instruction, ident, register, immediate, label, comma, directive, string, ret, tab,
    openParen, closeParen, ecall, nop, comment]

def ofCode (code : Int) : Kind :=
  if code < 0 then other code else (named[code.toNat]?).getD (other code)

def name : Kind → String
  | instruction => "INSTRUCTION"
  | ident => "IDENT"
  | register => "REGCALL"
  | immediate => "IMMEDIATE"
  | label => "LABEL"
  | comma => "COMMA"
  | directive => "DIRECTIVE"
  | string => "STRING"
  | ret => "RETURN"
  | tab => "TAB"
  | openParen => "OPENING_PAREN"
  | closeParen => "CLOSING_PAREN"
  | ecall => "ECALL"
  | nop => "NOP"
  | comment => "COMMENT"
  | other code => "Kind(" ++ Decimal.text code ++ ")"

/-- The name of a kind in lower case, as messages quote it. -/
def lowerName (kind : Kind) : String := kind.name.map Char.toLower

def ofName? (text : String) : Option Kind := named.find? (·.name == text)

end Kind

end ToyRisc
