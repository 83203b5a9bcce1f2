/-
Executable instructions.  An opcode has an operand format, an arithmetic result
and, if it branches, a relation that decides the branch.  Words are 32 bits
wide and wrap.
-/
import ToyRisc.Token.Pattern

namespace ToyRisc

inductive Format where
  | register
  | immediate
  | branch
  /-- A code that names no format. -/
  | other (code : Int)
  deriving DecidableEq, Repr

namespace Format

def ofCode (code : Int) : Format :=
  if code = 0 then register
  else if code = 1 then immediate
  else if code = 2 then branch
  else other code

def name : Format → String
  | register => "register"
  | immediate => "immediate"
  | branch => "branch"
  | other code => "Format(" ++ Decimal.text code ++ ")"

/-- The pattern that rows of a format have to match. -/
def pattern : Format → Pattern
  | register => .register
  | immediate => .immediate
  | branch => .branch
  | other _ => .branch

end Format

/-- An executable instruction. -/
inductive Opcode where
  | add | sub | and | or | xor | sll | srl | slt
  | addi | andi | ori | xori | slli | srli | slti
  | beq | bne | blt
  /-- A code that names no opcode. -/
  | other (code : Int)
  deriving DecidableEq, Repr

namespace Opcode

/-- The opcodes that have a mnemonic, in the order of their codes. -/
def named : List Opcode :=
  [add, sub, and, or, xor, sll, srl, slt, addi, andi, ori, xori, slli, srli, slti,
    beq, bne, blt]

def ofCode (code : Int) : Opcode :=
  if code < 0 then other code else (named[code.toNat]?).getD (other code)

def code : Opcode → Int
  | add => 0 | sub => 1 | and => 2 | or => 3 | xor => 4 | sll => 5 | srl => 6 | slt => 7
  | addi => 8 | andi => 9 | ori => 10 | xori => 11 | slli => 12 | srli => 13 | slti => 14
  | beq => 15 | bne => 16 | blt => 17
  | other code => code

def name : Opcode → String
  | add => "add" | sub => "sub" | and => "and" | or => "or"
  | xor => "xor" | sll => "sll" | srl => "srl" | slt => "slt"
  | addi => "addi" | andi => "andi" | ori => "ori" | xori => "xori"
  | slli => "slli" | srli => "srli" | slti => "slti"
  | beq => "beq" | bne => "bne" | blt => "blt"
  | other code => "Opcode(" ++ Decimal.text code ++ ")"

/-- The opcode of a mnemonic in lower case. -/
def ofMnemonic? (mnemonic : String) : Option Opcode := named.find? (·.name == mnemonic)

def format : Opcode → Format
  | add | sub | and | or | xor | sll | srl | slt => .register
  | addi | andi | ori | xori | slli | srli | slti => .immediate
  | beq | bne | blt => .branch
  | other code => if 15 ≤ code then .branch else .register

/-- The result of an arithmetic opcode.  Shifts use the low five bits of the
second operand, and shifting right keeps the sign. -/
def alu : Opcode → Int32 → Int32 → Int32
  | add, a, b | addi, a, b => a + b
  | sub, a, b => a - b
  | and, a, b | andi, a, b => a &&& b
  | or, a, b | ori, a, b => a ||| b
  | xor, a, b | xori, a, b => a ^^^ b
  | sll, a, b | slli, a, b => a <<< (b &&& 31)
  | srl, a, b | srli, a, b => a >>> (b &&& 31)
  | slt, a, b | slti, a, b => if a < b then 1 else 0
  | beq, _, _ | bne, _, _ | blt, _, _ | other _, _, _ => 0

def taken : Opcode → Int32 → Int32 → Bool
  | beq, a, b => a == b
  | bne, a, b => a != b
  | blt, a, b => decide (a < b)
  | _, _, _ => false

end Opcode

inductive Directive where
  /-- Names the label where the program starts. -/
  | global
  /-- A code that names no directive. -/
  | other (code : Int)
  deriving DecidableEq, Repr

namespace Directive

def ofCode (code : Int) : Directive := if code = 0 then global else other code

def name : Directive → String
  | global => "global"
  | other code => "Directive(" ++ Decimal.text code ++ ")"

/-- The directive of a given name.  Case matters. -/
def ofName? (text : String) : Option Directive :=
  if text = global.name then some global else none

end Directive

end ToyRisc
