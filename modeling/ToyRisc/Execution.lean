/-
Execution of one row.  Registers are read and written in place, in the order in
which the row asks for it, up to the first fault met; a fault comes with the
registers as they are by then.
-/
import ToyRisc.Opcode
import ToyRisc.Program
import ToyRisc.RegisterFile
import ToyRisc.Token.Verify

namespace ToyRisc

namespace Token

def registerIndex (token : Token) : Except Fault Int :=
  match Decimal.readSigned 64 token.literal.toList with
  | .ok index => .ok index
  | .error _ => token.refuse (.registerName token.literal)

/-- Reports a register error at a token. -/
def guard {α : Type} (token : Token) : Except RegisterError α → Except Fault α
  | .ok value => .ok value
  | .error error => token.refuse (.registerAccess error)

/-- The word an immediate stands for. -/
def immediate (token : Token) : Except Fault Int32 :=
  match Decimal.readSigned 32 token.literal.toList with
  | .ok value => .ok (Int32.ofInt value)
  | .error _ => token.refuse (.immediateRange token.literal)

end Token

/-- The value of the register a token names. -/
def RegisterFile.fetch (registers : RegisterFile) (token : Token) : Except Fault Int32 := do
  let index ← token.registerIndex
  token.guard (registers.read index)

/-- The three operands of an instruction, without mnemonic and commas. -/
structure Operands where
  first : Token
  second : Token
  third : Token

/-- The operands of a row that is long enough to hold them. -/
def Operands.ofRow? : List Token → Option Operands
  | _ :: first :: _ :: second :: _ :: third :: _ => some ⟨first, second, third⟩
  | _ => none

/-- The operands of a row that matches the opcode's format. -/
def Opcode.operands (opcode : Opcode) (row : List Token) : Except Fault Operands := do
  opcode.format.pattern.verify row
  match Operands.ofRow? row with
  | some operands => .ok operands
  | none => .error ⟨.missingOperand ⟨[]⟩, .nowhere⟩

/-- Moves the program counter on until it is on no indented row.  A program counter
below zero is on no row at all. -/
def Program.leaveBody (program : Program) (registers : RegisterFile) : RegisterFile :=
  if _h : program.indentedAt registers.counter.toInt = true then
    program.leaveBody registers.advance
  else registers
termination_by
  if registers.counter.toInt < 0 then 0 else program.size - registers.counter.toInt.toNat
decreasing_by
  have hrow := lt_size_of_indentedAt _h
  have hnext := RegisterFile.toInt_counter_advance hrow.1
  rw [if_neg (by omega : ¬ registers.counter.toInt < 0)]
  split
  · omega
  · omega

/-- Work on the registers in place.  What was written before a fault stays written. -/
abbrev Action := EStateM Fault RegisterFile

namespace Action

/-- Looks at something that cannot change the registers. -/
def look {α : Type} (result : Except Fault α) : Action α :=
  match result with
  | .ok value => pure value
  | .error fault => throw fault

instance : MonadLift (Except Fault) Action := ⟨look⟩

def advance : Action Unit := modify RegisterFile.advance

def fetch (token : Token) : Action Int32 := do
  let registers ← get
  registers.fetch token

/-- Writes the register a token names. -/
def store (token : Token) (value : Int32) : Action Unit := do
  let index ← token.registerIndex
  (RegisterFile.assign index value).adaptExcept fun error =>
    ⟨.registerAccess error, token.position⟩

/-- Moves the program counter to the row of a label. -/
def jump (labels : LabelTable) (label : Token) : Action Unit :=
  match labels.find? label.literal with
  | some row => modify fun registers => registers.goto (Int32.ofNat row)
  | none => label.refuse (.unknownLabel label.literal)

/-- Moves the program counter to the target of a taken branch.  An offset counts
four for each row. -/
def branch (labels : LabelTable) (target : Token) : Action Unit :=
  if target.kind = .immediate then do
    let offset ← target.immediate
    modify fun registers => registers.goto (registers.counter + offset / 4)
  else jump labels target

/-- Does what an instruction asks for, up to the advance of the program counter. -/
def instruction (labels : LabelTable) (first : Token) (row : List Token) : Action Unit :=
  match Opcode.ofMnemonic? first.literal with
  | none => first.refuse (.unknownInstruction first.literal)
  | some opcode => do
      let operands ← opcode.operands row
      match opcode.format with
      | .register => do
          let a ← fetch operands.second
          let b ← fetch operands.third
          store operands.first (opcode.alu a b)
      | .immediate => do
          let a ← fetch operands.second
          let b ← operands.third.immediate
          store operands.first (opcode.alu a b)
      | _ => do
          let a ← fetch operands.first
          let b ← fetch operands.second
          if opcode.taken a b then branch labels operands.third

/-- Does what a directive asks for, up to the advance of the program counter. -/
def directive (labels : LabelTable) (first : Token) (row : List Token) : Action Unit :=
  match Directive.ofName? first.literal with
  | none => first.refuse (.unknownDirective first.literal)
  | some _ =>
      if first.line = 1 then do
        Pattern.directive.verify row
        match row with
        | _ :: label :: _ => jump labels label
        | _ => throw ⟨.missingOperand ⟨[]⟩, .nowhere⟩
      else first.refuse (.misplacedDirective first.literal)

/-- Executes a row.  Falling onto a label skips the indented rows below it. -/
def execute (program : Program) (first : Token) (row : List Token) : Action Unit :=
  match first.kind with
  | .nop => advance
  | .label => do
      advance
      modify program.leaveBody
  | .instruction => do
      instruction program.labels first row
      advance
  | .directive => do
      directive program.labels first row
      advance
  | kind => first.refuse (.unexpectedToken kind)

/-- Executes the first row where it has to name the start of the program. -/
def executeGlobal (program : Program) (first : Token) (row : List Token) : Action Unit :=
  if first.kind = .directive ∧ first.literal = Directive.global.name then do
    directive program.labels first row
    advance
  else first.refuse (.missingGlobal first.kind)

end Action

end ToyRisc
