/-
The words of the assembly language: which characters make words and numbers,
how registers are named, and which words are reserved.
-/
import ToyRisc.Token.Kind

namespace ToyRisc

def isWordChar (c : Char) : Bool :=
  ('a' ≤ c && c ≤ 'z') || ('A' ≤ c && c ≤ 'Z') || c == '_'

/-- The first index of the registers numbered after a letter. -/
def registerBase? : Char → Option Nat
  | 'x' => some 0
  | 't' => some 6
  | 's' => some 13
  | 'a' => some 25
  | _ => none

/-- Whether a letter can start the name of a numbered register. -/
def isRegisterLetter (c : Char) : Bool := (registerBase? c).isSome

/-- The index of a numbered register, which no register file has to hold:
`x40` is register 40.  The number has at most 31 bits. -/
def registerIndex? (letter : Char) (number : List Char) : Option Nat :=
  match registerBase? letter, Decimal.readUnsigned 31 number with
  | some base, .ok n => some (base + n)
  | _, _ => none

def pcIndex : Nat := 32

/-- Every mnemonic the lexer knows; not all of them can be executed. -/
def mnemonics : List String :=
  ["add", "sub", "and", "or", "xor", "sll", "srl", "slt",
    "addi", "andi", "ori", "xori", "slli", "srli", "slti",
    "beq", "bne", "blt", "bqe"]

/-- The lower case of a character, as far as it is an ASCII letter: the capital
letters, the dotted capital I and the kelvin sign. -/
def lowerChar (c : Char) : Char :=
  if c.toNat == 0x130 then 'i'
  else if c.toNat == 0x212A then 'k'
  else c.toLower

def lowerWord (word : String) : String := word.map lowerChar

/-- Whether a word is a mnemonic in some mixture of cases. -/
def isMnemonic (word : String) : Bool := mnemonics.contains (lowerWord word)

/-- The kind and literal of a reserved word.  Case matters. -/
def keyword? : String → Option (Kind × String)
  | "zero" => some (.register, "0")
  | "ra" => some (.register, "1")
  | "sp" => some (.register, "2")
  | "gp" => some (.register, "3")
  | "tp" => some (.register, "4")
  | "fp" => some (.register, "12")
  | "pc" => some (.register, Decimal.text pcIndex)
  | "ret" => some (.ret, "")
  | "ecall" => some (.ecall, "")
  | "NOP" => some (.nop, "")
  | _ => none

end ToyRisc
