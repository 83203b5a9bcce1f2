/-
Print modes: what is written after every executed row.
-/
import ToyRisc.Decimal

namespace ToyRisc

/-- What a snapshot shows. -/
inductive PrintMode where
  | silent
  | registers
  | memory
  | both
  /-- A code that names no mode; it shows nothing. -/
  | other (code : Int)
  deriving DecidableEq, Repr

namespace PrintMode

def ofCode (code : Int) : PrintMode :=
  if code = 0 then silent
  else if code = 1 then registers
  else if code = 2 then memory
  else if code = 3 then both
  else other code

def name : PrintMode → String
  | silent => "none"
  | registers => "registers"
  | memory => "memory"
  | both => "both"
  | other code => "PrintMode(" ++ Decimal.text code ++ ")"

def showsRegisters : PrintMode → Bool
  | registers | both => true
  | _ => false

def showsMemory : PrintMode → Bool
  | memory | both => true
  | _ => false

end PrintMode

end ToyRisc
