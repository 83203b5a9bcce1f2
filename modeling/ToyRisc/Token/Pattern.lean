/-
Operand patterns.  A pattern lists, position by position, the kinds a row may
hold there.
-/
import ToyRisc.Token

namespace ToyRisc

/-- The kinds that fit one position. -/
structure Slot where
  kinds : List Kind
  deriving DecidableEq, Repr

namespace Slot

def accepts (slot : Slot) (kind : Kind) : Bool := slot.kinds.contains kind

/-- A slot as messages quote it: its kinds in lower case, with "or" between
them. -/
def render (slot : Slot) : String :=
  String.intercalate " or " (slot.kinds.map Kind.lowerName)

end Slot

/-- The slots a row has to fill, in order. -/
abbrev Pattern := List Slot

namespace Pattern

/-- A mnemonic, a register, a comma, a register and a comma, then the given
kinds. -/
def threeOperands (last : List Kind) : Pattern :=
  [⟨[.instruction]⟩, ⟨[.register]⟩, ⟨[.comma]⟩, ⟨[.register]⟩, ⟨[.comma]⟩, ⟨last⟩]

/-- Destination and two source registers. -/
def register : Pattern := threeOperands [.register]

/-- Destination, source register and immediate. -/
def immediate : Pattern := threeOperands [.immediate]

/-- Two registers to compare, and a label or an offset. -/
def branch : Pattern := threeOperands [.ident, .immediate]

/-- A directive and the label it names. -/
def directive : Pattern := [⟨[.directive]⟩, ⟨[.ident]⟩]

end Pattern

end ToyRisc
