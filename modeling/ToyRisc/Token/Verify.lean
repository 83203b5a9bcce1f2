/-
Verification of a row against a pattern.  Positions are compared from left to
right; what stands behind the pattern is not looked at.
-/
import ToyRisc.Fault

namespace ToyRisc.Pattern

/-- Compares slots and tokens pairwise.  `last` is where an operand is missed:
at the token before it. -/
def verifyFrom (last : Position) : Pattern → List Token → Except Fault Unit
  | [], _ => .ok ()
  | slot :: _, [] => .error ⟨.missingOperand slot, last⟩
  | slot :: slots, token :: tokens =>
      if slot.accepts token.kind then verifyFrom token.position slots tokens
      else token.refuse (.wrongOperand slot token.kind)

/-- Checks that a row begins as a pattern asks. -/
def verify (pattern : Pattern) (row : List Token) : Except Fault Unit :=
  verifyFrom .nowhere pattern row

end ToyRisc.Pattern
