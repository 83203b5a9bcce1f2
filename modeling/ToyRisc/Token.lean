/-
Tokens: a kind, a literal and the place in the source it came from.
-/
import ToyRisc.Token.Kind

namespace ToyRisc

/-- A place in a source text.  Column 0 stands for an unknown column. -/
structure Position where
  line : Int
  col : Int
  deriving DecidableEq, Repr

/-- The place reported when there is no token to point at. -/
def Position.nowhere : Position := ⟨0, 0⟩

/-- A classified piece of a line. -/
structure Token where
  kind : Kind
  /-- The payload; empty if the kind carries none. -/
  literal : String
  line : Int
  col : Int
  deriving DecidableEq, Repr

namespace Token

def position (token : Token) : Position := ⟨token.line, token.col⟩

/-- A token as logs show it. -/
def render (token : Token) : String :=
  if token.literal.isEmpty then token.kind.name
  else token.kind.name ++ "(" ++ token.literal ++ ")"

def renderRow (row : List Token) : String :=
  "[" ++ String.intercalate " " (row.map render) ++ "]"

end Token

end ToyRisc
