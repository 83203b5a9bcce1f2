/-
Log lines: a level and a text.
-/
import ToyRisc.Decimal
import ToyRisc.Token

namespace ToyRisc

/-- How urgent a log line is. -/
inductive Level where
  | debug
  | warning
  | error
  deriving DecidableEq, Repr

def Level.name : Level → String
  | debug => "debug"
  | warning => "warning"
  | error => "error"

structure LogLine where
  level : Level
  text : String
  deriving DecidableEq, Repr

namespace LogLine

def render (line : LogLine) : String := line.level.name ++ ": " ++ line.text

/-- The line that reports numbered tokens. -/
def ofRow (n : Int) (row : List Token) : LogLine :=
  ⟨.debug, Decimal.text n ++ ": " ++ Token.renderRow row⟩

end LogLine

end ToyRisc
