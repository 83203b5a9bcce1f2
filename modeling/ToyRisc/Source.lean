/-
Source texts.  A text is cut into lines; each line is loaded by itself, with its
number, and the lines that hold nothing are left out.  Loading stops at the
first line that is refused and keeps the rows before it.
-/
import ToyRisc.Expression.Evaluation
import ToyRisc.Line.Expansion
import ToyRisc.Line.Lexer
import ToyRisc.Log
import ToyRisc.Text.Blank

namespace ToyRisc

/-- Why a line is refused. -/
inductive LoadError where
  | fault (fault : Fault)
  /-- The line has too many bytes. -/
  | tooLong
  deriving DecidableEq, Repr

def LoadError.message : LoadError → String
  | fault found => found.message
  | tooLong => "bufio.Scanner: token too long"

/-- What is chosen before a text is loaded. -/
structure LoadSettings where
  /-- Whether expressions are expanded. -/
  expressions : Bool := false
  definitions : Definitions := .empty
  /-- How expressions are evaluated. -/
  interpret : Interpreter := Expression.interpret

/-- The rows of a text, and why the text ends early. -/
structure Loaded where
  rows : List (List Token)
  error : Option LoadError
  deriving DecidableEq, Repr

/-- The log of the rows that were kept, each with the number of its line. -/
def Loaded.log (loaded : Loaded) : List LogLine :=
  loaded.rows.map fun row => LogLine.ofRow ((row.head?.map Token.line).getD 0) row

namespace Source

/-- The least number of bytes that a line must not have. -/
def lineLimit : Nat := 65536

/-- Cuts a text at its line ends, behind lines and a part of a line that stand in
reverse order.  Nothing behind the last line end is no line. -/
def cutLines (lines : List Text) (current : Text) : Text → List Text
  | [] => (if current.isEmpty then lines else current.reverse :: lines).reverse
  | s :: rest =>
      if s = .scalar '\n' then cutLines (current.reverse :: lines) [] rest
      else cutLines lines (s :: current) rest

def lines (text : Text) : List Text := cutLines [] [] text

/-- A line without the carriage return at its end. -/
def dropReturn (line : Text) : Text :=
  if line.getLast? = some (.scalar '\r') then line.dropLast else line

/-- Whether a row of tokens is worth keeping. -/
def keeps (row : List Token) : Bool :=
  match row with
  | [] => false
  | [token] => token.kind != .tab
  | _ => true

/-- The text of a line in which expressions have been expanded, if they are. -/
def prepare (settings : LoadSettings) (number : Int) (line : Text) : Except Fault Text :=
  if settings.expressions then
    expand (evaluatorAt settings.interpret settings.definitions number) number line
  else .ok line

/-- The tokens of one line; a blank line has none. -/
def loadTokens (settings : LoadSettings) (number : Int) (line : Text) :
    Except Fault (List Token) :=
  if line.isBlank then .ok []
  else do
    let text ← prepare settings number line
    tokenize text.chars number

def loadLine (settings : LoadSettings) (number : Int) (line : Text) :
    Except LoadError (List Token) :=
  if lineLimit ≤ line.size then .error .tooLong
  else (loadTokens settings number (dropReturn line)).mapError .fault

/-- Loads lines that start at a given number, behind rows that stand in reverse
order. -/
def loadFrom (settings : LoadSettings) (number : Int) (rows : List (List Token)) :
    List Text → Loaded
  | [] => ⟨rows.reverse, none⟩
  | line :: lines =>
      match loadLine settings number line with
      | .error error => ⟨rows.reverse, some error⟩
      | .ok row =>
          loadFrom settings (number + 1) (if keeps row then row :: rows else rows) lines

def load (settings : LoadSettings) (text : Text) : Loaded :=
  loadFrom settings 1 [] (lines text)

end Source

end ToyRisc
