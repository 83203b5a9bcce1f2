/-
Expansion of a line.  In front of the comment, every `$(...)` is replaced by the
decimal value of the expression in it, which reaches to the last closing
parenthesis before the next dollar sign.  The value is what a program leaves that
assigns the expression to a name; how programs are executed is a parameter.
-/
import ToyRisc.Definition
import ToyRisc.Fault
import ToyRisc.Text.Symbol

namespace ToyRisc

/-- The value of an expression where it stands for an immediate. -/
abbrev Evaluator := Text → Except Cause Nat

namespace Expansion

def isNot (c : Char) (s : Symbol) : Bool := s != .scalar c

/-- A text cut at its last closing parenthesis. -/
def splitLastClose? (text : Text) : Option (Text × Text) :=
  match text.reverse.dropWhile (isNot ')') with
  | [] => none
  | _ :: before =>
      some (before.reverse, (text.reverse.takeWhile (isNot ')')).reverse)

/-- The expression behind a dollar sign, with the text up to the next dollar sign
and the text from there on. -/
def expressionAt? : Text → Option (Text × Text × Text)
  | .scalar '(' :: rest =>
      match splitLastClose? (rest.takeWhile (isNot '$')) with
      | some (expression, after) => some (expression, after, rest.dropWhile (isNot '$'))
      | none => none
  | _ => none

/-- An expression as it stands in the line. -/
def written (expression : Text) : Text :=
  .scalar '$' :: .scalar '(' :: expression ++ [.scalar ')']

/-- The number of bytes in front of the first occurrence of a text, behind those
already passed. -/
def offsetOf (needle : Text) (passed : Nat) : Text → Nat
  | [] => passed
  | s :: rest =>
      if needle.isPrefixOf (s :: rest) then passed else offsetOf needle (passed + s.width) rest

def digitText (n : Nat) : Text := (Decimal.digits n).map .scalar

theorem length_dropWhile_lt {rest expression after next : Text}
    (h : expressionAt? rest = some (expression, after, next)) :
    next.length < rest.length := by
  unfold expressionAt? at h
  split at h
  · rename_i tail
    split at h
    · have hle := (List.dropWhile_sublist (p := isNot '$') (l := tail)).length_le
      simp only [Option.some.injEq, Prod.mk.injEq] at h
      rw [← h.2.2, List.length_cons]
      omega
    · simp at h
  · simp at h

/-- Expands what is left of the part `head` of a line, behind text that stands in
reverse order. -/
def expandFrom (evaluate : Evaluator) (line : Int) (head done : Text) :
    Text → Except Fault Text
  | [] => .ok done.reverse
  | s :: rest =>
      if s = .scalar '$' then
        match _h : expressionAt? rest with
        | none => expandFrom evaluate line head (s :: done) rest
        | some (expression, after, next) =>
            match evaluate expression with
            | .error cause =>
                .error ⟨cause, ⟨line, offsetOf (written expression) 0 head + 1⟩⟩
            | .ok n =>
                expandFrom evaluate line head
                  (after.reverse ++ (digitText n).reverse ++ done) next
      else expandFrom evaluate line head (s :: done) rest
termination_by text => text.length
decreasing_by
  · simp
  · have := length_dropWhile_lt _h
    simp only [List.length_cons]
    omega
  · simp

end Expansion

/-- Expands a line; what follows the first hash is left as it is. -/
def expand (evaluate : Evaluator) (line : Int) (text : Text) : Except Fault Text :=
  let head := text.takeWhile (Expansion.isNot '#')
  let comment := text.dropWhile (Expansion.isNot '#')
  (Expansion.expandFrom evaluate line head [] head).map (· ++ comment)

/-- How many bytes of a branch offset stand for one row. -/
def wordSize : Int := 4

def maxImmediate : Int := 0x7FFFFFFF

/-- The values of names in an expression on a given line.  The line number and the
word size cannot be redefined. -/
def namesAt (definitions : Definitions) (line : Int) (name : String) : Option Int :=
  if name = "LINENO" then some line
  else if name = "WORD" then some wordSize
  else definitions.find? name

/-- How programs are executed: given the values of names defined from outside, a
program and a name, what the program binds to the name, if that is an integer.  A
program that fails says why. -/
abbrev Interpreter := (String → Option Int) → Text → String → Except String (Option Int)

/-- The name that holds the result. -/
def resultName : String := "rc"

/-- The program that assigns an expression to this name. -/
def assignment (expression : Text) : Text :=
  .ofString (resultName ++ "=") ++ expression ++ [.scalar '\n']

/-- What this program leaves in the name, on a given line and under some definitions. -/
def Interpreter.valueAt (interpret : Interpreter) (definitions : Definitions) (line : Int)
    (expression : Text) : Except String (Option Int) :=
  interpret (namesAt definitions line) (assignment expression) resultName

/-- Evaluates the expressions of a line under some definitions. -/
def evaluatorAt (interpret : Interpreter) (definitions : Definitions) (line : Int) :
    Evaluator := fun expression =>
  match interpret.valueAt definitions line expression with
  | .error reason => .error (.noValue reason)
  | .ok (some n) =>
      if 0 ≤ n ∧ n ≤ maxImmediate then .ok n.toNat
      else .error (.notImmediate (String.ofList expression.chars))
  | .ok none => .error (.notImmediate (String.ofList expression.chars))

end ToyRisc
