/-
The lexer of one line.  It walks over the spans of the line and keeps its place
between calls: at the end, at the character it could not read, or behind the
register it refused.
-/
import ToyRisc.Line.Span

namespace ToyRisc

/-- Turns the first run of four spaces into one tab. -/
def foldIndent (before : List Char) : List Char → List Char
  | ' ' :: ' ' :: ' ' :: ' ' :: rest => before.reverse ++ '\t' :: rest
  | c :: rest => foldIndent (c :: before) rest
  | [] => before.reverse

/-- A place in a line that is being lexed. -/
structure Lexer where
  line : Int
  /-- How many characters have been passed. -/
  passed : Nat
  rest : List Char
  deriving DecidableEq, Repr

namespace Lexer

def ofChars (chars : List Char) (line : Int) : Lexer := ⟨line, 0, foldIndent [] chars⟩

def position (lexer : Lexer) : Position := ⟨lexer.line, lexer.passed + 1⟩

/-- Where lexing resumes after a refused span: at an illegal character it stays,
and anything else is passed over. -/
def resume (line : Int) (passed : Nat) (c : Char) (cs : List Char) : Lexer :=
  match Span.cut c cs with
  | (.illegal _, _) => ⟨line, passed, c :: cs⟩
  | (span, rest) => ⟨line, passed + span.width, rest⟩

/-- Lexes the characters that are left, behind tokens that stand in reverse
order. -/
def scan (line : Int) (passed : Nat) (tokens : List Token) :
    List Char → Except Fault (List Token) × Lexer
  | [] => (.ok tokens.reverse, ⟨line, passed, []⟩)
  | c :: cs =>
      match (Span.cut c cs).1.read with
      | .error cause => (.error ⟨cause, ⟨line, passed + 1⟩⟩, resume line passed c cs)
      | .ok none =>
          scan line (passed + (Span.cut c cs).1.width) tokens (Span.cut c cs).2
      | .ok (some (kind, literal)) =>
          scan line (passed + (Span.cut c cs).1.width)
            (⟨kind, literal, line, passed + 1⟩ :: tokens) (Span.cut c cs).2
termination_by cs => cs.length
decreasing_by
  all_goals exact Span.cut_rest_length c cs

/-- Lexes to the end of the line or to the first fault, and returns where the
lexer then stands. -/
def lex (lexer : Lexer) : Except Fault (List Token) × Lexer :=
  scan lexer.line lexer.passed [] lexer.rest

end Lexer

def tokenize (chars : List Char) (line : Int) : Except Fault (List Token) :=
  (Lexer.ofChars chars line).lex.1

end ToyRisc
