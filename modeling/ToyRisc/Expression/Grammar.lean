/-
The grammar of expressions and statements.  Operators bind in ten levels, from
`or` to the multiplicative ones; signs bind more tightly, and comparisons cannot
be chained.  Every function takes the lexemes that are left and a bound on how
deeply it may nest, which `parse` derives from the number of lexemes.
-/
import ToyRisc.Expression.Lexeme
import ToyRisc.Expression.Tree

namespace ToyRisc.Expression

namespace Grammar

/-- Removes a lexeme that has to be there. -/
def expect (lexeme : Lexeme) (what : String) (lexemes : List Lexeme) :
    Except Error (List Lexeme) :=
  match lexemes with
  | first :: rest => if first == lexeme then .ok rest else .error (.expected what)
  | [] => .error (.expected what)

inductive Join where
  | either
  | both
  | operation (op : BinaryOp)

def Join.tree : Join → RawTree → RawTree → RawTree
  | either => .either
  | both => .both
  | operation op => .binary op

def comparison : Nat := 3

/-- The level above all binary operators. -/
def tightest : Nat := 10

/-- The binary operator at the front, with its level and the rest. -/
def operator? : List Lexeme → Option (Nat × Join × List Lexeme)
  | .keyword "or" :: rest => some (0, .either, rest)
  | .keyword "and" :: rest => some (1, .both, rest)
  | .keyword "not" :: .keyword "in" :: rest => some (3, .operation .isNotIn, rest)
  | .keyword "in" :: rest => some (3, .operation .isIn, rest)
  | .mark text :: rest =>
      match text with
      | "==" => some (3, .operation .equal, rest)
      | "!=" => some (3, .operation .notEqual, rest)
      | "<" => some (3, .operation .less, rest)
      | ">" => some (3, .operation .greater, rest)
      | "<=" => some (3, .operation .lessEqual, rest)
      | ">=" => some (3, .operation .greaterEqual, rest)
      | "|" => some (4, .operation .bitOr, rest)
      | "^" => some (5, .operation .bitXor, rest)
      | "&" => some (6, .operation .bitAnd, rest)
      | "<<" => some (7, .operation .shiftLeft, rest)
      | ">>" => some (7, .operation .shiftRight, rest)
      | "+" => some (8, .operation .add, rest)
      | "-" => some (8, .operation .sub, rest)
      | "*" => some (9, .operation .mul, rest)
      | "/" => some (9, .operation .div, rest)
      | "//" => some (9, .operation .floorDiv, rest)
      | "%" => some (9, .operation .mod, rest)
      | _ => none
  | _ => none

/-- The operator of an assignment that changes its target. -/
def updateOp? : String → Option BinaryOp
  | "+=" => some .add
  | "-=" => some .sub
  | "*=" => some .mul
  | "/=" => some .div
  | "//=" => some .floorDiv
  | "%=" => some .mod
  | "&=" => some .bitAnd
  | "|=" => some .bitOr
  | "^=" => some .bitXor
  | "<<=" => some .shiftLeft
  | ">>=" => some .shiftRight
  | _ => none

def endsList : List Lexeme → Bool
  | [] => true
  | .lineEnd :: _ => true
  | .mark text :: _ => ["=", "\x7d", "]", ")", ";"].contains text
  | _ => false

def endsParams : List Lexeme → Bool
  | [] => true
  | .mark text :: _ => text == ")" || text == ":"
  | _ => false

/-- The arguments of a call as far as they have been read, most recent first. -/
structure Arguments where
  values : List RawTree
  keywords : List String
  rest : Option RawTree
  namedRest : Option RawTree

namespace Arguments

def none : Arguments := ⟨[], [], .none, .none⟩

/-- The most arguments of a kind that a call may have. -/
def limit : Nat := 255

/-- Adds an argument given by position, which none of another kind may precede. -/
def push (arguments : Arguments) (value : RawTree) : Except Error Arguments :=
  if arguments.rest.isSome || arguments.namedRest.isSome || !arguments.keywords.isEmpty then
    .error (.expected "a named argument")
  else .ok { arguments with values := value :: arguments.values }

def pushNamed (arguments : Arguments) (text : String) (value : RawTree) :
    Except Error Arguments :=
  if arguments.rest.isSome || arguments.namedRest.isSome then
    .error (.expected "a closing bracket")
  else if arguments.keywords.contains text then .error (.repeatedName text)
  else
    .ok { arguments with
      values := value :: arguments.values, keywords := text :: arguments.keywords }

/-- Adds a value that holds further arguments. -/
def pushRest (arguments : Arguments) (value : RawTree) : Except Error Arguments :=
  if arguments.rest.isSome || arguments.namedRest.isSome then
    .error (.expected "a closing bracket")
  else .ok { arguments with rest := some value }

/-- Adds a value that holds further named arguments. -/
def pushNamedRest (arguments : Arguments) (value : RawTree) : Except Error Arguments :=
  if arguments.namedRest.isSome then .error (.expected "a closing bracket")
  else .ok { arguments with namedRest := some value }

def call (arguments : Arguments) (function : RawTree) : Except Error RawTree :=
  let named := arguments.keywords.length
  if limit < named || limit + named < arguments.values.length then .error .tooLarge
  else
    .ok (.call function arguments.values.reverse arguments.keywords.reverse arguments.rest
      arguments.namedRest)

end Arguments

/-- The comprehension of a list or of entries, which its first clause has to
begin. -/
def comprehension (key : Option RawTree) (body : RawTree) (clauses : List RawClause) :
    Except Error RawTree :=
  match key, clauses with
  | none, .each target source :: rest => .ok (.listOf body target source rest)
  | some key, .each target source :: rest => .ok (.dictOf key body target source rest)
  | _, _ => .error (.expected "for")

mutual

/-- An expression without a comma around it. -/
def test (fuel : Nat) (lexemes : List Lexeme) : Except Error (RawTree × List Lexeme) :=
  match fuel with
  | 0 => .error .tooDeep
  | fuel + 1 =>
      match lexemes with
      | .keyword "lambda" :: rest => function fuel true rest
      | _ => do
          let (yes, rest) ← level fuel 0 lexemes
          match rest with
          | .keyword "if" :: rest => do
              let (condition, rest) ← level fuel 0 rest
              let rest ← expect (.keyword "else") "else" rest
              let (no, rest) ← test fuel rest
              .ok (.choose condition yes no, rest)
          | _ => .ok (yes, rest)

/-- An expression that an `if` behind it does not continue. -/
def condition (fuel : Nat) (lexemes : List Lexeme) : Except Error (RawTree × List Lexeme) :=
  match fuel with
  | 0 => .error .tooDeep
  | fuel + 1 =>
      match lexemes with
      | .keyword "lambda" :: rest => function fuel false rest
      | _ => level fuel 0 lexemes

/-- The parameters and the body of a function.  `wide` says that an `if` may
continue its body. -/
def function (fuel : Nat) (wide : Bool) (lexemes : List Lexeme) :
    Except Error (RawTree × List Lexeme) :=
  match fuel with
  | 0 => .error .tooDeep
  | fuel + 1 => do
      let (params, defaults, rest) ← parameters fuel [] [] lexemes
      let rest ← expect (.mark ":") "a colon" rest
      let (body, rest) ← if wide then test fuel rest else condition fuel rest
      .ok (.lambda () params defaults body, rest)

/-- The parameters of a function with their defaults, behind those already read,
which stand in reverse order. -/
def parameters (fuel : Nat) (read : List Param) (defaults : List RawTree)
    (lexemes : List Lexeme) : Except Error (List Param × List RawTree × List Lexeme) :=
  match fuel with
  | 0 => .error .tooDeep
  | fuel + 1 =>
      if endsParams lexemes then .ok (read.reverse, defaults.reverse, lexemes)
      else do
        let rest ← if read.isEmpty then .ok lexemes else expect (.mark ",") "a comma" lexemes
        match rest with
        | .mark ")" :: _ => .ok (read.reverse, defaults.reverse, rest)
        | .mark "*" :: .name text :: rest =>
            parameters fuel (⟨text, .rest⟩ :: read) defaults rest
        | .mark "*" :: rest => parameters fuel (⟨"", .divider⟩ :: read) defaults rest
        | .mark "**" :: .name text :: rest =>
            parameters fuel (⟨text, .namedRest⟩ :: read) defaults rest
        | .name text :: .mark "=" :: rest => do
            let (value, rest) ← test fuel rest
            parameters fuel (⟨text, .optional⟩ :: read) (value :: defaults) rest
        | .name text :: rest => parameters fuel (⟨text, .plain⟩ :: read) defaults rest
        | _ => .error (.expected "a name")

/-- Operands joined by operators of at least the given level. -/
def level (fuel : Nat) (n : Nat) (lexemes : List Lexeme) :
    Except Error (RawTree × List Lexeme) :=
  match fuel with
  | 0 => .error .tooDeep
  | fuel + 1 =>
      if tightest ≤ n then primary fuel lexemes
      else
        match n, lexemes with
        | 2, .keyword "not" :: rest => do
            let (operand, rest) ← level fuel 2 rest
            .ok (.unary .not operand, rest)
        | _, _ => do
            let (left, rest) ← level fuel (n + 1) lexemes
            joined fuel n true left rest

/-- The operators that follow a left operand.  `first` says that none has been
read yet. -/
def joined (fuel : Nat) (n : Nat) (first : Bool) (left : RawTree) (lexemes : List Lexeme) :
    Except Error (RawTree × List Lexeme) :=
  match fuel with
  | 0 => .error .tooDeep
  | fuel + 1 =>
      match operator? lexemes with
      | none => .ok (left, lexemes)
      | some (m, join, rest) =>
          if m < n then .ok (left, lexemes)
          else if !first && m == comparison then .error (.expected "brackets")
          else do
            let (right, rest) ← level fuel (m + 1) rest
            joined fuel n false (join.tree left right) rest

/-- An operand with everything that is applied to it. -/
def primary (fuel : Nat) (lexemes : List Lexeme) : Except Error (RawTree × List Lexeme) :=
  match fuel with
  | 0 => .error .tooDeep
  | fuel + 1 => do
      let (tree, rest) ← atom fuel lexemes
      suffixes fuel tree rest

/-- An operand by itself. -/
def atom (fuel : Nat) (lexemes : List Lexeme) : Except Error (RawTree × List Lexeme) :=
  match fuel with
  | 0 => .error .tooDeep
  | fuel + 1 =>
      match lexemes with
      | .name text :: rest => .ok (.name text, rest)
      | .int value :: rest => .ok (.int value, rest)
      | .float value :: rest => .ok (.float value, rest)
      | .string image :: rest => .ok (.string image, rest)
      | .bytes image :: rest => .ok (.bytes image, rest)
      | .mark "[" :: .mark "]" :: rest => .ok (.list [], rest)
      | .mark "[" :: rest => do
          let (item, rest) ← test fuel rest
          match rest with
          | .keyword "for" :: _ => do
              let (clauses, rest) ← clauses fuel "]" [] rest
              .ok (← comprehension none item clauses, rest)
          | _ => do
              let (items, rest) ← items fuel true [item] rest
              let rest ← expect (.mark "]") "a closing bracket" rest
              .ok (.list items, rest)
      | .mark "\x7b" :: .mark "\x7d" :: rest => .ok (.dict [], rest)
      | .mark "\x7b" :: rest => do
          let (key, value, rest) ← entry fuel rest
          match rest with
          | .keyword "for" :: _ => do
              let (clauses, rest) ← clauses fuel "\x7d" [] rest
              .ok (← comprehension (some key) value clauses, rest)
          | _ => do
              let (entries, rest) ← entries fuel [value, key] rest
              .ok (.dict entries, rest)
      | .mark "(" :: .mark ")" :: rest => .ok (.tuple [], rest)
      | .mark "(" :: rest => do
          let (tree, rest) ← tests fuel true rest
          let rest ← expect (.mark ")") "a closing bracket" rest
          .ok (tree, rest)
      | .mark "-" :: rest => do
          let (operand, rest) ← primary fuel rest
          .ok (.unary .negate operand, rest)
      | .mark "+" :: rest => do
          let (operand, rest) ← primary fuel rest
          .ok (.unary .plus operand, rest)
      | .mark "~" :: rest => do
          let (operand, rest) ← primary fuel rest
          .ok (.unary .complement operand, rest)
      | _ => .error (.expected "an operand")

/-- An expression, or several with commas between them. -/
def tests (fuel : Nat) (bracketed : Bool) (lexemes : List Lexeme) :
    Except Error (RawTree × List Lexeme) :=
  match fuel with
  | 0 => .error .tooDeep
  | fuel + 1 => do
      let (item, rest) ← test fuel lexemes
      match rest with
      | .mark "," :: _ => do
          let (items, rest) ← items fuel bracketed [item] rest
          .ok (.tuple items, rest)
      | _ => .ok (item, rest)

/-- Further expressions, each behind a comma, after those already read, which stand
in reverse order.  A comma may end the list only inside brackets. -/
def items (fuel : Nat) (bracketed : Bool) (read : List RawTree) (lexemes : List Lexeme) :
    Except Error (List RawTree × List Lexeme) :=
  match fuel with
  | 0 => .error .tooDeep
  | fuel + 1 =>
      match lexemes with
      | .mark "," :: rest =>
          if endsList rest then
            if bracketed then .ok (read.reverse, rest) else .error (.expected "an operand")
          else do
            let (item, rest) ← test fuel rest
            items fuel bracketed (item :: read) rest
      | _ => .ok (read.reverse, lexemes)

def entry (fuel : Nat) (lexemes : List Lexeme) :
    Except Error (RawTree × RawTree × List Lexeme) :=
  match fuel with
  | 0 => .error .tooDeep
  | fuel + 1 => do
      let (key, rest) ← test fuel lexemes
      let rest ← expect (.mark ":") "a colon" rest
      let (value, rest) ← test fuel rest
      .ok (key, value, rest)

/-- The entries of a dictionary up to its closing bracket, after those already
read, which stand in reverse order. -/
def entries (fuel : Nat) (read : List RawTree) (lexemes : List Lexeme) :
    Except Error (List RawTree × List Lexeme) :=
  match fuel with
  | 0 => .error .tooDeep
  | fuel + 1 =>
      match lexemes with
      | .mark "\x7d" :: rest => .ok (read.reverse, rest)
      | .mark "," :: .mark "\x7d" :: rest => .ok (read.reverse, rest)
      | .mark "," :: rest => do
          let (key, value, rest) ← entry fuel rest
          entries fuel (value :: key :: read) rest
      | _ => .error (.expected "a closing bracket")

/-- The clauses of a comprehension up to its closing bracket, after those already
read, which stand in reverse order. -/
def clauses (fuel : Nat) (closing : String) (read : List RawClause) (lexemes : List Lexeme) :
    Except Error (List RawClause × List Lexeme) :=
  match fuel with
  | 0 => .error .tooDeep
  | fuel + 1 =>
      match lexemes with
      | .keyword "for" :: rest => do
          let (target, rest) ← targets fuel rest
          let rest ← expect (.keyword "in") "in" rest
          let (source, rest) ← level fuel 0 rest
          clauses fuel closing (.each target source :: read) rest
      | .keyword "if" :: rest => do
          let (condition, rest) ← condition fuel rest
          clauses fuel closing (.only condition :: read) rest
      | _ => do
          let rest ← expect (.mark closing) "a closing bracket" lexemes
          .ok (read.reverse, rest)

/-- What a loop assigns its items to. -/
def targets (fuel : Nat) (lexemes : List Lexeme) : Except Error (RawTree × List Lexeme) :=
  match fuel with
  | 0 => .error .tooDeep
  | fuel + 1 => do
      let (target, rest) ← primary fuel lexemes
      match rest with
      | .mark "," :: _ => do
          let (all, rest) ← moreTargets fuel [target] rest
          .ok (.tuple all, rest)
      | _ => .ok (target, rest)

/-- Further targets, each behind a comma, after those already read, which stand in
reverse order. -/
def moreTargets (fuel : Nat) (read : List RawTree) (lexemes : List Lexeme) :
    Except Error (List RawTree × List Lexeme) :=
  match fuel with
  | 0 => .error .tooDeep
  | fuel + 1 =>
      match lexemes with
      | .mark "," :: rest =>
          if endsList rest then .ok (read.reverse, rest)
          else do
            let (target, rest) ← primary fuel rest
            moreTargets fuel (target :: read) rest
      | _ => .ok (read.reverse, lexemes)

/-- What is applied to an operand: attributes, indices and calls. -/
def suffixes (fuel : Nat) (tree : RawTree) (lexemes : List Lexeme) :
    Except Error (RawTree × List Lexeme) :=
  match fuel with
  | 0 => .error .tooDeep
  | fuel + 1 =>
      match lexemes with
      | .mark "." :: .name text :: rest => suffixes fuel (.member tree text) rest
      | .mark "." :: _ => .error (.expected "a name")
      | .mark "[" :: rest => do
          let (tree, rest) ← subscript fuel tree rest
          suffixes fuel tree rest
      | .mark "(" :: rest => do
          let (arguments, rest) ← arguments fuel .none rest
          suffixes fuel (← arguments.call tree) rest
      | _ => .ok (tree, lexemes)

def subscript (fuel : Nat) (container : RawTree) (lexemes : List Lexeme) :
    Except Error (RawTree × List Lexeme) :=
  match fuel with
  | 0 => .error .tooDeep
  | fuel + 1 =>
      match lexemes with
      | .mark ":" :: rest => bounds fuel container .nothing rest
      | _ => do
          let (key, rest) ← tests fuel false lexemes
          match rest with
          | .mark "]" :: rest => .ok (.index container key, rest)
          | .mark ":" :: rest => bounds fuel container key rest
          | _ => .error (.expected "a closing bracket")

/-- What follows the first colon of a slice. -/
def bounds (fuel : Nat) (container low : RawTree) (lexemes : List Lexeme) :
    Except Error (RawTree × List Lexeme) :=
  match fuel with
  | 0 => .error .tooDeep
  | fuel + 1 => do
      let (high, rest) ← bound fuel lexemes
      match rest with
      | .mark "]" :: rest => .ok (.slice container low high .nothing, rest)
      | .mark ":" :: rest => do
          let (step, rest) ← bound fuel rest
          let rest ← expect (.mark "]") "a closing bracket" rest
          .ok (.slice container low high step, rest)
      | _ => .error (.expected "a closing bracket")

def bound (fuel : Nat) (lexemes : List Lexeme) : Except Error (RawTree × List Lexeme) :=
  match fuel with
  | 0 => .error .tooDeep
  | fuel + 1 =>
      match lexemes with
      | .mark ":" :: _ | .mark "]" :: _ => .ok (.nothing, lexemes)
      | _ => test fuel lexemes

/-- The arguments of a call up to its closing bracket, behind those already
read. -/
def arguments (fuel : Nat) (read : Arguments) (lexemes : List Lexeme) :
    Except Error (Arguments × List Lexeme) :=
  match fuel with
  | 0 => .error .tooDeep
  | fuel + 1 =>
      match lexemes with
      | .mark ")" :: rest => .ok (read, rest)
      | .mark "*" :: rest => do
          let (value, rest) ← test fuel rest
          moreArguments fuel (← read.pushRest value) rest
      | .mark "**" :: rest => do
          let (value, rest) ← test fuel rest
          moreArguments fuel (← read.pushNamedRest value) rest
      | .name text :: .mark "=" :: rest => do
          let (value, rest) ← test fuel rest
          moreArguments fuel (← read.pushNamed text value) rest
      | _ => do
          let (value, rest) ← test fuel lexemes
          moreArguments fuel (← read.push value) rest

def moreArguments (fuel : Nat) (read : Arguments) (lexemes : List Lexeme) :
    Except Error (Arguments × List Lexeme) :=
  match fuel with
  | 0 => .error .tooDeep
  | fuel + 1 =>
      match lexemes with
      | .mark "," :: rest => arguments fuel read rest
      | .mark ")" :: rest => .ok (read, rest)
      | _ => .error (.expected "a closing bracket")

end

/-- A statement that holds no others. -/
def smallStatement (fuel : Nat) (lexemes : List Lexeme) :
    Except Error (RawStatement × List Lexeme) :=
  match lexemes with
  | .keyword "pass" :: rest => .ok (.pass, rest)
  | .keyword "break" :: rest => .ok (.leave, rest)
  | .keyword "continue" :: rest => .ok (.next, rest)
  | .keyword "return" :: rest =>
      match rest with
      | [] | .lineEnd :: _ | .mark ";" :: _ => .ok (.give .nothing, rest)
      | _ => do
          let (tree, rest) ← tests fuel false rest
          .ok (.give tree, rest)
  | _ => do
      let (tree, rest) ← tests fuel false lexemes
      match rest with
      | .mark "=" :: rest => do
          let (value, rest) ← tests fuel false rest
          .ok (.assign tree value, rest)
      | .mark text :: after =>
          match updateOp? text with
          | some op => do
              let (value, rest) ← tests fuel false after
              .ok (.update op tree value, rest)
          | none => .ok (.value tree, rest)
      | _ => .ok (.value tree, rest)

/-- Small statements with semicolons between them, up to the end of the line, in
front of those already read, which stand in reverse order. -/
def smallStatements (fuel : Nat) (read : List RawStatement) (lexemes : List Lexeme) :
    Except Error (List RawStatement × List Lexeme) :=
  match fuel with
  | 0 => .error .tooDeep
  | fuel + 1 => do
      let (small, rest) ← smallStatement fuel lexemes
      match rest with
      | [] | [.mark ";"] => .ok (small :: read, [])
      | .mark ";" :: .lineEnd :: rest => .ok (small :: read, rest)
      | .mark ";" :: rest => smallStatements fuel (small :: read) rest
      | .lineEnd :: rest => .ok (small :: read, rest)
      | _ => .error (.expected "the end of the statement")

mutual

/-- A statement, or several small ones on a line, in front of those already read,
which stand in reverse order. -/
def statement (fuel : Nat) (read : List RawStatement) (lexemes : List Lexeme) :
    Except Error (List RawStatement × List Lexeme) :=
  match fuel with
  | 0 => .error .tooDeep
  | fuel + 1 =>
      match lexemes with
      | .keyword "def" :: .name text :: rest => do
          let rest ← expect (.mark "(") "an opening bracket" rest
          let (params, defaults, rest) ← parameters fuel [] [] rest
          let rest ← expect (.mark ")") "a closing bracket" rest
          let rest ← expect (.mark ":") "a colon" rest
          let (body, rest) ← suite fuel rest
          .ok (.define text text () params defaults body :: read, rest)
      | .keyword "if" :: rest => do
          let (choice, rest) ← branch fuel rest
          .ok (choice :: read, rest)
      | .keyword "for" :: rest => do
          let (target, rest) ← targets fuel rest
          let rest ← expect (.keyword "in") "in" rest
          let (source, rest) ← tests fuel false rest
          let rest ← expect (.mark ":") "a colon" rest
          let (body, rest) ← suite fuel rest
          .ok (.loop target source body :: read, rest)
      | _ => smallStatements fuel read lexemes

def branch (fuel : Nat) (lexemes : List Lexeme) : Except Error (RawStatement × List Lexeme) :=
  match fuel with
  | 0 => .error .tooDeep
  | fuel + 1 => do
      let (condition, rest) ← test fuel lexemes
      let rest ← expect (.mark ":") "a colon" rest
      let (yes, rest) ← suite fuel rest
      match rest with
      | .keyword "elif" :: rest => do
          let (no, rest) ← branch fuel rest
          .ok (.branch condition yes [no], rest)
      | .keyword "else" :: rest => do
          let rest ← expect (.mark ":") "a colon" rest
          let (no, rest) ← suite fuel rest
          .ok (.branch condition yes no, rest)
      | _ => .ok (.branch condition yes [], rest)

/-- What belongs to a statement: the rest of its line or an indented part. -/
def suite (fuel : Nat) (lexemes : List Lexeme) :
    Except Error (List RawStatement × List Lexeme) :=
  match fuel with
  | 0 => .error .tooDeep
  | fuel + 1 =>
      match lexemes with
      | .lineEnd :: rest => do
          let rest ← expect .indent "an indented line" rest
          block fuel [] rest
      | _ => do
          let (statements, rest) ← smallStatements fuel [] lexemes
          .ok (statements.reverse, rest)

/-- The statements up to the end of an indented part, after those already read,
which stand in reverse order. -/
def block (fuel : Nat) (read : List RawStatement) (lexemes : List Lexeme) :
    Except Error (List RawStatement × List Lexeme) :=
  match fuel with
  | 0 => .error .tooDeep
  | fuel + 1 =>
      match lexemes with
      | .outdent :: rest => .ok (read.reverse, rest)
      | _ => do
          let (read, rest) ← statement fuel read lexemes
          block fuel read rest

end

/-- The statements of a whole text, after those already read, which stand in
reverse order. -/
def program (fuel : Nat) (read : List RawStatement) (lexemes : List Lexeme) :
    Except Error (List RawStatement) :=
  match fuel with
  | 0 => .error .tooDeep
  | fuel + 1 =>
      match lexemes with
      | [] => .ok read.reverse
      | .lineEnd :: rest => program fuel read rest
      | _ => do
          let (read, rest) ← statement fuel read lexemes
          program fuel read rest

end Grammar

def parse (source : List Char) : Except Error (List RawStatement) := do
  let lexemes ← Lexeme.readAll source
  Grammar.program (32 * (lexemes.length + 1)) [] lexemes

end ToyRisc.Expression
