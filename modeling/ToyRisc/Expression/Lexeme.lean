/-
The lexemes of the expression language: names, numbers, strings, keywords and
marks.  Line ends and the indentation of lines count only outside brackets.
-/
import ToyRisc.Binary64.Reading
import ToyRisc.Expression.Error
import ToyRisc.Text.Letter

namespace ToyRisc.Expression

/-- A word or mark of an expression. -/
inductive Lexeme where
  | name (text : String)
  | int (value : Nat)
  | float (value : Float)
  | string (image : ByteArray)
  | bytes (image : ByteArray)
  | keyword (text : String)
  | mark (text : String)
  | lineEnd
  /-- A line is indented further than the one before. -/
  | indent
  /-- An indented part ends. -/
  | outdent
  deriving BEq

namespace Lexeme

/-- Whether a character can start a name.  Only beyond ASCII is there more to know than
the alphabet. -/
def startsName (c : Char) : Bool :=
  c.isAlpha || c == '_' || (decide (0x80 ≤ c.toNat) && isLetter c)

def inName (c : Char) : Bool := c.isDigit || startsName c

def keywords : List String :=
  ["and", "break", "continue", "def", "elif", "else", "for", "if", "in", "lambda", "load",
    "not", "or", "pass", "return", "while"]

/-- Words that are reserved and have no meaning. -/
def reserved : List String :=
  ["as", "async", "await", "class", "del", "except", "finally", "from", "global", "import",
    "is", "nonlocal", "raise", "try", "with", "yield"]

def ofWord (word : String) : Lexeme :=
  if keywords.contains word || reserved.contains word then .keyword word else .name word

/-- The lexeme cut off the front of a text, and the rest. -/
abbrev Cut := Except Error (Lexeme × List Char)

/-- Cuts a number behind a base mark; its value may not pass the limit. -/
def cutBased (base : Nat) (limit : Option Nat) (cs : List Char) : Cut :=
  let digits := cs.takeWhile (Radix.isDigitOf base)
  let value := Radix.valueOf base digits
  if digits.isEmpty then .error .badNumber
  else if (limit.map fun most => decide (most < value)).getD false then .error .badNumber
  else .ok (.int value, cs.dropWhile (Radix.isDigitOf base))

/-- Cuts the exponent of a number whose digits before and behind the point are
given. -/
def cutExponent (whole fraction : List Char) (cs : List Char) : Cut :=
  let finish (exponent : Int) (rest : List Char) : Cut :=
    match Binary64.ofDigits? whole fraction exponent with
    | some x => .ok (.float x, rest)
    | none => .error .badNumber
  let digitsOf (negative : Bool) (cs : List Char) : Cut :=
    let digits := cs.takeWhile Char.isDigit
    let value : Int := Binary64.exponentValue digits
    if digits.isEmpty then .error .badNumber
    else finish (if negative then -value else value) (cs.dropWhile Char.isDigit)
  match cs with
  | 'e' :: '-' :: rest | 'E' :: '-' :: rest => digitsOf true rest
  | 'e' :: '+' :: rest | 'E' :: '+' :: rest => digitsOf false rest
  | 'e' :: rest | 'E' :: rest => digitsOf false rest
  | rest => finish 0 rest

def cutFraction (whole cs : List Char) : Cut :=
  cutExponent whole (cs.takeWhile Char.isDigit) (cs.dropWhile Char.isDigit)

/-- The whole number of decimal digits.  Only zero may start with a zero. -/
def wholeNumber (digits rest : List Char) : Cut :=
  if digits.head? = some '0' ∧ digits.any (· != '0') then .error .badNumber
  else .ok (.int (Decimal.value digits), rest)

/-- The greatest number that can be written in base eight or two. -/
def maxWord : Nat := 0x7FFFFFFFFFFFFFFF

def cutNumber (cs : List Char) : Cut :=
  match cs with
  | '0' :: 'x' :: rest | '0' :: 'X' :: rest => cutBased 16 none rest
  | '0' :: 'o' :: rest | '0' :: 'O' :: rest => cutBased 8 (some maxWord) rest
  | '0' :: 'b' :: rest | '0' :: 'B' :: rest => cutBased 2 (some maxWord) rest
  | _ =>
      let whole := cs.takeWhile Char.isDigit
      match cs.dropWhile Char.isDigit with
      | '.' :: rest => cutFraction whole rest
      | 'e' :: rest => cutExponent whole [] ('e' :: rest)
      | 'E' :: rest => cutExponent whole [] ('E' :: rest)
      | rest => wholeNumber whole rest

/-- The characters up to the closing mark of a string on one line, and the rest.
A backslash protects the character behind it. -/
def cutPlain (mark : Char) (body : List Char) :
    List Char → Except Error (List Char × List Char)
  | [] => .error .badString
  | '\\' :: c :: cs => cutPlain mark (c :: '\\' :: body) cs
  | c :: cs =>
      if c == mark then .ok (body.reverse, cs)
      else if c == '\n' then .error .badString
      else cutPlain mark (c :: body) cs

/-- The characters up to three closing marks in a row, `seen` of which have just
been read, and the rest. -/
def cutTriple (mark : Char) (seen : Nat) (body : List Char) :
    List Char → Except Error (List Char × List Char)
  | [] => .error .badString
  | '\\' :: c :: cs => cutTriple mark 0 (c :: '\\' :: body) cs
  | c :: cs =>
      if c == mark then
        if seen = 2 then .ok ((body.drop 2).reverse, cs)
        else cutTriple mark (seen + 1) (c :: body) cs
      else cutTriple mark 0 (c :: body) cs

/-- The byte of an escape that is a single letter or mark. -/
def simpleEscape? : Char → Option UInt8
  | 'a' => some 7
  | 'b' => some 8
  | 'f' => some 12
  | 'n' => some 10
  | 'r' => some 13
  | 't' => some 9
  | 'v' => some 11
  | '\\' => some 92
  | '\'' => some 39
  | '"' => some 34
  | _ => none

/-- The value of exactly `n` hexadecimal digits. -/
def hexValue? (n : Nat) (cs : List Char) : Option Nat :=
  let digits := cs.take n
  if digits.length = n ∧ digits.all (Radix.isDigitOf 16) then some (Radix.valueOf 16 digits)
  else none

def isScalar (n : Nat) : Bool := n < 0xD800 || (0xE000 ≤ n && n ≤ 0x10FFFF)

/-- The bytes of an escape, given what follows its backslash, and how many
characters it takes.  Only a byte string may name bytes above 127. -/
def escape? (isBytes : Bool) (cs : List Char) : Option (List UInt8 × Nat) :=
  let byte (n : Nat) (taken : Nat) : Option (List UInt8 × Nat) :=
    if n < 128 ∨ (isBytes = true ∧ n < 256) then some ([n.toUInt8], taken) else none
  let point (n : Nat) (taken : Nat) : Option (List UInt8 × Nat) :=
    if isScalar n then some (String.utf8EncodeChar (Char.ofNat n), taken) else none
  match cs with
  | '\n' :: _ => some ([], 1)
  | 'x' :: rest => (hexValue? 2 rest).bind fun n => byte n 3
  | 'u' :: rest => (hexValue? 4 rest).bind fun n => point n 5
  | 'U' :: rest => (hexValue? 8 rest).bind fun n => point n 9
  | c :: rest =>
      if Radix.isDigitOf 8 c then
        let digits := c :: (rest.take 2).takeWhile (Radix.isDigitOf 8)
        byte (Radix.valueOf 8 digits) digits.length
      else (simpleEscape? c).map fun b => ([b], 1)
  | [] => none

/-- The bytes of a string body, most recent first behind those already read;
`skip` characters belong to an escape that has been read. -/
def unescape (isRaw isBytes : Bool) (skip : Nat) (read : List UInt8) :
    List Char → Except Error (List UInt8)
  | [] => .ok read.reverse
  | c :: cs =>
      match skip with
      | skip + 1 => unescape isRaw isBytes skip read cs
      | 0 =>
          if c == '\\' && !isRaw then
            match escape? isBytes cs with
            | some (image, taken) => unescape isRaw isBytes taken (image.reverse ++ read) cs
            | none => .error .badString
          else
            unescape isRaw isBytes 0 ((String.utf8EncodeChar c).reverse ++ read) cs

/-- Cuts a string whose opening mark has just been read. -/
def cutString (isRaw isBytes : Bool) (mark : Char) (cs : List Char) : Cut := do
  let (body, rest) ←
    match cs with
    | a :: b :: tail =>
        if a == mark && b == mark then cutTriple mark 0 [] tail else cutPlain mark [] cs
    | _ => cutPlain mark [] cs
  let image := (← unescape isRaw isBytes 0 [] body).toByteArray
  .ok (if isBytes then .bytes image else .string image, rest)

/-- The marks of one, two and three characters, longest first. -/
def marks : List (List Char) :=
  ["<<=", ">>=", "//=", "==", "!=", "<=", ">=", "+=", "-=", "*=", "/=", "%=", "&=", "|=", "^=",
    "<<", ">>", "//", "**", "=", "<", ">", "+", "-", "*", "/", "%", "&", "|", "^", "~",
    ",", ".", ":", ";", "(", ")", "[", "]", "\x7b", "\x7d"].map String.toList

def cutMark (c : Char) (cs : List Char) : Cut :=
  match marks.find? (·.isPrefixOf (c :: cs)) with
  | some found => .ok (.mark (String.ofList found), (c :: cs).drop found.length)
  | none => .error (.badCharacter c)

/-- Cuts the lexeme that starts with `c`. -/
def cut (c : Char) (cs : List Char) : Cut :=
  match c, cs with
  | 'r', 'b' :: '"' :: rest => cutString true true '"' rest
  | 'r', 'b' :: '\'' :: rest => cutString true true '\'' rest
  | 'r', '"' :: rest => cutString true false '"' rest
  | 'r', '\'' :: rest => cutString true false '\'' rest
  | 'b', '"' :: rest => cutString false true '"' rest
  | 'b', '\'' :: rest => cutString false true '\'' rest
  | '"', rest => cutString false false '"' rest
  | '\'', rest => cutString false false '\'' rest
  | _, _ =>
      if startsName c then
        .ok (ofWord (String.ofList (c :: cs.takeWhile inName)), cs.dropWhile inName)
      else if c.isDigit then cutNumber (c :: cs)
      else if c == '.' && (cs.head?.map Char.isDigit).getD false then cutFraction [] cs
      else cutMark c cs

/-- The bracket depth behind a lexeme; a bracket that closes nothing is
refused. -/
def depthAfter (depth : Nat) : Lexeme → Except Error Nat
  | .mark "(" | .mark "[" | .mark "\x7b" => .ok (depth + 1)
  | .mark ")" | .mark "]" | .mark "\x7d" =>
      match depth with
      | 0 => .error (.expected "an opening bracket")
      | depth + 1 => .ok depth
  | _ => .ok depth

/-- Where reading stands. -/
structure Place where
  /-- How many brackets are open. -/
  depth : Nat
  /-- Whether a line has just begun. -/
  fresh : Bool
  /-- The indentations of the enclosing parts, innermost first. -/
  indents : List Nat
  /-- What has been read, most recent first. -/
  read : List Lexeme

namespace Place

def push (place : Place) (lexeme : Lexeme) : Place :=
  { place with read := lexeme :: place.read }

/-- The column behind the blanks in front of a line, whose first stands at an
offset, and the rest.  A tab reaches to a multiple of eight as if every blank
took one column. -/
def column (offset width : Nat) : List Char → Nat × List Char
  | ' ' :: cs => column (offset + 1) (width + 1) cs
  | '\t' :: cs => column (offset + 1) (width + (8 - offset % 8)) cs
  | cs => (width, cs)

/-- Ends the parts that are indented further than a column, which must then be the
one of an enclosing part. -/
def closeTo (width : Nat) : List Nat → List Lexeme → Except Error (List Nat × List Lexeme)
  | [], _ => .error .badIndent
  | top :: outer, read =>
      if width < top then closeTo width outer (.outdent :: read)
      else if width = top then .ok (top :: outer, read)
      else .error .badIndent

/-- Takes the indentation of a line that is not empty into account. -/
def indentTo (place : Place) (width : Nat) : Except Error Place :=
  if place.depth != 0 then .ok place
  else if place.indents.headD 0 < width then
    .ok { place with indents := width :: place.indents, read := .indent :: place.read }
  else do
    let (indents, read) ← closeTo width place.indents place.read
    .ok { place with indents, read }

/-- Ends the text.  Indented parts end with it, behind the end of their line. -/
def finish (place : Place) : List Lexeme :=
  let inner := place.indents.length - 1
  let ended := if inner = 0 || place.fresh then place.read else .lineEnd :: place.read
  (List.replicate inner Lexeme.outdent ++ ended).reverse

end Place

/-- Whether nothing of a line is left.  The zero character ends the whole text. -/
def atEnd : List Char → Bool
  | [] => true
  | c :: _ => c.toNat == 0

/-- Reads lexemes on from a place.  Every round takes at least one character, so
the length of the text bounds the rounds. -/
def readFrom (rounds : Nat) (place : Place) (cs : List Char) : Except Error (List Lexeme) :=
  match rounds with
  | 0 => .ok place.finish
  | rounds + 1 =>
      let (width, behind) := Place.column 0 0 cs
      if atEnd behind then .ok place.finish
      else
        match behind with
        | '\n' :: rest =>
            if place.depth != 0 || place.fresh then
              readFrom rounds { place with fresh := true } rest
            else readFrom rounds { place.push .lineEnd with fresh := true } rest
        | c :: rest => do
            let place ← if place.fresh then place.indentTo width else .ok place
            if c == '\\' then
              match rest with
              | '\n' :: rest => readFrom rounds { place with fresh := false } rest
              | _ => .error (.badCharacter c)
            else
              let (lexeme, after) ← cut c rest
              let depth ← depthAfter place.depth lexeme
              readFrom rounds { place.push lexeme with depth, fresh := false } after
        | [] => .ok place.finish

/-- Turns every line end into the same character. -/
def lineEnds : List Char → List Char
  | '\r' :: '\n' :: cs => '\n' :: lineEnds cs
  | '\r' :: cs => '\n' :: lineEnds cs
  | c :: cs => c :: lineEnds cs
  | [] => []

def readAll (cs : List Char) : Except Error (List Lexeme) :=
  readFrom (cs.length + 1) ⟨0, true, [0], []⟩ (lineEnds cs)

end Lexeme

end ToyRisc.Expression
