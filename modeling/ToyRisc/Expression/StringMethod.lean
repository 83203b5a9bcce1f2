/-
The methods of strings.  Places in a string count bytes; what concerns letters and
white space looks at characters.
-/
import ToyRisc.Expression.Builtin
import ToyRisc.Text.Digit
import ToyRisc.Text.Letter
import ToyRisc.Text.Words

namespace ToyRisc.Expression

namespace Strings

def imageOf (value : Value) : Except Error ByteArray :=
  match value with
  | .string image => .ok image
  | _ => .error (.unfit "a string")

/-- Puts a string behind others, and something between them. -/
def joinTo (between : ByteArray) (out : Option ByteArray) (value : Value) :
    Eval (Option ByteArray) := do
  let image ← imageOf value
  pure (some (out.elim image fun out => out ++ between ++ image))

def ofChars (cs : List Char) : Value := Value.ofString (String.ofList cs)

def listOf (images : List ByteArray) : Eval Value :=
  Eval.newList (images.map Value.string).toArray

/-- A limit, which a negative number takes away. -/
def limitOf (value : Value) : Except Error (Option Nat) :=
  match value.word? with
  | some n => .ok (if n < 0 then none else some n.toNat)
  | none => .error (.unfit "a limit")

/-- What is searched for, and the first place and the bytes of the part in which it
is. -/
structure Query where
  part : Value
  start : Nat
  image : ByteArray

/-- Reads a part, and two bounds that may be missing. -/
def queryOf (image : ByteArray) (args : List Value) : Except Error Query := do
  match args with
  | part :: bounds => do
      let (first, last) ←
        Value.span image.size (bounds.headD .nothing) (bounds.tail.headD .nothing)
      .ok ⟨part, first, if first < last then image.extract first last else ByteArray.empty⟩
  | [] => .error (.unfit "a string")

def placeIn (isLast : Bool) (query : Query) : Except Error (Option Nat) := do
  let part ← imageOf query.part
  let found :=
    if isLast then Search.last? part query.image
    else Search.first? part query.image
  .ok (found.map (· + query.start))

/-- The place of a part in a string, or -1. -/
def find (isLast : Bool) (query : Query) : Except Error Value := do
  match ← placeIn isLast query with
  | some n => .ok (.int n)
  | none => .ok (.int (-1))

/-- The place of a part that has to be there. -/
def index (isLast : Bool) (query : Query) : Except Error Value := do
  match ← placeIn isLast query with
  | some n => .ok (.int n)
  | none => .error .noSuchItem

/-- Whether one of some parts passes a test; those behind it are not looked at. -/
def anyPart (test : ByteArray → Bool) : List Value → Except Error Bool
  | [] => .ok false
  | value :: values => do if test (← imageOf value) then .ok true else anyPart test values

/-- Whether a string has a part, or one of several, at its start or end. -/
def hasPart (test : ByteArray → ByteArray → Bool) (query : Query) : Except Error Value := do
  match query.part with
  | .tuple parts => do .ok (.bool (← anyPart (test · query.image) parts))
  | part => do .ok (.bool (test (← imageOf part) query.image))

/-- A string cut around a part that is not empty. -/
def partition (isLast : Bool) (part image : ByteArray) : Except Error Value := do
  if part.isEmpty then throw (.unfit "partition")
  let found :=
    if isLast then Search.last? part image else Search.first? part image
  let cut :=
    match found with
    | some n =>
        [image.extract 0 n, part, image.extract (n + part.size) image.size]
    | none =>
        if isLast then [ByteArray.empty, ByteArray.empty, image]
        else [image, ByteArray.empty, ByteArray.empty]
  .ok (.tuple (cut.map Value.string))

/-- The last pieces of a string, the others joined again. -/
def keepLast (part : ByteArray) (limit : Nat) (pieces : List ByteArray) : List ByteArray :=
  let excess := pieces.length - limit
  if excess = 0 then pieces
  else Search.join part (pieces.take excess) :: pieces.drop excess

/-- The pieces of a string between white space or between occurrences of a part. -/
def split (fromEnd : Bool) (image : ByteArray) (part : Value) (limit : Option Nat) :
    Except Error (List ByteArray) :=
  match part with
  | .nothing =>
      let text := Text.ofBytes image.toList
      let fields := if fromEnd then text.fieldsFromEnd limit else text.fields limit
      .ok (fields.map Text.image)
  | .string part =>
      if part.isEmpty then .error (.unfit "split")
      else if fromEnd then
        let pieces := Search.split part image none
        .ok (limit.elim pieces fun n => keepLast part n pieces)
      else .ok (Search.split part image limit)
  | _ => .error (.unfit "split")

/-- The lines of a string, with their ends or without. -/
def lines (keepsEnds : Bool) (image : ByteArray) : List ByteArray :=
  let lineEnd := "\n".toUTF8
  let pieces := Search.split lineEnd image none
  let whole := pieces.dropLast.map fun piece => if keepsEnds then piece ++ lineEnd else piece
  match pieces.getLast? with
  | some last => if last.isEmpty then whole else whole ++ [last]
  | none => whole

def stripped (atFront atEnd : Bool) (image : ByteArray) (chars : Option Value) :
    Except Error Value := do
  let chars ← imageOf (chars.getD (.string ByteArray.empty))
  let drop (c : Char) : Bool :=
    if chars.isEmpty then isBlankChar c else (Value.characters chars).contains c
  let text := Text.ofBytes image.toList
  let text := if atFront then text.dropFront drop else text
  .ok (.string (if atEnd then text.dropEnd drop else text).image)

/-- Whether there are characters, and all of them pass a test. -/
def allChars (test : Char → Bool) (image : ByteArray) : Value :=
  let cs := Value.characters image
  .bool (!cs.isEmpty && cs.all test)

/-- Whether a string has letters with case, and a mapping leaves it as it is. -/
def isCased (map : Char → Char) (image : ByteArray) : Value :=
  let cs := Value.characters image
  .bool (cs.any isCasedChar && (String.ofList (cs.map map)).toUTF8 == image)

/-- The methods without arguments. -/
def plain (method : StringMethod) (image : ByteArray) : Option Value :=
  let cs := Value.characters image
  match method with
  | .capitalize => some (ofChars (Text.capitalized cs))
  | .codepointOrds => some (.stringView .codepointOrds image)
  | .codepoints => some (.stringView .codepoints image)
  | .elemOrds => some (.stringView .elemOrds image)
  | .elems => some (.stringView .elems image)
  | .isAlnum => some (allChars (fun c => isLetter c || isDecimalDigit c) image)
  | .isAlpha => some (allChars isLetter image)
  | .isDigit => some (allChars isDecimalDigit image)
  | .isLower => some (isCased toLowerChar image)
  | .isSpace => some (allChars isBlankChar image)
  | .isTitle => some (.bool (Text.isTitledFrom false false cs))
  | .isUpper => some (isCased toUpperChar image)
  | .lower => some (ofChars (cs.map toLowerChar))
  | .title => some (ofChars (Text.titleFrom false [] cs))
  | .upper => some (ofChars (cs.map toUpperChar))
  | _ => none

/-- How many arguments a method with arguments takes. -/
def arity : StringMethod → Nat × Nat
  | .count | .endsWith | .find | .index | .findLast | .indexLast | .startsWith => (1, 3)
  | .join | .partition | .partitionLast | .removeStart | .removeEnd => (1, 1)
  | .replace => (2, 3)
  | .split | .splitLast => (0, 2)
  | .splitLines | .strip | .stripLeft | .stripRight => (0, 1)
  | _ => (0, 0)

def withArgs (method : StringMethod) (image : ByteArray) (args : List Value) :
    Eval Value := do
  match method, args with
  | .count, args => do
      let query ← queryOf image args
      pure (.int (Search.count (← imageOf query.part) query.image))
  | .startsWith, args => do hasPart Search.startsWith (← queryOf image args)
  | .endsWith, args => do hasPart Search.endsWith (← queryOf image args)
  | .find, args => do find false (← queryOf image args)
  | .findLast, args => do find true (← queryOf image args)
  | .index, args => do index false (← queryOf image args)
  | .indexLast, args => do index true (← queryOf image args)
  | .join, [source] => do
      let joined ← (← Eval.walk "join" source).fold (joinTo image) none
      pure (.string (joined.getD ByteArray.empty))
  | .partition, [part] => do partition false (← imageOf part) image
  | .partitionLast, [part] => do partition true (← imageOf part) image
  | .removeStart, [part] => do
      let part ← imageOf part
      let rest := image.extract part.size image.size
      pure (.string (if Search.startsWith part image then rest else image))
  | .removeEnd, [part] => do
      let part ← imageOf part
      let rest := image.extract 0 (image.size - part.size)
      pure (.string (if Search.endsWith part image then rest else image))
  | .replace, [old, new] => do
      pure (.string (Search.replace (← imageOf old) (← imageOf new) image none))
  | .replace, [old, new, count] => do
      let limit ← limitOf count
      pure (.string (Search.replace (← imageOf old) (← imageOf new) image limit))
  | .split, [] => do listOf (← split false image .nothing none)
  | .split, [part] => do listOf (← split false image part none)
  | .split, [part, count] => do listOf (← split false image part (← limitOf count))
  | .splitLast, [] => do listOf (← split true image .nothing none)
  | .splitLast, [part] => do listOf (← split true image part none)
  | .splitLast, [part, count] => do listOf (← split true image part (← limitOf count))
  | .splitLines, [] => listOf (lines false image)
  | .splitLines, [.bool keepsEnds] => listOf (lines keepsEnds image)
  | .strip, args => stripped true true image args.head?
  | .stripLeft, args => stripped true false image args.head?
  | .stripRight, args => stripped false true image args.head?
  | _, _ => throw (.badArguments (Method.string method).name)

end Strings

def StringMethod.apply (method : StringMethod) (image : ByteArray) (args : Args) : Eval Value := do
  match method with
  | .format => Template.format (← get) image args.positional args.named
  | _ =>
      let (least, most) := Strings.arity method
      let values ← args.byPosition (Method.string method).name least most
      match Strings.plain method image with
      | some value => pure value
      | none => Strings.withArgs method image values

end ToyRisc.Expression
