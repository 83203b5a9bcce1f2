/-
Words of a text: fields between white space, white space around a text, and the
case of letters.
-/
import ToyRisc.Text.Blank
import ToyRisc.Text.Case

namespace ToyRisc.Text

/-- The fields between runs of white space.  Once `limit` fields have been cut off,
the next one reaches to the end.  `field` and `fields` hold what has been read, most
recent first. -/
def fieldsFrom (limit : Option Nat) (field : Text) (fields : List Text) : Text → List Text
  | [] => if field.isEmpty then fields.reverse else (field.reverse :: fields).reverse
  | s :: rest =>
      if isBlankChar s.char then
        if field.isEmpty then fieldsFrom limit [] fields rest
        else if limit = some 0 then ((field.reverse ++ s :: rest) :: fields).reverse
        else fieldsFrom (limit.map (· - 1)) [] (field.reverse :: fields) rest
      else fieldsFrom limit (s :: field) fields rest

/-- The fields between runs of white space, cut off from the front. -/
def fields (limit : Option Nat) (text : Text) : List Text := fieldsFrom limit [] [] text

/-- The fields between runs of white space, cut off from the end. -/
def fieldsFromEnd (limit : Option Nat) (text : Text) : List Text :=
  ((fields limit text.reverse).map List.reverse).reverse

def dropFront (drop : Char → Bool) (text : Text) : Text := text.dropWhile fun s => drop s.char

def dropEnd (drop : Char → Bool) (text : Text) : Text := (dropFront drop text.reverse).reverse

/-- Characters with the first one of every word in title case and the others in lower
case; `isInside` says that a word has begun. -/
def titleFrom (isInside : Bool) (read : List Char) : List Char → List Char
  | [] => read.reverse
  | c :: cs =>
      let c := if isInside then toLowerChar c else toTitleChar c
      titleFrom (isCasedChar c) (c :: read) cs

/-- Whether capitals stand at the start of words only, and at the start of all of
them.  `isInside` says that a word has begun, `any` that there was one. -/
def isTitledFrom (isInside any : Bool) : List Char → Bool
  | [] => any
  | c :: cs =>
      if ('A' ≤ c ∧ c ≤ 'Z') ∨ isTitleLetter c = true then
        !isInside && isTitledFrom true true cs
      else if isLowerLetter c then isInside && isTitledFrom true true cs
      else if isUpperLetter c then false
      else isTitledFrom false any cs

/-- Characters with the first one in title case and the others in lower case. -/
def capitalized : List Char → List Char
  | [] => []
  | c :: cs => toTitleChar c :: cs.map toLowerChar

end ToyRisc.Text
