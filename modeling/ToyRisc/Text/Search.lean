/-
Searching in strings of bytes: where a part occurs, how often, and what stands
between its occurrences.  Occurrences are counted from the front and do not
overlap.
-/
import ToyRisc.Text.Symbol

namespace ToyRisc.Search

def byteAt (image : ByteArray) (n : Nat) : UInt8 := if h : n < image.size then image[n] else 0

/-- Whether a part occurs at a place.  The first byte is looked at first, as it
mostly decides. -/
def matchesAt (part image : ByteArray) (n : Nat) : Bool :=
  part.isEmpty
    || (byteAt part 0 == byteAt image n && image.extract n (n + part.size) == part)

/-- The first place from the `n`-th one on at which a part occurs; `left` places
follow. -/
def firstFrom? (part image : ByteArray) (n : Nat) : Nat → Option Nat
  | 0 => if matchesAt part image n then some n else none
  | left + 1 =>
      if matchesAt part image n then some n else firstFrom? part image (n + 1) left

/-- The last place up to the `n`-th one at which a part occurs. -/
def lastUpTo? (part image : ByteArray) : Nat → Option Nat
  | 0 => if matchesAt part image 0 then some 0 else none
  | n + 1 => if matchesAt part image (n + 1) then some (n + 1) else lastUpTo? part image n

def first? (part image : ByteArray) : Option Nat := firstFrom? part image 0 image.size

def last? (part image : ByteArray) : Option Nat := lastUpTo? part image image.size

def occurs (part image : ByteArray) : Bool := (first? part image).isSome

/-- The pieces between the first occurrences of a part that is not empty, at most
`limit` of them if there is one.  `skip` bytes belong to an occurrence that has been
found, `piece` and `pieces` hold what has been read, most recent first. -/
def splitFrom (part : List UInt8) (limit : Option Nat) (skip : Nat) (piece : List UInt8)
    (pieces : List (List UInt8)) : List UInt8 → List (List UInt8)
  | [] => (piece.reverse :: pieces).reverse
  | b :: bs =>
      match skip with
      | skip + 1 => splitFrom part limit skip piece pieces bs
      | 0 =>
          if limit != some 0 && part.isPrefixOf (b :: bs) then
            splitFrom part (limit.map (· - 1)) (part.length - 1) [] (piece.reverse :: pieces) bs
          else splitFrom part limit 0 (b :: piece) pieces bs

/-- The pieces between the first occurrences of a part that is not empty. -/
def split (part image : ByteArray) (limit : Option Nat) : List ByteArray :=
  (splitFrom part.toList limit 0 [] [] image.toList).map List.toByteArray

def join (between : ByteArray) : List ByteArray → ByteArray
  | [] => ByteArray.empty
  | piece :: pieces => pieces.foldl (fun out next => out ++ between ++ next) piece

/-- Something put in front of each of the first symbols of a text and, if there is
room for it, behind the last one. -/
def interleave (between : ByteArray) (limit : Option Nat) (out : ByteArray) :
    Text → ByteArray
  | [] => if limit = some 0 then out else out ++ between
  | s :: rest =>
      let out := if limit = some 0 then out else out ++ between
      interleave between (limit.map (· - 1)) (out ++ Text.image [s]) rest

/-- The first occurrences of a part replaced.  The empty part occurs in front of
every symbol and at the end. -/
def replace (old new image : ByteArray) (limit : Option Nat) : ByteArray :=
  if old.isEmpty then interleave new limit ByteArray.empty (Text.ofBytes image.toList)
  else join new (split old image limit)

def count (part image : ByteArray) : Nat :=
  if part.isEmpty then (Text.ofBytes image.toList).length + 1
  else (split part image none).length - 1

def startsWith (part image : ByteArray) : Bool :=
  decide (part.size ≤ image.size) && image.extract 0 part.size == part

def endsWith (part image : ByteArray) : Bool :=
  decide (part.size ≤ image.size)
    && image.extract (image.size - part.size) image.size == part

end ToyRisc.Search
