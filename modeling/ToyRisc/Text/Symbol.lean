/-
Stored text.  A text is a sequence of symbols read off bytes: a well-formed
UTF-8 sequence is one scalar, and a byte that belongs to no such sequence
stands alone.  Scanning sees only characters; sizes and byte columns also see
how many bytes a symbol takes.
-/
namespace ToyRisc

/-- One unit of stored text. -/
inductive Symbol where
  /-- A Unicode scalar value. -/
  | scalar (c : Char)
  /-- A byte outside every well-formed sequence. -/
  | stray (byte : UInt8)
  deriving DecidableEq, Repr

namespace Symbol

/-- The character a symbol shows; a stray byte shows as U+FFFD. -/
def char : Symbol → Char
  | scalar c => c
  | stray _ => Char.ofNat 0xFFFD

/-- The number of bytes a symbol takes. -/
def width : Symbol → Nat
  | scalar c => c.utf8Size
  | stray _ => 1

theorem width_pos (s : Symbol) : 0 < s.width := by
  cases s with
  | scalar c => exact Char.utf8Size_pos c
  | stray b => exact Nat.one_pos

end Symbol

/-- Stored text, symbol by symbol. -/
abbrev Text := List Symbol

namespace Text

/-- What the first byte of a sequence announces. -/
structure Lead where
  /-- The bits the first byte itself carries. -/
  payload : Nat
  /-- How many continuation bytes follow. -/
  tail : Nat
  /-- The least first continuation byte. -/
  low : UInt8
  /-- The greatest first continuation byte. -/
  high : UInt8

/-- The announcement of a first byte.  The narrowed ranges rule out overlong
forms, surrogates and values above U+10FFFF. -/
def Lead.of? (b : UInt8) : Option Lead :=
  if b < 0x80 then some ⟨b.toNat, 0, 0x80, 0xBF⟩
  else if b < 0xC2 then none
  else if b < 0xE0 then some ⟨b.toNat - 0xC0, 1, 0x80, 0xBF⟩
  else if b < 0xF0 then
    some ⟨b.toNat - 0xE0, 2, if b = 0xE0 then 0xA0 else 0x80, if b = 0xED then 0x9F else 0xBF⟩
  else if b < 0xF5 then
    some ⟨b.toNat - 0xF0, 3, if b = 0xF0 then 0x90 else 0x80, if b = 0xF4 then 0x8F else 0xBF⟩
  else none

/-- The code point completed by `n` continuation bytes, the first of them
between `low` and `high`. -/
def continuePoint (point : Nat) : Nat → UInt8 → UInt8 → List UInt8 → Option Nat
  | 0, _, _, _ => some point
  | _ + 1, _, _, [] => none
  | n + 1, low, high, b :: bs =>
      if low ≤ b ∧ b ≤ high then
        continuePoint (point * 64 + (b.toNat - 0x80)) n 0x80 0xBF bs
      else none

/-- The scalar that starts with byte `b`, with the number of bytes it takes
from `bs`. -/
def scalarAt? (b : UInt8) (bs : List UInt8) : Option (Char × Nat) :=
  match Lead.of? b with
  | none => none
  | some lead =>
      match continuePoint lead.payload lead.tail lead.low lead.high bs with
      | none => none
      | some point => some (Char.ofNat point, lead.tail)

/-- Reads bytes as text behind the symbols already read, which stand in reverse
order. -/
def readBytes (read : Text) : List UInt8 → Text
  | [] => read.reverse
  | b :: bs =>
      match scalarAt? b bs with
      | some (c, n) => readBytes (.scalar c :: read) (bs.drop n)
      | none => readBytes (.stray b :: read) bs
termination_by bytes => bytes.length

def ofBytes (bytes : List UInt8) : Text := readBytes [] bytes

/-- Text that holds scalars only. -/
def ofString (s : String) : Text := s.toList.map .scalar

def image (text : Text) : ByteArray :=
  text.foldl (fun image s =>
    match s with
    | .scalar c => (String.utf8EncodeChar c).foldl ByteArray.push image
    | .stray b => image.push b) ByteArray.empty

def chars (text : Text) : List Char := text.map Symbol.char

/-- The size of a text in bytes. -/
def size (text : Text) : Nat := text.foldl (fun n s => n + s.width) 0

@[simp] theorem chars_append (left right : Text) :
    chars (left ++ right) = chars left ++ chars right := by
  simp [chars]

theorem foldl_width (text : Text) (n : Nat) :
    text.foldl (fun n s => n + s.width) n = n + size text := by
  induction text generalizing n with
  | nil => simp [size]
  | cons s rest ih =>
      simp only [size, List.foldl_cons, Nat.zero_add]
      rw [ih (n + s.width), ih s.width, Nat.add_assoc]

@[simp] theorem size_append (left right : Text) :
    size (left ++ right) = size left + size right := by
  simp only [size, List.foldl_append]
  exact foldl_width right _

end Text

end ToyRisc
