/-
Quoted text.  A text is shown between quotation marks; what cannot be printed,
the quotation mark and the backslash are escaped.
-/
import ToyRisc.Text.Printable
import ToyRisc.Text.Symbol

namespace ToyRisc.Quoted

def hexDigit (n : Nat) : Char :=
  if n < 10 then Char.ofNat ('0'.toNat + n) else Char.ofNat ('a'.toNat + (n - 10))

/-- The last `width` hexadecimal digits of a number. -/
def hexDigits : Nat → Nat → List Char
  | 0, _ => []
  | width + 1, n => hexDigits width (n / 16) ++ [hexDigit (n % 16)]

/-- The escaped form of a character that cannot be printed. -/
def escapeCode (n : Nat) : List Char :=
  if n < 0x20 ∨ n = 0x7F then '\\' :: 'x' :: hexDigits 2 n
  else if n < 0x10000 then '\\' :: 'u' :: hexDigits 4 n
  else '\\' :: 'U' :: hexDigits 8 n

/-- The form a character takes between quotation marks. -/
def escape (c : Char) : List Char :=
  if c == '"' || c == '\\' then ['\\', c]
  else if isPrintable c then [c]
  else
    match c.toNat with
    | 7 => ['\\', 'a']
    | 8 => ['\\', 'b']
    | 9 => ['\\', 't']
    | 10 => ['\\', 'n']
    | 11 => ['\\', 'v']
    | 12 => ['\\', 'f']
    | 13 => ['\\', 'r']
    | n => escapeCode n

def quote (text : String) : String :=
  String.ofList ('"' :: text.toList.flatMap escape ++ ['"'])

/-- Stored text between quotation marks.  A stray byte is written as its number. -/
def quoteText (text : Text) : String :=
  let escaped := text.flatMap fun s =>
    match s with
    | .scalar c => escape c
    | .stray b => '\\' :: 'x' :: hexDigits 2 b.toNat
  String.ofList ('"' :: escaped ++ ['"'])

end ToyRisc.Quoted
