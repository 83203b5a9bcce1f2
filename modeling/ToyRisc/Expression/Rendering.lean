/-
The text of values.  A string is shown between quotation marks inside other
values.  A list or dictionary that is inside itself is shown there with dots.
-/
import ToyRisc.Binary64.Writing
import ToyRisc.Decimal
import ToyRisc.Expression.Sequence
import ToyRisc.Radix
import ToyRisc.Text.Quoted

namespace ToyRisc.Expression

def quoteImage (image : ByteArray) : String := Quoted.quoteText (Text.ofBytes image.toList)

/-- The text of a progression.  A step of one and a start at zero are left out. -/
def Progression.text (p : Progression) : String :=
  let number (n : Int64) : String := Decimal.text n.toInt
  if p.step != 1 then
    "range(" ++ number p.start ++ ", " ++ number p.stop ++ ", " ++ number p.step ++ ")"
  else if p.start != 0 then "range(" ++ number p.start ++ ", " ++ number p.stop ++ ")"
  else "range(" ++ number p.stop ++ ")"

def View.text : View → String
  | .elems => ".elems()"
  | .elemOrds => ".elem_ords()"
  | .codepoints => ".codepoints()"
  | .codepointOrds => ".codepoint_ords()"

mutual

/-- Writes a value behind a text; `stored` writes those that are kept in the
store. -/
def Value.write (stored : String → Value → String) (out : String) : Value → String
  | .nothing => out ++ "None"
  | .bool value => out ++ (if value then "True" else "False")
  | .int n => out ++ Radix.text false 10 n
  | .float x => out ++ Binary64.text .short 'e' x
  | .string image => out ++ quoteImage image
  | .bytes image => out ++ "b" ++ quoteImage image
  | .tuple [] => out ++ "()"
  | .tuple [item] => Value.write stored (out ++ "(") item ++ ",)"
  | .tuple (item :: items) =>
      Value.writeAll stored (Value.write stored (out ++ "(") item) items ++ ")"
  | .range progression => out ++ progression.text
  | .stringView view image => out ++ quoteImage image ++ view.text
  | .bytesView image => out ++ "b" ++ quoteImage image ++ ".elems()"
  | .builtin which => out ++ "<built-in function " ++ which.name ++ ">"
  | .method _ receiver which =>
      out ++ "<built-in method " ++ which.name ++ " of " ++ receiver.typeName ++ " value>"
  | .list address => stored out (.list address)
  | .dict address => stored out (.dict address)
  | .function address => stored out (.function address)
termination_by structural value => value

/-- Writes values behind a text, each behind a comma. -/
def Value.writeAll (stored : String → Value → String) (out : String) : List Value → String
  | [] => out
  | item :: items =>
      Value.writeAll stored (Value.write stored (out ++ ", ") item) items
termination_by structural items => items

end

namespace Store

/-- A list or a dictionary. -/
inductive Holder where
  | list (address : Nat)
  | dict (address : Nat)
  deriving DecidableEq

/-- Writes a value that is kept in the store, inside the given holders.  Each level
adds a holder that is not yet among them, so their number bounds the levels. -/
def writeStored (store : Store) : Nat → List Holder → String → Value → String
  | 0, _, out, _ => out
  | levels + 1, path, out, value =>
      match value with
      | .list address =>
          if path.contains (.list address) then out ++ "[...]"
          else
            let write := Value.write (writeStored store levels (.list address :: path))
            match (store.items address).toList with
            | [] => out ++ "[]"
            | item :: items =>
                items.foldl (fun out item => write (out ++ ", ") item)
                  (write (out ++ "[") item) ++ "]"
      | .dict address =>
          if path.contains (.dict address) then out ++ "\x7b...\x7d"
          else
            let write := Value.write (writeStored store levels (.dict address :: path))
            let entry (out : String) (e : Value × Value) : String :=
              write (write out e.1 ++ ": ") e.2
            match (store.dictionary address).entries.toList with
            | [] => out ++ "\x7b\x7d"
            | e :: entries =>
                entries.foldl (fun out e => entry (out ++ ", ") e) (entry (out ++ "\x7b") e)
                  ++ "\x7d"
      | .function address =>
          let name := (store.closures[address]?.map (·.name)).getD ""
          out ++ "<function " ++ name ++ ">"
      | _ => out

/-- The text that shows a value. -/
def shown (store : Store) (value : Value) : String :=
  let levels := store.lists.size + store.dicts.size + 1
  value.write (store.writeStored levels []) ""

/-- The text that a value stands for: that of a string is the string itself. -/
def plain (store : Store) : Value → ByteArray
  | .string image => image
  | value => (store.shown value).toUTF8

end Store

end ToyRisc.Expression
