/-
The words that expressions know without defining them: functions, and the
methods of lists, dictionaries, strings and byte strings.  Every table is in
alphabetical order.
-/
namespace ToyRisc.Expression

/-- The functions that always have a meaning. -/
inductive Builtin where
  | abs | all | any | bool | bytes | chr | dict | dir | enumerate | fail | float | getattr
  | hasattr | hash | int | len | list | max | min | ord | print | range | repr | reversed
  | sorted | str | tuple | type | zip
  deriving DecidableEq, Repr

/-- The functions under their names. -/
def Builtin.table : List (String × Builtin) :=
  [("abs", .abs), ("all", .all), ("any", .any), ("bool", .bool), ("bytes", .bytes),
    ("chr", .chr), ("dict", .dict), ("dir", .dir), ("enumerate", .enumerate), ("fail", .fail),
    ("float", .float), ("getattr", .getattr), ("hasattr", .hasattr), ("hash", .hash),
    ("int", .int), ("len", .len), ("list", .list), ("max", .max), ("min", .min),
    ("ord", .ord), ("print", .print), ("range", .range), ("repr", .repr),
    ("reversed", .reversed), ("sorted", .sorted), ("str", .str), ("tuple", .tuple),
    ("type", .type), ("zip", .zip)]

inductive ListMethod where
  | append | clear | extend | index | insert | pop | remove
  deriving DecidableEq, Repr

inductive DictMethod where
  | clear | get | items | keys | pop | popItem | setDefault | update | values
  deriving DecidableEq, Repr

inductive StringMethod where
  | capitalize | codepointOrds | codepoints | count | elemOrds | elems | endsWith | find
  | format | index | isAlnum | isAlpha | isDigit | isLower | isSpace | isTitle | isUpper
  | join | lower | stripLeft | partition | removeStart | removeEnd | replace | findLast
  | indexLast | partitionLast | splitLast | stripRight | split | splitLines | startsWith
  | strip | title | upper
  deriving DecidableEq, Repr

/-- The methods of all kinds of values. -/
inductive Method where
  | list (which : ListMethod)
  | dict (which : DictMethod)
  | string (which : StringMethod)
  /-- The numbers of a byte string. -/
  | byteElems
  deriving DecidableEq, Repr

namespace Method

def ofLists : List (String × Method) :=
  [("append", .list .append), ("clear", .list .clear), ("extend", .list .extend),
    ("index", .list .index), ("insert", .list .insert), ("pop", .list .pop),
    ("remove", .list .remove)]

def ofDicts : List (String × Method) :=
  [("clear", .dict .clear), ("get", .dict .get), ("items", .dict .items),
    ("keys", .dict .keys), ("pop", .dict .pop), ("popitem", .dict .popItem),
    ("setdefault", .dict .setDefault), ("update", .dict .update), ("values", .dict .values)]

def ofStrings : List (String × Method) :=
  [("capitalize", .string .capitalize), ("codepoint_ords", .string .codepointOrds),
    ("codepoints", .string .codepoints), ("count", .string .count),
    ("elem_ords", .string .elemOrds), ("elems", .string .elems),
    ("endswith", .string .endsWith), ("find", .string .find), ("format", .string .format),
    ("index", .string .index), ("isalnum", .string .isAlnum), ("isalpha", .string .isAlpha),
    ("isdigit", .string .isDigit), ("islower", .string .isLower),
    ("isspace", .string .isSpace), ("istitle", .string .isTitle),
    ("isupper", .string .isUpper), ("join", .string .join), ("lower", .string .lower),
    ("lstrip", .string .stripLeft), ("partition", .string .partition),
    ("removeprefix", .string .removeStart), ("removesuffix", .string .removeEnd),
    ("replace", .string .replace), ("rfind", .string .findLast),
    ("rindex", .string .indexLast), ("rpartition", .string .partitionLast),
    ("rsplit", .string .splitLast), ("rstrip", .string .stripRight),
    ("split", .string .split), ("splitlines", .string .splitLines),
    ("startswith", .string .startsWith), ("strip", .string .strip),
    ("title", .string .title), ("upper", .string .upper)]

def ofBytes : List (String × Method) := [("elems", .byteElems)]

end Method

/-- The name under which a table lists something. -/
def nameIn {α : Type} [DecidableEq α] (table : List (String × α)) (x : α) : String :=
  ((table.find? (·.2 = x)).map (·.1)).getD ""

def Builtin.name (builtin : Builtin) : String := nameIn Builtin.table builtin

def Method.name (method : Method) : String :=
  nameIn (Method.ofLists ++ Method.ofDicts ++ Method.ofStrings ++ Method.ofBytes) method

end ToyRisc.Expression
