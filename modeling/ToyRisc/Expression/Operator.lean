/-
The operators of expressions.  Division and remainder go to the floor, shifting
left is limited, and sequences can be joined and repeated.  An assignment that
changes its target extends a list or a dictionary in its place.
-/
import ToyRisc.Expression.Template
import ToyRisc.Text.Search

namespace ToyRisc.Expression

namespace Value

def toFloat (n : Int) : Except Error Float :=
  let x := Float.ofInt n
  if x.isInf then .error .tooLarge else .ok x

/-- Two numbers brought to one type and combined. -/
def arithmetic (what : String) (onInts : Int → Int → Except Error Value)
    (onFloats : Float → Float → Except Error Value) :
    Value → Value → Except Error Value
  | int a, int b => onInts a b
  | int a, float b => do onFloats (← toFloat a) b
  | float a, int b => do onFloats a (← toFloat b)
  | float a, float b => onFloats a b
  | _, _ => .error (.unfit what)

/-- Refuses a zero divisor. -/
def divisor (y : Float) : Except Error Float :=
  if y == 0 then .error .divisionByZero else .ok y

def sum (a b : Value) : Except Error Value :=
  arithmetic "+" (fun x y => .ok (int (x + y))) (fun x y => .ok (float (x + y))) a b

def difference (a b : Value) : Except Error Value :=
  arithmetic "-" (fun x y => .ok (int (x - y))) (fun x y => .ok (float (x - y))) a b

def product (a b : Value) : Except Error Value :=
  arithmetic "*" (fun x y => .ok (int (x * y))) (fun x y => .ok (float (x * y))) a b

/-- A quotient, which is always a floating number. -/
def quotient (a b : Value) : Except Error Value :=
  let floats (x y : Float) : Except Error Value := do .ok (float (x / (← divisor y)))
  arithmetic "/" (fun x y => do floats (← toFloat x) (← toFloat y)) floats a b

/-- A quotient rounded to the floor. -/
def floorQuotient (a b : Value) : Except Error Value :=
  arithmetic "//"
    (fun x y => if y = 0 then .error .divisionByZero else .ok (int (Int.fdiv x y)))
    (fun x y => do .ok (float (x / (← divisor y)).floor)) a b

/-- The remainder of the floored quotient. -/
def remainder (a b : Value) : Except Error Value :=
  arithmetic "%"
    (fun x y => if y = 0 then .error .divisionByZero else .ok (int (Int.fmod x y)))
    (fun x y => do .ok (float (Binary64.modulo x (← divisor y)))) a b

/-- The bits of two whole numbers combined, with the sign as an endless run of
bits. -/
def bitwise (onBits : Nat → Nat → Nat) (onSigns : Bool → Bool → Bool) (a b : Int) : Int :=
  let width := max a.natAbs.log2 b.natAbs.log2 + 2
  let modulus := Nat.pow 2 width
  let image := onBits (a % modulus).toNat (b % modulus).toNat % modulus
  if onSigns (a < 0) (b < 0) then (image : Int) - modulus else image

/-- Two whole numbers combined bit by bit. -/
def bits (what : String) (onBits : Nat → Nat → Nat) (onSigns : Bool → Bool → Bool) :
    Value → Value → Except Error Value
  | int a, int b => .ok (int (bitwise onBits onSigns a b))
  | _, _ => .error (.unfit what)

/-- The least count by which nothing can be shifted to the left. -/
def shiftLimit : Int := 512

/-- A whole number shifted to the left or to the right. -/
def shift (isLeft : Bool) : Value → Value → Except Error Value
  | int a, int count =>
      match small? (int count) with
      | none => .error .shiftCount
      | some n =>
          if n < 0 ∨ (isLeft = true ∧ shiftLimit ≤ n) then .error .shiftCount
          else if isLeft then .ok (int (Binary64.scale a n.toNat))
          else .ok (int (a >>> n.toNat))
  | _, _ => .error (.unfit "a shift")

/-- The least length that a repeated sequence must not have. -/
def lengthLimit : Nat := 0x40000000

/-- How often a sequence of the given length is repeated.  An empty sequence stays
empty however often that is. -/
def repetitions (length : Nat) (times : Int) : Except Error Nat :=
  if length = 0 then .ok 0
  else
    match small? (int times) with
    | none => .error .tooLarge
    | some n =>
        if length * n.toNat < lengthLimit then .ok n.toNat else .error .tooLarge

/-- Bytes put behind others again and again. -/
def appendTimes (image out : ByteArray) : Nat → ByteArray
  | 0 => out
  | n + 1 => appendTimes image (out ++ image) n

/-- The size from which a block of bytes is large enough to be appended as a whole. -/
def blockSize : Nat := 4096

/-- Bytes repeated.  They are appended in blocks, and the room for them is taken
once. -/
def repeatBytes (image : ByteArray) (n : Nat) : ByteArray :=
  let copies := blockSize / image.size + 1
  let block := appendTimes image ByteArray.empty (min copies n)
  let out := ByteArray.emptyWithCapacity (image.size * n)
  appendTimes image (appendTimes block out (n / copies)) (n % copies)

/-- Items put behind others again and again. -/
def repeatItems (items out : Array Value) : Nat → Array Value
  | 0 => out
  | n + 1 => repeatItems items (out ++ items) n

def repeatedBytes (image : ByteArray) (times : Int) : Except Error ByteArray := do
  .ok (repeatBytes image (← repetitions image.size times))

def repeatedItems (items : Array Value) (times : Int) : Except Error (Array Value) := do
  let n ← repetitions items.size times
  .ok (repeatItems items (Array.emptyWithCapacity (items.size * n)) n)

end Value

namespace Eval

/-- A sum or a concatenation. -/
def add (a b : Value) : Eval Value :=
  match a, b with
  | .string x, .string y => pure (.string (x ++ y))
  | .bytes x, .bytes y => pure (.bytes (x ++ y))
  | .tuple xs, .tuple ys => pure (.tuple (xs ++ ys))
  | .list x, .list y => do
      let store ← get
      newList (store.items x ++ store.items y)
  | _, _ => a.sum b

/-- A product or a repetition. -/
def multiply (a b : Value) : Eval Value :=
  match a, b with
  | .string x, .int n | .int n, .string x => do
      pure (.string (← Value.repeatedBytes x n))
  | .bytes x, .int n | .int n, .bytes x => do pure (.bytes (← Value.repeatedBytes x n))
  | .tuple xs, .int n | .int n, .tuple xs => do
      pure (.tuple (← Value.repeatedItems xs.toArray n).toList)
  | .list x, .int n | .int n, .list x => do
      newList (← Value.repeatedItems ((← get).items x) n)
  | _, _ => a.product b

/-- A remainder, or a template filled with values. -/
def modulo (a b : Value) : Eval Value := do
  match a with
  | .string template => Template.interpolate (← get) template b
  | _ => a.remainder b

/-- The bits of two numbers, or the entries of two dictionaries. -/
def union (a b : Value) : Eval Value := do
  match a, b with
  | .dict x, .dict y =>
      let store ← get
      let left ← Dictionary.empty.insertAll (store.dictionary x).entries.toList
      newDict (← left.insertAll (store.dictionary y).entries.toList)
  | _, _ => Value.bits "|" (· ||| ·) (· || ·) a b

def isIn (value container : Value) : Eval Bool := do
  let store ← get
  match container with
  | .list address => do
      pure (← store.placeAmong? value 0 (store.items address).toList).isSome
  | .tuple items => do pure (← store.placeAmong? value 0 items).isSome
  | .dict address =>
      match (store.dictionary address).find? value with
      | .ok found => pure found.isSome
      | .error _ => pure false
  | .string image =>
      match value with
      | .string part => pure (Search.occurs part image)
      | _ => throw (.unfit "in")
  | .bytes image =>
      match value, value.byte? with
      | .bytes part, _ => pure (Search.occurs part image)
      | _, some b => pure (image.toList.contains b)
      | _, none => throw (.unfit "in")
  | .range progression =>
      match value.wholePart? with
      | some n =>
          match (Value.int n).small? with
          | some n => pure (progression.holds n)
          | none => pure false
      | none => throw (.unfit "in")
  | _ => throw (.unfit "in")

def equal (a b : Value) : Eval Bool := do (← get).equal a b

def order (a b : Value) : Eval Ordering := do (← get).order a b

def truth (value : Value) : Eval Bool := do pure ((← get).truth value)

end Eval

def UnaryOp.apply (op : UnaryOp) (a : Value) : Eval Value :=
  match op, a with
  | .not, a => do pure (.bool !(← Eval.truth a))
  | .negate, .int n => pure (.int (-n))
  | .negate, .float x => pure (.float (-x))
  | .plus, .int n => pure (.int n)
  | .plus, .float x => pure (.float x)
  | .complement, .int n => pure (.int (-n - 1))
  | _, _ => throw (.unfit "the sign")

def BinaryOp.apply (op : BinaryOp) (a b : Value) : Eval Value :=
  match op with
  | .add => Eval.add a b
  | .sub => a.difference b
  | .mul => Eval.multiply a b
  | .div => a.quotient b
  | .floorDiv => a.floorQuotient b
  | .mod => Eval.modulo a b
  | .bitAnd => Value.bits "&" (· &&& ·) (· && ·) a b
  | .bitOr => Eval.union a b
  | .bitXor => Value.bits "^" (· ^^^ ·) (· != ·) a b
  | .shiftLeft => Value.shift true a b
  | .shiftRight => Value.shift false a b
  | .equal => do pure (.bool (← Eval.equal a b))
  | .notEqual => do pure (.bool !(← Eval.equal a b))
  | .less => do pure (.bool ((← Eval.order a b) == .lt))
  | .greater => do pure (.bool ((← Eval.order a b) == .gt))
  | .lessEqual => do pure (.bool ((← Eval.order a b) != .gt))
  | .greaterEqual => do pure (.bool ((← Eval.order a b) != .lt))
  | .isIn => do pure (.bool (← Eval.isIn a b))
  | .isNotIn => do pure (.bool !(← Eval.isIn a b))

/-- The value of an operator whose first operand is then assigned to.  A list is
extended by what can be walked through, and a dictionary by another one. -/
def BinaryOp.applyInPlace (op : BinaryOp) (a b : Value) : Eval Value := do
  match op, a with
  | .add, .list address =>
      match (← get).walk? b with
      | some walk => do
          let more := walk.toArray
          Eval.changeList address fun items => items ++ more
          pure a
      | none => op.apply a b
  | .bitOr, .dict address =>
      match b with
      | .dict other => do
          Eval.requireIdleDict address
          let store ← get
          let entries := (store.dictionary other).entries.toList
          let joined ← (store.dictionary address).insertAll entries
          Eval.changeDict address fun _ => joined
          pure a
      | _ => op.apply a b
  | _, _ => op.apply a b

end ToyRisc.Expression
