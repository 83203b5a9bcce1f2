/-
The store of lists, dictionaries, functions and variables.  A list or dictionary
counts those who walk through it, and cannot be changed while there are any.
Every call of a function has a frame for its variables; a function keeps the
frame in which it was made.
-/
import ToyRisc.Expression.Dictionary
import ToyRisc.Expression.Scope

namespace ToyRisc.Expression

/-- Something that can be changed while nobody walks through it. -/
structure Cell (α : Type) where
  content : α
  walkers : Nat

/-- The cell with another content, unless somebody walks through it. -/
def Cell.change {α : Type} (cell : Cell α) (f : α → α) : Cell α :=
  if cell.walkers = 0 then { cell with content := f cell.content } else cell

/-- A function that was written in the text. -/
structure Closure where
  name : String
  shape : Shape
  params : List Param
  /-- The values of the defaults of its optional parameters. -/
  defaults : List Value
  body : List CodeStatement
  /-- The frame around it. -/
  outer : Nat

/-- The variables of a call. -/
structure Frame where
  /-- The frame around the function. -/
  outer : Nat
  slots : Array (Option Value)

/-- All that can change while a text is evaluated. -/
structure Store where
  lists : Array (Cell (Array Value))
  dicts : Array (Cell Dictionary)
  closures : Array Closure
  frames : Array Frame
  /-- How many methods have been asked for. -/
  serial : Nat

/-- A computation that changes the store, or fails. -/
abbrev Eval := StateT Store (Except Error)

namespace Store

/-- The store in which evaluation starts: one frame of a given size. -/
def start (slots : Nat) : Store :=
  { lists := #[], dicts := #[], closures := #[], frames := #[⟨0, Array.replicate slots none⟩]
    serial := 0 }

def items (store : Store) (address : Nat) : Array Value :=
  (store.lists[address]?.map (·.content)).getD #[]

def dictionary (store : Store) (address : Nat) : Dictionary :=
  (store.dicts[address]?.map (·.content)).getD .empty

/-- The frame `depth` functions further out. -/
def frameOut (store : Store) (frame : Nat) : Nat → Nat
  | 0 => frame
  | depth + 1 => frameOut store ((store.frames[frame]?.map (·.outer)).getD 0) depth

def truth (store : Store) : Value → Bool
  | .nothing => false
  | .bool value => value
  | .int value => value != 0
  | .float value => value != 0
  | .string image => image.size != 0
  | .bytes image => image.size != 0
  | .tuple items => !items.isEmpty
  | .list address => (store.items address).size != 0
  | .dict address => (store.dictionary address).size != 0
  | .range progression => decide (0 < progression.length)
  | .stringView .. | .bytesView _ | .function _ | .builtin _ | .method .. => true

end Store

namespace Eval

def newList (items : Array Value) : Eval Value :=
  modifyGet fun store =>
    (.list store.lists.size, { store with lists := store.lists.push ⟨items, 0⟩ })

def newDict (d : Dictionary) : Eval Value :=
  modifyGet fun store =>
    (.dict store.dicts.size, { store with dicts := store.dicts.push ⟨d, 0⟩ })

def newFunction (closure : Closure) : Eval Value :=
  modifyGet fun store =>
    (.function store.closures.size, { store with closures := store.closures.push closure })

def newFrame (frame : Frame) : Eval Nat :=
  modifyGet fun store =>
    (store.frames.size, { store with frames := store.frames.push frame })

def newMethod (receiver : Value) (which : Method) : Eval Value :=
  modifyGet fun store =>
    (.method store.serial receiver which, { store with serial := store.serial + 1 })

/-- Whether nobody walks through a list. -/
def requireIdleList (address : Nat) : Eval Unit := do
  match (← get).lists[address]? with
  | some cell => if cell.walkers = 0 then pure () else throw .busy
  | none => pure ()

def requireIdleDict (address : Nat) : Eval Unit := do
  match (← get).dicts[address]? with
  | some cell => if cell.walkers = 0 then pure () else throw .busy
  | none => pure ()

def changeList (address : Nat) (f : Array Value → Array Value) : Eval Unit := do
  requireIdleList address
  modify fun store => { store with lists := store.lists.modify address (·.change f) }

def changeDict (address : Nat) (f : Dictionary → Dictionary) : Eval Unit := do
  requireIdleDict address
  modify fun store => { store with dicts := store.dicts.modify address (·.change f) }

def putEntry (address : Nat) (key value : Value) : Eval Unit := do
  let located ← ((← get).dictionary address).locate key
  changeDict address fun d => d.put located key value

/-- Removes a key from a dictionary, and gives the value it had.  Where nothing was
ever put in, anything can be asked for. -/
def takeEntry (address : Nat) (key : Value) : Eval (Option Value) := do
  requireIdleDict address
  let d := (← get).dictionary address
  if d.slots.isEmpty then return none
  let (hash, place) ← d.locate key
  match place with
  | none => pure none
  | some n =>
      let found := (d.entryAt? place).map (·.2)
      changeDict address fun d => d.removeAt hash n
      pure found

/-- Counts one walker more, or with `isLeaving` one less. -/
def countWalker (isLeaving : Bool) (value : Value) : Eval Unit :=
  let count (n : Nat) : Nat := if isLeaving then n - 1 else n + 1
  match value with
  | .list address =>
      modify fun store => { store with
        lists := store.lists.modify address fun c => { c with walkers := count c.walkers } }
  | .dict address =>
      modify fun store => { store with
        dicts := store.dicts.modify address fun c => { c with walkers := count c.walkers } }
  | _ => pure ()

/-- Does something while walking through a value. -/
def whileWalking {α : Type} (value : Value) (action : Eval α) : Eval α := do
  countWalker false value
  let result ← action
  countWalker true value
  pure result

def readVariable (frame depth slot : Nat) : Eval Value := do
  let store ← get
  match (store.frames[store.frameOut frame depth]?).bind fun f => f.slots.getD slot none with
  | some value => pure value
  | none => throw .unassignedName

def writeVariable (frame depth slot : Nat) (value : Value) : Eval Unit :=
  modify fun store =>
    let place := store.frameOut frame depth
    { store with
      frames := store.frames.modify place fun f =>
        { f with slots := f.slots.setIfInBounds slot (some value) } }

end Eval

end ToyRisc.Expression
