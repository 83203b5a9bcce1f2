/-
Evaluation.  Expressions and statements are evaluated along their structure, given
how functions are called.  A function cannot be called while a call of it is
running, so the number of functions in a text bounds the depth of calls.
-/
import ToyRisc.Expression.Grammar
import ToyRisc.Expression.Method
import ToyRisc.Text.Symbol

namespace ToyRisc.Expression

/-- How a statement ends. -/
inductive Flow where
  | onward
  /-- It leaves the innermost loop. -/
  | leave
  /-- It goes on with the next item of the innermost loop. -/
  | next
  /-- It ends the function with a value. -/
  | give (value : Value)

/-- Does something with each of `left` values from the `n`-th one on. -/
def Walk.eachFrom (walk : Walk) (action : Value → Eval Flow) (n : Nat) : Nat → Eval Flow
  | 0 => pure .onward
  | left + 1 => do
      match ← action (walk.get n) with
      | .onward | .next => eachFrom walk action (n + 1) left
      | .leave => pure .onward
      | .give value => pure (.give value)

def Eval.each (source : Value) (action : Value → Eval Flow) : Eval Flow := do
  let walk ← Eval.walk "for" source
  Eval.whileWalking source (walk.eachFrom action 0 walk.size)

/-- The named arguments that a dictionary holds. -/
def Eval.namedEntries : List (Value × Value) → Except Error (List (ByteArray × Value))
  | [] => .ok []
  | (.string name, value) :: entries => do .ok ((name, value) :: (← namedEntries entries))
  | _ => .error (.unfit "a call")

/-- The arguments of a call.  The last values are named by the keywords. -/
def Eval.arguments (values : Array Value) (keywords : List String)
    (rest namedRest : Option Value) : Eval Args := do
  let placed := values.size - keywords.length
  let more ←
    match rest with
    | none => pure #[]
    | some source => Eval.elements "a call" source
  let named := (keywords.map String.toUTF8).zip (values.toList.drop placed)
  let moreNamed ←
    match namedRest with
    | none => pure []
    | some (.dict address) => Eval.namedEntries (← Eval.entriesAt address).toList
    | some _ => throw (.unfit "a call")
  pure ⟨values.toList.take placed ++ more.toList, named ++ moreNamed⟩

def Reference.assign (frame : Nat) (value : Value) : Reference → Eval Unit
  | .variable depth slot => Eval.writeVariable frame depth slot value
  | .known _ => throw .badTarget

def Reference.value (frame : Nat) : Reference → Eval Value
  | .variable depth slot => Eval.readVariable frame depth slot
  | .known value => pure value

mutual

/-- The value of an expression, in the frame of a call. -/
def Tree.eval (call : Caller) (frame : Nat) : Code → Eval Value
  | .nothing => pure .nothing
  | .name reference => reference.value frame
  | .int n => pure (.int n)
  | .float x => pure (.float x)
  | .string image => pure (.string image)
  | .bytes image => pure (.bytes image)
  | .list items => do Eval.newList (← Tree.evalAll call frame #[] items)
  | .tuple items => do pure (.tuple (← Tree.evalAll call frame #[] items).toList)
  | .dict entries => do Eval.newDict (← Tree.evalEntries call frame .empty entries)
  | .listOf body target source clauses => do
      let source ← Tree.eval call frame source
      let made ← Eval.newList #[]
      let add : Eval Unit := do
        let value ← Tree.eval call frame body
        match made with
        | .list address => Eval.changeList address fun items => items.push value
        | _ => pure ()
      let _ ← Eval.each source fun value => do
        Tree.assign call frame value target
        Tree.collect call frame add clauses
        pure .onward
      pure made
  | .dictOf key value target source clauses => do
      let source ← Tree.eval call frame source
      let made ← Eval.newDict .empty
      let add : Eval Unit := do
        let key ← Tree.eval call frame key
        let value ← Tree.eval call frame value
        Eval.setItem made key value
      let _ ← Eval.each source fun item => do
        Tree.assign call frame item target
        Tree.collect call frame add clauses
        pure .onward
      pure made
  | .unary op operand => do op.apply (← Tree.eval call frame operand)
  | .binary op left right => do
      let a ← Tree.eval call frame left
      let b ← Tree.eval call frame right
      op.apply a b
  | .both left right => do
      let a ← Tree.eval call frame left
      if ← Eval.truth a then Tree.eval call frame right else pure a
  | .either left right => do
      let a ← Tree.eval call frame left
      if ← Eval.truth a then pure a else Tree.eval call frame right
  | .choose condition yes no => do
      let c ← Tree.eval call frame condition
      if ← Eval.truth c then Tree.eval call frame yes else Tree.eval call frame no
  | .index container key => do
      let a ← Tree.eval call frame container
      let k ← Tree.eval call frame key
      Eval.item a k
  | .slice container low high step => do
      let a ← Tree.eval call frame container
      let low ← Tree.eval call frame low
      let high ← Tree.eval call frame high
      let step ← Tree.eval call frame step
      Eval.slice a low high step
  | .member object text => do
      let a ← Tree.eval call frame object
      match ← Eval.member? a text with
      | some value => pure value
      | none => throw (.unfit text)
  | .call function args keywords rest namedRest => do
      let f ← Tree.eval call frame function
      let values ← Tree.evalAll call frame #[] args
      let rest ← Tree.evalOption call frame rest
      let namedRest ← Tree.evalOption call frame namedRest
      call f (← Eval.arguments values keywords rest namedRest)
  | .lambda shape params defaults body => do
      let defaults ← Tree.evalAll call frame #[] defaults
      Eval.newFunction ⟨"lambda", shape, params, defaults.toList, [.give body], frame⟩
termination_by structural tree => tree

/-- The values of several expressions, behind others. -/
def Tree.evalAll (call : Caller) (frame : Nat) (read : Array Value) :
    List Code → Eval (Array Value)
  | [] => pure read
  | tree :: trees => do
      let value ← Tree.eval call frame tree
      Tree.evalAll call frame (read.push value) trees
termination_by structural trees => trees

def Tree.evalOption (call : Caller) (frame : Nat) : Option Code → Eval (Option Value)
  | none => pure none
  | some tree => do pure (some (← Tree.eval call frame tree))
termination_by structural tree => tree

/-- Puts entries, given as keys and values in turn, into a dictionary that has none
of the keys. -/
def Tree.evalEntries (call : Caller) (frame : Nat) (d : Dictionary) :
    List Code → Eval Dictionary
  | key :: value :: rest => do
      let key ← Tree.eval call frame key
      let value ← Tree.eval call frame value
      let located ← d.locate key
      if located.2.isSome then throw .repeatedKey
      Tree.evalEntries call frame (d.put located key value) rest
  | _ => pure d
termination_by structural trees => trees

/-- Does something for all that the clauses of a comprehension go through. -/
def Tree.collect (call : Caller) (frame : Nat) (add : Eval Unit) :
    List CodeClause → Eval Unit
  | [] => add
  | .each target source :: clauses => do
      let source ← Tree.eval call frame source
      let _ ← Eval.each source fun value => do
        Tree.assign call frame value target
        Tree.collect call frame add clauses
        pure .onward
  | .only condition :: clauses => do
      let c ← Tree.eval call frame condition
      if ← Eval.truth c then Tree.collect call frame add clauses
termination_by structural clauses => clauses

def Tree.assign (call : Caller) (frame : Nat) (value : Value) : Code → Eval Unit
  | .name reference => reference.assign frame value
  | .index container key => do
      let a ← Tree.eval call frame container
      let k ← Tree.eval call frame key
      Eval.setItem a k value
  | .list targets => do
      Tree.assignAll call frame (← Eval.exactly targets.length value) targets
  | .tuple targets => do
      Tree.assignAll call frame (← Eval.exactly targets.length value) targets
  | _ => throw .badTarget
termination_by structural target => target

/-- Assigns values to targets, one to each. -/
def Tree.assignAll (call : Caller) (frame : Nat) (values : List Value) :
    List Code → Eval Unit
  | [] => if values.isEmpty then pure () else throw .wrongCount
  | target :: targets =>
      match values with
      | [] => throw .wrongCount
      | value :: values => do
          Tree.assign call frame value target
          Tree.assignAll call frame values targets
termination_by structural targets => targets

end

/-- Assigns to a target what an operator makes of its value and another one. -/
def Tree.update (call : Caller) (frame : Nat) (op : BinaryOp) (target tree : Code) :
    Eval Unit :=
  match target with
  | .name reference => do
      let a ← reference.value frame
      let b ← tree.eval call frame
      reference.assign frame (← op.applyInPlace a b)
  | .index container key => do
      let container ← container.eval call frame
      let key ← key.eval call frame
      let a ← Eval.item container key
      let b ← tree.eval call frame
      Eval.setItem container key (← op.applyInPlace a b)
  | _ => throw .badTarget

mutual

def Statement.exec (call : Caller) (frame : Nat) : CodeStatement → Eval Flow
  | .pass => pure .onward
  | .leave => pure .leave
  | .next => pure .next
  | .give tree => do pure (.give (← tree.eval call frame))
  | .value tree => do
      let _ ← tree.eval call frame
      pure .onward
  | .assign target tree => do
      let value ← tree.eval call frame
      target.assign call frame value
      pure .onward
  | .update op target tree => do
      Tree.update call frame op target tree
      pure .onward
  | .branch condition yes no => do
      let c ← condition.eval call frame
      if ← Eval.truth c then Statement.execAll call frame yes
      else Statement.execAll call frame no
  | .loop target source body => do
      let source ← source.eval call frame
      Eval.each source fun value => do
        target.assign call frame value
        Statement.execAll call frame body
  | .define place name shape params defaults body => do
      let defaults ← Tree.evalAll call frame #[] defaults
      let f ← Eval.newFunction ⟨name, shape, params, defaults.toList, body, frame⟩
      place.assign frame f
      pure .onward
termination_by structural statement => statement

def Statement.execAll (call : Caller) (frame : Nat) : List CodeStatement → Eval Flow
  | [] => pure .onward
  | statement :: statements => do
      match ← Statement.exec call frame statement with
      | .onward => Statement.execAll call frame statements
      | flow => pure flow
termination_by structural statements => statements

end

/-- Calls a value while some functions are running; `levels` bounds how deeply calls
may nest. -/
def enter : Nat → List Nat → Caller
  | 0, _, _, _ => throw .recursion
  | levels + 1, running, callee, args =>
      match callee with
      | .function address => do
          match (← get).closures[address]? with
          | none => throw (.unfit "a call")
          | some closure => do
              let id := closure.shape.id
              if running.contains id then throw .recursion
              let frame ← closure.newFrame args
              match ← Statement.execAll (enter levels (id :: running)) frame closure.body with
              | .give value => pure value
              | _ => pure .nothing
      | .builtin which => which.apply (enter levels running) args
      | .method _ receiver which => which.apply receiver args
      | _ => throw (.unfit "a call")

/-- The value of a name that a program binds.  Between two functions of the program
that are running there is at most one of those that are built in, which bounds how
deeply calls nest. -/
def Program.run (program : Program) (name : String) : Except Error Value := do
  let levels := 2 * program.functions + 3
  let (_, store) ←
    (Statement.execAll (enter levels []) 0 program.body).run (Store.start program.slots)
  match program.names.idxOf? name with
  | none => .ok .nothing
  | some slot =>
      match store.frames[0]?.bind fun frame => frame.slots.getD slot none with
      | some value => .ok value
      | none => .ok .nothing

/-- The value of a name that the program in a text binds, given the values of names
defined from outside. -/
def evaluate (given : String → Option Int) (source : List Char) (name : String) :
    Except Error Value := do
  let statements ← parse source
  (← Program.resolve given statements).run name

/-- What is asked of a program: the value of a name, if it is an integer.  A stray byte
is read as the replacement character. -/
def interpret (given : String → Option Int) (program : Text) (name : String) :
    Except String (Option Int) :=
  match evaluate given program.chars name with
  | .error error => .error error.message
  | .ok (.int n) => .ok (some n)
  | .ok _ => .ok none

end ToyRisc.Expression
