/-
The meaning of names.  A name is a variable of the innermost function that binds
it, a variable of the text itself, a value defined from outside or a built-in
word, in this order.  A name that is bound anywhere in a function is a variable of
it everywhere in the function.  The names of a comprehension are its own, and
live in the frame of the function around it.
-/
import ToyRisc.Expression.Tree
import ToyRisc.Expression.Value

namespace ToyRisc.Expression

/-- What a name stands for. -/
inductive Reference where
  /-- A slot in the frame that is `depth` functions further out. -/
  | variable (depth slot : Nat)
  | known (value : Value)

/-- The number of a function, and the size of its frame. -/
structure Shape where
  id : Nat
  slots : Nat
  deriving DecidableEq, Repr

/-- An expression whose names are resolved. -/
abbrev Code := Tree Reference Shape

/-- A part of a comprehension whose names are resolved. -/
abbrev CodeClause := Clause Reference Shape

/-- A statement whose names are resolved. -/
abbrev CodeStatement := Statement Reference Shape

/-- Names that are bound together, with their slots. -/
structure Block where
  /-- Whether the slots are in a frame of their own. -/
  isFrame : Bool
  names : List (String × Nat)

/-- The names in sight, innermost first, and those defined from outside. -/
structure Scope where
  given : String → Option Int
  blocks : List Block

/-- The next free slot of the frame, and the number of the next function. -/
structure Counter where
  slot : Nat
  function : Nat

/-- Resolving numbers slots and functions on the way. -/
abbrev Resolve := StateT Counter (Except Error)

def builtinValue? (text : String) : Option Value :=
  match text with
  | "None" => some .nothing
  | "True" => some (.bool true)
  | "False" => some (.bool false)
  | _ => (Builtin.table.lookup text).map .builtin

namespace Scope

/-- The variable of a name, looked for from a frame `depth` functions further
out. -/
def variableIn? (depth : Nat) (text : String) : List Block → Option Reference
  | [] => none
  | block :: outer =>
      match block.names.lookup text with
      | some slot => some (.variable depth slot)
      | none => variableIn? (if block.isFrame then depth + 1 else depth) text outer

def find (scope : Scope) (text : String) : Resolve Reference :=
  match variableIn? 0 text scope.blocks with
  | some reference => pure reference
  | none =>
      match scope.given text with
      | some n => pure (.known (.int n))
      | none =>
          match builtinValue? text with
          | some value => pure (.known value)
          | none => throw (.undefinedName text)

def inFunction (scope : Scope) : Bool := 1 < (scope.blocks.filter (·.isFrame)).length

/-- The scope with further names, which take free slots of the frame. -/
def within (scope : Scope) (names : List String) : Resolve Scope := do
  let counter ← get
  let names := names.eraseDups
  set { counter with slot := counter.slot + names.length }
  pure { scope with blocks := ⟨false, names.zipIdx counter.slot⟩ :: scope.blocks }

/-- Resolves the body of a function, whose frame begins with the given names. -/
def inFrame {α : Type} (scope : Scope) (names : List String)
    (resolve : Scope → Resolve α) : Resolve (Shape × α) := do
  let before ← get
  set ({ slot := names.length, function := before.function + 1 } : Counter)
  let body ← resolve { scope with blocks := ⟨true, names.zipIdx⟩ :: scope.blocks }
  let after ← get
  set { after with slot := before.slot }
  pure (⟨before.function, after.slot⟩, body)

end Scope

def firstRepeated? : List String → Option String
  | [] => none
  | text :: rest => if rest.contains text then some text else firstRepeated? rest

namespace Param

/-- What has been seen of the parameters of a function. -/
structure Seen where
  optional : Bool
  star : Bool
  named : Bool

/-- Whether parameters stand in the right order behind those seen. -/
def inOrder (seen : Seen) : List Param → Bool
  | [] => true
  | param :: params =>
      match param.kind with
      | .plain => !seen.named && (seen.star || !seen.optional) && inOrder seen params
      | .optional => !seen.named && inOrder { seen with optional := true } params
      | .rest => !seen.named && !seen.star && inOrder { seen with star := true } params
      | .divider =>
          !seen.named && !seen.star && params.any (·.kind.isSingle)
            && inOrder { seen with star := true } params
      | .namedRest => !seen.named && inOrder { seen with named := true } params

/-- The names of the parameters in the order of their slots: those that take one
argument first. -/
def names (params : List Param) : List String :=
  ((params.filter (·.kind.isSingle)) ++ (params.filter (·.kind = .rest))
    ++ (params.filter (·.kind = .namedRest))).map (·.name)

/-- Refuses parameters in a wrong order or with a name twice. -/
def check (params : List Param) : Except Error Unit :=
  match firstRepeated? (names params) with
  | some text => .error (.repeatedName text)
  | none =>
      if inOrder ⟨false, false, false⟩ params then .ok () else .error .badParameters

end Param

mutual

/-- The names that a target binds. -/
def Tree.bound : RawTree → List String
  | .name text => [text]
  | .list targets | .tuple targets => Tree.boundAll targets
  | _ => []
termination_by structural tree => tree

def Tree.boundAll : List RawTree → List String
  | [] => []
  | target :: targets => Tree.bound target ++ Tree.boundAll targets
termination_by structural trees => trees

end

def Clause.bound : RawClause → List String
  | .each target _ => target.bound
  | .only _ => []

mutual

/-- The names that a statement binds in its function. -/
def Statement.bound : RawStatement → List String
  | .assign target _ => target.bound
  | .update _ target _ => target.bound
  | .branch _ yes no => Statement.boundAll yes ++ Statement.boundAll no
  | .loop target _ body => target.bound ++ Statement.boundAll body
  | .define name .. => [name]
  | .pass | .leave | .next | .give _ | .value _ => []
termination_by structural statement => statement

def Statement.boundAll : List RawStatement → List String
  | [] => []
  | statement :: statements => Statement.bound statement ++ Statement.boundAll statements
termination_by structural statements => statements

end

mutual

/-- Resolves the names of an expression. -/
def Tree.resolve (scope : Scope) : RawTree → Resolve Code
  | .nothing => pure .nothing
  | .name text => do pure (.name (← scope.find text))
  | .int value => pure (.int value)
  | .float value => pure (.float value)
  | .string image => pure (.string image)
  | .bytes image => pure (.bytes image)
  | .list items => do pure (.list (← Tree.resolveAll scope items))
  | .tuple items => do pure (.tuple (← Tree.resolveAll scope items))
  | .dict entries => do pure (.dict (← Tree.resolveAll scope entries))
  | .listOf body target source clauses => do
      let source ← Tree.resolve scope source
      let inner ← scope.within (target.bound ++ clauses.flatMap Clause.bound)
      let target ← Tree.resolveTarget inner target
      let clauses ← Tree.resolveClauses inner clauses
      pure (.listOf (← Tree.resolve inner body) target source clauses)
  | .dictOf key value target source clauses => do
      let source ← Tree.resolve scope source
      let inner ← scope.within (target.bound ++ clauses.flatMap Clause.bound)
      let target ← Tree.resolveTarget inner target
      let clauses ← Tree.resolveClauses inner clauses
      let key ← Tree.resolve inner key
      pure (.dictOf key (← Tree.resolve inner value) target source clauses)
  | .unary op operand => do pure (.unary op (← Tree.resolve scope operand))
  | .binary op left right => do
      let left ← Tree.resolve scope left
      pure (.binary op left (← Tree.resolve scope right))
  | .both left right => do
      let left ← Tree.resolve scope left
      pure (.both left (← Tree.resolve scope right))
  | .either left right => do
      let left ← Tree.resolve scope left
      pure (.either left (← Tree.resolve scope right))
  | .choose condition yes no => do
      let condition ← Tree.resolve scope condition
      let yes ← Tree.resolve scope yes
      pure (.choose condition yes (← Tree.resolve scope no))
  | .index container key => do
      let container ← Tree.resolve scope container
      pure (.index container (← Tree.resolve scope key))
  | .slice container low high step => do
      let container ← Tree.resolve scope container
      let low ← Tree.resolve scope low
      let high ← Tree.resolve scope high
      pure (.slice container low high (← Tree.resolve scope step))
  | .member object text => do pure (.member (← Tree.resolve scope object) text)
  | .call function args keywords rest namedRest => do
      let function ← Tree.resolve scope function
      let args ← Tree.resolveAll scope args
      let rest ← Tree.resolveOption scope rest
      pure (.call function args keywords rest (← Tree.resolveOption scope namedRest))
  | .lambda _ params defaults body => do
      Param.check params
      let defaults ← Tree.resolveAll scope defaults
      let (shape, body) ←
        scope.inFrame (Param.names params) fun inner => Tree.resolve inner body
      pure (.lambda shape params defaults body)
termination_by structural tree => tree

def Tree.resolveAll (scope : Scope) : List RawTree → Resolve (List Code)
  | [] => pure []
  | tree :: trees => do
      let tree ← Tree.resolve scope tree
      pure (tree :: (← Tree.resolveAll scope trees))
termination_by structural trees => trees

def Tree.resolveOption (scope : Scope) : Option RawTree → Resolve (Option Code)
  | none => pure none
  | some tree => do pure (some (← Tree.resolve scope tree))
termination_by structural tree => tree

def Tree.resolveClauses (scope : Scope) : List RawClause → Resolve (List CodeClause)
  | [] => pure []
  | clause :: clauses => do
      let clause ← Tree.resolveClause scope clause
      pure (clause :: (← Tree.resolveClauses scope clauses))
termination_by structural clauses => clauses

def Tree.resolveClause (scope : Scope) : RawClause → Resolve CodeClause
  | .each target source => do
      let target ← Tree.resolveTarget scope target
      pure (.each target (← Tree.resolve scope source))
  | .only condition => do pure (.only (← Tree.resolve scope condition))
termination_by structural clause => clause

/-- Resolves the names of something that is assigned to. -/
def Tree.resolveTarget (scope : Scope) : RawTree → Resolve Code
  | .name text => do pure (.name (← scope.find text))
  | .index container key => do
      let container ← Tree.resolve scope container
      pure (.index container (← Tree.resolve scope key))
  | .member object text => do pure (.member (← Tree.resolve scope object) text)
  | .list targets => do pure (.list (← Tree.resolveTargets scope targets))
  | .tuple targets => do pure (.tuple (← Tree.resolveTargets scope targets))
  | _ => throw .badTarget
termination_by structural target => target

def Tree.resolveTargets (scope : Scope) : List RawTree → Resolve (List Code)
  | [] => pure []
  | target :: targets => do
      let target ← Tree.resolveTarget scope target
      pure (target :: (← Tree.resolveTargets scope targets))
termination_by structural targets => targets

end

/-- Whether a target takes a value apart. -/
def Tree.isSequence : RawTree → Bool
  | .list _ | .tuple _ => true
  | _ => false

mutual

/-- Resolves the names of a statement, which may be inside a loop. -/
def Statement.resolve (scope : Scope) (inLoop : Bool) : RawStatement → Resolve CodeStatement
  | .pass => pure .pass
  | .leave => if inLoop then pure .leave else throw (.misplaced "break")
  | .next => if inLoop then pure .next else throw (.misplaced "continue")
  | .give tree => do
      if !scope.inFunction then throw (.misplaced "return")
      pure (.give (← tree.resolve scope))
  | .value tree => do pure (.value (← tree.resolve scope))
  | .assign target tree => do
      let tree ← tree.resolve scope
      pure (.assign (← target.resolveTarget scope) tree)
  | .update op target tree => do
      if target.isSequence then throw .badTarget
      let tree ← tree.resolve scope
      pure (.update op (← target.resolveTarget scope) tree)
  | .branch condition yes no => do
      if !scope.inFunction then throw (.misplaced "if")
      let condition ← condition.resolve scope
      let yes ← Statement.resolveAll scope inLoop yes
      pure (.branch condition yes (← Statement.resolveAll scope inLoop no))
  | .loop target source body => do
      if !scope.inFunction then throw (.misplaced "for")
      let source ← source.resolve scope
      let target ← target.resolveTarget scope
      pure (.loop target source (← Statement.resolveAll scope true body))
  | .define name text _ params defaults body => do
      Param.check params
      let place ← scope.find name
      let defaults ← Tree.resolveAll scope defaults
      let names := (Param.names params ++ Statement.boundAll body).eraseDups
      let (shape, body) ←
        scope.inFrame names fun inner => Statement.resolveAll inner false body
      pure (.define place text shape params defaults body)
termination_by structural statement => statement

def Statement.resolveAll (scope : Scope) (inLoop : Bool) :
    List RawStatement → Resolve (List CodeStatement)
  | [] => pure []
  | statement :: statements => do
      let statement ← Statement.resolve scope inLoop statement
      pure (statement :: (← Statement.resolveAll scope inLoop statements))
termination_by structural statements => statements

end

/-- A text whose names are resolved. -/
structure Program where
  body : List CodeStatement
  /-- The names that the text binds, in the order of their slots. -/
  names : List String
  /-- The size of the outermost frame. -/
  slots : Nat
  /-- How many functions the text holds. -/
  functions : Nat

/-- Resolves the names of a whole text, which binds no name twice. -/
def Program.resolve (given : String → Option Int) (statements : List RawStatement) :
    Except Error Program := do
  let names := Statement.boundAll statements
  match firstRepeated? names with
  | some text => throw (.reassignedName text)
  | none => pure ()
  let scope : Scope := ⟨given, [⟨true, names.zipIdx⟩]⟩
  let (body, counter) ← (Statement.resolveAll scope false statements).run ⟨names.length, 0⟩
  .ok ⟨body, names, counter.slot, counter.function⟩

end ToyRisc.Expression
