/-
Programs.  A row keeps its tokens without the indentation marks in front and
remembers whether there were any; the depth of indentation has no meaning.  A
label belongs to the last row that declares it.
-/
import ToyRisc.Token

namespace ToyRisc

structure Row where
  /-- Whether marks stand in front of the body. -/
  indented : Bool
  /-- The tokens behind the marks. -/
  body : List Token
  deriving DecidableEq, Repr

namespace Row

/-- Whether a token is an indentation mark. -/
def isMark (token : Token) : Bool := token.kind == .tab

/-- The row of a list of tokens.  A row of nothing but marks is empty and does
not count as indented. -/
def ofTokens (tokens : List Token) : Row :=
  let body := tokens.dropWhile isMark
  ⟨!body.isEmpty && (tokens.head?.map isMark).getD false, body⟩

/-- The label a row declares. -/
def declared? (row : Row) : Option String :=
  match row.body with
  | first :: _ => if first.kind = .label then some first.literal else none
  | [] => none

end Row

/-- The rows of all declared labels, each name once. -/
structure LabelTable where
  entries : List (String × Nat)
  deriving DecidableEq, Repr

namespace LabelTable

def empty : LabelTable := ⟨[]⟩

/-- The table in which a name stands for a row, whatever it stood for before. -/
def declare (table : LabelTable) (name : String) (row : Nat) : LabelTable :=
  ⟨(name, row) :: table.entries.filter (·.1 != name)⟩

def find? (table : LabelTable) (name : String) : Option Nat := table.entries.lookup name

/-- The entries in the order of their names. -/
def sorted (table : LabelTable) : List (String × Nat) :=
  table.entries.mergeSort fun left right => decide (left.1 ≤ right.1)

/-- Adds the labels of rows that stand from index `n` on. -/
def collect (table : LabelTable) (n : Nat) : List Row → LabelTable
  | [] => table
  | row :: rows =>
      match row.declared? with
      | some name => (table.declare name n).collect (n + 1) rows
      | none => table.collect (n + 1) rows

end LabelTable

structure Program where
  rows : Array Row
  labels : LabelTable
  deriving DecidableEq, Repr

namespace Program

/-- The program of some rows of tokens. -/
def ofTokens (rows : List (List Token)) : Program :=
  let rows := rows.map Row.ofTokens
  ⟨rows.toArray, LabelTable.empty.collect 0 rows⟩

def size (program : Program) : Nat := program.rows.size

def indentedAt (program : Program) (n : Int) : Bool :=
  decide (0 ≤ n) && ((program.rows[n.toNat]?).map Row.indented).getD false

theorem lt_size_of_indentedAt {program : Program} {n : Int} (h : program.indentedAt n = true) :
    0 ≤ n ∧ n < program.size := by
  rw [indentedAt, Bool.and_eq_true, decide_eq_true_eq] at h
  obtain ⟨hlow, hrow⟩ := h
  cases hfound : program.rows[n.toNat]? with
  | none => simp [hfound] at hrow
  | some row =>
      have hlt := (Array.getElem?_eq_some_iff.mp hfound).1
      rw [size]
      omega

end Program

end ToyRisc
