/-
The register file: 33 words.  Register 0 cannot be written and register 32 is
the program counter, which is otherwise a register like any other.  Registers
are changed in place; what fails on the way leaves them as they are by then.
-/
import ToyRisc.Fault
import ToyRisc.Vocabulary

namespace ToyRisc

theorem toInt_add_one_of_lt {a : Int32} (h : a.toInt < 0x7FFFFFFF) :
    (a + 1).toInt = a.toInt + 1 := by
  have hlow := a.le_toInt
  have hone : (1 : Int32).toInt = 1 := rfl
  rw [Int32.toInt_add, hone]
  exact Int.bmod_eq_of_le (by omega) (by omega)

/-- The values of all registers. -/
structure RegisterFile where
  cells : Vector Int32 33
  deriving DecidableEq, Repr

namespace RegisterFile

def zero : RegisterFile := ⟨Vector.replicate 33 0⟩

def read (registers : RegisterFile) (index : Int) : Except RegisterError Int32 :=
  if h : 0 ≤ index ∧ index < 33 then
    have : index.toNat < 33 := by omega
    .ok registers.cells[index.toNat]
  else .error (.bounds index)

/-- Changes the value of a register in place. -/
def assign (index : Int) (value : Int32) : EStateM RegisterError RegisterFile Unit :=
  if index = 0 then throw .constant
  else if h : 0 ≤ index ∧ index < 33 then
    have : index.toNat < 33 := by omega
    modify fun registers => ⟨registers.cells.set index.toNat value⟩
  else throw (.bounds index)

/-- The registers that work in place has left, unless it failed. -/
def ofResult {ε α : Type} : EStateM.Result ε RegisterFile α → Except ε RegisterFile
  | .ok _ registers => .ok registers
  | .error error _ => .error error

/-- The register file with one value changed. -/
def write (registers : RegisterFile) (index : Int) (value : Int32) :
    Except RegisterError RegisterFile :=
  ofResult ((assign index value).run registers)

def counter (registers : RegisterFile) : Int32 := registers.cells[32]

def goto (registers : RegisterFile) (target : Int32) : RegisterFile :=
  ⟨registers.cells.set 32 target⟩

/-- The register file with the program counter on the next row. -/
def advance (registers : RegisterFile) : RegisterFile :=
  registers.goto (registers.counter + 1)

/-- The values of all registers, with commas between them. -/
def render (registers : RegisterFile) : String :=
  String.intercalate "," (registers.cells.toList.map fun value => Decimal.text value.toInt)

@[simp] theorem counter_goto (registers : RegisterFile) (target : Int32) :
    (registers.goto target).counter = target := by
  simp [goto, counter]

@[simp] theorem counter_advance (registers : RegisterFile) :
    registers.advance.counter = registers.counter + 1 :=
  registers.counter_goto (registers.counter + 1)

@[simp] theorem goto_goto (registers : RegisterFile) (passed target : Int32) :
    (registers.goto passed).goto target = registers.goto target := by
  simp [goto]

@[simp] theorem goto_counter (registers : RegisterFile) :
    registers.goto registers.counter = registers := by
  simp [goto, counter]

/-- The program counter goes up by one, unless it wraps. -/
theorem toInt_counter_advance {registers : RegisterFile} (h : 0 ≤ registers.counter.toInt) :
    registers.advance.counter.toInt = registers.counter.toInt + 1 ∨
      registers.advance.counter.toInt < 0 := by
  have hhigh := registers.counter.toInt_lt
  rw [counter_advance]
  by_cases hnext : registers.counter.toInt < 0x7FFFFFFF
  · exact .inl (toInt_add_one_of_lt hnext)
  · have hone : (1 : Int32).toInt = 1 := rfl
    have hgreatest : registers.counter.toInt = 0x7FFFFFFF := by omega
    rw [Int32.toInt_add, hone, hgreatest]
    exact .inr (by decide)

theorem assign_run (registers : RegisterFile) (index : Int) (value : Int32) :
    (assign index value).run registers =
      if index = 0 then .error .constant registers
      else if h : 0 ≤ index ∧ index < 33 then
        have : index.toNat < 33 := by omega
        .ok () ⟨registers.cells.set index.toNat value⟩
      else .error (.bounds index) registers := by
  unfold assign
  split
  · rfl
  split
  · rfl
  · rfl

theorem write_eq (registers : RegisterFile) (index : Int) (value : Int32) :
    registers.write index value =
      if index = 0 then .error .constant
      else if h : 0 ≤ index ∧ index < 33 then
        have : index.toNat < 33 := by omega
        .ok ⟨registers.cells.set index.toNat value⟩
      else .error (.bounds index) := by
  rw [write, assign_run]
  split
  · rfl
  split
  · rfl
  · rfl

/-- A register that was written holds the value written to it. -/
theorem read_of_write {registers changed : RegisterFile} {index : Int} {value : Int32}
    (hwrite : registers.write index value = .ok changed) :
    changed.read index = .ok value := by
  rw [write_eq] at hwrite
  split at hwrite
  · cases hwrite
  split at hwrite
  · rename_i hbounds
    cases hwrite
    simp [read, hbounds]
  · cases hwrite

/-- The other registers keep their values. -/
theorem read_of_write_of_ne {registers changed : RegisterFile} {index other : Int}
    {value : Int32} (hwrite : registers.write index value = .ok changed)
    (hne : other ≠ index) : changed.read other = registers.read other := by
  rw [write_eq] at hwrite
  split at hwrite
  · cases hwrite
  split at hwrite
  · rename_i hbounds
    cases hwrite
    unfold read
    split
    · have hindex : index.toNat ≠ other.toNat := by omega
      simp [Vector.getElem_set_ne, hindex]
    · rfl
  · cases hwrite

end RegisterFile

end ToyRisc
