/-
The machine.  A step executes the row under the program counter on the registers
of the machine, and remembers the row as the last one looked at; where the row is
refused, the registers stay as the refusal left them.  Snapshots and log lines are
results of a step.
-/
import ToyRisc.Execution
import ToyRisc.Log
import ToyRisc.Memory
import ToyRisc.PrintMode

namespace ToyRisc

/-- Where snapshots go. -/
inductive Sink where
  /-- They are not written. -/
  | absent
  /-- They are written. -/
  | buffer
  /-- Every attempt to write one fails. -/
  | failing
  deriving DecidableEq, Repr

/-- What is chosen before a run. -/
structure Settings where
  /-- Whether row 0 has to name the start of the program. -/
  enforceGlobal : Bool := true
  memorySize : Int := 256
  printMode : PrintMode := .silent
  verbose : Bool := false
  sink : Sink := .buffer
  deriving DecidableEq, Repr

/-- A program with the state of its run. -/
structure Machine where
  program : Program
  settings : Settings
  registers : RegisterFile
  memory : Memory
  /-- How many rows have been executed. -/
  steps : Nat
  /-- Where the last row that was looked at starts. -/
  last : Position
  deriving DecidableEq, Repr

/-- How a step ended. -/
inductive Outcome where
  /-- A row was executed; the flag says whether the program is now done. -/
  | executed (done : Bool)
  /-- The program was done already. -/
  | finished
  /-- The row was refused. -/
  | refused (fault : Fault)
  /-- A row was executed, and its snapshot could not be written. -/
  | unwritten
  deriving DecidableEq, Repr

namespace Outcome

/-- Whether the program is reported as done. -/
def done : Outcome → Bool
  | executed done => done
  | finished => true
  | refused _ => false
  | unwritten => false

/-- Whether a run ends here. -/
def stops : Outcome → Bool
  | executed done => done
  | finished => true
  | refused _ => true
  | unwritten => true

end Outcome

structure Step where
  machine : Machine
  outcome : Outcome
  /-- The snapshot that was written. -/
  written : String
  log : List LogLine

namespace Machine

def start (program : Program) (settings : Settings) : Machine :=
  ⟨program, settings, .zero, .ofSize settings.memorySize, 0, .nowhere⟩

def counter (machine : Machine) : Int := machine.registers.counter.toInt

/-- Whether the program counter is behind the last row. -/
def done (machine : Machine) : Bool := decide (machine.program.size ≤ machine.counter)

/-- The state of the machine as its print mode shows it. -/
def snapshot (machine : Machine) : String :=
  let mode := machine.settings.printMode
  if mode.showsRegisters || mode.showsMemory then
    "\n"
      ++ (if mode.showsRegisters then "registers: " ++ machine.registers.render ++ "\n" else "")
      ++ (if mode.showsMemory then "memory: " ++ machine.memory.render ++ "\n" else "")
  else ""

/-- Hands the snapshot of an executed row to the sink. -/
def emit (machine : Machine) (log : List LogLine) : Step :=
  match machine.settings.sink with
  | .absent => ⟨machine, .executed machine.done, "", log⟩
  | .buffer => ⟨machine, .executed machine.done, machine.snapshot, log⟩
  | .failing =>
      if machine.snapshot.isEmpty then ⟨machine, .executed machine.done, "", log⟩
      else ⟨machine, .unwritten, "", log⟩

/-- What is to be done with a row under the program counter. -/
def action (machine : Machine) (first : Token) (row : List Token) : Action Unit :=
  if machine.counter = 0 ∧ machine.settings.enforceGlobal = true then
    .executeGlobal machine.program first row
  else .execute machine.program first row

/-- Executes a row that starts with `first`. -/
def stepRow (machine : Machine) (first : Token) (row : List Token) : Step :=
  let log := if machine.settings.verbose then [LogLine.ofRow machine.counter row] else []
  let machine := { machine with last := first.position }
  match (machine.action first row).run machine.registers with
  | .error fault registers =>
      ⟨{ machine with registers := registers }, .refused fault, "", log⟩
  | .ok _ registers =>
      { machine with registers := registers, steps := machine.steps + 1 }.emit log

/-- Executes the row under the program counter. -/
def step (machine : Machine) : Step :=
  if machine.done then ⟨machine, .finished, "", []⟩
  else if machine.counter < 0 then
    ⟨machine, .refused ⟨.counterOutside machine.counter, machine.last⟩, "", []⟩
  else
    match machine.program.rows[machine.counter.toNat]? with
    | some ⟨_, first :: rest⟩ => machine.stepRow first (first :: rest)
    | _ => ⟨machine, .refused ⟨.emptyRow machine.counter.toNat, machine.last⟩, "", []⟩

/-- The machine after a number of steps, whatever they report. -/
def after (machine : Machine) : Nat → Machine
  | 0 => machine
  | n + 1 => (machine.step.machine).after n

/-- Takes up to `n` steps and ends with the first one that stops the run. -/
def trace (machine : Machine) : Nat → List Step
  | 0 => []
  | n + 1 =>
      let step := machine.step
      if step.outcome.stops then [step] else step :: step.machine.trace n

end Machine

end ToyRisc
