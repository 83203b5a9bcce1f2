/-
Runs.  A run is a machine on its way together with everything it has written
and logged.  It goes on step by step until it has an ending; the bounded run
also ends once a given number of rows has been executed.
-/
import ToyRisc.Machine

namespace ToyRisc

inductive Ending where
  /-- The program counter left the program. -/
  | completed
  /-- A row was refused. -/
  | refused (fault : Fault)
  /-- A snapshot could not be written. -/
  | unwritten
  /-- The limit was reached. -/
  | stopped (steps : Nat)
  deriving DecidableEq, Repr

/-- A machine on its way. -/
structure Run where
  machine : Machine
  /-- The ending, once there is one. -/
  ending : Option Ending
  written : String
  log : Array LogLine

namespace Run

/-- The ending a step brings to an unbounded run. -/
def endingOf : Outcome → Option Ending
  | .executed false => none
  | .executed true => some .completed
  | .finished => some .completed
  | .refused fault => some (.refused fault)
  | .unwritten => some .unwritten

/-- The run after one more step, with the ending that step brings. -/
def extend (run : Run) (step : Step) (ending : Option Ending) : Run :=
  ⟨step.machine, ending, run.written ++ step.written, run.log.appendList step.log⟩

def start (machine : Machine) : Run :=
  ⟨machine, if machine.done then some .completed else none, "", #[]⟩

/-- One more step of a run that has no ending. -/
def advance (run : Run) : Run :=
  match run.ending with
  | some _ => run
  | none =>
      let step := run.machine.step
      run.extend step (endingOf step.outcome)

/-- Up to `n` more steps. -/
def proceed (run : Run) : Nat → Run
  | 0 => run
  | n + 1 => run.advance.proceed n

def startBounded (machine : Machine) : Run := ⟨machine, none, "", #[]⟩

/-- One more turn of a run that is bounded by `limit`, unless that is not
positive.  Whether the program is done and whether the limit is reached is asked
before the step. -/
def advanceBounded (limit : Int) (run : Run) : Run :=
  match run.ending with
  | some _ => run
  | none =>
      if run.machine.done then { run with ending := some .completed }
      else if 0 < limit ∧ limit ≤ run.machine.steps then
        { run with ending := some (.stopped run.machine.steps) }
      else
        let step := run.machine.step
        match step.outcome with
        | .refused fault => run.extend step (some (.refused fault))
        | .unwritten => run.extend step (some .unwritten)
        | _ => run.extend step none

/-- Up to `n` more turns of a bounded run. -/
def proceedBounded (limit : Int) (run : Run) : Nat → Run
  | 0 => run
  | n + 1 => (run.advanceBounded limit).proceedBounded limit n

end Run

end ToyRisc
