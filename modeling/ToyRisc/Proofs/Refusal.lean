/-
Refused steps.  A step that is refused changes nothing but the place that is
remembered, and whatever is done with the machine afterwards, every further step
is refused for the same reason.  A step whose snapshot cannot be written is an
executed one all the same.
-/
import ToyRisc.Proofs.Stepping

namespace ToyRisc

namespace Machine

/-- Agreement on everything a run works on, and on the program with its labels. -/
structure SameState (left right : Machine) : Prop where
  registers : left.registers = right.registers
  memory : left.memory = right.memory
  program : left.program = right.program
  steps : left.steps = right.steps

theorem SameState.refl (machine : Machine) : machine.SameState machine :=
  ⟨rfl, rfl, rfl, rfl⟩

theorem SameState.symm {left right : Machine} (h : left.SameState right) :
    right.SameState left :=
  ⟨h.registers.symm, h.memory.symm, h.program.symm, h.steps.symm⟩

theorem SameState.trans {first second third : Machine} (hfirst : first.SameState second)
    (hsecond : second.SameState third) : first.SameState third where
  registers := hfirst.registers.trans hsecond.registers
  memory := hfirst.memory.trans hsecond.memory
  program := hfirst.program.trans hsecond.program
  steps := hfirst.steps.trans hsecond.steps

/-- The next step is refused and leaves even the remembered place as it is. -/
def StuckAt (machine : Machine) (fault : Fault) : Prop :=
  machine.verdict.refusal? machine.last = some (fault, machine.last)

/-- A refused step, its machine stuck from then on. -/
theorem step_of_refused {machine : Machine} {fault : Fault}
    (h : machine.step.outcome = .refused fault) :
    machine.step.machine.StuckAt fault ∧ machine.step.machine.SameState machine ∧
      machine.step.written = "" := by
  obtain ⟨place, hrefusal⟩ := exists_refusal_of_refused h
  obtain ⟨log, hstep⟩ := exists_step_eq_of_refusal hrefusal
  rw [hstep]
  -- the verdict does not read the place, so that the moved machine has the same one
  exact ⟨Verdict.refusal?_again hrefusal, ⟨rfl, rfl, rfl, rfl⟩, rfl⟩

namespace StuckAt

theorem step_outcome {machine : Machine} {fault : Fault} (h : machine.StuckAt fault) :
    machine.step.outcome = .refused fault := by
  obtain ⟨log, hstep⟩ := exists_step_eq_of_refusal h
  rw [hstep]

theorem call {machine : Machine} {fault : Fault} (h : machine.StuckAt fault) (made : Call) :
    (machine.call made).StuckAt fault ∧ (machine.call made).SameState machine := by
  cases made with
  | step =>
      obtain ⟨hstuck, hsame, _⟩ := step_of_refused h.step_outcome
      exact ⟨hstuck, hsame⟩
  | adjust verbose sink => exact ⟨h, ⟨rfl, rfl, rfl, rfl⟩⟩

theorem calls {machine : Machine} {fault : Fault} (h : machine.StuckAt fault)
    (history : List Call) :
    (machine.calls history).StuckAt fault ∧ (machine.calls history).SameState machine := by
  induction history generalizing machine with
  | nil => exact ⟨h, .refl machine⟩
  | cons made history ih =>
      obtain ⟨hstuck, hsame⟩ := h.call made
      obtain ⟨hlater, hsameLater⟩ := ih hstuck
      exact ⟨hlater, hsameLater.trans hsame⟩

end StuckAt

/-- Log and sink have no part in what a step does to the state. -/
theorem step_adjust_sameState (machine : Machine) (verbose : Bool) (sink : Sink) :
    (machine.adjust verbose sink).step.machine.SameState machine.step.machine := by
  obtain ⟨log, hstep⟩ := machine.exists_step_eq_conclude
  obtain ⟨adjustedLog, hadjusted⟩ := (machine.adjust verbose sink).exists_step_eq_conclude
  have hverdict : (machine.adjust verbose sink).verdict = machine.verdict := rfl
  rw [hstep, hadjusted, hverdict]
  cases machine.verdict with
  | finished => exact ⟨rfl, rfl, rfl, rfl⟩
  | lost cause => exact ⟨rfl, rfl, rfl, rfl⟩
  | refused fault place => exact ⟨rfl, rfl, rfl, rfl⟩
  | executed registers place =>
      simp only [conclude, emit_machine]
      exact ⟨rfl, rfl, rfl, rfl⟩

/-- Where its snapshots are written, a step of a machine executes a row or fails
exactly as its verdict says. -/
theorem step_outcome_eq_executed_iff (machine : Machine)
    (hsink : machine.settings.sink ≠ .failing) :
    (∃ done, machine.step.outcome = .executed done) ↔
      ∃ registers place, machine.verdict = .executed registers place := by
  obtain ⟨log, hstep⟩ := machine.exists_step_eq_conclude
  rw [hstep]
  cases machine.verdict with
  | finished => simp [conclude]
  | lost cause => simp [conclude]
  | refused fault place => simp [conclude]
  | executed registers place => simp [conclude, emit_outcome, hsink]

theorem step_outcome_eq_unwritten_iff (machine : Machine) :
    machine.step.outcome = .unwritten ↔
      machine.settings.sink = .failing ∧ machine.printing = true ∧
        ∃ registers place, machine.verdict = .executed registers place := by
  obtain ⟨log, hstep⟩ := machine.exists_step_eq_conclude
  rw [hstep]
  cases machine.verdict with
  | finished => simp [conclude]
  | lost cause => simp [conclude]
  | refused fault place => simp [conclude]
  | executed registers place =>
      have hprinting : { machine with
          registers := registers, steps := machine.steps + 1, last := place }.printing =
            machine.printing := rfl
      simp [conclude, emit_outcome, hprinting]

/-- A refusal that nothing undoes.  The step changes and writes nothing, and after
any further calls the next step is refused with the same fault and again changes
and writes nothing. -/
structure RefusedForGood (machine : Machine) (fault : Fault) : Prop where
  unchanged : machine.step.machine.SameState machine
  silent : machine.step.written = ""
  refusedAgain : ∀ history, (machine.step.machine.calls history).step.outcome = .refused fault
  unchangedAgain : ∀ history,
    (machine.step.machine.calls history).step.machine.SameState machine
  silentAgain : ∀ history, (machine.step.machine.calls history).step.written = ""

/-- A step that fails in nothing but writing its snapshot: the print mode asks for
one, the sink does not take it, and with a working sink the same step executes
the row and leaves the same state. -/
structure OnlyUnwritten (machine : Machine) : Prop where
  sink : machine.settings.sink = .failing
  printing : machine.printing = true
  executed : ∃ done,
    (machine.adjust machine.settings.verbose .buffer).step.outcome = .executed done
  state : machine.step.machine.SameState
    (machine.adjust machine.settings.verbose .buffer).step.machine

theorem refusedForGood_of_refused {machine : Machine} {fault : Fault}
    (h : machine.step.outcome = .refused fault) : machine.RefusedForGood fault := by
  obtain ⟨hstuck, hsame, hsilent⟩ := step_of_refused h
  have hlater : ∀ history,
      (machine.step.machine.calls history).step.outcome = .refused fault := by
    intro history
    exact (hstuck.calls history).1.step_outcome
  refine ⟨hsame, hsilent, hlater, ?_, ?_⟩
  · intro history
    obtain ⟨_, hsameStep, _⟩ := step_of_refused (hlater history)
    exact hsameStep.trans ((hstuck.calls history).2.trans hsame)
  · intro history
    exact (step_of_refused (hlater history)).2.2

theorem unwritten_iff_onlyUnwritten (machine : Machine) :
    machine.step.outcome = .unwritten ↔ machine.OnlyUnwritten := by
  have hexecuted := step_outcome_eq_executed_iff
    (machine.adjust machine.settings.verbose .buffer) (by simp [adjust])
  rw [step_outcome_eq_unwritten_iff]
  constructor
  · rintro ⟨hsink, hprinting, hverdict⟩
    exact ⟨hsink, hprinting, hexecuted.mpr hverdict,
      (machine.step_adjust_sameState machine.settings.verbose .buffer).symm⟩
  · intro h
    exact ⟨h.sink, h.printing, hexecuted.mp h.executed⟩

/-- Refused steps are atomic and final, and the only other failure is that of the
sink, which costs nothing but the snapshot. -/
theorem refused_step_atomic_and_final (rows : List (List Token)) (settings : Settings)
    (history : List Call) :
    (∀ fault, (reached rows settings history).step.outcome = .refused fault →
        (reached rows settings history).RefusedForGood fault) ∧
      ((reached rows settings history).step.outcome = .unwritten ↔
        (reached rows settings history).OnlyUnwritten) :=
  ⟨fun _ h => refusedForGood_of_refused h, unwritten_iff_onlyUnwritten _⟩

/-- A row that does nothing, and a branch to a label that no row declares. -/
def strayBranch : List (List Token) :=
  [[⟨.nop, "", 1, 1⟩],
    [⟨.instruction, "beq", 2, 1⟩, ⟨.register, "18", 2, 5⟩, ⟨.comma, "", 2, 8⟩,
      ⟨.register, "19", 2, 10⟩, ⟨.comma, "", 2, 13⟩, ⟨.ident, "nowhere", 2, 15⟩]]

/-- Snapshots are asked for, and none can be written. -/
def unwritable : Settings :=
  { enforceGlobal := false, printMode := .both, sink := .failing }

theorem strayBranch_refused_for_good :
    (reached strayBranch unwritable []).OnlyUnwritten ∧
      (reached strayBranch unwritable [.step]).RefusedForGood
        ⟨.unknownLabel "nowhere", ⟨2, 15⟩⟩ :=
  ⟨(refused_step_atomic_and_final strayBranch unwritable []).2.mp (by decide +kernel),
    (refused_step_atomic_and_final strayBranch unwritable [.step]).1 _ (by decide +kernel)⟩

end Machine

end ToyRisc
