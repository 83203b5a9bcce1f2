/-
What decides the course of a run.  The verdict on a step is drawn from the program, the
registers and the demand for a directive, and from nothing else; machines that agree on
these go on to agree.  Memory, log, print mode and sink are for looking on: whatever they
are chosen to be, and however they are changed on the way, the same rows are executed and
the same faults found.
-/
import ToyRisc.Proofs.Halting

namespace ToyRisc

namespace Machine

/-- Agreement on all that decides what comes next. -/
structure SameCourse (left right : Machine) : Prop where
  program : left.program = right.program
  enforceGlobal : left.settings.enforceGlobal = right.settings.enforceGlobal
  registers : left.registers = right.registers

/-- Agreement on the past as well, as far as a machine remembers it. -/
structure Abreast (left right : Machine) : Prop extends SameCourse left right where
  steps : left.steps = right.steps
  last : left.last = right.last

theorem SameCourse.symm {left right : Machine} (h : left.SameCourse right) :
    right.SameCourse left :=
  ⟨h.program.symm, h.enforceGlobal.symm, h.registers.symm⟩

theorem Abreast.refl (machine : Machine) : machine.Abreast machine :=
  ⟨⟨rfl, rfl, rfl⟩, rfl, rfl⟩

theorem Abreast.symm {left right : Machine} (h : left.Abreast right) : right.Abreast left :=
  ⟨h.toSameCourse.symm, h.steps.symm, h.last.symm⟩

theorem Abreast.trans {first second third : Machine} (hfirst : first.Abreast second)
    (hsecond : second.Abreast third) : first.Abreast third where
  program := hfirst.program.trans hsecond.program
  enforceGlobal := hfirst.enforceGlobal.trans hsecond.enforceGlobal
  registers := hfirst.registers.trans hsecond.registers
  steps := hfirst.steps.trans hsecond.steps
  last := hfirst.last.trans hsecond.last

theorem SameCourse.done_eq {left right : Machine} (h : left.SameCourse right) :
    left.done = right.done := by
  rw [done, done, counter, counter, h.program, h.registers]

theorem SameCourse.execute_eq {left right : Machine} (h : left.SameCourse right) (first : Token)
    (row : List Token) : left.execute first row = right.execute first row := by
  rw [Machine.execute_eq, Machine.execute_eq, counter, counter, h.program, h.enforceGlobal,
    h.registers]

/-- Nothing else takes part in the verdict on a step. -/
theorem SameCourse.verdict_eq {left right : Machine} (h : left.SameCourse right) :
    left.verdict = right.verdict := by
  have hcounter : left.counter = right.counter := by rw [counter, counter, h.registers]
  simp only [verdict, rowVerdict, h.done_eq, hcounter, h.program, h.execute_eq]

/-- The machine a verdict leads to. -/
def settled (machine : Machine) : Verdict → Machine
  | .finished => machine
  | .lost _ => machine
  | .refused _ place => { machine with last := place }
  | .executed registers place =>
      { machine with registers := registers, steps := machine.steps + 1, last := place }

theorem step_machine (machine : Machine) :
    machine.step.machine = machine.settled machine.verdict := by
  obtain ⟨log, hstep⟩ := machine.exists_step_eq_conclude
  rw [hstep]
  cases machine.verdict with
  | executed registers place => rw [conclude, emit_machine, settled]
  | _ => rfl

theorem SameCourse.step {left right : Machine} (h : left.SameCourse right) :
    left.step.machine.SameCourse right.step.machine := by
  rw [step_machine, step_machine, h.verdict_eq]
  cases right.verdict with
  | finished => exact h
  | lost cause => exact h
  | refused fault place => exact ⟨h.program, h.enforceGlobal, h.registers⟩
  | executed registers place => exact ⟨h.program, h.enforceGlobal, rfl⟩

theorem Abreast.step {left right : Machine} (h : left.Abreast right) :
    left.step.machine.Abreast right.step.machine := by
  refine ⟨h.toSameCourse.step, ?_, ?_⟩
  · rw [step_machine, step_machine, h.verdict_eq]
    cases right.verdict with
    | executed registers place => exact congrArg (· + 1) h.steps
    | _ => exact h.steps
  · rw [step_machine, step_machine, h.verdict_eq]
    cases right.verdict with
    | finished => exact h.last
    | lost cause => exact h.last
    | refused fault place => rfl
    | executed registers place => rfl

theorem SameCourse.after {left right : Machine} (h : left.SameCourse right) (n : Nat) :
    (left.after n).SameCourse (right.after n) := by
  induction n with
  | zero => exact h
  | succ n ih =>
      rw [after_succ, after_succ]
      exact ih.step

theorem Abreast.after {left right : Machine} (h : left.Abreast right) (n : Nat) :
    (left.after n).Abreast (right.after n) := by
  induction n with
  | zero => exact h
  | succ n ih =>
      rw [after_succ, after_succ]
      exact ih.step

theorem step_refused_iff (machine : Machine) (fault : Fault) :
    machine.step.outcome = .refused fault ↔
      ∃ place, machine.verdict.refusal? machine.last = some (fault, place) := by
  constructor
  · exact exists_refusal_of_refused
  · rintro ⟨place, hrefusal⟩
    obtain ⟨log, hstep⟩ := exists_step_eq_of_refusal hrefusal
    rw [hstep]

theorem Abreast.refused_iff {left right : Machine} (h : left.Abreast right) (fault : Fault) :
    left.step.outcome = .refused fault ↔ right.step.outcome = .refused fault := by
  rw [step_refused_iff, step_refused_iff, h.verdict_eq, h.last]

theorem halted_iff_verdict (machine : Machine) :
    machine.Halted ↔ ∀ registers place, machine.verdict ≠ .executed registers place := by
  simp only [Halted, ← verdict_eq_finished_iff, step_refused_iff]
  cases machine.verdict with
  | finished => simp
  | lost cause => simp [Verdict.refusal?]
  | refused fault place => simp [Verdict.refusal?]
  | executed registers place => simp [Verdict.refusal?]

theorem SameCourse.halted_iff {left right : Machine} (h : left.SameCourse right) :
    left.Halted ↔ right.Halted := by
  rw [halted_iff_verdict, halted_iff_verdict, h.verdict_eq]

/-- Where snapshots can be written, a step reports whether the program is done. -/
theorem step_outcome_done {machine : Machine} (hsink : machine.settings.sink ≠ .failing) :
    machine.step.outcome.done = machine.step.machine.done := by
  by_cases hhalted : machine.Halted
  · rcases hhalted with hdone | ⟨fault, hrefused⟩
    · rw [step_of_done hdone]
      exact hdone.symm
    · have hdone : machine.done = false := by
        rw [← Bool.not_eq_true, ← step_outcome_finished_iff, hrefused]
        simp
      have hsame := (step_of_refused hrefused).2.1
      rw [hrefused, Machine.done, counter, hsame.program, hsame.registers]
      exact hdone.symm
  · rw [(executes_of_not_halted hsink hhalted).outcome, Outcome.done]

/-- Changes of log and sink on the way leave no trace in the steps between them. -/
theorem calls_abreast (machine : Machine) (history : List Call) :
    (machine.calls history).Abreast (machine.after (history.count .step)) := by
  induction history generalizing machine with
  | nil => exact .refl machine
  | cons made history ih =>
      cases made with
      | step =>
          rw [List.count_cons_self]
          exact ih machine.step.machine
      | adjust verbose sink =>
          have hadjusted : (machine.adjust verbose sink).Abreast machine :=
            ⟨⟨rfl, rfl, rfl⟩, rfl, rfl⟩
          rw [List.count_cons_of_ne (by simp)]
          exact (ih (machine.adjust verbose sink)).trans (hadjusted.after _)

/-- Machines for one program that differ in nothing but what is for looking on are abreast
after every number of steps. -/
theorem reached_abreast (rows : List (List Token)) {settings other : Settings}
    (henforced : settings.enforceGlobal = other.enforceGlobal) {history another : List Call}
    (hcount : history.count .step = another.count .step) :
    (reached rows settings history).Abreast (reached rows other another) := by
  have hstart : (start (.ofTokens rows) settings).Abreast (start (.ofTokens rows) other) :=
    ⟨⟨rfl, henforced, rfl⟩, rfl, rfl⟩
  have hleft := (start (.ofTokens rows) settings).calls_abreast history
  have hright := (start (.ofTokens rows) other).calls_abreast another
  rw [hcount] at hleft
  exact (hleft.trans (hstart.after _)).trans hright.symm

/-- Looking on does not interfere.  Let two machines for one program differ in print mode,
memory, log and sink, at the start and on the way: after `k` steps each they have the same
registers, labels and count of rows, they refuse the next row for the same fault or not at
all, and while snapshots can be written they say alike whether the program is done. -/
theorem looking_on_never_interferes (rows : List (List Token)) (settings other : Settings)
    (henforced : settings.enforceGlobal = other.enforceGlobal) (history another : List Call)
    (k : Nat) (hsteps : history.count .step = k) (hothers : another.count .step = k) :
    (reached rows settings history).registers = (reached rows other another).registers ∧
    (reached rows settings history).program.labels =
      (reached rows other another).program.labels ∧
    (reached rows settings history).steps = (reached rows other another).steps ∧
    (∀ fault, (reached rows settings history).step.outcome = .refused fault ↔
      (reached rows other another).step.outcome = .refused fault) ∧
    ((reached rows settings history).settings.sink ≠ .failing →
      (reached rows other another).settings.sink ≠ .failing →
        (reached rows settings history).step.outcome.done =
          (reached rows other another).step.outcome.done) := by
  have habreast := reached_abreast rows henforced (hsteps.trans hothers.symm)
  refine ⟨habreast.registers, by rw [habreast.program], habreast.steps, habreast.refused_iff, ?_⟩
  intro hsink hanother
  rw [step_outcome_done hsink, step_outcome_done hanother]
  exact habreast.step.done_eq

/-- No memory, a print mode that is none, a log and no sink. -/
def unseen : Settings :=
  { enforceGlobal := false, memorySize := -1, printMode := .other 7, verbose := true,
    sink := .absent }

/-- One machine loses the snapshot of its first row, the other is not even asked for one;
the second row is refused by both. -/
theorem strayBranch_refused_unseen :
    (reached strayBranch unwritable []).step.outcome = .unwritten ∧
      (reached strayBranch unwritable [.step]).registers =
        (reached strayBranch unseen [.adjust false .buffer, .step]).registers ∧
      (reached strayBranch unseen [.adjust false .buffer, .step]).step.outcome =
        .refused ⟨.unknownLabel "nowhere", ⟨2, 15⟩⟩ := by
  obtain ⟨hregisters, _, _, hrefused, _⟩ := looking_on_never_interferes strayBranch unwritable
    unseen rfl [.step] [.adjust false .buffer, .step] 1 (by decide) (by decide)
  exact ⟨by decide +kernel, hregisters, (hrefused _).mp (by decide +kernel)⟩

end Machine

end ToyRisc
