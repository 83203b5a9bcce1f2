/-
What a step can do.  Program and registers decide the verdict on a step, and the
verdict decides the step; log, sink, memory and step count have no part in it.
-/
import ToyRisc.Proofs.RowResults

namespace ToyRisc

/-- What stands under the program counter, and what it leads to. -/
inductive Verdict where
  /-- The program is done. -/
  | finished
  /-- There is no token to look at. -/
  | lost (cause : Cause)
  /-- A row that starts at `place` is refused. -/
  | refused (fault : Fault) (place : Position)
  /-- A row that starts at `place` leaves these registers. -/
  | executed (registers : RegisterFile) (place : Position)
  deriving DecidableEq, Repr

/-- Whether a row was executed. -/
def Outcome.ran : Outcome → Bool
  | executed _ => true
  | unwritten => true
  | finished => false
  | refused _ => false

/-- The fault that is reported where `last` is the place remembered, with the
place remembered after that. -/
def Verdict.refusal? (last : Position) : Verdict → Option (Fault × Position)
  | lost cause => some (⟨cause, last⟩, last)
  | refused fault place => some (fault, place)
  | _ => none

theorem Verdict.refusal?_again {verdict : Verdict} {last place : Position} {fault : Fault}
    (h : verdict.refusal? last = some (fault, place)) :
    verdict.refusal? place = some (fault, place) := by
  cases verdict with
  | finished => cases h
  | lost cause =>
      cases h
      rfl
  | refused found start => exact h
  | executed registers start => cases h

/-- What can be done with a machine from outside. -/
inductive Call where
  | step
  /-- Chooses whether rows are logged and where snapshots go. -/
  | adjust (verbose : Bool) (sink : Sink)
  deriving DecidableEq, Repr

namespace Machine

/-- The verdict on a row that starts with `first`. -/
def rowVerdict (machine : Machine) (first : Token) (row : List Token) : Verdict :=
  match machine.execute first row with
  | .error fault => .refused fault first.position
  | .ok registers => .executed registers first.position

theorem execute_of_rowVerdict_executed {machine : Machine} {first : Token} {row : List Token}
    {registers : RegisterFile} {place : Position}
    (h : machine.rowVerdict first row = .executed registers place) :
    machine.execute first row = .ok registers := by
  unfold rowVerdict at h
  split at h
  · cases h
  · rename_i hexecute
    cases h
    exact hexecute

theorem execute_of_rowVerdict_refused {machine : Machine} {first : Token} {row : List Token}
    {fault : Fault} {place : Position}
    (h : machine.rowVerdict first row = .refused fault place) :
    machine.execute first row = .error fault := by
  unfold rowVerdict at h
  split at h
  · rename_i hexecute
    cases h
    exact hexecute
  · cases h

/-- The verdict on the next step. -/
def verdict (machine : Machine) : Verdict :=
  if machine.done then .finished
  else if machine.counter < 0 then .lost (.counterOutside machine.counter)
  else
    match machine.program.rows[machine.counter.toNat]? with
    | some ⟨_, first :: rest⟩ => machine.rowVerdict first (first :: rest)
    | _ => .lost (.emptyRow machine.counter.toNat)

/-- The verdict on row `n`. -/
def bodyVerdict (machine : Machine) (n : Nat) : List Token → Verdict
  | first :: rest => machine.rowVerdict first (first :: rest)
  | [] => .lost (.emptyRow n)

/-- The program counter is behind the program, in front of it, or on a row. -/
theorem verdict_cases (machine : Machine) :
    (machine.program.size ≤ machine.counter ∧ machine.verdict = .finished) ∨
      (machine.counter < 0 ∧ machine.verdict = .lost (.counterOutside machine.counter)) ∨
      ∃ (n : Nat) (row : Row), machine.counter = n ∧ machine.program.rows[n]? = some row ∧
        machine.verdict = machine.bodyVerdict n row.body := by
  unfold verdict
  split
  · rename_i hdone
    exact .inl ⟨of_decide_eq_true hdone, rfl⟩
  split
  · rename_i hneg
    exact .inr (.inl ⟨hneg, rfl⟩)
  · rename_i hdone hneg
    have hsize : ¬ machine.program.rows.size ≤ machine.counter :=
      fun hle => hdone (decide_eq_true hle)
    have hlt : machine.counter.toNat < machine.program.rows.size := by omega
    obtain ⟨⟨indented, body⟩, hrow⟩ :
        ∃ row, machine.program.rows[machine.counter.toNat]? = some row :=
      ⟨_, Array.getElem?_eq_getElem hlt⟩
    refine .inr (.inr ⟨machine.counter.toNat, ⟨indented, body⟩, by omega, hrow, ?_⟩)
    rw [hrow]
    cases body with
    | nil => rfl
    | cons first rest => rfl

/-- A row is executed or refused only where the program counter is on it and it is not
empty. -/
theorem exists_row_of_verdict {machine : Machine} (hfinished : machine.verdict ≠ .finished)
    (hlost : ∀ cause, machine.verdict ≠ .lost cause) :
    ∃ (n : Nat) (row : Row) (first : Token) (rest : List Token), machine.counter = n ∧
      machine.program.rows[n]? = some row ∧ row.body = first :: rest ∧
        machine.verdict = machine.rowVerdict first (first :: rest) := by
  rcases machine.verdict_cases with ⟨_, hverdict⟩ | ⟨_, hverdict⟩ | ⟨n, row, hn, hrow, hverdict⟩
  · exact absurd hverdict hfinished
  · exact absurd hverdict (hlost _)
  · cases hbody : row.body with
    | nil =>
        rw [hbody] at hverdict
        exact absurd hverdict (hlost _)
    | cons first rest =>
        rw [hbody] at hverdict
        exact ⟨n, row, first, rest, hn, hrow, hbody, hverdict⟩

/-- The step that a verdict stands for. -/
def conclude (machine : Machine) (log : List LogLine) : Verdict → Step
  | .finished => ⟨machine, .finished, "", log⟩
  | .lost cause => ⟨machine, .refused ⟨cause, machine.last⟩, "", log⟩
  | .refused fault place => ⟨{ machine with last := place }, .refused fault, "", log⟩
  | .executed registers place =>
      { machine with registers := registers, steps := machine.steps + 1, last := place }.emit log

/-- A row that is refused has left the registers as they were, so the verdict says all that its
step does. -/
theorem stepRow_eq_conclude (machine : Machine) (first : Token) (row : List Token) :
    machine.stepRow first row =
      machine.conclude
        (if machine.settings.verbose then [LogLine.ofRow machine.counter row] else [])
        (machine.rowVerdict first row) := by
  have haction : ({ machine with last := first.position }).action first row =
      machine.action first row := rfl
  have hrun := (machine.atomic_action first row).run_eq machine.registers
  simp only [stepRow, rowVerdict, haction, hrun, execute]
  cases (machine.action first row).result machine.registers with
  | error fault => rfl
  | ok registers => rfl

/-- A step does what its verdict says; only the log is left open. -/
theorem exists_step_eq_conclude (machine : Machine) :
    ∃ log, machine.step = machine.conclude log machine.verdict := by
  unfold step verdict
  split
  · exact ⟨[], rfl⟩
  split
  · exact ⟨[], rfl⟩
  rcases machine.program.rows[machine.counter.toNat]? with _ | ⟨indented, _ | ⟨first, rest⟩⟩
  · exact ⟨[], rfl⟩
  · exact ⟨[], rfl⟩
  · exact ⟨_, machine.stepRow_eq_conclude first (first :: rest)⟩

@[simp] theorem emit_machine (machine : Machine) (log : List LogLine) :
    (machine.emit log).machine = machine := by
  unfold emit
  split
  · rfl
  · rfl
  · split <;> rfl

/-- Whether the print mode asks for snapshots. -/
def printing (machine : Machine) : Bool :=
  machine.settings.printMode.showsRegisters || machine.settings.printMode.showsMemory

theorem snapshot_eq_empty_iff (machine : Machine) :
    machine.snapshot = "" ↔ machine.printing = false := by
  simp only [snapshot, printing]
  split
  · rename_i hshown
    simp [hshown]
  · rename_i hshown
    simpa using hshown

theorem emit_outcome (machine : Machine) (log : List LogLine) :
    (machine.emit log).outcome =
      if machine.settings.sink = .failing ∧ machine.printing = true then .unwritten
      else .executed machine.done := by
  have hempty := machine.snapshot_eq_empty_iff
  unfold emit
  split
  · simp_all
  · simp_all
  · split
    · simp_all
    · simp_all

theorem step_of_executed {machine : Machine} {registers : RegisterFile} {place : Position}
    (h : machine.verdict = .executed registers place) :
    machine.step.outcome.ran = true ∧ machine.step.machine.registers = registers := by
  obtain ⟨log, hstep⟩ := machine.exists_step_eq_conclude
  rw [h, conclude] at hstep
  rw [hstep, emit_machine, emit_outcome]
  refine ⟨?_, rfl⟩
  split <;> rfl

theorem step_of_rowRefused {machine : Machine} {fault : Fault} {place : Position}
    (h : machine.verdict = .refused fault place) : machine.step.outcome = .refused fault := by
  obtain ⟨log, hstep⟩ := machine.exists_step_eq_conclude
  rw [hstep, h]
  rfl

/-- A row that is executed leaves the registers of its verdict, and counts. -/
theorem exists_step_eq_emit {machine : Machine} (h : machine.step.outcome.ran = true) :
    ∃ registers place log, machine.verdict = .executed registers place ∧
      machine.step = { machine with
        registers := registers, steps := machine.steps + 1, last := place }.emit log := by
  obtain ⟨log, hstep⟩ := machine.exists_step_eq_conclude
  rw [hstep] at h ⊢
  cases hverdict : machine.verdict with
  | finished => simp [hverdict, conclude, Outcome.ran] at h
  | lost cause => simp [hverdict, conclude, Outcome.ran] at h
  | refused fault place => simp [hverdict, conclude, Outcome.ran] at h
  | executed registers place => exact ⟨registers, place, log, rfl, rfl⟩

/-- A refused step changes nothing but the place remembered. -/
theorem exists_step_eq_of_refusal {machine : Machine} {fault : Fault} {place : Position}
    (h : machine.verdict.refusal? machine.last = some (fault, place)) :
    ∃ log, machine.step = ⟨{ machine with last := place }, .refused fault, "", log⟩ := by
  obtain ⟨log, hstep⟩ := machine.exists_step_eq_conclude
  refine ⟨log, hstep.trans ?_⟩
  cases hverdict : machine.verdict with
  | finished => simp [hverdict, Verdict.refusal?] at h
  | lost cause =>
      simp only [hverdict, Verdict.refusal?, Option.some.injEq, Prod.mk.injEq] at h
      rw [← h.1, ← h.2]
      rfl
  | refused found start =>
      simp only [hverdict, Verdict.refusal?, Option.some.injEq, Prod.mk.injEq] at h
      rw [← h.1, ← h.2]
      rfl
  | executed registers start => simp [hverdict, Verdict.refusal?] at h

theorem exists_refusal_of_refused {machine : Machine} {fault : Fault}
    (h : machine.step.outcome = .refused fault) :
    ∃ place, machine.verdict.refusal? machine.last = some (fault, place) := by
  obtain ⟨log, hstep⟩ := machine.exists_step_eq_conclude
  rw [hstep] at h
  cases hverdict : machine.verdict with
  | finished => simp [hverdict, conclude] at h
  | lost cause =>
      simp only [hverdict, conclude, Outcome.refused.injEq] at h
      exact ⟨machine.last, by rw [← h]; rfl⟩
  | refused found start =>
      simp only [hverdict, conclude, Outcome.refused.injEq] at h
      exact ⟨start, by rw [← h]; rfl⟩
  | executed registers start =>
      simp only [hverdict, conclude, emit_outcome] at h
      split at h
      · cases h
      · cases h

/-- The machine with another choice of log and sink. -/
def adjust (machine : Machine) (verbose : Bool) (sink : Sink) : Machine :=
  { machine with settings := { machine.settings with verbose := verbose, sink := sink } }

/-- The machine after one call. -/
def call (machine : Machine) : Call → Machine
  | .step => machine.step.machine
  | .adjust verbose sink => machine.adjust verbose sink

/-- The machine after some calls. -/
def calls (machine : Machine) : List Call → Machine
  | [] => machine
  | first :: history => (machine.call first).calls history

/-- The machine that some calls lead to from the start of a program. -/
def reached (rows : List (List Token)) (settings : Settings) (history : List Call) : Machine :=
  (start (.ofTokens rows) settings).calls history

theorem step_program (machine : Machine) : machine.step.machine.program = machine.program := by
  obtain ⟨log, hstep⟩ := machine.exists_step_eq_conclude
  rw [hstep]
  cases machine.verdict with
  | executed registers place => rw [conclude, emit_machine]
  | _ => rfl

theorem calls_program (machine : Machine) (history : List Call) :
    (machine.calls history).program = machine.program := by
  induction history generalizing machine with
  | nil => rfl
  | cons made history ih =>
      rw [calls, ih]
      cases made with
      | step => exact machine.step_program
      | adjust verbose sink => rfl

theorem reached_program (rows : List (List Token)) (settings : Settings)
    (history : List Call) : (reached rows settings history).program = .ofTokens rows :=
  calls_program _ history

end Machine

end ToyRisc
