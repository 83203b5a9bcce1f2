/-
What stays as it is.  However steps and runs follow one another, and whatever they
report, register 0 holds zero, the memory is never written, and the program keeps the
labels it was given.  A single step changes one register at most besides the program
counter, and counts exactly if it executes a row.
-/
import ToyRisc.Machine.Run
import ToyRisc.Proofs.Halting
import ToyRisc.Proofs.RowEffects

namespace ToyRisc

namespace RegisterFile

theorem read_goto_of_ne (registers : RegisterFile) (target : Int32) {index : Int}
    (hindex : index ≠ pcIndex) : (registers.goto target).read index = registers.read index := by
  unfold read goto
  split
  · have hne : 32 ≠ index.toNat := by
      rw [pcIndex] at hindex
      omega
    simp [Vector.getElem_set_ne, hne]
  · rfl

/-- All registers but the one with this index and the program counter are as before. -/
def SameBut (target : Int) (changed registers : RegisterFile) : Prop :=
  ∀ index, index ≠ target → index ≠ pcIndex → changed.read index = registers.read index

theorem SameBut.goto {target : Int} {changed registers : RegisterFile}
    (h : SameBut target changed registers) (row : Int32) :
    SameBut target (changed.goto row) registers := by
  intro index htarget hcounter
  rw [read_goto_of_ne changed row hcounter, h index htarget hcounter]

/-- A move changes one register at most, and never register 0. -/
theorem Moves.sameBut {registers moved : RegisterFile} (h : registers.Moves moved) :
    ∃ target, target ≠ 0 ∧ SameBut target moved registers := by
  cases h with
  | stays => exact ⟨pcIndex, by decide, fun _ _ _ => rfl⟩
  | @writes index value changed hwrite =>
      refine ⟨index, ?_, fun other hother _ => read_of_write_of_ne hwrite hother⟩
      rintro rfl
      cases hwrite
  | jumps row => exact ⟨pcIndex, by decide, fun _ _ hcounter => read_goto_of_ne _ row hcounter⟩

theorem Leads.sameBut {registers changed : RegisterFile} (h : registers.Leads changed) :
    ∃ target, target ≠ 0 ∧ SameBut target changed registers := by
  obtain ⟨moved, row, hmoves, rfl⟩ := h
  obtain ⟨target, hzero, hsame⟩ := hmoves.sameBut
  exact ⟨target, hzero, hsame.goto row⟩

end RegisterFile

/-- What steps keep, runs keep. -/
theorem Run.proceed_invariant {P : Machine → Prop}
    (hstep : ∀ machine, P machine → P machine.step.machine) {run : Run} (h : P run.machine)
    (n : Nat) : P (run.proceed n).machine := by
  induction n generalizing run with
  | zero => exact h
  | succ n ih =>
      apply ih
      unfold Run.advance
      split
      · exact h
      · exact hstep run.machine h

namespace Machine

/-- What a step does to a machine: memory and program stay, one register at most
changes besides the program counter, never register 0, and executed rows count. -/
structure StepsTo (machine later : Machine) (ran : Bool) : Prop where
  memory : later.memory = machine.memory
  program : later.program = machine.program
  registers : ∃ target, target ≠ 0 ∧
    RegisterFile.SameBut target later.registers machine.registers
  steps : later.steps = machine.steps + if ran then 1 else 0

theorem step_stepsTo (machine : Machine) :
    machine.StepsTo machine.step.machine machine.step.outcome.ran := by
  cases hran : machine.step.outcome.ran with
  | true =>
      obtain ⟨registers, place, log, hverdict, hstep⟩ := exists_step_eq_emit hran
      rw [hstep, emit_machine]
      exact ⟨rfl, rfl, (leads_of_verdict hverdict).sameBut, rfl⟩
  | false =>
      have hsame := (halted_of_not_ran hran).step.1.state
      refine ⟨hsame.memory, hsame.program, ⟨pcIndex, by decide, ?_⟩, hsame.steps⟩
      intro index _ _
      rw [hsame.registers]

/-- The machines that calls of `step` and of the run lead to, at any moment of a run,
while log and sink are chosen anew at will. -/
inductive Reachable (machine : Machine) : Machine → Prop
  | here : Reachable machine machine
  | step {later : Machine} (h : Reachable machine later) : Reachable machine later.step.machine
  | run {later : Machine} (h : Reachable machine later) (n : Nat) :
      Reachable machine ((Run.start later).proceed n).machine
  | adjust {later : Machine} (h : Reachable machine later) (verbose : Bool) (sink : Sink) :
      Reachable machine (later.adjust verbose sink)

theorem Reachable.invariant {P : Machine → Prop} {machine later : Machine}
    (h : machine.Reachable later) (hhere : P machine)
    (hstep : ∀ machine, P machine → P machine.step.machine)
    (hadjust : ∀ machine verbose sink, P machine → P (machine.adjust verbose sink)) :
    P later := by
  induction h with
  | here => exact hhere
  | step _ ih => exact hstep _ ih
  | run _ n ih => exact Run.proceed_invariant hstep ih n
  | adjust _ verbose sink ih => exact hadjust _ verbose sink ih

/-- What holds of a machine for some rows and settings at any moment. -/
structure Intact (rows : List (List Token)) (settings : Settings) (machine : Machine) : Prop where
  zero : machine.registers.read 0 = .ok 0
  memory : machine.memory.bytes = List.replicate (max settings.memorySize 0).toNat 0
  program : machine.program = .ofTokens rows

theorem start_intact (rows : List (List Token)) (settings : Settings) :
    (start (.ofTokens rows) settings).Intact rows settings := by
  have hzero : RegisterFile.zero.read 0 = .ok 0 := rfl
  refine ⟨hzero, ?_, rfl⟩
  have hsize : settings.memorySize.toNat = (max settings.memorySize 0).toNat := by omega
  rw [← hsize]
  rfl

theorem Intact.step {rows : List (List Token)} {settings : Settings} {machine : Machine}
    (h : machine.Intact rows settings) : machine.step.machine.Intact rows settings := by
  have hsteps := machine.step_stepsTo
  obtain ⟨target, hzero, hsame⟩ := hsteps.registers
  refine ⟨?_, ?_, hsteps.program.trans h.program⟩
  · rw [hsame 0 hzero.symm (by decide), h.zero]
  · rw [hsteps.memory, h.memory]

/-- Whatever is called in whatever order, a machine stays intact and takes its steps
one register at a time. -/
theorem reachable_intact (rows : List (List Token)) (settings : Settings) {machine : Machine}
    (h : (start (.ofTokens rows) settings).Reachable machine) :
    machine.registers.read 0 = .ok 0 ∧
    machine.memory.bytes = List.replicate (max settings.memorySize 0).toNat 0 ∧
    machine.program.labels = (Program.ofTokens rows).labels ∧
    (∃ target, RegisterFile.SameBut target machine.step.machine.registers machine.registers) ∧
    machine.step.machine.steps =
      machine.steps + if machine.step.outcome.ran then 1 else 0 := by
  have hintact : machine.Intact rows settings :=
    h.invariant (start_intact rows settings) (fun _ hm => hm.step)
      (fun _ _ _ hm => ⟨hm.zero, hm.memory, hm.program⟩)
  have hsteps := machine.step_stepsTo
  obtain ⟨target, _, hsame⟩ := hsteps.registers
  exact ⟨hintact.zero, hintact.memory, by rw [hintact.program], ⟨target, hsame⟩, hsteps.steps⟩

/-- A row is executed and its snapshot lost; then a run is refused. -/
def interrupted : Machine :=
  let unrecorded := (start (.ofTokens strayBranch) unwritable).step.machine
  ((Run.start (unrecorded.adjust false .buffer)).proceed 3).machine

theorem interrupted_intact :
    interrupted.steps = 1 ∧ interrupted.registers.read 0 = .ok 0 ∧
      interrupted.memory.bytes = List.replicate 256 0 ∧ interrupted.step.machine.steps = 1 := by
  have hreachable : (start (.ofTokens strayBranch) unwritable).Reachable interrupted :=
    .run (.adjust (.step .here) false .buffer) 3
  obtain ⟨hzero, hmemory, _, _, hsteps⟩ := reachable_intact strayBranch unwritable hreachable
  have hrefused : interrupted.step.outcome.ran = false := by decide +kernel
  have hone : interrupted.steps = 1 := by decide +kernel
  rw [hrefused, hone] at hsteps
  exact ⟨hone, hzero, hmemory, hsteps⟩

end Machine

end ToyRisc
