/-
Programs that never end.  As the registers decide the course of a run, a run that comes to
registers it has had before goes round from then on: it executes a row with every step and
is never done.
-/
import ToyRisc.Proofs.Course

namespace ToyRisc

namespace Machine

theorem after_program (machine : Machine) (n : Nat) :
    (machine.after n).program = machine.program := by
  induction n with
  | zero => rfl
  | succ n ih => rw [after_succ, step_program, ih]

/-- Two moments of a run with the same registers have the same future. -/
theorem sameCourse_of_registers {machine : Machine} {i j : Nat}
    (h : (machine.after i).registers = (machine.after j).registers) :
    (machine.after i).SameCourse (machine.after j) := by
  refine ⟨?_, ?_, h⟩
  · rw [after_program, after_program]
  · rw [after_settings, after_settings]

theorem reached_enforceGlobal (rows : List (List Token)) (settings : Settings)
    (history : List Call) :
    (reached rows settings history).settings.enforceGlobal = settings.enforceGlobal := by
  have habreast := (start (.ofTokens rows) settings).calls_abreast history
  rw [reached, habreast.enforceGlobal, after_settings]
  rfl

/-- `machine.FileAfter n file`: these are the registers when `n` rows have been executed. -/
def FileAfter (machine : Machine) (n : ℕ) (file : RegisterFile) : Prop :=
  ∃ k, (machine.after k).steps = machine.steps + n ∧ (machine.after k).registers = file

/-- A machine executes `n` rows exactly if it lives that long, and with its first `n` steps. -/
theorem fileAfter_iff {machine : Machine} (hsink : machine.settings.sink ≠ .failing) (n : ℕ)
    (file : RegisterFile) :
    machine.FileAfter n file ↔ n ≤ machine.lifetime ∧ (machine.after n).registers = file := by
  constructor
  · rintro ⟨k, hsteps, hfile⟩
    rcases le_or_gt (k : ℕ∞) machine.lifetime with hle | hlt
    · rw [steps_after hsink hle] at hsteps
      obtain rfl : k = n := by omega
      exact ⟨hle, hfile⟩
    · -- the steps behind the end of the lifetime have added nothing
      obtain ⟨m, hm⟩ := ENat.ne_top_iff_exists.mp (ne_top_of_lt hlt)
      have hmk : m ≤ k := by
        rw [← hm, Nat.cast_lt] at hlt
        exact hlt.le
      have hstate := (((machine.lifetime_le_iff m).mp hm.ge).of_le hmk).1.state
      rw [hstate.steps, steps_after hsink hm.le] at hsteps
      obtain rfl : m = n := by omega
      exact ⟨hm.le, hstate.registers.symm.trans hfile⟩
  · rintro ⟨hle, hfile⟩
    exact ⟨n, steps_after hsink hle, hfile⟩

/-- The machine goes round with this period once it has executed `entry` rows. -/
structure Cycles (machine : Machine) (entry period : ℕ) : Prop where
  executes : ∀ n, (machine.after n).step.outcome = .executed false
  going : ∀ n, (machine.after n).done = false
  counts : ∀ n, (machine.after n).steps = machine.steps + n
  repeats : ∀ n, entry ≤ n →
    (machine.after (n + period)).registers = (machine.after n).registers

section Repetition

variable {machine : Machine} {i j : ℕ}

theorem sameCourse_of_repetition (h : (machine.after i).registers = (machine.after j).registers)
    (k : ℕ) : (machine.after (i + k)).SameCourse (machine.after (j + k)) := by
  rw [after_add, after_add]
  exact (sameCourse_of_registers h).after k

/-- What has not halted before the second occurrence never halts. -/
theorem not_halted_of_repetition (hlt : i < j) (hj : j ≤ machine.lifetime)
    (h : (machine.after i).registers = (machine.after j).registers) (n : ℕ) :
    ¬ (machine.after n).Halted := by
  induction n using Nat.strong_induction_on with
  | h n ih =>
      rcases Nat.lt_or_ge n j with hbefore | hbehind
      · rw [← lt_lifetime_iff]
        exact lt_of_lt_of_le (Nat.cast_lt.mpr hbefore) hj
      · -- one round earlier the machine stood in the same place
        obtain ⟨k, rfl⟩ := Nat.exists_eq_add_of_le hbehind
        rw [← (sameCourse_of_repetition h k).halted_iff]
        exact ih (i + k) (by omega)

theorem cycles_of_repetition (hsink : machine.settings.sink ≠ .failing) (hlt : i < j)
    (hj : j ≤ machine.lifetime)
    (h : (machine.after i).registers = (machine.after j).registers) :
    machine.Cycles i (j - i) := by
  have hrunning := not_halted_of_repetition hlt hj h
  have hgoing : ∀ n, (machine.after n).done = false := by
    intro n
    rw [← Bool.not_eq_true]
    exact fun hdone => hrunning n (.inl hdone)
  refine ⟨?_, hgoing, ?_, ?_⟩
  · intro n
    have hexecutes := executes_of_not_halted (by rwa [after_settings]) (hrunning n)
    rw [hexecutes.outcome, ← after_succ, hgoing]
  · intro n
    exact steps_after hsink ((machine.lt_lifetime_iff n).mpr (hrunning n)).le
  · intro n hn
    obtain ⟨k, rfl⟩ := Nat.exists_eq_add_of_le hn
    have hround : i + k + (j - i) = j + k := by omega
    rw [hround]
    exact (sameCourse_of_repetition h k).registers.symm

end Repetition

/-- Registers that come back make a program endless, as the future of a run depends on
nothing but the registers: whatever was done with two machines for one program, from equal
registers on they execute the same rows. -/
theorem repeated_registers_never_end (rows : List (List Token)) (settings : Settings)
    (hsink : settings.sink ≠ .failing) :
    (∀ i j file, i < j → (start (.ofTokens rows) settings).FileAfter i file →
      (start (.ofTokens rows) settings).FileAfter j file →
        (start (.ofTokens rows) settings).Cycles i (j - i)) ∧
    ∀ history another,
      (reached rows settings history).registers = (reached rows settings another).registers →
        ∀ n, ((reached rows settings history).after n).registers =
            ((reached rows settings another).after n).registers ∧
          (((reached rows settings history).after n).Halted ↔
            ((reached rows settings another).after n).Halted) ∧
          ((reached rows settings history).after n).done =
            ((reached rows settings another).after n).done := by
  constructor
  · intro i j file hlt hearlier hlater
    obtain ⟨_, hi⟩ := (fileAfter_iff hsink i file).mp hearlier
    obtain ⟨hlives, hj⟩ := (fileAfter_iff hsink j file).mp hlater
    exact cycles_of_repetition hsink hlt hlives (hi.trans hj.symm)
  · intro history another hregisters n
    have henforced : (reached rows settings history).settings.enforceGlobal =
        (reached rows settings another).settings.enforceGlobal := by
      rw [reached_enforceGlobal, reached_enforceGlobal]
    have hcourse : (reached rows settings history).SameCourse (reached rows settings another) :=
      ⟨by rw [reached_program, reached_program], henforced, hregisters⟩
    have hlater := hcourse.after n
    exact ⟨hlater.registers, hlater.halted_iff, hlater.done_eq⟩

/-- A label, and a branch that goes back behind it. -/
def roundTrip : List (List Token) :=
  [[⟨.label, "again", 1, 1⟩],
    [⟨.instruction, "beq", 2, 1⟩, ⟨.register, "0", 2, 5⟩, ⟨.comma, "", 2, 7⟩,
      ⟨.register, "0", 2, 9⟩, ⟨.comma, "", 2, 11⟩, ⟨.ident, "again", 2, 13⟩]]

theorem roundTrip_cycles :
    (start (.ofTokens roundTrip) { enforceGlobal := false }).Cycles 1 1 := by
  have hone : (start (.ofTokens roundTrip) { enforceGlobal := false }).FileAfter 1
      (RegisterFile.zero.goto 1) := ⟨1, by decide +kernel, by decide +kernel⟩
  have htwo : (start (.ofTokens roundTrip) { enforceGlobal := false }).FileAfter 2
      (RegisterFile.zero.goto 1) := ⟨2, by decide +kernel, by decide +kernel⟩
  exact (repeated_registers_never_end roundTrip { enforceGlobal := false } (by decide)).1 1 2 _
    (by decide) hone htwo

end Machine

end ToyRisc
