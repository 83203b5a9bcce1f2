/-
How long a machine runs.  A machine has halted where its program is done or its next
step is refused, and from there on steps change and write nothing.  Every step before
that executes a row, so that the lifetime of a machine, which may be infinite, counts
both its steps and its rows.
-/
import Mathlib.Data.ENat.Lattice
import ToyRisc.Proofs.Refusal

namespace ToyRisc

namespace Machine

theorem after_add (machine : Machine) (k n : Nat) :
    machine.after (k + n) = (machine.after k).after n := by
  induction k generalizing machine with
  | zero => rw [Nat.zero_add]; rfl
  | succ k ih =>
      rw [Nat.succ_add]
      exact ih machine.step.machine

theorem after_succ (machine : Machine) (n : Nat) :
    machine.after (n + 1) = (machine.after n).step.machine :=
  machine.after_add n 1

/-- What the first `n` steps write. -/
def transcript (machine : Machine) : Nat → String
  | 0 => ""
  | n + 1 => machine.step.written ++ machine.step.machine.transcript n

theorem transcript_add (machine : Machine) (k n : Nat) :
    machine.transcript (k + n) = machine.transcript k ++ (machine.after k).transcript n := by
  induction k generalizing machine with
  | zero => rw [Nat.zero_add, transcript, String.empty_append]; rfl
  | succ k ih =>
      rw [Nat.succ_add, transcript, ih, transcript, String.append_assoc]
      rfl

theorem transcript_succ (machine : Machine) (n : Nat) :
    machine.transcript (n + 1) = machine.transcript n ++ (machine.after n).step.written := by
  rw [transcript_add, transcript, transcript, String.append_empty]

theorem step_settings (machine : Machine) : machine.step.machine.settings = machine.settings := by
  obtain ⟨log, hstep⟩ := machine.exists_step_eq_conclude
  rw [hstep]
  cases machine.verdict with
  | executed registers place => rw [conclude, emit_machine]
  | _ => rfl

theorem after_settings (machine : Machine) (n : Nat) :
    (machine.after n).settings = machine.settings := by
  induction n with
  | zero => rfl
  | succ n ih => rw [after_succ, step_settings, ih]

/-- The next step executes no row: the program is done, or the row is refused. -/
def Halted (machine : Machine) : Prop :=
  machine.done = true ∨ ∃ fault, machine.step.outcome = .refused fault

theorem step_of_done {machine : Machine} (h : machine.done = true) :
    machine.step = ⟨machine, .finished, "", []⟩ := by
  rw [step, if_pos h]

theorem verdict_eq_finished_iff (machine : Machine) :
    machine.verdict = .finished ↔ machine.done = true := by
  unfold verdict
  split
  · rename_i hdone
    simp [hdone]
  · rename_i hdone
    rw [iff_false_right hdone]
    split
    · simp
    split
    · unfold rowVerdict
      split
      · simp
      · simp
    · simp

theorem step_outcome_finished_iff (machine : Machine) :
    machine.step.outcome = .finished ↔ machine.done = true := by
  rw [← verdict_eq_finished_iff]
  obtain ⟨log, hstep⟩ := machine.exists_step_eq_conclude
  rw [hstep]
  cases machine.verdict with
  | finished => simp [conclude]
  | lost cause => simp [conclude]
  | refused fault place => simp [conclude]
  | executed registers place =>
      simp only [conclude, emit_outcome]
      split
      · simp
      · simp

theorem done_of_executed {machine : Machine} {done : Bool}
    (h : machine.step.outcome = .executed done) : machine.step.machine.done = done := by
  have hran : machine.step.outcome.ran = true := by rw [h]; rfl
  obtain ⟨registers, place, log, _, hstep⟩ := exists_step_eq_emit hran
  rw [hstep, emit_outcome] at h
  rw [hstep, emit_machine]
  split at h
  · cases h
  · exact Outcome.executed.inj h

theorem halted_of_not_ran {machine : Machine} (h : machine.step.outcome.ran = false) :
    machine.Halted := by
  cases houtcome : machine.step.outcome with
  | executed done => simp [houtcome, Outcome.ran] at h
  | unwritten => simp [houtcome, Outcome.ran] at h
  | finished => exact .inl (machine.step_outcome_finished_iff.mp houtcome)
  | refused fault => exact .inr ⟨fault, houtcome⟩

/-- What a step does where it executes a row and its snapshot is taken. -/
structure Executes (machine : Machine) : Prop where
  outcome : machine.step.outcome = .executed machine.step.machine.done
  steps : machine.step.machine.steps = machine.steps + 1

/-- A machine that has not halted executes a row. -/
theorem executes_of_not_halted {machine : Machine} (hsink : machine.settings.sink ≠ .failing)
    (h : ¬ machine.Halted) : machine.Executes := by
  cases hran : machine.step.outcome.ran with
  | false => exact absurd (halted_of_not_ran hran) h
  | true =>
      obtain ⟨registers, place, log, _, hstep⟩ := exists_step_eq_emit hran
      constructor
      · rw [hstep, emit_outcome, emit_machine]
        exact if_neg fun hfails => hsink hfails.1
      · rw [hstep, emit_machine]

/-- The later machine is where the earlier one was, and comes to the same outcome. -/
structure Rests (later earlier : Machine) : Prop where
  state : later.SameState earlier
  outcome : later.step.outcome = earlier.step.outcome
  halted : later.Halted

namespace Halted

theorem step {machine : Machine} (h : machine.Halted) :
    machine.step.machine.Rests machine ∧ machine.step.written = "" := by
  rcases h with hdone | ⟨fault, hrefused⟩
  · rw [step_of_done hdone]
    exact ⟨⟨.refl machine, rfl, .inl hdone⟩, rfl⟩
  · obtain ⟨hstuck, hsame, hsilent⟩ := step_of_refused hrefused
    have hagain := hstuck.step_outcome
    exact ⟨⟨hsame, hagain.trans hrefused.symm, .inr ⟨fault, hagain⟩⟩, hsilent⟩

theorem after {machine : Machine} (h : machine.Halted) (n : Nat) :
    (machine.after n).Rests machine ∧ machine.transcript n = "" := by
  induction n with
  | zero => exact ⟨⟨.refl machine, rfl, h⟩, rfl⟩
  | succ n ih =>
      obtain ⟨hrests, hsilent⟩ := ih
      obtain ⟨hstep, hwritten⟩ := hrests.halted.step
      rw [after_succ, transcript_succ, hsilent, hwritten]
      exact ⟨⟨hstep.state.trans hrests.state, hstep.outcome.trans hrests.outcome, hstep.halted⟩,
        rfl⟩

/-- Once a machine has halted, it stays as it is. -/
theorem of_le {machine : Machine} {m n : Nat} (h : (machine.after m).Halted) (hle : m ≤ n) :
    (machine.after n).Rests (machine.after m) ∧
      machine.transcript n = machine.transcript m := by
  obtain ⟨k, rfl⟩ := Nat.exists_eq_add_of_le hle
  obtain ⟨hrests, hsilent⟩ := h.after k
  rw [after_add, transcript_add, hsilent, String.append_empty]
  exact ⟨hrests, rfl⟩

end Halted

/-- The least number of steps after which a machine has halted. -/
noncomputable def lifetime (machine : Machine) : ℕ∞ :=
  ⨅ n : { n : ℕ // (machine.after n).Halted }, (n : ℕ∞)

theorem lifetime_le_iff (machine : Machine) (n : ℕ) :
    machine.lifetime ≤ n ↔ (machine.after n).Halted := by
  constructor
  · intro hle
    have hfinite : machine.lifetime ≠ ⊤ := ne_top_of_le_ne_top (ENat.natCast_ne_top n) hle
    have hsome : Nonempty { n : ℕ // (machine.after n).Halted } :=
      ENat.iInf_natCast_ne_top.mp hfinite
    obtain ⟨⟨m, hm⟩, heq⟩ := ENat.exists_eq_iInf
      fun n : { n : ℕ // (machine.after n).Halted } => (n : ℕ∞)
    rw [lifetime, ← heq, Nat.cast_le] at hle
    exact (hm.of_le hle).1.halted
  · intro h
    exact iInf_le (fun n : { n : ℕ // (machine.after n).Halted } => (n : ℕ∞)) ⟨n, h⟩

theorem lt_lifetime_iff (machine : Machine) (n : ℕ) :
    n < machine.lifetime ↔ ¬ (machine.after n).Halted := by
  rw [← lifetime_le_iff, not_le]

theorem lifetime_eq_iff (machine : Machine) (n : ℕ) :
    machine.lifetime = n ↔ (machine.after n).Halted ∧ ∀ m < n, ¬ (machine.after m).Halted := by
  constructor
  · intro h
    refine ⟨(machine.lifetime_le_iff n).mp h.le, ?_⟩
    intro m hm
    rw [← lt_lifetime_iff, h]
    exact Nat.cast_lt.mpr hm
  · rintro ⟨hhalted, hbefore⟩
    apply le_antisymm ((machine.lifetime_le_iff n).mpr hhalted)
    by_contra hlt
    obtain ⟨m, hm⟩ := ENat.ne_top_iff_exists.mp (ne_top_of_lt (not_le.mp hlt))
    rw [← hm, not_le, Nat.cast_lt] at hlt
    exact hbefore m hlt ((machine.lifetime_le_iff m).mp hm.ge)

/-- Up to the end of its lifetime, a machine executes a row with every step. -/
theorem steps_after {machine : Machine} (hsink : machine.settings.sink ≠ .failing) {n : ℕ}
    (hn : n ≤ machine.lifetime) : (machine.after n).steps = machine.steps + n := by
  induction n with
  | zero => rfl
  | succ n ih =>
      have hlt : n < machine.lifetime :=
        lt_of_lt_of_le (Nat.cast_lt.mpr (Nat.lt_succ_self n)) hn
      have hexecutes : (machine.after n).Executes :=
        executes_of_not_halted (by rwa [after_settings]) ((machine.lt_lifetime_iff n).mp hlt)
      rw [after_succ, hexecutes.steps, ih hlt.le, Nat.add_assoc]

end Machine

end ToyRisc
