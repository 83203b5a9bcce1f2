/-
Programs that only go forward.  Where no instruction computes the program counter and no
branch names a label above it, the program counter increases with every row that is executed:
labels skip rows, offsets are not negative, and a directive is accepted on the first line
only, where no row lies behind it.  So the run ends before it has executed more rows than
there are.
-/
import ToyRisc.Proofs.ExactEffects
import ToyRisc.Proofs.Runs

namespace ToyRisc

namespace Run

theorem advance_of_going {run : Run} (h : run.ending = none) :
    run.advance = run.extend run.machine.step (endingOf run.machine.step.outcome) := by
  rw [advance, h]

theorem ran_of_endingOf {outcome : Outcome} (h : endingOf outcome = none) :
    outcome.ran = true := by
  cases outcome with
  | executed done => rfl
  | finished => cases h
  | refused fault => cases h
  | unwritten => cases h

/-- The program has come to its end, or something has gone wrong. -/
def DoneOrFailed (machine : Machine) (ending : Ending) : Prop :=
  (ending = .completed ∧ machine.done = true) ∨ (∃ fault, ending = .refused fault) ∨
    ending = .unwritten

theorem doneOrFailed_of_step {machine : Machine} {ending : Ending}
    (h : endingOf machine.step.outcome = some ending) :
    DoneOrFailed machine.step.machine ending := by
  cases houtcome : machine.step.outcome with
  | executed done =>
      rw [houtcome] at h
      cases done with
      | false => cases h
      | true =>
          cases h
          exact .inl ⟨rfl, Machine.done_of_executed houtcome⟩
  | finished =>
      have hdone := machine.step_outcome_finished_iff.mp houtcome
      rw [houtcome] at h
      cases h
      rw [Machine.step_of_done hdone]
      exact .inl ⟨rfl, hdone⟩
  | refused fault =>
      rw [houtcome] at h
      cases h
      exact .inr (.inl ⟨fault, rfl⟩)
  | unwritten =>
      rw [houtcome] at h
      cases h
      exact .inr (.inr rfl)

theorem doneOrFailed_of_proceed (machine : Machine) (n : Nat) {ending : Ending}
    (h : ((start machine).proceed n).ending = some ending) :
    DoneOrFailed ((start machine).proceed n).machine ending := by
  induction n with
  | zero =>
      obtain ⟨hdone, hending⟩ := Option.ite_none_right_eq_some.mp h
      cases hending
      exact .inl ⟨rfl, hdone⟩
  | succ n ih =>
      rw [proceed_succ] at h ⊢
      by_cases hgoing : ((start machine).proceed n).ending = none
      · rw [advance_of_going hgoing] at h ⊢
        exact doneOrFailed_of_step h
      · obtain ⟨found, hfound⟩ := Option.ne_none_iff_exists'.mp hgoing
        rw [advance, hfound] at h ⊢
        exact ih h

/-- As long as a run has no ending, its steps execute rows. -/
theorem steps_of_going {run : Run} {n : Nat} (h : (run.proceed n).ending = none) :
    (run.proceed n).machine.steps = run.machine.steps + n := by
  induction n with
  | zero => rfl
  | succ n ih =>
      rw [proceed_succ] at h ⊢
      by_cases hgoing : (run.proceed n).ending = none
      · rw [advance_of_going hgoing] at h ⊢
        have hran := ran_of_endingOf h
        have hsteps := (run.proceed n).machine.step_stepsTo.steps
        rw [hran, if_pos rfl, ih hgoing] at hsteps
        exact hsteps
      · obtain ⟨found, hfound⟩ := Option.ne_none_iff_exists'.mp hgoing
        rw [advance, hfound] at h
        exact absurd h hgoing

end Run

/-- `instruction.GoesForward labels i`: as row `i`, the instruction does not name a label above
it if it is a branch, and does not compute the program counter if it is not. -/
def Instruction.GoesForward (labels : LabelTable) (i : Nat) (instruction : Instruction) : Prop :=
  (instruction.opcode.format = .branch → instruction.operands.third.kind = .ident →
      ∀ m ∈ labels.find? instruction.operands.third.literal, i ≤ m) ∧
    (instruction.opcode.format ≠ .branch →
      instruction.operands.first.number? ≠ some (pcIndex : Int))

instance (labels : LabelTable) (i : Nat) (instruction : Instruction) :
    Decidable (instruction.GoesForward labels i) :=
  inferInstanceAs (Decidable (_ ∧ _))

/-- Rows of which every instruction goes forward. -/
def ForwardOnly (rows : List (List Token)) : Prop :=
  ∀ (i : Nat) (h : i < rows.length),
    ∀ instruction ∈ Instruction.ofRow? (Row.ofTokens rows[i]).body,
      instruction.GoesForward (Program.ofTokens rows).labels i

instance (rows : List (List Token)) : Decidable (ForwardOnly rows) :=
  inferInstanceAs (Decidable (∀ (i : Nat) (_ : i < rows.length), _))

namespace Machine

section Forward

variable {machine : Machine} {rows : List (List Token)} {tokens : List Token} {first : Token}
  {rest : List Token}

theorem Faces.goesForward (hfaces : machine.Faces rows tokens first rest)
    (hforward : ForwardOnly rows) {instruction : Instruction}
    (hrow : Instruction.ofRow? (first :: rest) = some instruction) :
    instruction.GoesForward (Program.ofTokens rows).labels machine.counter.toNat := by
  obtain ⟨hlt, htokens⟩ := List.getElem?_eq_some_iff.mp hfaces.row
  apply hforward machine.counter.toNat hlt
  rw [htokens, hfaces.body]
  exact hrow

theorem Faces.not_computes (hfaces : machine.Faces rows tokens first rest)
    (hforward : ForwardOnly rows) (value : Int32) :
    ¬ machine.registers.Computes (first :: rest) pcIndex value := by
  intro hcomputes
  generalize htarget : (pcIndex : Int) = target at hcomputes
  rcases hcomputes with ⟨hrow, hformat, _, _, hindex⟩
  have hnumber := (Token.index?_eq_some_iff.mp hindex).1
  rw [← htarget] at hnumber
  exact (hfaces.goesForward hforward hrow).2 hformat hnumber

/-- Labels that a row jumps to are not above it. -/
theorem Faces.le_of_jumpsTo (hfaces : machine.Faces rows tokens first rest)
    (hforward : ForwardOnly rows) (hdirective : first.line = 1 → machine.counter = 0) {m : Nat}
    (h : (Program.ofTokens rows).JumpsTo machine.registers first (first :: rest) m) :
    machine.counter ≤ m := by
  rcases h with ⟨hline, _, _⟩ | ⟨htaken, hkind, hfind⟩
  · have hzero := hdirective hline
    omega
  · generalize true = taken at htaken
    rcases htaken with ⟨hrow, hformat, _, _⟩
    have hle := (hfaces.goesForward hforward hrow).1 hformat hkind m hfind
    omega

/-- With every row that is executed the program counter increases. -/
theorem Faces.counter_lt (hfaces : machine.Faces rows tokens first rest)
    (hprogram : machine.program = .ofTokens rows) (hrows : rows.length < 2 ^ 30)
    (hran : machine.step.outcome.ran = true) (hunsigned : Unsigned tokens)
    (hdirective : first.line = 1 → machine.counter = 0) (hforward : ForwardOnly rows) :
    machine.counter < machine.step.machine.counter := by
  have hcomputes := hfaces.not_computes hforward
  have heffect := hfaces.effect_unwrapped hprogram hrows hran hunsigned hcomputes
  rcases heffect.onward_or_jumps (hfaces.unsigned hunsigned) hcomputes with
    honward | ⟨m, hjumps, hcounter⟩
  · exact honward
  · have hnext : machine.step.machine.counter = m + 1 := hcounter
    have hle := hfaces.le_of_jumpsTo hforward hdirective hjumps
    omega

end Forward

section Loaded

variable {settings : LoadSettings} {text : Text} {machine : Machine} {rows : List (List Token)}

/-- In a loaded program a directive can only be executed where no row lies behind it. -/
theorem counter_lt_of_ran (hload : (Source.load settings text).rows = rows)
    (hrows : rows.length < 2 ^ 30) (hforward : ForwardOnly rows)
    (hprogram : machine.program = .ofTokens rows) (hran : machine.step.outcome.ran = true) :
    machine.counter < rows.length ∧ machine.counter < machine.step.machine.counter := by
  obtain ⟨tokens, first, rest, hfaces, _⟩ := step_effect hprogram (by omega) hran
  subst hload
  have hlexed := Source.lexed_of_mem_load (List.mem_of_getElem? hfaces.row)
  refine ⟨hfaces.lt_length, ?_⟩
  apply hfaces.counter_lt hprogram hrows hran hlexed.unsigned _ hforward
  intro hline
  have hfirst : first ∈ tokens := mem_of_mem_body (hfaces.body ▸ List.mem_cons_self)
  have hzero := Source.eq_zero_of_line_eq_one hfaces.row hfirst hline
  have hnonneg := hfaces.nonneg
  omega

/-- A machine that has executed no more rows than the program counter has passed. -/
structure OnTime (rows : List (List Token)) (machine : Machine) : Prop where
  program : machine.program = .ofTokens rows
  passed : machine.steps ≤ machine.counter
  inside : machine.steps ≤ rows.length

theorem OnTime.step (hload : (Source.load settings text).rows = rows)
    (hrows : rows.length < 2 ^ 30) (hforward : ForwardOnly rows) (h : machine.OnTime rows) :
    machine.step.machine.OnTime rows := by
  have hsteps := machine.step_stepsTo.steps
  have hprogram := machine.step_program.trans h.program
  have hpassed := h.passed
  have hinside := h.inside
  by_cases hran : machine.step.outcome.ran = true
  · obtain ⟨hlt, hincreases⟩ := counter_lt_of_ran hload hrows hforward h.program hran
    rw [hran, if_pos rfl] at hsteps
    exact ⟨hprogram, by omega, by omega⟩
  · have hsame := (halted_of_not_ran (Bool.eq_false_of_not_eq_true hran)).step.1.state
    refine ⟨hprogram, ?_, ?_⟩
    · rw [counter, hsame.registers, hsame.steps]
      exact hpassed
    · rw [hsame.steps]
      exact hinside

end Loaded

/-- Programs that only go forward come to an end.  A run of one executes no more rows than
there are before it is done or something goes wrong, and the program counter increases with
every row that is executed. -/
theorem forward_program_ends (settings : LoadSettings) (text : Text) (options : Settings)
    {rows : List (List Token)} (hload : (Source.load settings text).rows = rows)
    (hrows : rows.length < 2 ^ 30) (hforward : ForwardOnly rows) :
    (Run.start (start (.ofTokens rows) options)).EndsAs (fun final ending =>
      final.machine.steps ≤ rows.length ∧ Run.DoneOrFailed final.machine ending) ∧
    ∀ history, (reached rows options history).step.outcome.ran = true →
      (reached rows options history).counter <
        (reached rows options history).step.machine.counter := by
  constructor
  · have hontime : ∀ n, ((Run.start (start (.ofTokens rows) options)).proceed n).machine.OnTime
        rows := by
      apply Run.proceed_invariant
      · intro machine h
        exact h.step hload hrows hforward
      · refine ⟨rfl, ?_, Nat.zero_le _⟩
        change ((0 : Nat) : Int) ≤ (start (.ofTokens rows) options).counter
        rw [start_counter]
        rfl
    have hends : ((Run.start (start (.ofTokens rows) options)).proceed (rows.length + 1)).ending ≠
        none := by
      intro hgoing
      have hsteps := Run.steps_of_going hgoing
      have hinside := (hontime (rows.length + 1)).inside
      omega
    obtain ⟨ending, hending⟩ := Option.ne_none_iff_exists'.mp hends
    have hfinal : (Run.start (start (.ofTokens rows) options)).Ends _ ending :=
      ⟨hending, rows.length + 1, rfl⟩
    exact hfinal.as ⟨(hontime _).inside, Run.doneOrFailed_of_proceed _ _ hending⟩
  · intro history hran
    exact (counter_lt_of_ran hload hrows hforward (reached_program rows options history) hran).2

/-- A program that names its start and branches over a row. -/
def downhill : Text := .ofString ".global main\nmain:\nbeq zero, zero, on\nNOP\non:"

/-- Its rows. -/
def downhillRows : List (List Token) :=
  [[⟨.directive, "global", 1, 1⟩, ⟨.ident, "main", 1, 9⟩], [⟨.label, "main", 2, 1⟩],
    [⟨.instruction, "beq", 3, 1⟩, ⟨.register, "0", 3, 5⟩, ⟨.comma, "", 3, 9⟩,
      ⟨.register, "0", 3, 11⟩, ⟨.comma, "", 3, 15⟩, ⟨.ident, "on", 3, 17⟩],
    [⟨.nop, "", 4, 1⟩], [⟨.label, "on", 5, 1⟩]]

/-- The directive and the branch are executed, and the run has ended. -/
theorem downhill_ends :
    (Source.load {} downhill).rows = downhillRows ∧
      (Run.start (start (.ofTokens downhillRows) {})).EndsAs
        (fun final ending => final.machine.steps ≤ 5 ∧ Run.DoneOrFailed final.machine ending) ∧
      (reached downhillRows {} [.step]).counter <
        (reached downhillRows {} [.step]).step.machine.counter := by
  have hload : (Source.load {} downhill).rows = downhillRows := by decide +kernel
  obtain ⟨hends, hincreases⟩ :=
    forward_program_ends {} downhill {} hload (by decide) (by decide +kernel)
  exact ⟨hload, hends, hincreases [.step] (by decide +kernel)⟩

end Machine

end ToyRisc
