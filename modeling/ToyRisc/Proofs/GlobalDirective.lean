/-
The directive that names the start of the program.  Whether it has to stand in row 0
makes no difference to a run where it stands there, or where row 0 holds nothing; where
anything else stands there, a machine that asks for it never executes a row.  So what
has run on such a machine began at the label that row 0 names.
-/
import ToyRisc.Proofs.Halting
import ToyRisc.Proofs.Invariants
import ToyRisc.Proofs.Labels

namespace ToyRisc

/-- The first token of a program: the first one in row 0 that is no mark. -/
def programOpening? (rows : List (List Token)) : Option Token := rows.head?.bind opening?

/-- Whether a token is the directive that names the start. -/
def Token.IsGlobal (token : Token) : Prop :=
  token.kind = .directive ∧ token.literal = Directive.global.name

instance (token : Token) : Decidable token.IsGlobal :=
  inferInstanceAs (Decidable (_ ∧ _))

/-- Where row 0 opens with the directive, asking for it changes nothing. -/
theorem Program.executeGlobal_eq_execute (program : Program) (registers : RegisterFile)
    {first : Token} (row : List Token) (h : first.IsGlobal) :
    program.executeGlobal registers first row = program.execute registers first row := by
  rw [executeGlobal_eq, if_pos ⟨h.1, h.2⟩, execute_eq, h.1]

namespace Machine

/-- The machine with another choice on whether the directive is asked for. -/
def enforce (machine : Machine) (enforced : Bool) : Machine :=
  { machine with settings := { machine.settings with enforceGlobal := enforced } }

end Machine

/-- The step of a machine with another choice. -/
def Step.enforce (step : Step) (enforced : Bool) : Step :=
  { step with machine := step.machine.enforce enforced }

namespace Machine

/-- Row 0 holds nothing, or it opens with the directive. -/
def OpensGlobal (machine : Machine) : Prop :=
  ∀ row first rest, machine.program.rows[0]? = some row → row.body = first :: rest →
    first.IsGlobal

section Enforce

variable {machine : Machine} (enforced : Bool)

theorem execute_of_isGlobal {first : Token} (row : List Token)
    (h : machine.counter = 0 → first.IsGlobal) :
    machine.execute first row = machine.program.execute machine.registers first row := by
  rw [execute_eq]
  split
  · rename_i hzero
    exact machine.program.executeGlobal_eq_execute machine.registers row (h hzero.1)
  · rfl

theorem emit_enforce (machine : Machine) (log : List LogLine) :
    (machine.enforce enforced).emit log = (machine.emit log).enforce enforced := by
  have hsink : (machine.enforce enforced).settings.sink = machine.settings.sink := rfl
  have hsnapshot : (machine.enforce enforced).snapshot = machine.snapshot := rfl
  rw [emit, emit, hsink, hsnapshot]
  cases machine.settings.sink with
  | absent => rfl
  | buffer => rfl
  | failing =>
      simp only
      split
      · rfl
      · rfl

theorem stepRow_enforce {first : Token} (row : List Token)
    (h : machine.counter = 0 → first.IsGlobal) :
    (machine.enforce enforced).stepRow first row =
      (machine.stepRow first row).enforce enforced := by
  have hmachine := execute_of_isGlobal row h
  have henforced : (machine.enforce enforced).execute first row =
      machine.program.execute machine.registers first row :=
    execute_of_isGlobal row h
  rw [stepRow_eq_conclude, stepRow_eq_conclude, rowVerdict, rowVerdict, hmachine, henforced]
  cases machine.program.execute machine.registers first row with
  | error fault => rfl
  | ok registers =>
      exact emit_enforce enforced { machine with
        registers := registers, steps := machine.steps + 1, last := first.position } _

/-- A step is the same with the directive asked for and without. -/
theorem step_enforce (h : machine.OpensGlobal) :
    (machine.enforce enforced).step = machine.step.enforce enforced := by
  have hdone : (machine.enforce enforced).done = machine.done := rfl
  have hcounter : (machine.enforce enforced).counter = machine.counter := rfl
  have hprogram : (machine.enforce enforced).program = machine.program := rfl
  rw [step, step, hdone, hcounter, hprogram]
  split
  · rfl
  split
  · rfl
  cases hrow : machine.program.rows[machine.counter.toNat]? with
  | none => rfl
  | some row =>
      obtain ⟨indented, body⟩ := row
      cases body with
      | nil => rfl
      | cons first rest =>
          apply stepRow_enforce
          intro hzero
          rw [hzero] at hrow
          exact h _ first rest hrow rfl

theorem OpensGlobal.after (h : machine.OpensGlobal) (n : Nat) :
    (machine.after n).OpensGlobal := by
  induction n with
  | zero => exact h
  | succ n ih =>
      rw [after_succ, OpensGlobal, step_program]
      exact ih

theorem after_enforce (h : machine.OpensGlobal) (n : Nat) :
    (machine.enforce enforced).after n = (machine.after n).enforce enforced := by
  induction n with
  | zero => rfl
  | succ n ih =>
      rw [after_succ, ih, step_enforce enforced (h.after n), after_succ]
      rfl

end Enforce

theorem start_opensGlobal {rows : List (List Token)} (settings : Settings)
    (h : ∀ first, programOpening? rows = some first → first.IsGlobal) :
    (start (.ofTokens rows) settings).OpensGlobal := by
  intro row first rest hrow hbody
  apply h
  have hprogram : (start (.ofTokens rows) settings).program = .ofTokens rows := rfl
  rw [hprogram, Program.rows_ofTokens] at hrow
  obtain ⟨tokens, htokens, rfl⟩ := Option.map_eq_some_iff.mp hrow
  rw [programOpening?, List.head?_eq_getElem?, htokens, Option.bind_some, ← head?_body_ofTokens,
    hbody, List.head?_cons]

theorem start_counter (program : Program) (settings : Settings) :
    (start program settings).counter = 0 := by
  have hzero : RegisterFile.zero.counter.toInt = 0 := by decide
  exact hzero

theorem start_execute {program : Program} {settings : Settings}
    (henforced : settings.enforceGlobal = true) (first : Token) (row : List Token) :
    (start program settings).execute first row = program.executeGlobal .zero first row := by
  rw [execute_eq, if_pos ⟨start_counter program settings, henforced⟩]
  rfl

/-- The first step is about row 0. -/
theorem start_verdict {rows : List (List Token)} (settings : Settings) {tokens : List Token}
    (htokens : rows.head? = some tokens) :
    (start (.ofTokens rows) settings).verdict =
      (start (.ofTokens rows) settings).bodyVerdict 0 (Row.ofTokens tokens).body := by
  have hcounter := start_counter (.ofTokens rows) settings
  have hprogram : (start (.ofTokens rows) settings).program = .ofTokens rows := rfl
  rcases (start (.ofTokens rows) settings).verdict_cases with
    ⟨hsize, _⟩ | ⟨hneg, _⟩ | ⟨n, row, hn, hrow, hverdict⟩
  · rw [hcounter, hprogram, Program.size_ofTokens] at hsize
    have hpos : rows ≠ [] := by
      rintro rfl
      cases htokens
    exact absurd (List.length_eq_zero_iff.mp (by omega)) hpos
  · omega
  · obtain rfl : n = 0 := by omega
    rw [hprogram, Program.rows_ofTokens, ← List.head?_eq_getElem?, htokens] at hrow
    cases hrow
    exact hverdict

/-- Where row 0 opens with something else, a machine that asks for the directive is refused
at once. -/
theorem start_refused {rows : List (List Token)} {settings : Settings} {first : Token}
    (henforced : settings.enforceGlobal = true) (hopening : programOpening? rows = some first)
    (h : ¬ first.IsGlobal) :
    (start (.ofTokens rows) settings).step.outcome =
      .refused ⟨.missingGlobal first.kind, first.position⟩ := by
  obtain ⟨tokens, htokens, hfirst⟩ := Option.bind_eq_some_iff.mp hopening
  rw [← head?_body_ofTokens] at hfirst
  obtain ⟨rest, hbody⟩ := List.head?_eq_some_iff.mp hfirst
  have hexecute : (start (.ofTokens rows) settings).execute first (first :: rest) =
      .error ⟨.missingGlobal first.kind, first.position⟩ := by
    rw [start_execute henforced, Program.executeGlobal_eq]
    exact if_neg h
  have hverdict : (start (.ofTokens rows) settings).verdict =
      .refused ⟨.missingGlobal first.kind, first.position⟩ first.position := by
    rw [start_verdict settings htokens, hbody, bodyVerdict, rowVerdict, hexecute]
  obtain ⟨log, hstep⟩ := (start (.ofTokens rows) settings).exists_step_eq_conclude
  rw [hstep, hverdict]
  rfl

end Machine

/-- A directive that is executed stands on line 1 and names a label. -/
theorem LabelTable.directive_eq_ok {labels : LabelTable} {registers moved : RegisterFile}
    {first : Token} {row : List Token} (h : labels.directive registers first row = .ok moved) :
    first.line = 1 ∧ ∃ mark label rest n, row = mark :: label :: rest ∧ label.kind = .ident ∧
      labels.find? label.literal = some n ∧ moved = registers.goto (Int32.ofNat n) := by
  rw [directive_eq] at h
  split at h
  · cases h
  split at h
  · rename_i hline
    refine ⟨hline, ?_⟩
    cases hverify : Pattern.directive.verify row with
    | error fault =>
        rw [hverify] at h
        cases h
    | ok _ =>
        obtain ⟨mark, row₁, rfl, _, hrest⟩ := verifyFrom_cons_eq_ok hverify
        obtain ⟨label, rest, rfl, hlabel, _⟩ := verifyFrom_cons_eq_ok hrest
        rw [hverify] at h
        change labels.jump registers label = .ok moved at h
        rw [jump_eq] at h
        split at h
        · rename_i n hfind
          cases h
          exact ⟨mark, label, rest, n, rfl, (accepts_singleton_iff _ _).mp hlabel, hfind, rfl⟩
        · cases h
  · cases h

/-- What the directive does where it has to stand. -/
theorem Program.executeGlobal_eq_ok {program : Program} {registers changed : RegisterFile}
    {first : Token} {row : List Token}
    (h : program.executeGlobal registers first row = .ok changed) :
    first.IsGlobal ∧ ∃ moved, program.labels.directive registers first row = .ok moved ∧
      changed = moved.advance := by
  rw [executeGlobal_eq] at h
  split at h
  · rename_i hglobal
    refine ⟨hglobal, ?_⟩
    cases hdirective : program.labels.directive registers first row with
    | error fault =>
        rw [hdirective] at h
        cases h
    | ok moved =>
        rw [hdirective] at h
        cases h
        exact ⟨moved, rfl, rfl⟩
  · cases h

theorem toInt_ofNat_add_one {n : Nat} (h : n + 1 < 2 ^ 31) :
    (Int32.ofNat n + 1).toInt = n + 1 := by
  rw [Int32.toInt_add, Int32.toInt_ofNat_of_lt (by omega)]
  exact Int.bmod_eq_of_le (by simp; omega) (by simp; omega)

/-- `NamesStart rows label n`: row 0 is the directive, on line 1, with the label behind it,
and the label stands for row `n`.  What else the row holds is not looked at. -/
structure NamesStart (rows : List (List Token)) (label : Token) (n : Nat) : Prop where
  row : ∃ tokens first rest, rows.head? = some tokens ∧
    (Row.ofTokens tokens).body = first :: label :: rest ∧ first.IsGlobal ∧ first.line = 1
  kind : label.kind = .ident
  declared : DeclaredLast (rows.map Row.ofTokens) label.literal n

/-- Two steps with the same results, which leave the same state. -/
structure Step.Agrees (left right : Step) : Prop where
  outcome : left.outcome = right.outcome
  written : left.written = right.written
  log : left.log = right.log
  state : left.machine.SameState right.machine

theorem Step.enforce_agrees (step : Step) (enforced : Bool) : (step.enforce enforced).Agrees step :=
  ⟨rfl, rfl, rfl, ⟨rfl, rfl, rfl, rfl⟩⟩

namespace Machine

/-- Where any row is executed, the first step executes one. -/
theorem ran_of_ran_after {machine : Machine} {n : Nat}
    (h : (machine.after n).step.outcome.ran = true) : machine.step.outcome.ran = true := by
  by_contra hran
  have hhalted : machine.Halted := halted_of_not_ran (Bool.eq_false_of_not_eq_true hran)
  rw [(hhalted.after n).1.outcome] at h
  exact hran h

/-- A machine that asks for the directive executes it first. -/
theorem namesStart_of_ran {rows : List (List Token)} {settings : Settings}
    (hrows : rows.length < 2 ^ 31) (henforced : settings.enforceGlobal = true)
    (h : (start (.ofTokens rows) settings).step.outcome.ran = true) :
    ∃ label n, NamesStart rows label n ∧
      (start (.ofTokens rows) settings).step.machine.counter = n + 1 := by
  obtain ⟨registers, place, log, hverdict, hstep⟩ := exists_step_eq_emit h
  obtain ⟨index, row, first, rest, hindex, hrow, hbody, hrowVerdict⟩ :=
    (start (.ofTokens rows) settings).exists_row_of_verdict (by simp [hverdict])
      (by simp [hverdict])
  obtain rfl : index = 0 := by
    rw [start_counter] at hindex
    omega
  have hprogram : (start (.ofTokens rows) settings).program = .ofTokens rows := rfl
  rw [hprogram, Program.rows_ofTokens, ← List.head?_eq_getElem?] at hrow
  obtain ⟨tokens, htokens, rfl⟩ := Option.map_eq_some_iff.mp hrow
  have hexecute : (Program.ofTokens rows).executeGlobal .zero first (first :: rest) =
      .ok registers := by
    rw [← start_execute henforced]
    exact execute_of_rowVerdict_executed (hrowVerdict.symm.trans hverdict)
  obtain ⟨hglobal, moved, hdirective, rfl⟩ := Program.executeGlobal_eq_ok hexecute
  obtain ⟨hline, mark, label, more, n, hsplit, hlabel, hfind, rfl⟩ :=
    LabelTable.directive_eq_ok hdirective
  obtain ⟨rfl, rfl⟩ := List.cons.inj hsplit
  have hn : n < rows.length := Program.lt_size_of_find? rows hfind
  refine ⟨label, n, ⟨⟨tokens, first, more, htokens, hbody, hglobal, hline⟩, hlabel,
    (Program.find?_labels_iff rows label.literal n).mp hfind⟩, ?_⟩
  rw [hstep, emit_machine, counter, RegisterFile.counter_advance, RegisterFile.counter_goto]
  exact toInt_ofNat_add_one (by omega)

/-- The machine at the start of a program that asks for the directive, or does not. -/
def asking (rows : List (List Token)) (settings : Settings) (enforced : Bool) : Machine :=
  start (.ofTokens rows) { settings with enforceGlobal := enforced }

/-- What a machine reports that finds something else in place of the directive: the token
it finds, with nothing done and nothing counted. -/
structure Misses (machine : Machine) (first : Token) : Prop where
  outcome : machine.step.outcome = .refused ⟨.missingGlobal first.kind, first.position⟩
  registers : machine.registers = .zero ∧ machine.step.machine.registers = .zero
  steps : machine.steps = 0 ∧ machine.step.machine.steps = 0

theorem asking_agrees {rows : List (List Token)} (settings : Settings)
    (h : ∀ first, programOpening? rows = some first → first.IsGlobal) (k : Nat) :
    ((asking rows settings true).after k).step.Agrees
      ((asking rows settings false).after k).step := by
  have hopens : (asking rows settings false).OpensGlobal := start_opensGlobal _ h
  have henforce : asking rows settings true = (asking rows settings false).enforce true := rfl
  rw [henforce, after_enforce true hopens, step_enforce true (hopens.after k)]
  exact Step.enforce_agrees _ true

theorem asking_misses {rows : List (List Token)} (settings : Settings) {first : Token}
    (hopening : programOpening? rows = some first) (h : ¬ first.IsGlobal) (k : Nat) :
    ((asking rows settings true).after k).Misses first := by
  have hrefused : (asking rows settings true).step.outcome =
      .refused ⟨.missingGlobal first.kind, first.position⟩ := start_refused rfl hopening h
  have hhalted : (asking rows settings true).Halted := .inr ⟨_, hrefused⟩
  have hrests := (hhalted.after k).1
  have hnext := (hhalted.after (k + 1)).1
  rw [after_succ] at hnext
  exact ⟨hrests.outcome.trans hrefused, ⟨hrests.state.registers, hnext.state.registers⟩,
    ⟨hrests.state.steps, hnext.state.steps⟩⟩

/-- Asking for the directive changes nothing but what happens where it is missing.  What is
executed on a machine that asks for it begins behind the label that the directive names. -/
theorem asking_changes_only_missing (rows : List (List Token)) (settings : Settings)
    (hrows : rows.length < 2 ^ 31) :
    ((∀ first, programOpening? rows = some first → first.IsGlobal) →
      ∀ k, ((asking rows settings true).after k).step.Agrees
        ((asking rows settings false).after k).step) ∧
    (∀ first, programOpening? rows = some first → ¬ first.IsGlobal →
      ∀ k, ((asking rows settings true).after k).Misses first) ∧
    ∀ k, ((asking rows settings true).after k).step.outcome.ran = true →
      (asking rows settings true).step.outcome.ran = true ∧
      ∃ label n, NamesStart rows label n ∧
        (asking rows settings true).step.machine.counter = n + 1 := by
  refine ⟨asking_agrees settings, fun first => asking_misses settings, ?_⟩
  intro k hran
  have hfirst := ran_of_ran_after hran
  exact ⟨hfirst, namesStart_of_ran hrows rfl hfirst⟩

/-- The directive, with a mark in front of it and its label in row 1. -/
def namedStart : List (List Token) :=
  [[⟨.tab, "", 1, 1⟩, ⟨.directive, "global", 1, 5⟩, ⟨.ident, "main", 1, 13⟩],
    [⟨.label, "main", 2, 1⟩], [⟨.nop, "", 3, 1⟩]]

/-- A row is executed with and without the directive being asked for; without its first row,
the same program is refused. -/
theorem namedStart_begins_at_label :
    ((asking namedStart {} true).after 1).step.outcome = .executed true ∧
      ((asking namedStart {} false).after 1).step.outcome = .executed true ∧
      (∃ label n, NamesStart namedStart label n ∧
        (asking namedStart {} true).step.machine.counter = n + 1) ∧
      ((asking (namedStart.drop 1) {} true).after 7).step.outcome =
        .refused ⟨.missingGlobal .label, ⟨2, 1⟩⟩ := by
  obtain ⟨hagrees, _, hbegins⟩ := asking_changes_only_missing namedStart {} (by decide)
  obtain ⟨_, hmisses, _⟩ := asking_changes_only_missing (namedStart.drop 1) {} (by decide)
  have hopening : ∀ first, programOpening? namedStart = some first → first.IsGlobal := by
    intro first hfirst
    cases hfirst
    decide
  have hexecuted : ((asking namedStart {} true).after 1).step.outcome = .executed true := by
    decide +kernel
  refine ⟨hexecuted, (hagrees hopening 1).outcome.symm.trans hexecuted,
    (hbegins 1 (by rw [hexecuted]; rfl)).2, ?_⟩
  exact (hmisses ⟨.label, "main", 2, 1⟩ rfl (by decide) 7).outcome

end Machine

end ToyRisc
