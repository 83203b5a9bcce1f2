/-
How the program counter gets in front of the program.  Of all rows only an arithmetic
instruction can take it there, by a result for the program counter itself that is negative, or
so large that the step behind it wraps.  There it stays: every further step is refused, with
the program counter and the place of that instruction.
-/
import ToyRisc.Proofs.ExactEffects

namespace ToyRisc

theorem wrapped_add_one_neg_iff (value : Int32) :
    wrapped (value.toInt + 1) < 0 ↔ value.toInt ≤ -2 ∨ value.toInt = 2147483647 := by
  have hlow := value.le_toInt
  have hhigh := value.toInt_lt
  by_cases hlast : value.toInt = 2147483647
  · rw [hlast]
    decide
  · rw [wrapped_of_fits (by omega) (by omega)]
    omega

theorem LabelTable.InstructionEffect.counter_of_computes {wrap : Int → Int}
    {labels : LabelTable} {registers changed : RegisterFile} {row : List Token} {value : Int32}
    (h : labels.InstructionEffect wrap registers row changed)
    (hcomputes : registers.Computes row pcIndex value) :
    changed.counter.toInt = wrap (value.toInt + 1) := by
  rcases h with ⟨hresult, htarget, _, _, _⟩ | ⟨hresult, hsent⟩ | ⟨hbranches, _⟩ |
    ⟨hbranches, _, _, _⟩ | ⟨hbranches, _, _, _, _⟩
  · exact absurd (hresult.unique hcomputes).1 htarget
  · obtain rfl := (hresult.unique hcomputes).2
    exact hsent.counter
  · exact absurd hbranches hcomputes.not_branches
  · exact absurd hbranches hcomputes.not_branches
  · exact absurd hbranches hcomputes.not_branches

namespace Machine

/-- `machine.SetsCounter rows first value`: the row under the program counter opens with
`first`, and it is an arithmetic instruction with this result for the program counter. -/
def SetsCounter (machine : Machine) (rows : List (List Token)) (first : Token) (value : Int32) :
    Prop :=
  ∃ tokens rest, machine.Faces rows tokens first rest ∧
    machine.registers.Computes (first :: rest) pcIndex value

/-- The machine as it was before the last row that was executed in the course of some calls. -/
def beforeLast? (machine : Machine) : List Call → Option Machine
  | [] => none
  | made :: history =>
      ((machine.call made).beforeLast? history).or
        (if made = .step ∧ machine.step.outcome.ran = true then some machine else none)

section Histories

variable {machine earlier : Machine} {history : List Call}

theorem call_registers {made : Call}
    (h : ¬ (made = .step ∧ machine.step.outcome.ran = true)) :
    (machine.call made).registers = machine.registers := by
  cases made with
  | adjust verbose sink => rfl
  | step =>
      have hran : machine.step.outcome.ran = false := by simpa using h
      exact (halted_of_not_ran hran).step.1.state.registers

theorem calls_registers (h : machine.beforeLast? history = none) :
    (machine.calls history).registers = machine.registers := by
  induction history generalizing machine with
  | nil => rfl
  | cons made history ih =>
      rw [beforeLast?, Option.or_eq_none_iff] at h
      have hidle : ¬ (made = .step ∧ machine.step.outcome.ran = true) := by simpa using h.2
      rw [calls, ih h.1, call_registers hidle]

/-- Before the last row come some calls, and behind it calls that execute nothing. -/
theorem calls_of_beforeLast? (h : machine.beforeLast? history = some earlier) :
    ∃ front back, machine.calls front = earlier ∧ earlier.step.outcome.ran = true ∧
      machine.calls history = earlier.step.machine.calls back ∧
      earlier.step.machine.beforeLast? back = none := by
  induction history generalizing machine with
  | nil => cases h
  | cons made history ih =>
      rw [beforeLast?, Option.or_eq_some_iff] at h
      rcases h with hlater | ⟨hlater, hhere⟩
      · obtain ⟨front, back, hfront, hran, hback, hidle⟩ := ih hlater
        exact ⟨made :: front, back, hfront, hran, hback, hidle⟩
      · obtain ⟨⟨rfl, hran⟩, hmachine⟩ := Option.ite_none_right_eq_some.mp hhere
        cases hmachine
        exact ⟨[], history, rfl, hran, rfl, hlater⟩

end Histories

section Steps

variable {machine : Machine} {rows : List (List Token)}

theorem SetsCounter.counter_of_ran {first : Token} {value : Int32}
    (h : machine.SetsCounter rows first value) (hprogram : machine.program = .ofTokens rows)
    (hrows : rows.length < 2 ^ 30) (hran : machine.step.outcome.ran = true) :
    machine.step.machine.counter = wrapped (value.toInt + 1) ∧
      machine.step.machine.last = first.position := by
  obtain ⟨tokens, rest, hfaces, hcomputes⟩ := h
  obtain ⟨heffect, hlast⟩ := hfaces.effect hprogram hrows hran
  exact ⟨(heffect.of_instruction hcomputes.first_kind).counter_of_computes hcomputes, hlast⟩

/-- What every other row does to the program counter. -/
theorem counter_of_not_computes {tokens : List Token} {first : Token} {rest : List Token}
    (hprogram : machine.program = .ofTokens rows) (hrows : rows.length < 2 ^ 30)
    (hunsigned : ∀ tokens ∈ rows, Unsigned tokens) (hran : machine.step.outcome.ran = true)
    (hfaces : machine.Faces rows tokens first rest)
    (hcomputes : ∀ value, ¬ machine.registers.Computes (first :: rest) pcIndex value) :
    (Program.ofTokens rows).RowEffect id machine.registers first (first :: rest)
        machine.step.machine.registers ∧
      1 ≤ machine.step.machine.counter := by
  have hrow := hunsigned tokens (List.mem_of_getElem? hfaces.row)
  have hexact := hfaces.effect_unwrapped hprogram hrows hran hrow hcomputes
  have hnonneg : 0 ≤ machine.registers.counter.toInt := hfaces.nonneg
  refine ⟨hexact, ?_⟩
  rw [counter]
  rcases hexact.onward_or_jumps (hfaces.unsigned hrow) hcomputes with honward | ⟨m, _, hcounter⟩
  · omega
  · omega

theorem step_counter_neg_iff (hprogram : machine.program = .ofTokens rows)
    (hrows : rows.length < 2 ^ 30) (hunsigned : ∀ tokens ∈ rows, Unsigned tokens)
    (hran : machine.step.outcome.ran = true) :
    machine.step.machine.counter < 0 ↔ ∃ first value, machine.SetsCounter rows first value ∧
      (value.toInt ≤ -2 ∨ value.toInt = 2147483647) := by
  constructor
  · intro hneg
    obtain ⟨tokens, first, rest, hfaces, heffect, _⟩ := step_effect hprogram (by omega) hran
    by_cases hcomputes : ∃ value, machine.registers.Computes (first :: rest) pcIndex value
    · obtain ⟨value, hvalue⟩ := hcomputes
      refine ⟨first, value, ⟨tokens, rest, hfaces, hvalue⟩, ?_⟩
      have hcounter := (heffect.of_instruction hvalue.first_kind).counter_of_computes hvalue
      rw [← wrapped_add_one_neg_iff, ← hcounter]
      exact hneg
    · have hpos := (counter_of_not_computes hprogram hrows hunsigned hran hfaces
        (not_exists.mp hcomputes)).2
      omega
  · rintro ⟨first, value, hsets, hvalue⟩
    rw [(hsets.counter_of_ran hprogram hrows hran).1]
    exact (wrapped_add_one_neg_iff value).mpr hvalue

/-- In front of the program no step finds a row. -/
theorem stuckAt_of_counter_neg (h : machine.counter < 0) :
    machine.StuckAt ⟨.counterOutside machine.counter, machine.last⟩ := by
  rcases machine.verdict_cases with ⟨hsize, _⟩ | ⟨_, hverdict⟩ | ⟨n, _, hn, _, _⟩
  · omega
  · rw [StuckAt, hverdict]
    rfl
  · omega

end Steps

section Reached

variable {rows : List (List Token)} {options : Settings} {history : List Call}
  {earlier : Machine}

/-- Since the last row was executed, nothing has moved the program counter. -/
theorem reached_of_beforeLast? (h : (start (.ofTokens rows) options).beforeLast? history =
      some earlier) :
    earlier.program = .ofTokens rows ∧ earlier.step.outcome.ran = true ∧
      (∃ back, reached rows options history = earlier.step.machine.calls back) ∧
      (reached rows options history).counter = earlier.step.machine.counter := by
  obtain ⟨front, back, rfl, hran, hback, hidle⟩ := calls_of_beforeLast? h
  refine ⟨reached_program rows options front, hran, ⟨back, hback⟩, ?_⟩
  rw [counter, reached, hback, calls_registers hidle]
  rfl

theorem reached_counter_neg_iff (hrows : rows.length < 2 ^ 30)
    (hunsigned : ∀ tokens ∈ rows, Unsigned tokens) :
    (reached rows options history).counter < 0 ↔ ∃ earlier first value,
      (start (.ofTokens rows) options).beforeLast? history = some earlier ∧
      earlier.SetsCounter rows first value ∧
      (value.toInt ≤ -2 ∨ value.toInt = 2147483647) := by
  cases hlast : (start (.ofTokens rows) options).beforeLast? history with
  | none =>
      have hcounter : (reached rows options history).counter = 0 := by
        rw [counter, reached, calls_registers hlast]
        exact start_counter (.ofTokens rows) options
      simp [hcounter]
  | some earlier =>
      obtain ⟨hprogram, hran, _, hcounter⟩ := reached_of_beforeLast? hlast
      rw [hcounter, step_counter_neg_iff hprogram hrows hunsigned hran]
      simp

/-- The place of the instruction is remembered, whatever is tried. -/
theorem reached_refused_of_counter_neg (hrows : rows.length < 2 ^ 30)
    (hneg : (reached rows options history).counter < 0)
    (hlast : (start (.ofTokens rows) options).beforeLast? history = some earlier)
    {first : Token} {value : Int32} (hsets : earlier.SetsCounter rows first value)
    (further : List Call) :
    ((reached rows options history).calls further).step.outcome =
      .refused ⟨.counterOutside (reached rows options history).counter, first.position⟩ := by
  obtain ⟨hprogram, hran, ⟨back, hback⟩, hcounter⟩ := reached_of_beforeLast? hlast
  rw [hcounter] at hneg ⊢
  have hplace := (hsets.counter_of_ran hprogram hrows hran).2
  have hstuck := stuckAt_of_counter_neg hneg
  rw [hplace] at hstuck
  rw [hback]
  exact ((hstuck.calls back).1.calls further).1.step_outcome

end Reached

/-- Where a negative program counter comes from.  It is negative exactly if the last row that
was executed is an arithmetic instruction for the program counter, with a result that is at
most -2 or the largest one; every other row leads to row 1 or beyond, and nothing wraps.  With
a negative program counter, a step is refused for it, at the start of that instruction, however
many steps are tried. -/
theorem negative_counter_was_computed (settings : LoadSettings) (text : Text)
    (options : Settings) (history : List Call) {rows : List (List Token)}
    (hload : (Source.load settings text).rows = rows) (hrows : rows.length < 2 ^ 30) :
    ((reached rows options history).counter < 0 ↔
      ∃ earlier first value,
        (start (.ofTokens rows) options).beforeLast? history = some earlier ∧
        earlier.SetsCounter rows first value ∧
        (value.toInt ≤ -2 ∨ value.toInt = 2147483647)) ∧
    ((reached rows options history).counter < 0 →
      ∀ earlier first value,
        (start (.ofTokens rows) options).beforeLast? history = some earlier →
        earlier.SetsCounter rows first value →
        ∀ further, ((reached rows options history).calls further).step.outcome =
          .refused ⟨.counterOutside (reached rows options history).counter, first.position⟩) ∧
    ∀ tokens first rest, (reached rows options history).Faces rows tokens first rest →
      (reached rows options history).step.outcome.ran = true →
      (∀ value, ¬ (reached rows options history).registers.Computes (first :: rest) pcIndex
        value) →
      (Program.ofTokens rows).RowEffect id (reached rows options history).registers first
          (first :: rest) (reached rows options history).step.machine.registers ∧
        1 ≤ (reached rows options history).step.machine.counter ∧
        (reached rows options history).step.machine.counter ≤ 2 ^ 31 - 1 := by
  have hunsigned : ∀ tokens ∈ rows, Unsigned tokens := by
    intro tokens hmem
    rw [← hload] at hmem
    exact (Source.lexed_of_mem_load hmem).unsigned
  refine ⟨reached_counter_neg_iff hrows hunsigned, ?_, ?_⟩
  · intro hneg earlier first value hlast hsets
    exact reached_refused_of_counter_neg hrows hneg hlast hsets
  · intro tokens first rest hfaces hran hcomputes
    obtain ⟨hexact, hpos⟩ := counter_of_not_computes (reached_program rows options history) hrows
      hunsigned hran hfaces hcomputes
    exact ⟨hexact, hpos, Int.le_sub_one_of_lt (Int32.toInt_lt _)⟩

/-- The program counter is set to what is below zero, in a row with a mark in front. -/
def belowZero : Text := .ofString "addi s0, zero, 5\n\tsub pc, zero, s0"

/-- The row that sets it, without the mark. -/
def negation : List Token :=
  [⟨.instruction, "sub", 2, 2⟩, ⟨.register, "32", 2, 6⟩, ⟨.comma, "", 2, 8⟩,
    ⟨.register, "0", 2, 10⟩, ⟨.comma, "", 2, 14⟩, ⟨.register, "13", 2, 16⟩]

/-- All rows of the text. -/
def belowZeroRows : List (List Token) :=
  [[⟨.instruction, "addi", 1, 1⟩, ⟨.register, "13", 1, 6⟩, ⟨.comma, "", 1, 8⟩,
      ⟨.register, "0", 1, 10⟩, ⟨.comma, "", 1, 14⟩, ⟨.immediate, "5", 1, 16⟩],
    ⟨.tab, "", 2, 1⟩ :: negation]

/-- The machine on its way through these rows. -/
def sinking (history : List Call) : Machine :=
  reached belowZeroRows { enforceGlobal := false } history

theorem sinking_setsCounter :
    (sinking [.step]).SetsCounter belowZeroRows ⟨.instruction, "sub", 2, 2⟩ (-5) := by
  have hone : (sinking [.step]).counter = 1 := by decide +kernel
  have hfaces : (sinking [.step]).Faces belowZeroRows (⟨.tab, "", 2, 1⟩ :: negation)
      ⟨.instruction, "sub", 2, 2⟩ negation.tail :=
    ⟨by rw [hone]; decide, by rw [hone]; rfl, rfl⟩
  have hrow : Instruction.ofRow? negation = some ⟨.sub, ⟨⟨.register, "32", 2, 6⟩,
      ⟨.register, "0", 2, 10⟩, ⟨.register, "13", 2, 16⟩⟩⟩ := by decide +kernel
  exact ⟨_, _, hfaces, .intro hrow (by decide) (a := 0) (b := 5) (by decide +kernel)
    (by decide +kernel) (by decide +kernel)⟩

/-- After `5` is negated the program counter is at `-4`, and a step is refused for good. -/
theorem sinking_refused :
    (Source.load {} belowZero).rows = belowZeroRows ∧
      (sinking [.step, .step]).counter = -4 ∧
      ((sinking [.step, .step]).calls [.step, .adjust true .absent, .step]).step.outcome =
        .refused ⟨.counterOutside (-4), ⟨2, 2⟩⟩ ∧
      Fault.message ⟨.counterOutside (-4), ⟨2, 2⟩⟩ =
        "invalid register call from line 2, col 2: " ++
          "program counter -4 is outside of the program" := by
  have hload : (Source.load {} belowZero).rows = belowZeroRows := by decide +kernel
  have hcounter : (sinking [.step, .step]).counter = -4 := by decide +kernel
  obtain ⟨_, hrefused, _⟩ := negative_counter_was_computed {} belowZero
    { enforceGlobal := false } [.step, .step] hload (by decide)
  have hagain := hrefused (by decide +kernel) (sinking [.step]) _ (-5) (by decide +kernel)
    sinking_setsCounter [.step, .adjust true .absent, .step]
  change _ = Outcome.refused ⟨.counterOutside (sinking [.step, .step]).counter, _⟩ at hagain
  rw [hcounter] at hagain
  exact ⟨hload, hcounter, hagain, by decide +kernel⟩

end Machine

end ToyRisc
