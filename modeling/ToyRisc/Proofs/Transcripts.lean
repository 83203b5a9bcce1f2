/-
Transcripts.  A machine writes one entry for each row that it executes, and nothing else.  No
number holds a comma, and no line a line end; so where the entries show registers, these can be
read back from the transcript.
-/
import ToyRisc.Proofs.Halting
import ToyRisc.Proofs.Numerals

namespace ToyRisc

/-- Numbers with commas between them. -/
def commaSeparated (values : List Int) : String :=
  String.intercalate "," (values.map Decimal.text)

/-- The 33 values of a register file. -/
def RegisterFile.values (registers : RegisterFile) : List Int :=
  registers.cells.toList.map Int32.toInt

/-- The bytes of a memory as numbers. -/
def Memory.values (memory : Memory) : List Int := memory.bytes.map fun byte => (byte.toNat : Int)

/-- A line of numbers behind a label. -/
def numberLine (label : String) (values : List Int) : String :=
  label ++ commaSeparated values ++ "\n"

/-- What is written of a machine after an executed row. -/
def PrintMode.entry (mode : PrintMode) (machine : Machine) : String :=
  match mode with
  | registers => "\n" ++ numberLine "registers: " machine.registers.values
  | memory => "\n" ++ numberLine "memory: " machine.memory.values
  | both =>
      "\n" ++ numberLine "registers: " machine.registers.values
        ++ numberLine "memory: " machine.memory.values
  | silent | other _ => ""

theorem RegisterFile.render_eq (registers : RegisterFile) :
    registers.render = commaSeparated registers.values := by
  rw [commaSeparated, values, List.map_map]
  rfl

theorem Memory.render_eq (memory : Memory) : memory.render = commaSeparated memory.values := by
  rw [commaSeparated, values, List.map_map]
  rfl

namespace Machine

/-- The machines behind the rows that are executed in the first `k` steps. -/
def executed (machine : Machine) (k : Nat) : List Machine :=
  ((List.range k).filter fun n => (machine.after n).step.outcome.ran).map
    fun n => machine.after (n + 1)

theorem executed_succ (machine : Machine) (k : Nat) :
    machine.executed (k + 1) = machine.executed k ++
      if (machine.after k).step.outcome.ran then [machine.after (k + 1)] else [] := by
  rw [executed, List.range_succ, List.filter_append, List.map_append, executed]
  cases hran : (machine.after k).step.outcome.ran with
  | true => simp [hran]
  | false => simp [hran]

theorem snapshot_eq_entry (machine : Machine) :
    machine.snapshot = machine.settings.printMode.entry machine := by
  unfold snapshot PrintMode.entry numberLine
  rw [RegisterFile.render_eq, Memory.render_eq]
  cases machine.settings.printMode with
  | registers => simp [PrintMode.showsRegisters, PrintMode.showsMemory]
  | memory => simp [PrintMode.showsRegisters, PrintMode.showsMemory]
  | both => simp [PrintMode.showsRegisters, PrintMode.showsMemory]
  | silent => rfl
  | other code => rfl

/-- A step that executes a row writes the entry of the machine behind it. -/
theorem written_of_ran {machine : Machine} (hsink : machine.settings.sink = .buffer)
    (hran : machine.step.outcome.ran = true) :
    machine.step.written = machine.settings.printMode.entry machine.step.machine := by
  obtain ⟨registers, place, log, _, hstep⟩ := exists_step_eq_emit hran
  rw [hstep, emit_machine]
  simp only [emit, hsink, snapshot_eq_entry]

theorem transcript_eq_join {machine : Machine} (hsink : machine.settings.sink = .buffer)
    (k : Nat) :
    machine.transcript k =
      String.join ((machine.executed k).map machine.settings.printMode.entry) := by
  induction k with
  | zero => rfl
  | succ k ih =>
      rw [transcript_succ, ih, executed_succ, List.map_append, String.join_append]
      congr 1
      cases hran : (machine.after k).step.outcome.ran with
      | true =>
          rw [written_of_ran (by rw [after_settings, hsink]) hran, after_settings, ← after_succ]
          simp
      | false =>
          -- a machine that executes no row has halted
          rw [(halted_of_not_ran hran).step.2]
          rfl

end Machine

section Numbers

variable {values : List Int}

theorem mem_of_mem_intercalate {c : Char} {separator : List Char} {pieces : List (List Char)}
    (h : c ∈ separator.intercalate pieces) : c ∈ separator ∨ ∃ piece ∈ pieces, c ∈ piece := by
  induction pieces with
  | nil => cases h
  | cons piece pieces ih =>
      -- a separator follows every piece but the last
      cases pieces with
      | nil =>
          rw [List.intercalate_singleton] at h
          exact .inr ⟨piece, List.mem_cons_self, h⟩
      | cons next more =>
          rw [List.intercalate_cons_cons, List.append_assoc, List.mem_append,
            List.mem_append] at h
          rcases h with hpiece | hseparator | hmore
          · exact .inr ⟨piece, List.mem_cons_self, hpiece⟩
          · exact .inl hseparator
          · exact (ih hmore).imp_right fun ⟨found, hfound, hc⟩ =>
              ⟨found, List.mem_cons_of_mem piece hfound, hc⟩

theorem toList_commaSeparated (values : List Int) :
    (commaSeparated values).toList =
      [','].intercalate (values.map fun v => (Decimal.text v).toList) := by
  rw [commaSeparated, String.toList_intercalate, List.map_map]
  rfl

theorem newline_not_mem_commaSeparated (values : List Int) :
    '\n' ∉ (commaSeparated values).toList := by
  rw [toList_commaSeparated]
  intro hmem
  rcases mem_of_mem_intercalate hmem with hcomma | ⟨piece, hpiece, hc⟩
  · exact absurd hcomma (by decide)
  · obtain ⟨v, _, rfl⟩ := List.mem_map.mp hpiece
    exact absurd (Decimal.isDigit_or_minus_of_mem_text hc) (by decide)

/-- The numbers that stand between commas. -/
def numbers (text : List Char) : List Int := (text.splitOn ',').filterMap Decimal.integer?

/-- What was written with commas is read back. -/
theorem numbers_commaSeparated (h : values ≠ []) :
    numbers (commaSeparated values).toList = values := by
  have hpieces : ∀ piece ∈ values.map fun v => (Decimal.text v).toList, ',' ∉ piece := by
    intro piece hpiece hcomma
    obtain ⟨v, _, rfl⟩ := List.mem_map.mp hpiece
    exact absurd (Decimal.isDigit_or_minus_of_mem_text hcomma) (by decide)
  have hread : (Decimal.integer? ∘ fun v => (Decimal.text v).toList) = some :=
    funext Decimal.integer?_text
  rw [numbers, toList_commaSeparated, List.splitOn_intercalate ',' hpieces (by simpa using h),
    List.filterMap_map, hread, List.filterMap_some]

end Numbers

/-- The register file with given values. -/
def RegisterFile.ofValues (values : List Int) : RegisterFile :=
  ⟨Vector.ofFn fun i => Int32.ofInt (values.getD i 0)⟩

theorem RegisterFile.ofValues_values (registers : RegisterFile) :
    ofValues registers.values = registers := by
  obtain ⟨cells⟩ := registers
  rw [ofValues, RegisterFile.mk.injEq]
  ext i hi
  simp [values]

theorem RegisterFile.values_ne_nil (registers : RegisterFile) : registers.values ≠ [] := by
  have hlength : registers.values.length = 33 := by simp [values]
  exact List.ne_nil_of_length_pos (by omega)

/-- The registers that a line shows, if it shows any. -/
def shownRegisters? (line : List Char) : Option RegisterFile :=
  if "registers: ".toList.isPrefixOf line then
    some (.ofValues (numbers (line.drop "registers: ".length)))
  else none

/-- The registers that the lines of a text show. -/
def shownRegisters (text : List Char) : List RegisterFile :=
  (text.splitOn '\n').filterMap shownRegisters?

section Lines

theorem shownRegisters?_values (registers : RegisterFile) :
    shownRegisters? ("registers: ".toList ++ (commaSeparated registers.values).toList) =
      some registers := by
  have hstarts : "registers: ".toList.isPrefixOf
      ("registers: ".toList ++ (commaSeparated registers.values).toList) = true :=
    List.isPrefixOf_iff_prefix.mpr (List.prefix_append _ _)
  rw [shownRegisters?, if_pos hstarts, ← String.length_toList, List.drop_left,
    numbers_commaSeparated registers.values_ne_nil, registers.ofValues_values]

theorem shownRegisters_line {line : List Char} (h : '\n' ∉ line) (rest : List Char) :
    shownRegisters (line ++ '\n' :: rest) =
      (shownRegisters? line).toList ++ shownRegisters rest := by
  rw [shownRegisters, List.splitOn_append_cons_self_of_not_mem h, List.filterMap_cons]
  cases shownRegisters? line with
  | none => rfl
  | some registers => rfl

theorem shownRegisters_numberLine {label : String} (h : '\n' ∉ label.toList) (values : List Int)
    (rest : List Char) :
    shownRegisters ((numberLine label values).toList ++ rest) =
      (shownRegisters? (label.toList ++ (commaSeparated values).toList)).toList ++
        shownRegisters rest := by
  have hplain := List.not_mem_append h (newline_not_mem_commaSeparated values)
  rw [← shownRegisters_line hplain, numberLine, String.toList_append, String.toList_append,
    List.append_assoc]
  rfl

/-- An entry adds the registers of its machine and nothing else. -/
theorem shownRegisters_entry {mode : PrintMode} (hmode : mode ∈ [PrintMode.registers, .both])
    (machine : Machine) (rest : List Char) :
    shownRegisters ((mode.entry machine).toList ++ rest) =
      machine.registers :: shownRegisters rest := by
  have hblank : ∀ text, shownRegisters ("\n".toList ++ text) = shownRegisters text :=
    shownRegisters_line List.not_mem_nil
  have hregisters : ∀ text, shownRegisters
      ((numberLine "registers: " machine.registers.values).toList ++ text) =
        machine.registers :: shownRegisters text := by
    intro text
    rw [shownRegisters_numberLine (by decide), shownRegisters?_values]
    rfl
  have hmemory : ∀ text, shownRegisters
      ((numberLine "memory: " machine.memory.values).toList ++ text) = shownRegisters text :=
    fun text => shownRegisters_numberLine (by decide) machine.memory.values text
  rw [List.mem_pair] at hmode
  rcases hmode with rfl | rfl
  · rw [PrintMode.entry, String.toList_append, List.append_assoc, hblank, hregisters]
  · rw [PrintMode.entry, String.toList_append, String.toList_append, List.append_assoc,
      List.append_assoc, hblank, hregisters, hmemory]

theorem shownRegisters_entries {mode : PrintMode} (hmode : mode ∈ [PrintMode.registers, .both])
    (machines : List Machine) :
    shownRegisters (String.join (machines.map mode.entry)).toList =
      machines.map Machine.registers := by
  induction machines with
  | nil => rfl
  | cons machine machines ih =>
      rw [List.map_cons, String.join_cons, String.toList_append,
        shownRegisters_entry hmode, ih, List.map_cons]

theorem join_entries_of_silent {mode : PrintMode}
    (hmode : mode ∉ [PrintMode.registers, .memory, .both]) (machines : List Machine) :
    String.join (machines.map mode.entry) = "" := by
  have hentry : ∀ machine, mode.entry machine = "" := by
    intro machine
    cases mode with
    | silent | other code => rfl
    | registers | memory | both => exact absurd (by decide) hmode
  induction machines with
  | nil => rfl
  | cons machine machines ih =>
      rw [List.map_cons, String.join_cons, hentry, ih, String.append_empty]

end Lines

namespace Machine

theorem shownRegisters_transcript {machine : Machine} (hsink : machine.settings.sink = .buffer)
    (hmode : machine.settings.printMode ∈ [PrintMode.registers, .both]) (k : Nat) :
    shownRegisters (machine.transcript k).toList =
      (machine.executed k).map Machine.registers := by
  rw [transcript_eq_join hsink, shownRegisters_entries hmode]

/-- What is written in some steps is one entry for each row executed in them.  A step that
executes no row writes nothing, and neither does a mode that shows nothing.  Where registers are
shown, the transcript tells those behind every row, so that no other course has the same one. -/
theorem transcript_records_executed_rows :
    (∀ (machine : Machine) (k : Nat), machine.settings.sink = .buffer →
      machine.transcript k =
          String.join ((machine.executed k).map machine.settings.printMode.entry) ∧
        (machine.settings.printMode ∉ [PrintMode.registers, .memory, .both] →
          machine.transcript k = "") ∧
        (machine.settings.printMode ∈ [PrintMode.registers, .both] →
          shownRegisters (machine.transcript k).toList =
            (machine.executed k).map Machine.registers)) ∧
    (∀ machine : Machine,
      (machine.step.outcome = .finished ∨ ∃ fault, machine.step.outcome = .refused fault) →
        machine.step.written = "") ∧
    ∀ (machine another : Machine) (k n : Nat),
      machine.settings.sink = .buffer →
      machine.settings.printMode ∈ [PrintMode.registers, .both] →
      another.settings.sink = .buffer →
      another.settings.printMode ∈ [PrintMode.registers, .both] →
      (machine.executed k).map Machine.registers ≠ (another.executed n).map Machine.registers →
        machine.transcript k ≠ another.transcript n := by
  refine ⟨?_, ?_, ?_⟩
  · intro machine k hsink
    refine ⟨transcript_eq_join hsink k, ?_, ?_⟩
    · intro hmode
      rw [transcript_eq_join hsink, join_entries_of_silent hmode]
    · intro hmode
      exact shownRegisters_transcript hsink hmode k
  · rintro machine (hfinished | hrefused)
    · exact (Halted.step (.inl (machine.step_outcome_finished_iff.mp hfinished))).2
    · exact (Halted.step (.inr hrefused)).2
  · intro machine another k n hsink hmode hanother hother hne htext
    apply hne
    rw [← shownRegisters_transcript hsink hmode, htext, shownRegisters_transcript hanother hother]

/-- A machine that executes one row and is refused at the next. -/
def watched (mode : PrintMode) : Machine :=
  start (.ofTokens strayBranch) { enforceGlobal := false, memorySize := 2, printMode := mode }

/-- Three steps leave one entry, which differs from that of no step. -/
theorem watched_writes_once :
    (watched .both).transcript 3 =
        "\nregisters: 0,0,0,0,0,0,0,0,0,0,0,0,0,0,0,0,0,0,0,0,0,0,0,0,0,0,0,0,0,0,0,0,1\n" ++
          "memory: 0,0\n" ∧
      shownRegisters ((watched .both).transcript 3).toList = [((watched .both).after 1).registers] ∧
      (watched (.other 4)).transcript 3 = "" ∧
      ((watched .both).after 1).step.written = "" ∧
      (watched .both).transcript 3 ≠ (watched .registers).transcript 0 := by
  obtain ⟨hbuffer, hsilent, hdiffer⟩ := transcript_records_executed_rows
  obtain ⟨hjoin, _, hshown⟩ := hbuffer (watched .both) 3 rfl
  have hexecuted : (watched .both).executed 3 = [(watched .both).after 1] := by decide +kernel
  refine ⟨?_, ?_, (hbuffer (watched (.other 4)) 3 rfl).2.1 (by decide), ?_, ?_⟩
  · rw [hjoin, hexecuted]
    decide +kernel
  · rw [hshown (by decide), hexecuted]
    rfl
  · exact hsilent _ (.inr ⟨⟨.unknownLabel "nowhere", ⟨2, 15⟩⟩, by decide +kernel⟩)
  · exact hdiffer _ _ 3 0 rfl (by decide) rfl (by decide) (by rw [hexecuted]; decide)

end Machine

end ToyRisc
