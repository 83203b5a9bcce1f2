/-
Jumps to labels.  The table of labels has each declared name once, with the last row that
declares it.  A jump to a label comes behind that row, which is a row of the program; so it
leads to a row or ends the program, and never anywhere else.
-/
import Mathlib.Order.Lattice.Nat
import ToyRisc.Proofs.ExactEffects

namespace ToyRisc

namespace LabelTable

/-- The names in a table. -/
def names (table : LabelTable) : List String := table.entries.map Prod.fst

section Names

variable {table : LabelTable}

theorem mem_names_iff {name : String} :
    name ∈ table.names ↔ ∃ n, table.find? name = some n := by
  rw [← Option.isSome_iff_exists, find?, List.lookup_isSome_iff, names, List.mem_map]
  constructor
  · rintro ⟨entry, hmem, rfl⟩
    exact ⟨entry, hmem, beq_self_eq_true _⟩
  · rintro ⟨entry, hmem, hname⟩
    exact ⟨entry, hmem, (eq_of_beq hname).symm⟩

/-- Where no name stands twice, the entries are what is looked up. -/
theorem mem_entries_iff (h : table.names.Nodup) {name : String} {n : Nat} :
    (name, n) ∈ table.entries ↔ table.find? name = some n :=
  mem_iff_lookup h

theorem nodup_declare (h : table.names.Nodup) (name : String) (n : Nat) :
    (table.declare name n).names.Nodup :=
  nodup_put h name n

theorem nodup_note (h : table.names.Nodup) (n : Nat) (row : Row) :
    (table.note n row).names.Nodup := by
  rw [note]
  cases row.declared? with
  | none => exact h
  | some name => exact nodup_declare h name n

theorem nodup_collect (h : table.names.Nodup) (n : Nat) (rows : List Row) :
    (table.collect n rows).names.Nodup := by
  induction rows generalizing table n with
  | nil => exact h
  | cons row rows ih =>
      rw [collect_cons]
      exact ih (nodup_note h n row) (n + 1)

end Names

end LabelTable

/-- `DeclaresAt rows name n`: row `n` opens, marks left aside, with a label of this name. -/
def DeclaresAt (rows : List (List Token)) (name : String) (n : Nat) : Prop :=
  ∃ tokens first, rows[n]? = some tokens ∧ opening? tokens = some first ∧
    first.kind = .label ∧ first.literal = name

theorem Row.declared?_ofTokens_iff {tokens : List Token} {name : String} :
    (Row.ofTokens tokens).declared? = some name ↔
      ∃ first, opening? tokens = some first ∧ first.kind = .label ∧ first.literal = name := by
  rw [← head?_body_ofTokens, declared?]
  cases (Row.ofTokens tokens).body with
  | nil => simp
  | cons first rest => simp

section Declarations

variable {rows : List (List Token)} {name : String} {n : Nat}

theorem declaresAt_iff : DeclaresAt rows name n ↔
    ∃ row, (rows.map Row.ofTokens)[n]? = some row ∧ row.declared? = some name := by
  simp [DeclaresAt, Row.declared?_ofTokens_iff]

theorem declaredLast_iff_isGreatest :
    DeclaredLast (rows.map Row.ofTokens) name n ↔ IsGreatest {m | DeclaresAt rows name m} n := by
  constructor
  · intro h
    refine ⟨declaresAt_iff.mpr h.declared, ?_⟩
    intro m hm
    obtain ⟨row, hrow, hname⟩ := declaresAt_iff.mp hm
    exact h.last m row hrow hname
  · intro h
    refine ⟨declaresAt_iff.mp h.1, ?_⟩
    intro m row hrow hname
    exact h.2 (declaresAt_iff.mpr ⟨row, hrow, hname⟩)

theorem DeclaresAt.lt_length (h : DeclaresAt rows name n) : n < rows.length := by
  obtain ⟨tokens, _, hrow, _⟩ := h
  exact (List.getElem?_eq_some_iff.mp hrow).1

/-- Where a name is declared at all, there is a last row that does it. -/
theorem DeclaresAt.exists_isGreatest (h : DeclaresAt rows name n) :
    ∃ m, IsGreatest {m | DeclaresAt rows name m} m := by
  have hbound : BddAbove {m | DeclaresAt rows name m} :=
    ⟨rows.length, fun m hm => (DeclaresAt.lt_length hm).le⟩
  exact ⟨_, Nat.sSup_mem ⟨n, h⟩ hbound, fun m hm => le_csSup hbound hm⟩

end Declarations

namespace Program

variable (rows : List (List Token))

theorem find?_labels_iff_isGreatest (name : String) (n : Nat) :
    (ofTokens rows).labels.find? name = some n ↔ IsGreatest {m | DeclaresAt rows name m} n := by
  rw [find?_labels_iff, declaredLast_iff_isGreatest]

theorem nodup_names : (ofTokens rows).labels.names.Nodup :=
  have hempty : LabelTable.empty.names.Nodup := List.nodup_nil
  LabelTable.nodup_collect hempty 0 _

theorem mem_names_iff_declared (name : String) :
    name ∈ (ofTokens rows).labels.names ↔ ∃ n, DeclaresAt rows name n := by
  rw [LabelTable.mem_names_iff]
  constructor
  · rintro ⟨n, hn⟩
    exact ⟨n, ((find?_labels_iff_isGreatest rows name n).mp hn).1⟩
  · rintro ⟨n, hn⟩
    obtain ⟨m, hm⟩ := hn.exists_isGreatest
    exact ⟨m, (find?_labels_iff_isGreatest rows name m).mpr hm⟩

theorem mem_entries_iff_isGreatest (name : String) (n : Nat) :
    (name, n) ∈ (ofTokens rows).labels.entries ↔
      IsGreatest {m | DeclaresAt rows name m} n := by
  rw [LabelTable.mem_entries_iff (nodup_names rows), find?_labels_iff_isGreatest]

end Program

section Effects

variable {wrap : Int → Int} {labels : LabelTable} {program : Program}
  {registers changed : RegisterFile} {first : Token} {row : List Token}

theorem Program.RowEffect.of_directive (h : program.RowEffect wrap registers first row changed)
    (hkind : first.kind = .directive) :
    ∃ name m, row[1]? = some name ∧ program.labels.find? name.literal = some m ∧
      registers.SentTo (m + 1) changed := by
  rcases h with ⟨hother, _⟩ | ⟨hother, _⟩ | ⟨_, _, hname, hfind, hsent⟩ | ⟨hother, _⟩
  · simp [hkind] at hother
  · simp [hkind] at hother
  · exact ⟨_, _, hname, hfind, hsent⟩
  · simp [hkind] at hother

theorem LabelTable.InstructionEffect.of_label
    (h : labels.InstructionEffect wrap registers row changed) {target : Token}
    (hbranches : registers.Branches row true target) (hkind : target.kind = .ident) :
    ∃ m, labels.find? target.literal = some m ∧ registers.SentTo (m + 1) changed := by
  rcases h with ⟨hcomputes, _, _, _, _⟩ | ⟨hcomputes, _⟩ | ⟨huntaken, _⟩ |
    ⟨htaken, _, hfind, hsent⟩ | ⟨htaken, himmediate, _, _, _⟩
  · exact absurd hbranches hcomputes.not_branches
  · exact absurd hbranches hcomputes.not_branches
  · exact absurd (huntaken.unique hbranches).1 (by simp)
  · obtain rfl := (htaken.unique hbranches).2
    exact ⟨_, hfind, hsent⟩
  · obtain rfl := (htaken.unique hbranches).2
    rw [himmediate] at hkind
    cases hkind

end Effects

namespace Machine

theorem Reachable.program_eq {machine later : Machine} (h : machine.Reachable later) :
    later.program = machine.program := by
  refine h.invariant (P := fun found => found.program = machine.program) rfl ?_ ?_
  · intro found hfound
    exact found.step_program.trans hfound
  · intro found verbose sink hfound
    exact hfound

/-- `machine.ComesBehind rows name n`: row `n` is the last to declare the name, and the program
counter is behind it, on a row of the program or at its end. -/
structure ComesBehind (machine : Machine) (rows : List (List Token)) (name : String) (n : Nat) :
    Prop where
  last : IsGreatest {m | DeclaresAt rows name m} n
  counter : machine.counter = n + 1
  inside : 1 ≤ machine.counter ∧ machine.counter ≤ rows.length
  done_iff : machine.done = true ↔ machine.counter = rows.length

section Jumps

variable {machine : Machine} {rows : List (List Token)}

theorem comesBehind_of_find? (hprogram : machine.program = .ofTokens rows) {name : String} {n : Nat}
    (hfind : (Program.ofTokens rows).labels.find? name = some n)
    (hcounter : machine.counter = n + 1) : machine.ComesBehind rows name n := by
  have hlt := Program.lt_size_of_find? rows hfind
  refine ⟨(Program.find?_labels_iff_isGreatest rows name n).mp hfind, hcounter, by omega, ?_⟩
  rw [done, decide_eq_true_iff, hprogram, Program.size_ofTokens]
  omega

variable {tokens : List Token} {first : Token} {rest : List Token}

/-- A directive that is executed comes behind the label that it names. -/
theorem Faces.comesBehind_of_directive (hfaces : machine.Faces rows tokens first rest)
    (hprogram : machine.program = .ofTokens rows) (hrows : rows.length < 2 ^ 31)
    (hran : machine.step.outcome.ran = true) (hkind : first.kind = .directive) :
    ∃ label n, rest.head? = some label ∧ machine.step.machine.ComesBehind rows label.literal n := by
  obtain ⟨_, _, _, hfaced, heffect, _⟩ := step_effect hprogram hrows hran
  obtain ⟨rfl, rfl, rfl⟩ := hfaces.unique hfaced
  obtain ⟨label, n, hlabel, hfind, hsent⟩ := heffect.of_directive hkind
  refine ⟨label, n, ?_, ?_⟩
  · rw [List.head?_eq_getElem?, ← hlabel, List.getElem?_cons_succ]
  · exact comesBehind_of_find? (machine.step_program.trans hprogram) hfind hsent.counter

/-- A branch that is taken to a label comes behind it. -/
theorem Faces.comesBehind_of_branch (hfaces : machine.Faces rows tokens first rest)
    (hprogram : machine.program = .ofTokens rows) (hrows : rows.length < 2 ^ 31)
    (hran : machine.step.outcome.ran = true) {target : Token}
    (hbranches : machine.registers.Branches (first :: rest) true target)
    (hkind : target.kind = .ident) :
    ∃ n, machine.step.machine.ComesBehind rows target.literal n := by
  obtain ⟨_, _, _, hfaced, heffect, _⟩ := step_effect hprogram hrows hran
  obtain ⟨rfl, rfl, rfl⟩ := hfaces.unique hfaced
  obtain ⟨n, hfind, hsent⟩ := (heffect.of_instruction hbranches.first_kind).of_label hbranches hkind
  exact ⟨n, comesBehind_of_find? (machine.step_program.trans hprogram) hfind hsent.counter⟩

end Jumps

/-- The table of labels and the jumps that go by it.  A name is in the table exactly if some row
declares it, once and with the last such row, which is a row of the program.  Whatever was done
before, a directive or a branch to a label that is executed comes behind that row. -/
theorem jumps_by_name_come_behind_last (rows : List (List Token)) (settings : Settings)
    (hrows : rows.length < 2 ^ 31) :
    (Program.ofTokens rows).labels.names.Nodup ∧
    (∀ name, name ∈ (Program.ofTokens rows).labels.names ↔ ∃ n, DeclaresAt rows name n) ∧
    (∀ name n, (name, n) ∈ (Program.ofTokens rows).labels.entries ↔
      IsGreatest {m | DeclaresAt rows name m} n) ∧
    (∀ name n, (Program.ofTokens rows).labels.find? name = some n ↔
      IsGreatest {m | DeclaresAt rows name m} n) ∧
    (∀ entry ∈ (Program.ofTokens rows).labels.entries, entry.2 < rows.length) ∧
    ∀ machine, (start (.ofTokens rows) settings).Reachable machine →
      ∀ tokens first rest, machine.Faces rows tokens first rest →
        machine.step.outcome.ran = true →
          (first.kind = .directive → ∃ label n, rest.head? = some label ∧
            machine.step.machine.ComesBehind rows label.literal n) ∧
          ∀ target, machine.registers.Branches (first :: rest) true target →
            target.kind = .ident → ∃ n, machine.step.machine.ComesBehind rows target.literal n := by
  refine ⟨Program.nodup_names rows, Program.mem_names_iff_declared rows,
    Program.mem_entries_iff_isGreatest rows, Program.find?_labels_iff_isGreatest rows, ?_, ?_⟩
  · intro entry hentry
    exact ((Program.mem_entries_iff_isGreatest rows entry.1 entry.2).mp hentry).1.lt_length
  · intro machine hreachable tokens first rest hfaces hran
    have hprogram : machine.program = .ofTokens rows := hreachable.program_eq
    refine ⟨hfaces.comesBehind_of_directive hprogram hrows hran, ?_⟩
    intro target hbranches hkind
    exact hfaces.comesBehind_of_branch hprogram hrows hran hbranches hkind

/-- A program that jumps to a label which is declared twice, the second time behind two marks
in its last row. -/
def declaredTwice : List (List Token) :=
  [[⟨.directive, "global", 1, 1⟩, ⟨.ident, "main", 1, 9⟩], [⟨.label, "main", 2, 1⟩],
    [⟨.instruction, "beq", 3, 1⟩, ⟨.register, "0", 3, 5⟩, ⟨.comma, "", 3, 9⟩,
      ⟨.register, "0", 3, 11⟩, ⟨.comma, "", 3, 15⟩, ⟨.ident, "end", 3, 17⟩],
    [⟨.label, "end", 4, 1⟩], [⟨.nop, "", 5, 1⟩],
    [⟨.tab, "", 6, 1⟩, ⟨.tab, "", 6, 2⟩, ⟨.label, "end", 6, 3⟩]]

/-- The machine after some steps of this program. -/
def jumping (steps : Nat) : Machine := (start (.ofTokens declaredTwice) {}).after steps

/-- The directive leads behind the first label, and the branch behind the last row, which ends
the program. -/
theorem declaredTwice_jumps :
    DeclaresAt declaredTwice "end" 3 ∧
      ("end", 5) ∈ (Program.ofTokens declaredTwice).labels.entries ∧
      (jumping 1).ComesBehind declaredTwice "main" 1 ∧
      (jumping 2).ComesBehind declaredTwice "end" 5 ∧ (jumping 2).done = true := by
  obtain ⟨_, _, hentries, _, _, hjumps⟩ :=
    jumps_by_name_come_behind_last declaredTwice {} (by decide)
  have htwo : (jumping 1).counter = 2 := by decide +kernel
  have hsix : (jumping 2).counter = 6 := by decide +kernel
  have hstarts := hjumps (jumping 0) .here (declaredTwice.headD []) _ _
    ⟨by decide +kernel, by decide +kernel, rfl⟩ (by decide +kernel)
  obtain ⟨_, n, hlabel, hmain⟩ := hstarts.1 rfl
  cases hlabel
  obtain rfl : n = 1 := by
    have hcounter : (jumping 1).counter = n + 1 := hmain.counter
    omega
  have hbranches : (jumping 1).registers.Branches (declaredTwice.getD 2 []) true
      ⟨.ident, "end", 3, 17⟩ := by
    have hrow : Instruction.ofRow? (declaredTwice.getD 2 []) = some ⟨.beq,
        ⟨⟨.register, "0", 3, 5⟩, ⟨.register, "0", 3, 11⟩, ⟨.ident, "end", 3, 17⟩⟩⟩ := by
      decide +kernel
    exact .intro hrow rfl (a := 0) (b := 0) (by decide +kernel) (by decide +kernel)
  have hgoes := hjumps (jumping 1) (.step .here) (declaredTwice.getD 2 []) _ _
    ⟨by decide +kernel, by decide +kernel, rfl⟩ (by decide +kernel)
  obtain ⟨m, hend⟩ := hgoes.2 _ hbranches rfl
  obtain rfl : m = 5 := by
    have hcounter : (jumping 2).counter = m + 1 := hend.counter
    omega
  refine ⟨⟨_, _, rfl, rfl, rfl, rfl⟩, (hentries "end" 5).mpr hend.last, hmain, hend, ?_⟩
  exact hend.done_iff.mpr hsix

end Machine

end ToyRisc
