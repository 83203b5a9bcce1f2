/-
Names and places.  What a label is called, and where in a source its tokens stand, makes no
difference to a run: two programs that differ in nothing else, and keep different names
different, execute the same rows and are refused for faults of the same kind.  The one
place that counts is line 1, on which the directive has to stand.
-/
import Mathlib.Data.List.Forall2
import ToyRisc.Proofs.Course
import ToyRisc.Proofs.Labels
import ToyRisc.Proofs.RowEffects

namespace ToyRisc

/-- `Token.Renamed rename token other`: the other token is this one with its label renamed,
if it has one, and in a place that is on line 1 exactly if this one is. -/
structure Token.Renamed (rename : String → String) (token other : Token) : Prop where
  kind : other.kind = token.kind
  line : other.line = 1 ↔ token.line = 1
  literal : other.literal =
    if token.kind = .label ∨ token.kind = .ident then rename token.literal else token.literal

instance (rename : String → String) (token other : Token) :
    Decidable (token.Renamed rename other) :=
  decidable_of_iff (other.kind = token.kind ∧ (other.line = 1 ↔ token.line = 1) ∧
      other.literal = if token.kind = .label ∨ token.kind = .ident then rename token.literal
        else token.literal)
    ⟨fun h => ⟨h.1, h.2.1, h.2.2⟩, fun h => ⟨h.kind, h.line, h.literal⟩⟩

/-- Rows of tokens renamed one by one. -/
abbrev RenamedRow (rename : String → String) : List Token → List Token → Prop :=
  List.Forall₂ (Token.Renamed rename)

/-- Results that are related values, or faults of one kind. -/
inductive Alike {α β : Type} (R : α → β → Prop) : Except Fault α → Except Fault β → Prop
  | ok {value : α} {other : β} (h : R value other) : Alike R (.ok value) (.ok other)
  | error {fault other : Fault} (h : fault.kind = other.kind) :
      Alike R (.error fault) (.error other)

namespace Alike

variable {α β γ δ : Type} {R S : α → β → Prop} {T : γ → δ → Prop}

theorem bind {result : Except Fault α} {other : Except Fault β} {next : α → Except Fault γ}
    {otherNext : β → Except Fault δ} (h : Alike R result other)
    (hnext : ∀ value found, R value found → Alike T (next value) (otherNext found)) :
    Alike T (result >>= next) (other >>= otherNext) := by
  cases h with
  | ok hvalue => exact hnext _ _ hvalue
  | error hkind => exact .error hkind

theorem mono {result : Except Fault α} {other : Except Fault β} (h : Alike R result other)
    (hRS : ∀ value found, R value found → S value found) : Alike S result other := by
  cases h with
  | ok hvalue => exact .ok (hRS _ _ hvalue)
  | error hkind => exact .error hkind

end Alike

/-- Lists that are related one by one have related items in every place. -/
theorem rel_getElem? {α β : Type} {R : α → β → Prop} {items : List α} {others : List β}
    (h : List.Forall₂ R items others) (n : Nat) : Option.Rel R items[n]? others[n]? := by
  induction h generalizing n with
  | nil => exact .none
  | cons hitem _ ih =>
      cases n with
      | zero => exact .some hitem
      | succ n => exact ih n

theorem exists_getElem?_of_rel {α β : Type} {R : α → β → Prop} {items : List α}
    {others : List β} (h : List.Forall₂ R items others) {n : Nat} {item : α}
    (hitem : items[n]? = some item) : ∃ other, others[n]? = some other ∧ R item other := by
  have hrel := rel_getElem? h n
  rw [hitem] at hrel
  cases hother : others[n]? with
  | none =>
      rw [hother] at hrel
      cases hrel
  | some other =>
      rw [hother, Option.rel_some_some] at hrel
      exact ⟨other, rfl, hrel⟩

section Tokens

variable {rename : String → String} {token other : Token}

theorem Token.Renamed.literal_eq (h : token.Renamed rename other) (hlabel : token.kind ≠ .label)
    (hident : token.kind ≠ .ident) : other.literal = token.literal := by
  rw [h.literal, if_neg (not_or.mpr ⟨hlabel, hident⟩)]

theorem Token.Renamed.literal_rename (h : token.Renamed rename other)
    (hkind : token.kind = .label ∨ token.kind = .ident) :
    other.literal = rename token.literal := by
  rw [h.literal, if_pos hkind]

theorem registerIndex_alike (h : token.Renamed rename other) (hkind : token.kind = .register) :
    Alike Eq token.registerIndex other.registerIndex := by
  have hliteral := h.literal_eq (by simp [hkind]) (by simp [hkind])
  rw [Token.registerIndex, Token.registerIndex, hliteral]
  cases Decimal.readSigned 64 token.literal.toList with
  | ok index => exact .ok rfl
  | error reason => exact .error rfl

theorem guard_alike {α : Type} (result : Except RegisterError α) :
    Alike Eq (token.guard result) (other.guard result) := by
  cases result with
  | ok value => exact .ok rfl
  | error found => exact .error rfl

theorem fetch_alike (registers : RegisterFile) (h : token.Renamed rename other)
    (hkind : token.kind = .register) :
    Alike Eq (registers.fetch token) (registers.fetch other) := by
  apply (registerIndex_alike h hkind).bind
  rintro index _ rfl
  exact guard_alike _

theorem store_alike (registers : RegisterFile) (value : Int32) (h : token.Renamed rename other)
    (hkind : token.kind = .register) :
    Alike Eq (registers.store token value) (registers.store other value) := by
  rw [RegisterFile.store_eq, RegisterFile.store_eq]
  apply (registerIndex_alike h hkind).bind
  rintro index _ rfl
  exact guard_alike _

theorem immediate_alike (h : token.Renamed rename other) (hkind : token.kind = .immediate) :
    Alike Eq token.immediate other.immediate := by
  have hliteral := h.literal_eq (by simp [hkind]) (by simp [hkind])
  rw [Token.immediate, Token.immediate, hliteral]
  cases Decimal.readSigned 32 token.literal.toList with
  | ok value => exact .ok rfl
  | error reason => exact .error rfl

end Tokens

/-- A row has a token of an accepted kind in every place of the pattern. -/
def Pattern.Accepts (pattern : Pattern) (row : List Token) : Prop :=
  ∀ (n : Nat) (slot : Slot), pattern[n]? = some slot →
    ∃ token, row[n]? = some token ∧ slot.accepts token.kind = true

theorem Pattern.Accepts.cons {slot : Slot} {slots : Pattern} {token : Token} {row : List Token}
    (htoken : slot.accepts token.kind = true) (hrow : slots.Accepts row) :
    Pattern.Accepts (slot :: slots) (token :: row) := by
  intro n found hfound
  cases n with
  | zero =>
      cases hfound
      exact ⟨token, rfl, htoken⟩
  | succ n => exact hrow n found hfound

theorem Operands.ofRow?_eq_some {row : List Token} {operands : Operands}
    (hfirst : row[1]? = some operands.first) (hsecond : row[3]? = some operands.second)
    (hthird : row[5]? = some operands.third) : Operands.ofRow? row = some operands := by
  match row, hthird with
  | _ :: first :: _ :: second :: _ :: third :: _, hthird =>
      cases hfirst
      cases hsecond
      cases hthird
      rfl

/-- Operands renamed one by one, of kinds that go with the format. -/
structure Operands.Renamed (rename : String → String) (format : Format)
    (operands others : Operands) : Prop where
  first : operands.first.Renamed rename others.first
  second : operands.second.Renamed rename others.second
  third : operands.third.Renamed rename others.third
  first_kind : operands.first.kind = .register
  second_kind : operands.second.kind = .register
  third_kind : operands.third.kind ∈ format.lastKinds

section Rows

variable {rename : String → String} {row others : List Token}

theorem verifyFrom_alike (pattern : Pattern) (h : RenamedRow rename row others)
    (last place : Position) :
    Alike (fun _ _ => pattern.Accepts row) (pattern.verifyFrom last row)
      (pattern.verifyFrom place others) := by
  induction pattern generalizing row others last place with
  | nil =>
      refine .ok ?_
      intro n slot hslot
      cases hslot
  | cons slot slots ih =>
      cases h with
      | nil => exact .error rfl
      | @cons token other row others htoken hrow =>
          rw [Pattern.verifyFrom, Pattern.verifyFrom, htoken.kind]
          split
          · rename_i haccepts
            exact (ih hrow _ _).mono fun _ _ hslots => .cons haccepts hslots
          · exact .error rfl

theorem operands_alike (opcode : Opcode) (h : RenamedRow rename row others) :
    Alike (Operands.Renamed rename opcode.format) (opcode.operands row)
      (opcode.operands others) := by
  apply (verifyFrom_alike opcode.format.pattern h .nowhere .nowhere).bind
  intro _ _ haccepts
  rw [opcode.format.pattern_eq] at haccepts
  obtain ⟨first, hfirst, hfirstKind⟩ := haccepts 1 _ rfl
  obtain ⟨second, hsecond, hsecondKind⟩ := haccepts 3 _ rfl
  obtain ⟨third, hthird, hthirdKind⟩ := haccepts 5 _ rfl
  obtain ⟨otherFirst, hotherFirst, hrenamedFirst⟩ := exists_getElem?_of_rel h hfirst
  obtain ⟨otherSecond, hotherSecond, hrenamedSecond⟩ := exists_getElem?_of_rel h hsecond
  obtain ⟨otherThird, hotherThird, hrenamedThird⟩ := exists_getElem?_of_rel h hthird
  have hoperands : Operands.ofRow? row = some ⟨first, second, third⟩ :=
    Operands.ofRow?_eq_some hfirst hsecond hthird
  have hothers : Operands.ofRow? others = some ⟨otherFirst, otherSecond, otherThird⟩ :=
    Operands.ofRow?_eq_some hotherFirst hotherSecond hotherThird
  rw [hoperands, hothers]
  refine .ok ⟨hrenamedFirst, hrenamedSecond, hrenamedThird, ?_, ?_, ?_⟩
  · simpa [Slot.accepts] using hfirstKind
  · simpa [Slot.accepts] using hsecondKind
  · simpa [Slot.accepts] using hthirdKind

end Rows

namespace LabelTable

/-- The table with every name replaced. -/
def rename (table : LabelTable) (rename : String → String) : LabelTable :=
  ⟨table.entries.map fun entry => (rename entry.1, entry.2)⟩

variable {rename : String → String} (hinjective : Function.Injective rename)

include hinjective

theorem find?_rename (table : LabelTable) (name : String) :
    (table.rename rename).find? (rename name) = table.find? name := by
  obtain ⟨entries⟩ := table
  induction entries with
  | nil => rfl
  | cons entry entries ih =>
      obtain ⟨key, row⟩ := entry
      have hkey : (rename name == rename key) = (name == key) := by
        rw [Bool.eq_iff_iff, beq_iff_eq, beq_iff_eq, hinjective.eq_iff]
      simp only [find?, LabelTable.rename, List.map_cons, List.lookup_cons, hkey]
      cases name == key with
      | true => rfl
      | false => exact ih

theorem rename_declare (table : LabelTable) (name : String) (n : Nat) :
    (table.declare name n).rename rename = (table.rename rename).declare (rename name) n := by
  have hother : (fun entry : String × Nat => entry.1 != rename name) ∘
      (fun entry : String × Nat => (rename entry.1, entry.2)) = fun entry => entry.1 != name := by
    funext entry
    rw [Bool.eq_iff_iff, Function.comp, bne_iff_ne, bne_iff_ne, hinjective.ne_iff]
  simp only [declare, LabelTable.rename, List.map_cons, List.filter_map, hother]

end LabelTable

/-- Rows that are indented alike, with their bodies renamed. -/
structure Row.Renamed (rename : String → String) (row other : Row) : Prop where
  indented : other.indented = row.indented
  body : RenamedRow rename row.body other.body

section Programs

variable {rename : String → String}

theorem Token.Renamed.isMark_eq {token other : Token} (h : token.Renamed rename other) :
    Row.isMark other = Row.isMark token := by
  rw [Row.isMark, Row.isMark, h.kind]

theorem dropWhile_renamed {tokens others : List Token} (h : RenamedRow rename tokens others) :
    RenamedRow rename (tokens.dropWhile Row.isMark) (others.dropWhile Row.isMark) := by
  induction h with
  | nil => exact .nil
  | @cons token other tokens others htoken htail ih =>
      rw [List.dropWhile_cons, List.dropWhile_cons, htoken.isMark_eq]
      split
      · exact ih
      · exact .cons htoken htail

theorem isEmpty_renamed {tokens others : List Token} (h : RenamedRow rename tokens others) :
    others.isEmpty = tokens.isEmpty := by
  cases h with
  | nil => rfl
  | cons _ _ => rfl

theorem ofTokens_renamed {tokens others : List Token} (h : RenamedRow rename tokens others) :
    (Row.ofTokens tokens).Renamed rename (Row.ofTokens others) := by
  have hbody := dropWhile_renamed h
  refine ⟨?_, hbody⟩
  rw [Row.ofTokens, Row.ofTokens, isEmpty_renamed hbody]
  cases h with
  | nil => rfl
  | cons htoken _ => simp only [List.head?_cons, Option.map_some, htoken.isMark_eq]

theorem Row.Renamed.declared?_eq {row other : Row} (h : row.Renamed rename other) :
    other.declared? = row.declared?.map rename := by
  obtain ⟨_, body⟩ := row
  obtain ⟨_, others⟩ := other
  cases h.body with
  | nil => rfl
  | cons htoken _ =>
      simp only [Row.declared?, htoken.kind]
      split
      · rename_i hkind
        rw [htoken.literal_rename (.inl hkind), Option.map_some]
      · rfl

theorem collect_renamed (hinjective : Function.Injective rename) {rows others : List Row}
    (h : List.Forall₂ (Row.Renamed rename) rows others) (table : LabelTable) (n : Nat) :
    (table.rename rename).collect n others = (table.collect n rows).rename rename := by
  induction h generalizing table n with
  | nil => rfl
  | @cons row other rows others hrow _ ih =>
      have hnote : (table.rename rename).note n other = (table.note n row).rename rename := by
        rw [LabelTable.note, LabelTable.note, hrow.declared?_eq]
        cases row.declared? with
        | none => rfl
        | some name => exact (LabelTable.rename_declare hinjective table name n).symm
      rw [LabelTable.collect_cons, LabelTable.collect_cons, hnote, ih]

/-- Programs that are renamed row by row, and whose labels are those of the rows. -/
structure Program.Renamed (rename : String → String) (program other : Program) : Prop where
  size : other.size = program.size
  rows : ∀ n : Nat, Option.Rel (Row.Renamed rename) program.rows[n]? other.rows[n]?
  labels : other.labels = program.labels.rename rename

theorem Program.ofTokens_renamed (hinjective : Function.Injective rename)
    {rows others : List (List Token)} (h : List.Forall₂ (RenamedRow rename) rows others) :
    (Program.ofTokens rows).Renamed rename (Program.ofTokens others) := by
  have hrows : List.Forall₂ (Row.Renamed rename) (rows.map Row.ofTokens)
      (others.map Row.ofTokens) := by
    rw [List.forall₂_map_left_iff, List.forall₂_map_right_iff]
    exact h.imp fun _ _ => ToyRisc.ofTokens_renamed
  refine ⟨?_, ?_, ?_⟩
  · rw [Program.size_ofTokens, Program.size_ofTokens, h.length_eq]
  · intro n
    simpa [Program.ofTokens] using rel_getElem? hrows n
  · exact collect_renamed hinjective hrows .empty 0

theorem Program.Renamed.indentedAt_eq {program other : Program} (h : program.Renamed rename other)
    (n : Int) : other.indentedAt n = program.indentedAt n := by
  have hrow : other.rows[n.toNat]?.map Row.indented = program.rows[n.toNat]?.map Row.indented := by
    have hrel := h.rows n.toNat
    generalize program.rows[n.toNat]? = left at hrel
    generalize other.rows[n.toNat]? = right at hrel
    cases hrel with
    | none => rfl
    | some hrow => rw [Option.map_some, Option.map_some, hrow.indented]
  rw [Program.indentedAt, Program.indentedAt, hrow]

theorem Program.Renamed.leaveBody_eq {program other : Program} (h : program.Renamed rename other)
    (registers : RegisterFile) : other.leaveBody registers = program.leaveBody registers := by
  fun_induction program.leaveBody registers with
  | case1 registers hindented ih =>
      rw [Program.leaveBody, h.indentedAt_eq, dif_pos hindented, ih]
  | case2 registers hplain => rw [Program.leaveBody, h.indentedAt_eq, dif_neg hplain]

end Programs

section Execution

variable {rename : String → String} (hinjective : Function.Injective rename)
  (labels : LabelTable) (registers : RegisterFile) {first other : Token}
  {row others : List Token}

include hinjective

theorem jump_alike (h : first.Renamed rename other) (hkind : first.kind = .ident) :
    Alike Eq (labels.jump registers first) ((labels.rename rename).jump registers other) := by
  rw [LabelTable.jump_eq, LabelTable.jump_eq, h.literal_rename (.inr hkind),
    LabelTable.find?_rename hinjective]
  cases labels.find? first.literal with
  | some n => exact .ok rfl
  | none => exact .error rfl

theorem branch_alike (h : first.Renamed rename other)
    (hkind : first.kind = .ident ∨ first.kind = .immediate) :
    Alike Eq (labels.branch registers first) ((labels.rename rename).branch registers other) := by
  rw [LabelTable.branch_eq, LabelTable.branch_eq, h.kind]
  rcases hkind with hident | himmediate
  · rw [if_neg (by simp [hident]), if_neg (by simp [hident])]
    exact jump_alike hinjective labels registers h hident
  · rw [if_pos himmediate, if_pos himmediate]
    apply (immediate_alike h himmediate).bind
    rintro offset _ rfl
    exact .ok rfl

theorem instruction_alike (hfirst : first.Renamed rename other)
    (hrow : RenamedRow rename row others) (hkind : first.kind = .instruction) :
    Alike Eq (labels.instruction registers first row)
      ((labels.rename rename).instruction registers other others) := by
  have hliteral := hfirst.literal_eq (by simp [hkind]) (by simp [hkind])
  rw [LabelTable.instruction_eq, LabelTable.instruction_eq, hliteral]
  cases Opcode.ofMnemonic? first.literal with
  | none => exact .error rfl
  | some opcode =>
      apply (operands_alike opcode hrow).bind
      intro operands found h
      have hthird := h.third_kind
      cases hformat : opcode.format with
      | register =>
          rw [hformat, Format.lastKinds, List.mem_singleton] at hthird
          apply (fetch_alike registers h.second h.second_kind).bind
          rintro a _ rfl
          apply (fetch_alike registers h.third hthird).bind
          rintro b _ rfl
          exact store_alike registers _ h.first h.first_kind
      | immediate =>
          rw [hformat, Format.lastKinds, List.mem_singleton] at hthird
          apply (fetch_alike registers h.second h.second_kind).bind
          rintro a _ rfl
          apply (immediate_alike h.third hthird).bind
          rintro b _ rfl
          exact store_alike registers _ h.first h.first_kind
      | _ =>
          rw [hformat] at hthird
          apply (fetch_alike registers h.first h.first_kind).bind
          rintro a _ rfl
          apply (fetch_alike registers h.second h.second_kind).bind
          rintro b _ rfl
          split
          · exact branch_alike hinjective labels registers h.third
              (by simpa [Format.lastKinds] using hthird)
          · exact .ok rfl

theorem directive_alike (hfirst : first.Renamed rename other)
    (hrow : RenamedRow rename row others) (hkind : first.kind = .directive) :
    Alike Eq (labels.directive registers first row)
      ((labels.rename rename).directive registers other others) := by
  have hliteral := hfirst.literal_eq (by simp [hkind]) (by simp [hkind])
  rw [LabelTable.directive_eq, LabelTable.directive_eq]
  rw [hliteral]
  cases Directive.ofName? first.literal with
  | none => exact .error rfl
  | some directive =>
      by_cases hline : first.line = 1
      · simp only [if_pos hline, if_pos (hfirst.line.mpr hline)]
        apply (verifyFrom_alike .directive hrow .nowhere .nowhere).bind
        intro _ _ haccepts
        obtain ⟨label, hlabel, hlabelKind⟩ := haccepts 1 _ rfl
        match row, others, hrow with
        | _ :: _ :: _, _ :: _ :: _, .cons _ (.cons htoken _) =>
            cases hlabel
            exact jump_alike hinjective labels registers htoken
              (by simpa [Slot.accepts] using hlabelKind)
      · simp only [if_neg hline, if_neg (fun hother => hline (hfirst.line.mp hother))]
        exact .error rfl

end Execution

section Machines

variable {rename : String → String} (hinjective : Function.Injective rename)
  {program another : Program} (registers : RegisterFile) {first other : Token}
  {row others : List Token}

include hinjective

theorem execute_alike (h : program.Renamed rename another) (hfirst : first.Renamed rename other)
    (hrow : RenamedRow rename row others) :
    Alike Eq (program.execute registers first row) (another.execute registers other others) := by
  rw [Program.execute_eq, Program.execute_eq, h.labels, hfirst.kind]
  cases hkind : first.kind with
  | nop => exact .ok rfl
  | label => exact .ok (h.leaveBody_eq registers.advance).symm
  | instruction =>
      apply (instruction_alike hinjective program.labels registers hfirst hrow hkind).bind
      rintro moved _ rfl
      exact .ok rfl
  | directive =>
      apply (directive_alike hinjective program.labels registers hfirst hrow hkind).bind
      rintro moved _ rfl
      exact .ok rfl
  | _ => exact .error rfl

theorem executeGlobal_alike (h : program.Renamed rename another)
    (hfirst : first.Renamed rename other) (hrow : RenamedRow rename row others) :
    Alike Eq (program.executeGlobal registers first row)
      (another.executeGlobal registers other others) := by
  rw [Program.executeGlobal_eq, Program.executeGlobal_eq, h.labels, hfirst.kind]
  by_cases hkind : first.kind = .directive
  · rw [hfirst.literal_eq (by simp [hkind]) (by simp [hkind])]
    split
    · apply (directive_alike hinjective program.labels registers hfirst hrow hkind).bind
      rintro moved _ rfl
      exact .ok rfl
    · exact .error rfl
  · rw [if_neg (fun hglobal => hkind hglobal.1), if_neg (fun hglobal => hkind hglobal.1)]
    exact .error rfl

end Machines

/-- Verdicts to the same effect: the same registers, or faults of one kind. -/
inductive Verdict.Alike : Verdict → Verdict → Prop
  | finished : Alike .finished .finished
  | lost {cause other : Cause} (h : cause.kind = other.kind) : Alike (.lost cause) (.lost other)
  | refused {fault other : Fault} {place elsewhere : Position} (h : fault.kind = other.kind) :
      Alike (.refused fault place) (.refused other elsewhere)
  | executed {registers : RegisterFile} {place elsewhere : Position} :
      Alike (.executed registers place) (.executed registers elsewhere)

/-- What a failing step reports: a fault of some kind, or a snapshot that is lost. -/
inductive Failure where
  | refused (kind : FaultKind)
  | unwritten
  deriving DecidableEq, Repr

/-- The failure a step reports, if it reports one. -/
def Outcome.failure? : Outcome → Option Failure
  | executed _ => none
  | finished => none
  | refused fault => some (.refused fault.kind)
  | unwritten => some .unwritten

namespace Machine

/-- Whether a snapshot is lost depends on nothing but the settings. -/
theorem emit_failure? {left right : Machine} (h : left.settings = right.settings)
    (log otherLog : List LogLine) :
    (left.emit log).outcome.failure? = (right.emit otherLog).outcome.failure? := by
  rw [emit_outcome, emit_outcome, printing, printing, h]
  split
  · rfl
  · simp only [Outcome.failure?]

/-- Machines at the same point of a program and of the renamed one. -/
structure Renamed (rename : String → String) (machine other : Machine) : Prop where
  program : machine.program.Renamed rename other.program
  settings : other.settings = machine.settings
  registers : other.registers = machine.registers
  steps : other.steps = machine.steps

namespace Renamed

variable {rename : String → String} {machine other : Machine}

theorem done_eq (h : machine.Renamed rename other) : other.done = machine.done := by
  rw [done, done, counter, counter, h.program.size, h.registers]

theorem rowVerdict_alike (hinjective : Function.Injective rename)
    (h : machine.Renamed rename other) {first found : Token} {row others : List Token}
    (hfirst : first.Renamed rename found) (hrow : RenamedRow rename row others) :
    (machine.rowVerdict first row).Alike (other.rowVerdict found others) := by
  have hexecute : ToyRisc.Alike Eq (machine.execute first row) (other.execute found others) := by
    rw [execute_eq, execute_eq, counter, counter, h.settings, h.registers]
    split
    · exact executeGlobal_alike hinjective machine.registers h.program hfirst hrow
    · exact execute_alike hinjective machine.registers h.program hfirst hrow
  rw [rowVerdict, rowVerdict]
  generalize machine.execute first row = result at hexecute ⊢
  generalize other.execute found others = another at hexecute ⊢
  cases hexecute with
  | error hkind => exact .refused hkind
  | ok heq =>
      subst heq
      exact .executed

theorem verdict_alike (hinjective : Function.Injective rename)
    (h : machine.Renamed rename other) : machine.verdict.Alike other.verdict := by
  have hcounter : other.counter = machine.counter := by rw [counter, counter, h.registers]
  rw [verdict, verdict, h.done_eq, hcounter]
  split
  · exact .finished
  split
  · exact .lost rfl
  have hrows := h.program.rows machine.counter.toNat
  generalize machine.program.rows[machine.counter.toNat]? = row? at hrows ⊢
  generalize other.program.rows[machine.counter.toNat]? = found? at hrows ⊢
  cases hrows with
  | none => exact .lost rfl
  | @some row found hrow =>
      obtain ⟨_, body⟩ := row
      obtain ⟨_, others⟩ := found
      cases hrow.body with
      | nil => exact .lost rfl
      | cons hfirst hrest => exact h.rowVerdict_alike hinjective hfirst (.cons hfirst hrest)

theorem settled (h : machine.Renamed rename other) {verdict another : Verdict}
    (hverdict : verdict.Alike another) :
    (machine.settled verdict).Renamed rename (other.settled another) := by
  cases hverdict with
  | finished => exact h
  | lost hkind => exact h
  | refused hkind => exact ⟨h.program, h.settings, h.registers, h.steps⟩
  | executed => exact ⟨h.program, h.settings, rfl, congrArg (· + 1) h.steps⟩

theorem step (hinjective : Function.Injective rename) (h : machine.Renamed rename other) :
    machine.step.machine.Renamed rename other.step.machine := by
  rw [step_machine, step_machine]
  exact h.settled (h.verdict_alike hinjective)

theorem after (hinjective : Function.Injective rename) (h : machine.Renamed rename other)
    (n : Nat) : (machine.after n).Renamed rename (other.after n) := by
  induction n with
  | zero => exact h
  | succ n ih =>
      rw [after_succ, after_succ]
      exact ih.step hinjective

theorem conclude_failure? (h : machine.Renamed rename other) (log otherLog : List LogLine)
    {verdict another : Verdict} (hverdict : verdict.Alike another) :
    (other.conclude otherLog another).outcome.failure? =
      (machine.conclude log verdict).outcome.failure? := by
  cases hverdict with
  | finished => rfl
  | lost hkind => exact congrArg (some ∘ Failure.refused) hkind.symm
  | refused hkind => exact congrArg (some ∘ Failure.refused) hkind.symm
  | executed =>
      apply emit_failure?
      exact h.settings

/-- A step fails with the one machine as it fails with the other. -/
theorem failure?_eq (hinjective : Function.Injective rename) (h : machine.Renamed rename other) :
    other.step.outcome.failure? = machine.step.outcome.failure? := by
  obtain ⟨log, hstep⟩ := machine.exists_step_eq_conclude
  obtain ⟨otherLog, hother⟩ := other.exists_step_eq_conclude
  rw [hstep, hother]
  exact h.conclude_failure? log otherLog (h.verdict_alike hinjective)

end Renamed

end Machine

/-- Names and places have no part in execution.  Let two programs have the same tokens but
for their places, of which only being on line 1 has to agree, and but for the names of
labels, which one injective function renames throughout.  Then the table of labels is
renamed, and after any number of steps the registers, the count of rows and whether the
program is done are the same, and the next step fails with both or with neither, and for
the same kind of fault. -/
theorem execution_ignores_names_and_places (rename : String → String)
    (hinjective : Function.Injective rename) (rows others : List (List Token))
    (hrenamed : List.Forall₂ (List.Forall₂ (Token.Renamed rename)) rows others)
    (settings : Settings) :
    (Program.ofTokens others).labels = (Program.ofTokens rows).labels.rename rename ∧
    ∀ k,
      ((Machine.start (.ofTokens others) settings).after k).registers =
        ((Machine.start (.ofTokens rows) settings).after k).registers ∧
      ((Machine.start (.ofTokens others) settings).after k).steps =
        ((Machine.start (.ofTokens rows) settings).after k).steps ∧
      ((Machine.start (.ofTokens others) settings).after k).done =
        ((Machine.start (.ofTokens rows) settings).after k).done ∧
      ((Machine.start (.ofTokens others) settings).after k).step.outcome.failure? =
        ((Machine.start (.ofTokens rows) settings).after k).step.outcome.failure? := by
  have hprogram := Program.ofTokens_renamed hinjective hrenamed
  have hstart : (Machine.start (.ofTokens rows) settings).Renamed rename
      (Machine.start (.ofTokens others) settings) := ⟨hprogram, rfl, rfl, rfl⟩
  refine ⟨hprogram.labels, ?_⟩
  intro k
  have hlater := hstart.after hinjective k
  exact ⟨hlater.registers, hlater.steps, hlater.done_eq, hlater.failure?_eq hinjective⟩

/-- A label, and a branch to another one, which no row declares. -/
def lostTarget : List (List Token) :=
  [[⟨.label, "here", 1, 1⟩],
    [⟨.instruction, "beq", 2, 1⟩, ⟨.register, "0", 2, 5⟩, ⟨.comma, "", 2, 7⟩,
      ⟨.register, "0", 2, 9⟩, ⟨.comma, "", 2, 11⟩, ⟨.ident, "there", 2, 13⟩]]

/-- The same program with both names changed, and its second row moved. -/
def lostTargetRenamed : List (List Token) :=
  [[⟨.label, "_here", 1, 3⟩],
    [⟨.instruction, "beq", 9, 4⟩, ⟨.register, "0", 9, 8⟩, ⟨.comma, "", 9, 10⟩,
      ⟨.register, "0", 9, 12⟩, ⟨.comma, "", 9, 14⟩, ⟨.ident, "_there", 8, 1⟩]]

theorem lostTarget_renamed :
    List.Forall₂ (List.Forall₂ (Token.Renamed ("_" ++ ·))) lostTarget lostTargetRenamed := by
  decide +kernel

/-- Either program declares its label in row 0, and misses the other in its second step. -/
theorem lostTarget_fails_renamed :
    (Program.ofTokens lostTargetRenamed).labels = ⟨[("_here", 0)]⟩ ∧
      ((Machine.start (.ofTokens lostTargetRenamed) { enforceGlobal := false }).after
          1).step.outcome.failure? = some (.refused .unknownLabel) := by
  obtain ⟨hlabels, hruns⟩ := execution_ignores_names_and_places ("_" ++ ·)
    (fun _ _ h => (String.append_right_inj "_").mp h) lostTarget lostTargetRenamed
    lostTarget_renamed { enforceGlobal := false }
  obtain ⟨_, _, _, hfailure⟩ := hruns 1
  exact ⟨hlabels.trans (by decide +kernel), hfailure.trans (by decide +kernel)⟩

end ToyRisc
