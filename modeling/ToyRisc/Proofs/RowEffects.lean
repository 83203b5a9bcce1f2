/-
What executing a row can come to.  A row that is executed writes one register or moves
the program counter, and then the program counter goes on; a row that is refused is
refused for one of its tokens.  Every function that takes part is gone through once,
for its values and its faults together.
-/
import ToyRisc.Proofs.Stepping

namespace ToyRisc

/-- Whether a result is a value with one property or a fault with another. -/
def Obeys {α : Type} (P : α → Prop) (E : Fault → Prop) : Except Fault α → Prop
  | .ok value => P value
  | .error fault => E fault

namespace Obeys

variable {α β : Type} {P Q : α → Prop} {R : β → Prop} {E : Fault → Prop}

theorem bind {result : Except Fault α} {next : α → Except Fault β} (hresult : Obeys P E result)
    (hnext : ∀ value, P value → Obeys R E (next value)) : Obeys R E (result >>= next) := by
  cases result with
  | error fault => exact hresult
  | ok value => exact hnext value hresult

theorem mono {result : Except Fault α} (h : Obeys P E result) (hPQ : ∀ value, P value → Q value) :
    Obeys Q E result := by
  cases result with
  | error fault => exact h
  | ok value => exact hPQ value h

theorem of_ok {result : Except Fault α} (h : Obeys P E result) {value : α}
    (hvalue : result = .ok value) : P value := by
  subst hvalue
  exact h

theorem of_error {result : Except Fault α} (h : Obeys P E result) {fault : Fault}
    (hfault : result = .error fault) : E fault := by
  subst hfault
  exact h

end Obeys

/-- What a row with this first token can be refused for, and where. -/
inductive RowFault (first : Token) (row : List Token) : Fault → Prop
  | unexpectedToken : RowFault first row ⟨.unexpectedToken first.kind, first.position⟩
  | missingGlobal : RowFault first row ⟨.missingGlobal first.kind, first.position⟩
  | unknownDirective : RowFault first row ⟨.unknownDirective first.literal, first.position⟩
  | misplacedDirective : RowFault first row ⟨.misplacedDirective first.literal, first.position⟩
  | unknownInstruction (hkind : first.kind = .instruction)
      (hopcode : Opcode.ofMnemonic? first.literal = none) :
      RowFault first row ⟨.unknownInstruction first.literal, first.position⟩
  | missingOperand (slot : Slot) (place : Position) :
      RowFault first row ⟨.missingOperand slot, place⟩
  | wrongOperand {token : Token} (hmem : token ∈ row) (slot : Slot) :
      RowFault first row ⟨.wrongOperand slot token.kind, token.position⟩
  | registerName {token : Token} (hmem : token ∈ row) (hkind : token.kind = .register)
      (hindex : ∀ index, Decimal.readSigned 64 token.literal.toList ≠ .ok index) :
      RowFault first row ⟨.registerName token.literal, token.position⟩
  | registerAccess {token : Token} (hmem : token ∈ row) (error : RegisterError) :
      RowFault first row ⟨.registerAccess error, token.position⟩
  | immediateRange {token : Token} (hmem : token ∈ row) :
      RowFault first row ⟨.immediateRange token.literal, token.position⟩
  | unknownLabel {token : Token} (hmem : token ∈ row) :
      RowFault first row ⟨.unknownLabel token.literal, token.position⟩

/-- What a row can do to the registers before the program counter goes on. -/
inductive RegisterFile.Moves (registers : RegisterFile) : RegisterFile → Prop
  | stays : Moves registers registers
  | writes {index : Int} {value : Int32} {changed : RegisterFile}
      (h : registers.write index value = .ok changed) : Moves registers changed
  | jumps (target : Int32) : Moves registers (registers.goto target)

section Operands

variable (first : Token) {row : List Token}

theorem registerIndex_obeys {token : Token} (hmem : token ∈ row) (hkind : token.kind = .register) :
    Obeys (fun _ => True) (RowFault first row) token.registerIndex := by
  unfold Token.registerIndex
  split
  · trivial
  · rename_i found hread
    refine .registerName hmem hkind ?_
    intro index hindex
    rw [hread] at hindex
    cases hindex

theorem guard_obeys {α : Type} {token : Token} (hmem : token ∈ row)
    (result : Except RegisterError α) :
    Obeys (fun value => result = .ok value) (RowFault first row) (token.guard result) := by
  cases result with
  | ok value => rfl
  | error found => exact .registerAccess hmem found

theorem fetch_obeys (registers : RegisterFile) {token : Token} (hmem : token ∈ row)
    (hkind : token.kind = .register) :
    Obeys (fun _ => True) (RowFault first row) (registers.fetch token) :=
  (registerIndex_obeys first hmem hkind).bind fun _ _ =>
    (guard_obeys first hmem _).mono fun _ _ => trivial

theorem store_obeys (registers : RegisterFile) {token : Token} (value : Int32)
    (hmem : token ∈ row) (hkind : token.kind = .register) :
    Obeys registers.Moves (RowFault first row) (registers.store token value) := by
  rw [RegisterFile.store_eq]
  exact (registerIndex_obeys first hmem hkind).bind fun _ _ =>
    (guard_obeys first hmem _).mono fun _ hwrite => .writes hwrite

theorem immediate_obeys {token : Token} (hmem : token ∈ row) :
    Obeys (fun _ => True) (RowFault first row) token.immediate := by
  unfold Token.immediate
  split
  · trivial
  · exact .immediateRange hmem

theorem verifyFrom_obeys (last : Position) (pattern : Pattern) {tokens : List Token}
    (hmem : ∀ token ∈ tokens, token ∈ row) :
    Obeys (fun _ => True) (RowFault first row) (pattern.verifyFrom last tokens) := by
  induction pattern generalizing last tokens with
  | nil => trivial
  | cons slot slots ih =>
      cases tokens with
      | nil => exact .missingOperand slot last
      | cons token tokens =>
          unfold Pattern.verifyFrom
          split
          · exact ih token.position fun other hother => hmem other (List.mem_cons_of_mem _ hother)
          · exact .wrongOperand (hmem token List.mem_cons_self) slot

theorem verifyFrom_cons_eq_ok {last : Position} {slot : Slot} {slots : Pattern}
    {tokens : List Token} (h : Pattern.verifyFrom last (slot :: slots) tokens = .ok ()) :
    ∃ token rest, tokens = token :: rest ∧ slot.accepts token.kind = true ∧
      Pattern.verifyFrom token.position slots rest = .ok () := by
  cases tokens with
  | nil => cases h
  | cons token rest =>
      unfold Pattern.verifyFrom at h
      split at h
      · rename_i haccepts
        exact ⟨token, rest, rfl, haccepts, h⟩
      · cases h

/-- Operands that are tokens of the row, of kinds that go with the format. -/
structure Operands.FitRow (operands : Operands) (format : Format) (row : List Token) : Prop where
  first_mem : operands.first ∈ row
  second_mem : operands.second ∈ row
  third_mem : operands.third ∈ row
  first_kind : operands.first.kind = .register
  second_kind : operands.second.kind = .register
  third_kind : format = .register → operands.third.kind = .register

/-- The kinds that fit the last operand of a format. -/
def Format.lastKinds : Format → List Kind
  | register => [.register]
  | immediate => [.immediate]
  | _ => [.ident, .immediate]

theorem Format.pattern_eq (format : Format) :
    format.pattern = .threeOperands format.lastKinds := by
  cases format <;> rfl

theorem accepts_singleton_iff (kind found : Kind) :
    Slot.accepts ⟨[kind]⟩ found = true ↔ found = kind := by
  simp [Slot.accepts]

/-- A row that matches the pattern of three operands has them. -/
theorem fitRow_of_verify {format : Format} (h : format.pattern.verify row = .ok ()) :
    ∃ operands, Operands.ofRow? row = some operands ∧ operands.FitRow format row := by
  rw [format.pattern_eq] at h
  obtain ⟨mnemonic, row₁, rfl, _, h⟩ := verifyFrom_cons_eq_ok h
  obtain ⟨a, row₂, rfl, ha, h⟩ := verifyFrom_cons_eq_ok h
  obtain ⟨comma₁, row₃, rfl, _, h⟩ := verifyFrom_cons_eq_ok h
  obtain ⟨b, row₄, rfl, hb, h⟩ := verifyFrom_cons_eq_ok h
  obtain ⟨comma₂, row₅, rfl, _, h⟩ := verifyFrom_cons_eq_ok h
  obtain ⟨c, rest, rfl, hc, _⟩ := verifyFrom_cons_eq_ok h
  refine ⟨⟨a, b, c⟩, rfl, by simp, by simp, by simp, (accepts_singleton_iff _ _).mp ha,
    (accepts_singleton_iff _ _).mp hb, ?_⟩
  intro hformat
  rw [hformat, Format.lastKinds, accepts_singleton_iff] at hc
  exact hc

theorem operands_obeys (opcode : Opcode) (row : List Token) :
    Obeys (fun operands => operands.FitRow opcode.format row) (RowFault first row)
      (opcode.operands row) := by
  have hfaults : Obeys (fun _ => True) (RowFault first row) (opcode.format.pattern.verify row) :=
    verifyFrom_obeys first .nowhere opcode.format.pattern fun _ hmem => hmem
  unfold Opcode.operands
  cases hverify : opcode.format.pattern.verify row with
  | error fault => exact hfaults.of_error hverify
  | ok _ =>
      obtain ⟨operands, hoperands, hfit⟩ := fitRow_of_verify hverify
      simp only [hoperands]
      exact hfit

end Operands

section Rows

variable (labels : LabelTable) (program : Program) (registers : RegisterFile) {first : Token}
  {row : List Token}

theorem jump_obeys {label : Token} (hmem : label ∈ row) :
    Obeys registers.Moves (RowFault first row) (labels.jump registers label) := by
  rw [LabelTable.jump_eq]
  split
  · exact .jumps _
  · exact .unknownLabel hmem

theorem branch_obeys {target : Token} (hmem : target ∈ row) :
    Obeys registers.Moves (RowFault first row) (labels.branch registers target) := by
  rw [LabelTable.branch_eq]
  split
  · exact (immediate_obeys first hmem).bind fun _ _ => .jumps _
  · exact jump_obeys labels registers hmem

theorem instruction_obeys (hkind : first.kind = .instruction) :
    Obeys registers.Moves (RowFault first row) (labels.instruction registers first row) := by
  rw [LabelTable.instruction_eq]
  split
  · rename_i hopcode
    exact .unknownInstruction hkind hopcode
  rename_i opcode hopcode
  apply (operands_obeys first opcode row).bind
  intro operands hfit
  split
  · rename_i hformat
    exact (fetch_obeys first registers hfit.second_mem hfit.second_kind).bind fun _ _ =>
      (fetch_obeys first registers hfit.third_mem (hfit.third_kind hformat)).bind fun _ _ =>
        store_obeys first registers _ hfit.first_mem hfit.first_kind
  · exact (fetch_obeys first registers hfit.second_mem hfit.second_kind).bind fun _ _ =>
      (immediate_obeys first hfit.third_mem).bind fun _ _ =>
        store_obeys first registers _ hfit.first_mem hfit.first_kind
  · apply (fetch_obeys first registers hfit.first_mem hfit.first_kind).bind
    intro a _
    apply (fetch_obeys first registers hfit.second_mem hfit.second_kind).bind
    intro b _
    split
    · exact branch_obeys labels registers hfit.third_mem
    · exact .stays

theorem directive_obeys :
    Obeys registers.Moves (RowFault first row) (labels.directive registers first row) := by
  rw [LabelTable.directive_eq]
  split
  · exact .unknownDirective
  split
  · apply (verifyFrom_obeys first .nowhere .directive fun _ hmem => hmem).bind
    intro _ _
    split
    · exact jump_obeys labels registers (by simp)
    · exact .missingOperand _ _
  · exact .misplacedDirective

/-- The registers after a row: those of a move, with the program counter anywhere. -/
def RegisterFile.Leads (changed : RegisterFile) : Prop :=
  ∃ moved target, registers.Moves moved ∧ changed = moved.goto target

theorem execute_obeys :
    Obeys registers.Leads (RowFault first row) (program.execute registers first row) := by
  have hadvance : ∀ moved, registers.Moves moved → registers.Leads moved.advance :=
    fun moved hmoved => ⟨moved, _, hmoved, rfl⟩
  rw [Program.execute_eq]
  split
  · exact hadvance registers .stays
  · obtain ⟨target, htarget⟩ := program.exists_leaveBody_eq_goto registers.advance
    exact ⟨registers.advance, target, .jumps _, htarget⟩
  · rename_i hkind
    exact (instruction_obeys program.labels registers hkind).bind hadvance
  · exact (directive_obeys program.labels registers).bind hadvance
  · exact .unexpectedToken

theorem executeGlobal_obeys :
    Obeys registers.Leads (RowFault first row) (program.executeGlobal registers first row) := by
  rw [Program.executeGlobal_eq]
  split
  · exact (directive_obeys program.labels registers).bind fun moved hmoved =>
      ⟨moved, _, hmoved, rfl⟩
  · exact .missingGlobal

end Rows

/-- What a row can do and what it can be refused for. -/
theorem Machine.execute_obeys (machine : Machine) (first : Token) (row : List Token) :
    Obeys machine.registers.Leads (RowFault first row) (machine.execute first row) := by
  rw [Machine.execute_eq]
  split
  · exact executeGlobal_obeys machine.program machine.registers
  · exact ToyRisc.execute_obeys machine.program machine.registers

/-- Whether the tokens of a row can be the cause: that the program counter left the
program or stands on an empty row is found before a row is executed, and what the
lexer and the expressions of a line refuse never gets into a program. -/
def Cause.liesInRow : Cause → Bool
  | illegalCharacter _ => false
  | counterOutside _ => false
  | emptyRow _ => false
  | notImmediate _ => false
  | noValue _ => false
  | _ => true

theorem RowFault.liesInRow {first : Token} {row : List Token} {fault : Fault}
    (h : RowFault first row fault) : fault.cause.liesInRow = true := by
  cases h <;> rfl

namespace Machine

theorem leads_of_verdict {machine : Machine} {registers : RegisterFile} {place : Position}
    (h : machine.verdict = .executed registers place) : machine.registers.Leads registers := by
  obtain ⟨_, row, first, rest, _, _, _, hverdict⟩ :=
    machine.exists_row_of_verdict (by simp [h]) (by simp [h])
  have hexecute := execute_of_rowVerdict_executed (hverdict.symm.trans h)
  exact (machine.execute_obeys first (first :: rest)).of_ok hexecute

theorem rowFault_of_verdict {machine : Machine} {fault : Fault} {place : Position}
    (h : machine.verdict = .refused fault place) :
    ∃ (n : Nat) (row : Row) (first : Token) (rest : List Token), machine.counter = n ∧
      machine.program.rows[n]? = some row ∧ row.body = first :: rest ∧
        RowFault first (first :: rest) fault := by
  obtain ⟨n, row, first, rest, hn, hrow, hbody, hverdict⟩ :=
    machine.exists_row_of_verdict (by simp [h]) (by simp [h])
  have hexecute := execute_of_rowVerdict_refused (hverdict.symm.trans h)
  exact ⟨n, row, first, rest, hn, hrow, hbody,
    (machine.execute_obeys first (first :: rest)).of_error hexecute⟩

theorem liesInRow_of_lost {machine : Machine} {cause : Cause} (h : machine.verdict = .lost cause) :
    cause.liesInRow = false := by
  rcases machine.verdict_cases with ⟨_, hverdict⟩ | ⟨_, hverdict⟩ | ⟨n, row, _, _, hverdict⟩
  · rw [hverdict] at h
    cases h
  · rw [hverdict] at h
    cases h
    rfl
  · rw [hverdict] at h
    cases hbody : row.body with
    | nil =>
        rw [hbody] at h
        cases h
        rfl
    | cons first rest =>
        rw [hbody, bodyVerdict, rowVerdict] at h
        split at h
        · cases h
        · cases h

/-- A step is refused for what stands in its row, or because it finds no row to execute. -/
theorem rowFault_of_refused {machine : Machine} {fault : Fault}
    (h : machine.step.outcome = .refused fault) (hlies : fault.cause.liesInRow = true) :
    ∃ (n : Nat) (row : Row) (first : Token) (rest : List Token), machine.counter = n ∧
      machine.program.rows[n]? = some row ∧ row.body = first :: rest ∧
        RowFault first (first :: rest) fault := by
  obtain ⟨place, hrefusal⟩ := exists_refusal_of_refused h
  cases hverdict : machine.verdict with
  | finished => simp [hverdict, Verdict.refusal?] at hrefusal
  | lost cause =>
      simp only [hverdict, Verdict.refusal?, Option.some.injEq, Prod.mk.injEq] at hrefusal
      rw [← hrefusal.1, liesInRow_of_lost hverdict] at hlies
      cases hlies
  | refused found start =>
      simp only [hverdict, Verdict.refusal?, Option.some.injEq, Prod.mk.injEq] at hrefusal
      rw [← hrefusal.1]
      exact rowFault_of_verdict hverdict
  | executed registers start => simp [hverdict, Verdict.refusal?] at hrefusal

end Machine

end ToyRisc
