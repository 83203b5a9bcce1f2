/-
Instructions.  A row tells its opcode and its operands, and every operand tells a number, a
register or a label, whatever the registers hold; only whether a branch is taken, and with
it whether its target is looked at, depends on them.  The functions that execute an
instruction are gone through once, for the registers they leave and for the order in which
they find faults.
-/
import ToyRisc.Proofs.FirstFault
import ToyRisc.Proofs.Numerals

namespace ToyRisc

namespace Token

/-- The number that the literal of a token stands for. -/
def number? (token : Token) : Option Int := Decimal.integer? token.literal.toList

/-- The word that the literal of a token stands for. -/
def word? (token : Token) : Option Int32 :=
  token.number?.bind fun number =>
    if -2 ^ 31 ≤ number ∧ number < 2 ^ 31 then some (Int32.ofInt number) else none

/-- The index of the register that a token names, where the first one is `least`. -/
def index? (least : Int) (token : Token) : Option Int :=
  token.number?.filter fun index => least ≤ index ∧ index ≤ pcIndex

/-- Why a token is refused that does not name a register. -/
def registerCause (token : Token) : Cause :=
  match token.number? with
  | some index =>
      if index = 0 then .registerAccess .constant
      else if -2 ^ 63 ≤ index ∧ index < 2 ^ 63 then .registerAccess (.bounds index)
      else .registerName token.literal
  | none => .registerName token.literal

/-- What is wrong with a token that has to name a register from `least` on. -/
def registerFault? (least : Int) (token : Token) : Option Fault :=
  if (token.index? least).isSome then none else some ⟨token.registerCause, token.position⟩

/-- What is wrong with a token that has to stand for a word. -/
def wordFault? (token : Token) : Option Fault :=
  if token.word?.isSome then none else some ⟨.immediateRange token.literal, token.position⟩

theorem index?_eq_some_iff {least index : Int} {token : Token} :
    token.index? least = some index ↔
      token.number? = some index ∧ least ≤ index ∧ index ≤ pcIndex := by
  simp [index?, Option.filter_eq_some_iff]

theorem word?_eq_some_iff {word : Int32} {token : Token} :
    token.word? = some word ↔ ∃ number, token.number? = some number ∧
      (-2 ^ 31 ≤ number ∧ number < 2 ^ 31) ∧ Int32.ofInt number = word := by
  simp [word?, Option.bind_eq_some_iff]

/-- A name is read if its number has 64 bits; otherwise the token is refused. -/
theorem registerIndex_cases (token : Token) :
    (∃ index, token.number? = some index ∧ (-2 ^ 63 ≤ index ∧ index < 2 ^ 63) ∧
      token.registerIndex = .ok index) ∨
    ((∀ index, token.number? = some index → ¬ (-2 ^ 63 ≤ index ∧ index < 2 ^ 63)) ∧
      token.registerIndex = .error ⟨.registerName token.literal, token.position⟩) := by
  unfold registerIndex
  cases hread : Decimal.readSigned 64 token.literal.toList with
  | ok index =>
      obtain ⟨hnumber, hrange⟩ := (Decimal.readSigned_eq_ok_iff (by decide)).mp hread
      exact .inl ⟨index, hnumber, hrange, rfl⟩
  | error reason =>
      refine .inr ⟨?_, rfl⟩
      intro index hnumber hrange
      have hok : Decimal.readSigned 64 token.literal.toList = .ok index :=
        (Decimal.readSigned_eq_ok_iff (by decide)).mpr ⟨hnumber, hrange⟩
      rw [hok] at hread
      cases hread

section Access

variable {least : Int} {token : Token}

theorem registerFault?_of_named {index : Int} (h : token.index? least = some index) :
    token.registerFault? least = none := by
  simp [registerFault?, h]

theorem registerFault?_of_outside {index : Int} (hnumber : token.number? = some index)
    (hrange : -2 ^ 63 ≤ index ∧ index < 2 ^ 63) (h : ¬ (least ≤ index ∧ index ≤ pcIndex)) :
    token.registerFault? least =
      some ⟨.registerAccess (if index = 0 then .constant else .bounds index),
        token.position⟩ := by
  have hunnamed : token.index? least = none := by
    rw [index?, hnumber]
    simpa using h
  simp only [registerFault?, hunnamed, registerCause, hnumber, if_pos hrange]
  by_cases hzero : index = 0
  · simp [hzero]
  · simp [hzero]

theorem registerFault?_of_unread (hleast : 0 ≤ least)
    (h : ∀ index, token.number? = some index → ¬ (-2 ^ 63 ≤ index ∧ index < 2 ^ 63)) :
    token.registerFault? least = some ⟨.registerName token.literal, token.position⟩ := by
  have hunnamed : token.index? least = none := by
    rw [← Option.not_isSome_iff_eq_none, Option.isSome_iff_exists]
    rintro ⟨index, hindex⟩
    obtain ⟨hnumber, hlow, hhigh⟩ := index?_eq_some_iff.mp hindex
    rw [pcIndex] at hhigh
    exact h index hnumber (by omega)
  simp only [registerFault?, hunnamed, registerCause]
  cases hnumber : token.number? with
  | none => rfl
  | some index =>
      have hwide := h index hnumber
      have hzero : index ≠ 0 := by omega
      simp only [if_neg hzero, if_neg hwide]
      rfl

/-- Reading and writing differ in the first register they take, and in nothing else. -/
theorem access_reports {α : Type} (hleast : 0 ≤ least) (token : Token)
    (access : Int → Except RegisterError α)
    (hinside : ∀ index, least ≤ index → index ≤ pcIndex → ∃ value, access index = .ok value)
    (houtside : ∀ index, ¬ (least ≤ index ∧ index ≤ pcIndex) →
      access index = .error (if index = 0 then .constant else .bounds index)) :
    Reports [token.registerFault? least]
      (fun value => ∃ index, token.index? least = some index ∧ access index = .ok value)
      (token.registerIndex >>= fun index => token.guard (access index)) := by
  rcases token.registerIndex_cases with ⟨index, hnumber, hrange, hread⟩ | ⟨hrange, hread⟩
  · rw [hread]
    change Reports _ _ (token.guard (access index))
    by_cases hindex : least ≤ index ∧ index ≤ pcIndex
    · have hnamed : token.index? least = some index := index?_eq_some_iff.mpr ⟨hnumber, hindex⟩
      obtain ⟨value, hvalue⟩ := hinside index hindex.1 hindex.2
      rw [hvalue, registerFault?_of_named hnamed]
      exact ⟨⟨index, hnamed, hvalue⟩, rfl⟩
    · rw [houtside index hindex, registerFault?_of_outside hnumber hrange hindex]
      exact rfl
  · rw [hread, registerFault?_of_unread hleast hrange]
    exact rfl

end Access

theorem immediate_reports (token : Token) :
    Reports [token.wordFault?] (fun word => token.word? = some word) token.immediate := by
  unfold immediate
  cases hread : Decimal.readSigned 32 token.literal.toList with
  | ok number =>
      have hnumber := (Decimal.readSigned_eq_ok_iff (by decide)).mp hread
      have hword : token.word? = some (Int32.ofInt number) :=
        word?_eq_some_iff.mpr ⟨number, hnumber.1, hnumber.2, rfl⟩
      exact ⟨hword, by simp [firstFault, wordFault?, hword]⟩
  | error reason =>
      have hword : token.word? = none := by
        rw [← Option.not_isSome_iff_eq_none, Option.isSome_iff_exists]
        rintro ⟨word, hword⟩
        obtain ⟨number, hnumber, hrange, _⟩ := word?_eq_some_iff.mp hword
        have hok : Decimal.readSigned 32 token.literal.toList = .ok number :=
          (Decimal.readSigned_eq_ok_iff (by decide)).mpr ⟨hnumber, hrange⟩
        rw [hok] at hread
        cases hread
      have hfault : token.wordFault? = some ⟨.immediateRange token.literal, token.position⟩ := by
        simp [wordFault?, hword]
      rw [hfault]
      exact rfl

end Token

namespace RegisterFile

/-- The value of the register that a token names. -/
def value? (registers : RegisterFile) (token : Token) : Option Int32 :=
  (token.index? 0).bind fun index => (registers.read index).toOption

theorem fetch_reports (registers : RegisterFile) (token : Token) :
    Reports [token.registerFault? 0] (fun value => registers.value? token = some value)
      (registers.fetch token) := by
  have haccess := token.access_reports (Int.le_refl 0) registers.read
    (fun index hlow hhigh => by
      have hbounds : 0 ≤ index ∧ index < 33 := ⟨hlow, by rw [pcIndex] at hhigh; omega⟩
      exact ⟨_, by rw [read, dif_pos hbounds]⟩)
    (fun index hindex => by
      have hbounds : ¬ (0 ≤ index ∧ index < 33) := by rw [pcIndex] at hindex; omega
      have hzero : index ≠ 0 := by omega
      rw [read, dif_neg hbounds, if_neg hzero])
  refine haccess.mono ?_
  rintro value ⟨index, hindex, hread⟩
  rw [value?, hindex, Option.bind_some, hread]
  rfl

theorem store_reports (registers : RegisterFile) (token : Token) (value : Int32) :
    Reports [token.registerFault? 1]
      (fun moved => ∃ index, token.index? 1 = some index ∧ registers.write index value = .ok moved)
      (registers.store token value) := by
  rw [store_eq]
  refine token.access_reports (by decide) (registers.write · value) ?_ ?_
  · intro index hlow hhigh
    have hzero : index ≠ 0 := by omega
    have hbounds : 0 ≤ index ∧ index < 33 := by rw [pcIndex] at hhigh; omega
    exact ⟨_, by rw [write_eq, if_neg hzero, dif_pos hbounds]⟩
  · intro index hindex
    by_cases hzero : index = 0
    · rw [write_eq, if_pos hzero, if_pos hzero]
    · have hbounds : ¬ (0 ≤ index ∧ index < 33) := by rw [pcIndex] at hindex; omega
      rw [write_eq, if_neg hzero, dif_neg hbounds, if_neg hzero]

end RegisterFile

theorem Opcode.format_ne_other (opcode : Opcode) (code : Int) : opcode.format ≠ .other code := by
  cases opcode with
  | other found =>
      rw [format]
      split
      · simp
      · simp
  | _ => simp [format]

deriving instance DecidableEq for Operands

/-- An instruction as its row tells it. -/
structure Instruction where
  opcode : Opcode
  operands : Operands
  deriving DecidableEq

/-- The instruction of a row that opens with the mnemonic of an opcode and goes on with
operands of the kinds that its format asks for. -/
def Instruction.ofRow? : List Token → Option Instruction
  | mnemonic :: first :: comma :: second :: another :: third :: _ =>
      if [mnemonic, first, comma, second, another].map Token.kind =
          [.instruction, .register, .comma, .register, .comma] then
        (Opcode.ofMnemonic? mnemonic.literal).bind fun opcode =>
          if third.kind ∈ opcode.format.lastKinds then some ⟨opcode, ⟨first, second, third⟩⟩
          else none
      else none
  | _ => none

/-- What a row has in the places of its instruction. -/
structure Instruction.Fills (instruction : Instruction) (row : List Token) : Prop where
  mnemonic : ∃ first, row[0]? = some first ∧ first.kind = .instruction ∧
    Opcode.ofMnemonic? first.literal = some instruction.opcode
  first : row[1]? = some instruction.operands.first
  second : row[3]? = some instruction.operands.second
  third : row[5]? = some instruction.operands.third
  third_kind : instruction.operands.third.kind ∈ instruction.opcode.format.lastKinds

theorem Instruction.fills_of_ofRow? {row : List Token} {instruction : Instruction}
    (h : Instruction.ofRow? row = some instruction) : instruction.Fills row := by
  unfold ofRow? at h
  split at h
  · split at h
    · rename_i hkinds
      obtain ⟨opcode, hopcode, h⟩ := Option.bind_eq_some_iff.mp h
      split at h
      · rename_i hthird
        cases h
        exact ⟨⟨_, rfl, (List.cons.inj hkinds).1, hopcode⟩, rfl, rfl, rfl, hthird⟩
      · cases h
    · cases h
  · cases h

theorem Instruction.first_kind_of_ofRow? {first : Token} {rest : List Token}
    {instruction : Instruction} (h : ofRow? (first :: rest) = some instruction) :
    first.kind = .instruction := by
  obtain ⟨mnemonic, hmnemonic, hkind, _⟩ := (fills_of_ofRow? h).mnemonic
  cases hmnemonic
  exact hkind

/-- Operands are found where the row is that of an instruction with this opcode. -/
theorem operands_reports {first : Token} {rest : List Token} {opcode : Opcode}
    (hopcode : Opcode.ofMnemonic? first.literal = some opcode) :
    Reports (opcode.format.pattern.faults (first :: rest))
      (fun operands => Instruction.ofRow? (first :: rest) = some ⟨opcode, operands⟩)
      (opcode.operands (first :: rest)) := by
  have hverify := opcode.format.pattern.verify_reports (first :: rest)
  unfold Opcode.operands
  cases hresult : opcode.format.pattern.verify (first :: rest) with
  | error fault =>
      rw [hresult] at hverify
      exact hverify
  | ok _ =>
      rw [hresult] at hverify
      rw [opcode.format.pattern_eq] at hresult
      obtain ⟨mnemonic, row₁, hrow, hmnemonic, h⟩ := verifyFrom_cons_eq_ok hresult
      obtain ⟨rfl, rfl⟩ := List.cons.inj hrow
      obtain ⟨a, row₂, rfl, ha, h⟩ := verifyFrom_cons_eq_ok h
      obtain ⟨comma, row₃, rfl, hcomma, h⟩ := verifyFrom_cons_eq_ok h
      obtain ⟨b, row₄, rfl, hb, h⟩ := verifyFrom_cons_eq_ok h
      obtain ⟨another, row₅, rfl, hanother, h⟩ := verifyFrom_cons_eq_ok h
      obtain ⟨c, row₆, rfl, hc, _⟩ := verifyFrom_cons_eq_ok h
      rw [accepts_singleton_iff] at hmnemonic ha hcomma hb hanother
      have hthird : c.kind ∈ opcode.format.lastKinds := by simpa [Slot.accepts] using hc
      refine ⟨?_, hverify.2⟩
      simp [Instruction.ofRow?, hmnemonic, ha, hcomma, hb, hanother, hopcode, hthird]

namespace RegisterFile

/-- The second argument of an arithmetic instruction: a register or an immediate. -/
def argument? (registers : RegisterFile) (format : Format) (token : Token) : Option Int32 :=
  match format with
  | .register => registers.value? token
  | .immediate => token.word?
  | _ => none

/-- `registers.Computes row target value`: the row is an arithmetic instruction, with this
result, for the register with index `target`. -/
inductive Computes (registers : RegisterFile) (row : List Token) : Int → Int32 → Prop
  | intro {instruction : Instruction} {target : Int} {a b : Int32}
      (hrow : Instruction.ofRow? row = some instruction)
      (hformat : instruction.opcode.format ≠ .branch)
      (ha : registers.value? instruction.operands.second = some a)
      (hb : registers.argument? instruction.opcode.format instruction.operands.third = some b)
      (htarget : instruction.operands.first.index? 1 = some target) :
      Computes registers row target (instruction.opcode.alu a b)

/-- `registers.Branches row taken target`: the row is a branch to this target, which is
taken or not as its relation says. -/
inductive Branches (registers : RegisterFile) (row : List Token) : Bool → Token → Prop
  | intro {instruction : Instruction} {a b : Int32}
      (hrow : Instruction.ofRow? row = some instruction)
      (hformat : instruction.opcode.format = .branch)
      (ha : registers.value? instruction.operands.first = some a)
      (hb : registers.value? instruction.operands.second = some b) :
      Branches registers row (instruction.opcode.taken a b) instruction.operands.third

section Readings

variable {registers : RegisterFile} {row : List Token}

theorem Branches.unique {taken other : Bool} {target another : Token}
    (h : registers.Branches row taken target) (hother : registers.Branches row other another) :
    taken = other ∧ target = another := by
  rcases h with ⟨hrow, _, ha, hb⟩
  rcases hother with ⟨hrow', _, ha', hb'⟩
  obtain rfl := Option.some.inj (hrow.symm.trans hrow')
  obtain rfl := Option.some.inj (ha.symm.trans ha')
  obtain rfl := Option.some.inj (hb.symm.trans hb')
  exact ⟨rfl, rfl⟩

theorem Computes.unique {target another : Int} {value other : Int32}
    (h : registers.Computes row target value) (hother : registers.Computes row another other) :
    target = another ∧ value = other := by
  rcases h with ⟨hrow, _, ha, hb, htarget⟩
  rcases hother with ⟨hrow', _, ha', hb', htarget'⟩
  obtain rfl := Option.some.inj (hrow.symm.trans hrow')
  obtain rfl := Option.some.inj (ha.symm.trans ha')
  obtain rfl := Option.some.inj (hb.symm.trans hb')
  exact ⟨Option.some.inj (htarget.symm.trans htarget'), rfl⟩

theorem Computes.not_branches {target : Int} {value : Int32} {taken : Bool} {token : Token}
    (h : registers.Computes row target value) : ¬ registers.Branches row taken token := by
  intro hbranches
  rcases h with ⟨hrow, hformat, _, _, _⟩
  rcases hbranches with ⟨hrow', hformat', _, _⟩
  obtain rfl := Option.some.inj (hrow.symm.trans hrow')
  exact hformat hformat'

theorem Computes.first_kind {first : Token} {rest : List Token} {target : Int} {value : Int32}
    (h : registers.Computes (first :: rest) target value) : first.kind = .instruction := by
  rcases h with ⟨hrow, _, _, _, _⟩
  exact Instruction.first_kind_of_ofRow? hrow

theorem Branches.first_kind {first : Token} {rest : List Token} {taken : Bool} {target : Token}
    (h : registers.Branches (first :: rest) taken target) : first.kind = .instruction := by
  rcases h with ⟨hrow, _, _, _⟩
  exact Instruction.first_kind_of_ofRow? hrow

theorem Branches.target_mem {taken : Bool} {target : Token}
    (h : registers.Branches row taken target) : target ∈ row := by
  rcases h with ⟨hrow, _, _, _⟩
  exact List.mem_of_getElem? (Instruction.fills_of_ofRow? hrow).third

end Readings

end RegisterFile

namespace LabelTable

/-- What is wrong with the target of a branch that is taken. -/
def targetFault? (labels : LabelTable) (target : Token) : Option Fault :=
  match target.kind with
  | .immediate => target.wordFault?
  | .ident =>
      if (labels.find? target.literal).isSome then none
      else some ⟨.unknownLabel target.literal, target.position⟩
  | _ => none

/-- Where a branch that is taken leads: to the row of a label, or on by an offset, which
counts four for each row. -/
inductive LeadsTo (labels : LabelTable) (registers : RegisterFile) (target : Token) :
    RegisterFile → Prop
  | label {n : Nat} (hkind : target.kind = .ident) (hfind : labels.find? target.literal = some n) :
      LeadsTo labels registers target (registers.goto (Int32.ofNat n))
  | offset {offset : Int32} (hkind : target.kind = .immediate)
      (hword : target.word? = some offset) :
      LeadsTo labels registers target (registers.goto (registers.counter + offset / 4))

theorem branch_reports (labels : LabelTable) (registers : RegisterFile) {target : Token}
    (hkind : target.kind ∈ Format.branch.lastKinds) :
    Reports [labels.targetFault? target] (labels.LeadsTo registers target)
      (labels.branch registers target) := by
  have hcases : target.kind = .ident ∨ target.kind = .immediate := by
    simpa [Format.lastKinds] using hkind
  rcases hcases with hident | himmediate
  · have hother : target.kind ≠ .immediate := by simp [hident]
    have hfault : labels.targetFault? target =
        if (labels.find? target.literal).isSome then none
        else some ⟨.unknownLabel target.literal, target.position⟩ := by
      rw [targetFault?, hident]
    rw [branch_eq, if_neg hother, jump_eq, hfault]
    cases hfind : labels.find? target.literal with
    | none => exact rfl
    | some n => exact ⟨.label hident hfind, rfl⟩
  · have hfault : labels.targetFault? target = target.wordFault? := by
      rw [targetFault?, himmediate]
    rw [branch_eq, if_pos himmediate, hfault]
    have hmoves : ∀ offset, target.word? = some offset → Reports []
        (labels.LeadsTo registers target)
        (.ok (registers.goto (registers.counter + offset / 4))) :=
      fun offset hword => ⟨.offset himmediate hword, rfl⟩
    exact target.immediate_reports.bind hmoves

/-- What an instruction does to the registers before the program counter goes on. -/
inductive Performs (labels : LabelTable) (registers : RegisterFile) (row : List Token) :
    RegisterFile → Prop
  | writes {target : Int} {value : Int32} {moved : RegisterFile}
      (h : registers.Computes row target value)
      (hwrite : registers.write target value = .ok moved) : Performs labels registers row moved
  | stays {target : Token} (h : registers.Branches row false target) :
      Performs labels registers row registers
  | leads {target : Token} {moved : RegisterFile} (h : registers.Branches row true target)
      (hleads : labels.LeadsTo registers target moved) : Performs labels registers row moved

end LabelTable

/-- Whether a row that starts with the mnemonic of this opcode is a branch to be taken. -/
def Opcode.takes (opcode : Opcode) (registers : RegisterFile) (row : List Token) : Bool :=
  match row[1]?.bind registers.value?, row[3]?.bind registers.value? with
  | some a, some b => opcode.taken a b
  | _, _ => false

namespace LabelTable

/-- What is wrong with the operands of a row that has the form of an instruction, in the
order in which they are looked at. -/
def operandFaults (labels : LabelTable) (registers : RegisterFile) (opcode : Opcode)
    (row : List Token) : List (Option Fault) :=
  match opcode.format with
  | .register =>
      [row[3]?.bind (Token.registerFault? 0), row[5]?.bind (Token.registerFault? 0),
        row[1]?.bind (Token.registerFault? 1)]
  | .immediate =>
      [row[3]?.bind (Token.registerFault? 0), row[5]?.bind Token.wordFault?,
        row[1]?.bind (Token.registerFault? 1)]
  | _ =>
      [row[1]?.bind (Token.registerFault? 0), row[3]?.bind (Token.registerFault? 0),
        if opcode.takes registers row then row[5]?.bind labels.targetFault? else none]

/-- What is wrong with a row that starts with an instruction, in the order in which it is
looked at: the mnemonic, the form place by place, the operands. -/
def instructionFaults (labels : LabelTable) (registers : RegisterFile) (first : Token)
    (row : List Token) : List (Option Fault) :=
  match Opcode.ofMnemonic? first.literal with
  | none => [some ⟨.unknownInstruction first.literal, first.position⟩]
  | some opcode => opcode.format.pattern.faults row ++ labels.operandFaults registers opcode row

section Reporting

variable (labels : LabelTable) (registers : RegisterFile) {row : List Token}
  {instruction : Instruction}

/-- Arithmetic instructions differ in how they come by their second argument. -/
theorem arithmetic_reports (hrow : Instruction.ofRow? row = some instruction)
    (hformat : instruction.opcode.format ≠ .branch) {fault : Option Fault}
    {argument : Except Fault Int32}
    (hargument : Reports [fault] (fun b => registers.argument? instruction.opcode.format
      instruction.operands.third = some b) argument) :
    Reports [instruction.operands.second.registerFault? 0, fault,
        instruction.operands.first.registerFault? 1]
      (labels.Performs registers row)
      (do
        let a ← registers.fetch instruction.operands.second
        let b ← argument
        registers.store instruction.operands.first (instruction.opcode.alu a b)) := by
  refine (registers.fetch_reports instruction.operands.second).bind ?_
  intro a ha
  refine hargument.bind ?_
  intro b hb
  refine (registers.store_reports instruction.operands.first _).mono ?_
  rintro moved ⟨target, htarget, hwrite⟩
  exact .writes (.intro hrow hformat ha hb htarget) hwrite

theorem branching_reports (hrow : Instruction.ofRow? row = some instruction)
    (hformat : instruction.opcode.format = .branch) :
    Reports [instruction.operands.first.registerFault? 0,
        instruction.operands.second.registerFault? 0,
        if instruction.opcode.takes registers row then
          labels.targetFault? instruction.operands.third else none]
      (labels.Performs registers row)
      (do
        let a ← registers.fetch instruction.operands.first
        let b ← registers.fetch instruction.operands.second
        if instruction.opcode.taken a b then labels.branch registers instruction.operands.third
        else .ok registers) := by
  have hfills := Instruction.fills_of_ofRow? hrow
  refine (registers.fetch_reports instruction.operands.first).bind ?_
  intro a ha
  refine (registers.fetch_reports instruction.operands.second).bind ?_
  intro b hb
  have htakes : instruction.opcode.takes registers row = instruction.opcode.taken a b := by
    simp [Opcode.takes, hfills.first, hfills.second, ha, hb]
  have hbranches := RegisterFile.Branches.intro hrow hformat ha hb
  rw [htakes]
  cases htaken : instruction.opcode.taken a b with
  | true =>
      rw [htaken] at hbranches
      have hkind := hfills.third_kind
      rw [hformat] at hkind
      exact (labels.branch_reports registers hkind).mono fun moved hleads =>
        .leads hbranches hleads
  | false =>
      rw [htaken] at hbranches
      exact ⟨.stays hbranches, rfl⟩

/-- An instruction is performed, or refused for the first thing that is wrong with it. -/
theorem instruction_reports (first : Token) (rest : List Token) :
    Reports (labels.instructionFaults registers first (first :: rest))
      (labels.Performs registers (first :: rest))
      (labels.instruction registers first (first :: rest)) := by
  rw [LabelTable.instruction_eq]
  unfold instructionFaults
  cases hopcode : Opcode.ofMnemonic? first.literal with
  | none => exact rfl
  | some opcode =>
      refine (operands_reports hopcode).bind ?_
      intro operands hrow
      have hfills := Instruction.fills_of_ofRow? hrow
      have hfirst := hfills.first
      have hsecond := hfills.second
      have hthird := hfills.third
      cases hformat : opcode.format with
      | register =>
          simp only [operandFaults, hformat, hfirst, hsecond, hthird, Option.bind_some]
          apply labels.arithmetic_reports registers hrow (by simp [hformat])
          simp only [RegisterFile.argument?, hformat]
          exact registers.fetch_reports operands.third
      | immediate =>
          simp only [operandFaults, hformat, hfirst, hsecond, hthird, Option.bind_some]
          apply labels.arithmetic_reports registers hrow (by simp [hformat])
          simp only [RegisterFile.argument?, hformat]
          exact operands.third.immediate_reports
      | branch =>
          simp only [operandFaults, hformat, hfirst, hsecond, hthird, Option.bind_some]
          -- elaborated by itself, since against the goal the branch would be unfolded
          have hbranching := labels.branching_reports registers hrow hformat
          exact hbranching
      | other code => exact absurd hformat (opcode.format_ne_other code)

end Reporting

/-- The registers have a part in what is wrong with a row only where they decide whether a
branch is taken. -/
theorem instructionFaults_congr (labels : LabelTable) {registers other : RegisterFile}
    {first : Token} {row : List Token} {opcode : Opcode}
    (hopcode : Opcode.ofMnemonic? first.literal = some opcode)
    (h : opcode.format ≠ .branch ∨ opcode.takes registers row = opcode.takes other row) :
    labels.instructionFaults registers first row = labels.instructionFaults other first row := by
  simp only [instructionFaults, hopcode, operandFaults]
  cases hformat : opcode.format with
  | register => rfl
  | immediate => rfl
  | branch =>
      rw [h.resolve_left (not_not_intro hformat)]
  | other code => exact absurd hformat (opcode.format_ne_other code)

end LabelTable

theorem faultOf_execute (program : Program) (registers : RegisterFile) {first : Token}
    (rest : List Token) (hkind : first.kind = .instruction) :
    faultOf (program.execute registers first (first :: rest)) =
      firstFault (program.labels.instructionFaults registers first (first :: rest)) := by
  have hreports := program.labels.instruction_reports registers first rest
  rw [← hreports.faultOf_eq, Program.execute_eq, hkind]
  cases program.labels.instruction registers first (first :: rest) with
  | ok moved => rfl
  | error fault => rfl

/-- A row that starts with an instruction is refused for the first thing that is wrong with
it, and executed if there is nothing: the mnemonic is looked at first, then the form of the
row place by place, then the sources, and last the destination or, of a branch that is
taken, the target.  Whether a branch is taken is all that the registers decide. -/
theorem instruction_refused_for_first_fault (program : Program) (registers : RegisterFile)
    (first : Token) (rest : List Token) (hkind : first.kind = .instruction) :
    faultOf (program.execute registers first (first :: rest)) =
        firstFault (program.labels.instructionFaults registers first (first :: rest)) ∧
      ∀ opcode, Opcode.ofMnemonic? first.literal = some opcode → ∀ other : RegisterFile,
        (opcode.format ≠ .branch ∨
          opcode.takes registers (first :: rest) = opcode.takes other (first :: rest)) →
        faultOf (program.execute registers first (first :: rest)) =
          faultOf (program.execute other first (first :: rest)) := by
  refine ⟨faultOf_execute program registers rest hkind, ?_⟩
  intro opcode hopcode other h
  rw [faultOf_execute program registers rest hkind, faultOf_execute program other rest hkind,
    program.labels.instructionFaults_congr hopcode h]

/-- The mnemonic of a row that is faulty in its operands. -/
def faultyMnemonic : Token := ⟨.instruction, "addi", 1, 1⟩

/-- A constant destination, a source that is no register and an immediate that is too wide. -/
def faultyOperands : List Token :=
  [⟨.register, "0", 1, 6⟩, ⟨.comma, "", 1, 7⟩, ⟨.register, "33", 1, 9⟩, ⟨.comma, "", 1, 12⟩,
    ⟨.immediate, "2147483648", 1, 14⟩]

/-- Of three faults the source is reported; that the program counter is on another row the
second time makes no difference. -/
theorem faultyOperands_refused_for_source :
    faultOf ((Program.ofTokens []).execute .zero faultyMnemonic
        (faultyMnemonic :: faultyOperands)) =
      some ⟨.registerAccess (.bounds 33), ⟨1, 9⟩⟩ ∧
    faultOf ((Program.ofTokens []).execute (RegisterFile.zero.goto 7) faultyMnemonic
        (faultyMnemonic :: faultyOperands)) =
      some ⟨.registerAccess (.bounds 33), ⟨1, 9⟩⟩ := by
  obtain ⟨hfirst, hregisters⟩ := instruction_refused_for_first_fault (.ofTokens []) .zero
    faultyMnemonic faultyOperands rfl
  have hsame := hregisters .addi (by decide +kernel) (RegisterFile.zero.goto 7)
    (.inl (by decide))
  rw [← hsame, hfirst, and_self]
  decide +kernel

end ToyRisc
