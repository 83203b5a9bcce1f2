/-
What a row leaves.  An action on the registers leaves them in some state or is refused; so seen,
its parts make up a computation that goes from registers to registers.  Nothing that can be
refused comes behind a change: where an action is refused, it has only looked at the registers,
and leaves them as it found them.
-/
import ToyRisc.Machine

namespace ToyRisc

namespace Action

/-- The registers that an action leaves, or the fault that it is refused for. -/
def result (action : Action Unit) (registers : RegisterFile) : Except Fault RegisterFile :=
  RegisterFile.ofResult (action.run registers)

/-- A refusal leaves the registers as it found them. -/
def Atomic {ε α : Type} (action : EStateM ε RegisterFile α) : Prop :=
  ∀ ⦃registers error left⦄, action.run registers = .error error left → left = registers

section Parts

variable {α : Type} {next : α → Action Unit} {registers : RegisterFile} {token : Token}

theorem result_look (found : Except Fault α) :
    result ((found : Action α) >>= next) registers =
      found >>= fun value => (next value).result registers := by
  cases found with
  | ok value => rfl
  | error fault => rfl

theorem result_fetch {next : Int32 → Action Unit} :
    result (fetch token >>= next) registers =
      registers.fetch token >>= fun value => (next value).result registers :=
  result_look (registers.fetch token)

theorem result_advance (action : Action Unit) :
    result (do action; advance) registers =
      action.result registers >>= fun moved => .ok moved.advance := by
  change RegisterFile.ofResult (EStateM.bind action (fun _ => advance) registers) = _
  unfold EStateM.bind result EStateM.run
  cases action registers with
  | ok _ moved => rfl
  | error fault left => rfl

theorem atomic_look (found : Except Fault α) : Atomic (found : Action α) := by
  intro registers fault left h
  cases found with
  | ok value => cases h
  | error found =>
      cases h
      rfl

theorem atomic_modify (change : RegisterFile → RegisterFile) :
    Atomic (modify change : Action Unit) :=
  fun _ _ _ h => nomatch h

theorem Atomic.behind_look (found : Except Fault α) (h : ∀ value, Atomic (next value)) :
    Atomic ((found : Action α) >>= next) := by
  cases found with
  | ok value => exact h value
  | error fault => exact atomic_look (.error fault : Except Fault Unit)

theorem Atomic.behind_fetch (token : Token) {next : Int32 → Action Unit}
    (h : ∀ value, Atomic (next value)) : Atomic (fetch token >>= next) :=
  fun registers _ _ hrun => behind_look (registers.fetch token) h hrun

/-- What comes last may change the registers, if it cannot be refused. -/
theorem Atomic.before_modify {action : Action Unit} (h : Atomic action)
    (change : RegisterFile → RegisterFile) : Atomic (do action; modify change) := by
  intro registers fault left hrun
  change EStateM.bind action (fun _ => modify change) registers = _ at hrun
  unfold EStateM.bind at hrun
  split at hrun
  · cases hrun
  · rename_i found
    cases hrun
    exact h found

end Parts

theorem atomic_assign (index : Int) (value : Int32) :
    Atomic (RegisterFile.assign index value) := by
  intro registers error left h
  rw [RegisterFile.assign_run] at h
  split at h
  · cases h
    rfl
  split at h
  · cases h
  · cases h
    rfl

theorem Atomic.adaptExcept {ε δ α : Type} {action : EStateM ε RegisterFile α} (h : Atomic action)
    (report : ε → δ) : Atomic (action.adaptExcept report) := by
  intro registers error left hrun
  change EStateM.adaptExcept report action registers = _ at hrun
  unfold EStateM.adaptExcept at hrun
  split at hrun
  · rename_i found
    cases hrun
    exact h found
  · cases hrun

theorem atomic_store (token : Token) (value : Int32) : Atomic (store token value) :=
  .behind_look _ fun index => (atomic_assign index value).adaptExcept _

theorem atomic_jump (labels : LabelTable) (label : Token) : Atomic (jump labels label) := by
  unfold jump
  split
  · exact atomic_modify _
  · exact atomic_look _

theorem atomic_branch (labels : LabelTable) (target : Token) : Atomic (branch labels target) := by
  unfold branch
  split
  · exact .behind_look _ fun offset => atomic_modify _
  · exact atomic_jump labels target

/-- An instruction writes its result, or moves the program counter, when there is nothing left to
refuse it for. -/
theorem atomic_instruction (labels : LabelTable) (first : Token) (row : List Token) :
    Atomic (instruction labels first row) := by
  unfold instruction
  split
  · exact atomic_look _
  apply Atomic.behind_look
  intro operands
  split
  · exact .behind_fetch _ fun a => .behind_fetch _ fun b => atomic_store _ _
  · exact .behind_fetch _ fun a => .behind_look _ fun b => atomic_store _ _
  · apply Atomic.behind_fetch
    intro a
    apply Atomic.behind_fetch
    intro b
    split
    · exact atomic_branch labels _
    · exact atomic_look (.ok ())

theorem atomic_directive (labels : LabelTable) (first : Token) (row : List Token) :
    Atomic (directive labels first row) := by
  unfold directive
  split
  · exact atomic_look _
  split
  · apply Atomic.behind_look
    intro _
    split
    · exact atomic_jump labels _
    · exact atomic_look (.error _)
  · exact atomic_look _

theorem atomic_execute (program : Program) (first : Token) (row : List Token) :
    Atomic (execute program first row) := by
  unfold execute
  split
  · exact atomic_modify _
  · exact (atomic_modify _).before_modify _
  · exact (atomic_instruction program.labels first row).before_modify _
  · exact (atomic_directive program.labels first row).before_modify _
  · exact atomic_look _

theorem atomic_executeGlobal (program : Program) (first : Token) (row : List Token) :
    Atomic (executeGlobal program first row) := by
  unfold executeGlobal
  split
  · exact (atomic_directive program.labels first row).before_modify _
  · exact atomic_look _

/-- Of an action that can be refused only before it changes anything, the result says all. -/
theorem Atomic.run_eq {action : Action Unit} (h : Atomic action) (registers : RegisterFile) :
    action.run registers =
      match action.result registers with
      | .ok changed => .ok () changed
      | .error fault => .error fault registers := by
  unfold result
  cases hrun : action.run registers with
  | ok _ changed => rfl
  | error fault left =>
      rw [h hrun]
      rfl

end Action

/-- What is left of the registers where the one that a token names is written. -/
def RegisterFile.store (registers : RegisterFile) (token : Token) (value : Int32) :
    Except Fault RegisterFile :=
  (Action.store token value).result registers

theorem RegisterFile.store_eq (registers : RegisterFile) (token : Token) (value : Int32) :
    registers.store token value = (do
      let index ← token.registerIndex
      token.guard (registers.write index value)) := by
  rw [store, Action.store, Action.result_look]
  congr 1
  funext index
  change ofResult (EStateM.adaptExcept _ (assign index value) registers) =
    token.guard (ofResult (assign index value registers))
  unfold EStateM.adaptExcept
  cases assign index value registers with
  | ok _ changed => rfl
  | error error left => rfl

namespace LabelTable

variable (labels : LabelTable) (registers : RegisterFile)

/-- The registers behind a jump. -/
def jump (label : Token) : Except Fault RegisterFile := (Action.jump labels label).result registers

/-- The registers behind a taken branch. -/
def branch (target : Token) : Except Fault RegisterFile :=
  (Action.branch labels target).result registers

/-- The registers behind an instruction, before the program counter goes on. -/
def instruction (first : Token) (row : List Token) : Except Fault RegisterFile :=
  (Action.instruction labels first row).result registers

/-- The registers behind a directive, before the program counter goes on. -/
def directive (first : Token) (row : List Token) : Except Fault RegisterFile :=
  (Action.directive labels first row).result registers

theorem jump_eq (label : Token) :
    labels.jump registers label =
      match labels.find? label.literal with
      | some row => .ok (registers.goto (Int32.ofNat row))
      | none => label.refuse (.unknownLabel label.literal) := by
  unfold jump Action.jump
  cases labels.find? label.literal with
  | some row => rfl
  | none => rfl

theorem branch_eq (target : Token) :
    labels.branch registers target =
      if target.kind = .immediate then do
        let offset ← target.immediate
        .ok (registers.goto (registers.counter + offset / 4))
      else labels.jump registers target := by
  unfold branch Action.branch
  split
  · exact Action.result_look _
  · rfl

theorem instruction_eq (first : Token) (row : List Token) :
    labels.instruction registers first row =
      (match Opcode.ofMnemonic? first.literal with
      | none => first.refuse (.unknownInstruction first.literal)
      | some opcode => do
          let operands ← opcode.operands row
          match opcode.format with
          | .register => do
              let a ← registers.fetch operands.second
              let b ← registers.fetch operands.third
              registers.store operands.first (opcode.alu a b)
          | .immediate => do
              let a ← registers.fetch operands.second
              let b ← operands.third.immediate
              registers.store operands.first (opcode.alu a b)
          | _ => do
              let a ← registers.fetch operands.first
              let b ← registers.fetch operands.second
              if opcode.taken a b then labels.branch registers operands.third
              else .ok registers) := by
  unfold instruction Action.instruction
  cases Opcode.ofMnemonic? first.literal with
  | none => rfl
  | some opcode =>
      refine (Action.result_look _).trans (congrArg _ (funext fun operands => ?_))
      cases opcode.format with
      | register =>
          simp only [Action.result_fetch]
          rfl
      | immediate =>
          simp only [Action.result_fetch, Action.result_look]
          rfl
      | _ =>
          simp only [Action.result_fetch]
          refine congrArg _ (funext fun a => congrArg _ (funext fun b => ?_))
          cases opcode.taken a b with
          | true => rfl
          | false => rfl

theorem directive_eq (first : Token) (row : List Token) :
    labels.directive registers first row =
      match Directive.ofName? first.literal with
      | none => first.refuse (.unknownDirective first.literal)
      | some _ =>
          if first.line = 1 then do
            Pattern.directive.verify row
            match row with
            | _ :: label :: _ => labels.jump registers label
            | _ => .error ⟨.missingOperand ⟨[]⟩, .nowhere⟩
          else first.refuse (.misplacedDirective first.literal) := by
  unfold directive Action.directive
  cases Directive.ofName? first.literal with
  | none => rfl
  | some found =>
      by_cases hline : first.line = 1
      · simp only [if_pos hline]
        refine (Action.result_look _).trans (congrArg _ (funext fun _ => ?_))
        rcases row with _ | ⟨_, _ | ⟨label, more⟩⟩
        · rfl
        · rfl
        · rfl
      · simp only [if_neg hline]
        rfl

end LabelTable

namespace Program

/-- To leave the indented rows moves the program counter and nothing else. -/
theorem exists_leaveBody_eq_goto (program : Program) (registers : RegisterFile) :
    ∃ target, program.leaveBody registers = registers.goto target := by
  fun_induction program.leaveBody registers with
  | case1 registers hindented ih =>
      obtain ⟨target, htarget⟩ := ih
      exact ⟨target, by rw [htarget, RegisterFile.advance, RegisterFile.goto_goto]⟩
  | case2 registers hplain => exact ⟨registers.counter, registers.goto_counter.symm⟩

variable (program : Program) (registers : RegisterFile) (first : Token) (row : List Token)

/-- The registers behind a row. -/
def execute : Except Fault RegisterFile := (Action.execute program first row).result registers

/-- The registers behind the first row where it has to name the start of the program. -/
def executeGlobal : Except Fault RegisterFile :=
  (Action.executeGlobal program first row).result registers

theorem execute_eq :
    program.execute registers first row =
      match first.kind with
      | .nop => .ok registers.advance
      | .label => .ok (program.leaveBody registers.advance)
      | .instruction => do
          let moved ← program.labels.instruction registers first row
          .ok moved.advance
      | .directive => do
          let moved ← program.labels.directive registers first row
          .ok moved.advance
      | kind => first.refuse (.unexpectedToken kind) := by
  unfold execute Action.execute
  cases first.kind with
  | instruction => exact Action.result_advance _
  | directive => exact Action.result_advance _
  | _ => rfl

theorem executeGlobal_eq :
    program.executeGlobal registers first row =
      if first.kind = .directive ∧ first.literal = Directive.global.name then do
        let moved ← program.labels.directive registers first row
        .ok moved.advance
      else first.refuse (.missingGlobal first.kind) := by
  unfold executeGlobal Action.executeGlobal
  split
  · exact Action.result_advance _
  · rfl

end Program

namespace Machine

variable (machine : Machine) (first : Token) (row : List Token)

/-- The registers behind a row under the program counter. -/
def execute : Except Fault RegisterFile := (machine.action first row).result machine.registers

theorem execute_eq :
    machine.execute first row =
      if machine.counter = 0 ∧ machine.settings.enforceGlobal = true then
        machine.program.executeGlobal machine.registers first row
      else machine.program.execute machine.registers first row := by
  unfold execute action
  split
  · rfl
  · rfl

theorem atomic_action : Action.Atomic (machine.action first row) := by
  unfold action
  split
  · exact Action.atomic_executeGlobal machine.program first row
  · exact Action.atomic_execute machine.program first row

end Machine

end ToyRisc
