/-
Verification is exact.  A row matches a pattern if it has a token of an accepted kind in
every place of it; otherwise the first place that is not filled is reported, at the token
that stands there or, where the row is too short, at its last one.  What stands behind the
pattern has no part in this.  So an instruction or a directive finds a token in every place
it looks at, whatever the row is made of.
-/
import ToyRisc.Proofs.Instructions

namespace ToyRisc

/-- The first fault is one behind looks that found nothing. -/
theorem firstFault_eq_some_iff {faults : List (Option Fault)} {fault : Fault} :
    firstFault faults = some fault ↔
      ∃ n : Nat, faults[n]? = some (some fault) ∧ ∀ m < n, faults[m]? = some none := by
  induction faults with
  | nil => simp [firstFault]
  | cons look looks ih =>
      cases look with
      | some found =>
          have hfirst : firstFault (some found :: looks) = some found := rfl
          rw [hfirst, Option.some.injEq]
          constructor
          · rintro rfl
            exact ⟨0, rfl, fun m hm => absurd hm (Nat.not_lt_zero m)⟩
          · rintro ⟨n, hn, hbefore⟩
            cases n with
            | zero => simpa using hn
            | succ n => exact absurd (hbefore 0 (Nat.succ_pos n)) (by simp)
      | none =>
          have hfirst : firstFault (none :: looks) = firstFault looks := rfl
          rw [hfirst, ih]
          constructor
          · rintro ⟨n, hn, hbefore⟩
            refine ⟨n + 1, hn, ?_⟩
            intro m hm
            cases m with
            | zero => rfl
            | succ m => exact hbefore m (Nat.lt_of_succ_lt_succ hm)
          · rintro ⟨n, hn, hbefore⟩
            cases n with
            | zero => simp at hn
            | succ n => exact ⟨n, hn, fun m hm => hbefore (m + 1) (Nat.succ_lt_succ hm)⟩

namespace Slot

/-- Place `n` of a row has a token, of a kind that the slot accepts. -/
def Filled (slot : Slot) (row : List Token) (n : Nat) : Prop :=
  ∃ token, row[n]? = some token ∧ token.kind ∈ slot.kinds

/-- `slot.Misfit row n fault`: place `n` of a row does not fill the slot, and this is what is
reported. -/
inductive Misfit (slot : Slot) (row : List Token) (n : Nat) : Fault → Prop
  /-- The token in the place has another kind. -/
  | wrong {token : Token} (htoken : row[n]? = some token) (hkind : token.kind ∉ slot.kinds) :
      Misfit slot row n ⟨.wrongOperand slot token.kind, token.position⟩
  /-- The row ends before the place. -/
  | missing {last : Token} (hlength : row.length ≤ n) (hlast : row.getLast? = some last) :
      Misfit slot row n ⟨.missingOperand slot, last.position⟩
  /-- There is no token to point at. -/
  | empty (hrow : row = []) : Misfit slot row n ⟨.missingOperand slot, ⟨0, 0⟩⟩

section Places

variable {slot : Slot} {row : List Token} {n : Nat}

theorem accepts_iff {kind : Kind} : slot.accepts kind = true ↔ kind ∈ slot.kinds := by
  simp [accepts]

theorem Misfit.kind {fault : Fault} (h : slot.Misfit row n fault) : fault.kind = .syntaxError := by
  cases h with
  | wrong _ _ => rfl
  | missing _ _ => rfl
  | empty _ => rfl

theorem fault?_eq_none_iff : slot.fault? row n = none ↔ slot.Filled row n := by
  unfold fault? Filled
  cases row[n]? with
  | none => simp
  | some token => simp [accepts_iff]

theorem fault?_eq_some_iff {fault : Fault} :
    slot.fault? row n = some fault ↔ slot.Misfit row n fault := by
  unfold fault?
  cases htoken : row[n]? with
  | none =>
      have hlength : row.length ≤ n := List.getElem?_eq_none_iff.mp htoken
      simp only [Option.some.injEq, lastPlace]
      constructor
      · rintro rfl
        cases hlast : row.getLast? with
        | none => exact .empty (List.getLast?_eq_none_iff.mp hlast)
        | some last => exact .missing hlength hlast
      · intro h
        cases h with
        | wrong hfound _ => simp [htoken] at hfound
        | missing _ hlast => simp [hlast]
        | empty hrow => simp [hrow, Position.nowhere]
  | some token =>
      have hlength : n < row.length := (List.getElem?_eq_some_iff.mp htoken).1
      by_cases hkind : token.kind ∈ slot.kinds
      · simp only [accepts_iff.mpr hkind, if_true, reduceCtorEq, false_iff]
        intro h
        cases h with
        | wrong hfound hwrong =>
            cases htoken.symm.trans hfound
            exact hwrong hkind
        | missing hshort _ => omega
        | empty hrow => simp [hrow] at hlength
      · have hrefused : ¬ slot.accepts token.kind = true := mt accepts_iff.mp hkind
        simp only [if_neg hrefused, Option.some.injEq]
        constructor
        · rintro rfl
          exact .wrong htoken hkind
        · intro h
          cases h with
          | wrong hfound _ =>
              cases htoken.symm.trans hfound
              rfl
          | missing hshort _ => omega
          | empty hrow => simp [hrow] at hlength

end Places

end Slot

namespace Pattern

/-- A row has a token of an accepted kind for every slot. -/
def Matches (pattern : Pattern) (row : List Token) : Prop :=
  pattern.length ≤ row.length ∧ ∀ (n : Nat) (slot : Slot) (token : Token),
    pattern[n]? = some slot → row[n]? = some token → token.kind ∈ slot.kinds

/-- `pattern.FirstMisfit row fault`: this is what the first slot reports that is not filled. -/
def FirstMisfit (pattern : Pattern) (row : List Token) (fault : Fault) : Prop :=
  ∃ (n : Nat) (slot : Slot), pattern[n]? = some slot ∧ slot.Misfit row n fault ∧
    ∀ (m : Nat) (earlier : Slot), m < n → pattern[m]? = some earlier → earlier.Filled row m

section Verification

variable {pattern : Pattern} {row : List Token}

theorem matches_iff : pattern.Matches row ↔
    ∀ (n : Nat) (slot : Slot), pattern[n]? = some slot → slot.Filled row n := by
  constructor
  · rintro ⟨hlength, hkinds⟩ n slot hslot
    have hn : n < row.length :=
      Nat.lt_of_lt_of_le (List.getElem?_eq_some_iff.mp hslot).1 hlength
    have htoken : row[n]? = some row[n] := List.getElem?_eq_getElem hn
    exact ⟨row[n], htoken, hkinds n slot row[n] hslot htoken⟩
  · intro hfilled
    refine ⟨?_, ?_⟩
    · -- the last slot is filled, so the row goes at least as far
      refine Nat.le_of_not_lt fun hn => ?_
      obtain ⟨token, htoken, _⟩ :=
        hfilled row.length pattern[row.length] (List.getElem?_eq_getElem hn)
      simp at htoken
    · intro n slot token hslot htoken
      obtain ⟨found, hfound, hkind⟩ := hfilled n slot hslot
      cases htoken.symm.trans hfound
      exact hkind

theorem faults_getElem? (n : Nat) :
    (pattern.faults row)[n]? = pattern[n]?.map fun slot => slot.fault? row n :=
  List.getElem?_mapIdx

theorem faultOf_verify : faultOf (pattern.verify row) = firstFault (pattern.faults row) :=
  (pattern.verify_reports row).faultOf_eq

/-- Verification fails with what the first slot reports that is not filled. -/
theorem verify_eq_error_iff {fault : Fault} :
    pattern.verify row = .error fault ↔ pattern.FirstMisfit row fault := by
  have hfault : pattern.verify row = .error fault ↔ faultOf (pattern.verify row) = some fault := by
    cases pattern.verify row with
    | ok _ => simp [faultOf]
    | error found => simp [faultOf]
  rw [hfault, faultOf_verify, firstFault_eq_some_iff]
  simp only [faults_getElem?, Option.map_eq_some_iff, Slot.fault?_eq_some_iff,
    Slot.fault?_eq_none_iff]
  constructor
  · rintro ⟨n, ⟨slot, hslot, hmisfit⟩, hbefore⟩
    refine ⟨n, slot, hslot, hmisfit, ?_⟩
    intro m earlier hm hearlier
    obtain ⟨found, hfound, hfilled⟩ := hbefore m hm
    cases hearlier.symm.trans hfound
    exact hfilled
  · rintro ⟨n, slot, hslot, hmisfit, hbefore⟩
    refine ⟨n, ⟨slot, hslot, hmisfit⟩, ?_⟩
    intro m hm
    have hlength : m < pattern.length := Nat.lt_trans hm (List.getElem?_eq_some_iff.mp hslot).1
    have hearlier : pattern[m]? = some pattern[m] := List.getElem?_eq_getElem hlength
    exact ⟨pattern[m], hearlier, hbefore m pattern[m] hm hearlier⟩

/-- Verification takes exactly the rows that match. -/
theorem verify_eq_ok_iff : pattern.verify row = .ok () ↔ pattern.Matches row := by
  rw [matches_iff]
  constructor
  · intro hverify n slot hslot
    have hfirst : firstFault (pattern.faults row) = none := by
      rw [← faultOf_verify, hverify]
      rfl
    have hlook : slot.fault? row n ∈ pattern.faults row := by
      apply List.mem_of_getElem? (i := n)
      rw [faults_getElem?, hslot, Option.map_some]
    exact Slot.fault?_eq_none_iff.mp (List.findSome?_eq_none_iff.mp hfirst _ hlook)
  · intro hfilled
    cases hverify : pattern.verify row with
    | ok _ => rfl
    | error fault =>
        obtain ⟨n, slot, hslot, hmisfit, _⟩ := verify_eq_error_iff.mp hverify
        have hnone := Slot.fault?_eq_none_iff.mpr (hfilled n slot hslot)
        rw [Slot.fault?_eq_some_iff.mpr hmisfit] at hnone
        cases hnone

theorem Matches.append (h : pattern.Matches row) (more : List Token) :
    pattern.Matches (row ++ more) := by
  rw [matches_iff] at h ⊢
  intro n slot hslot
  obtain ⟨token, htoken, hkind⟩ := h n slot hslot
  refine ⟨token, ?_, hkind⟩
  rw [List.getElem?_append_left (List.getElem?_eq_some_iff.mp htoken).1, htoken]

end Verification

end Pattern

/-- The cause that an instruction or a directive would give for a place that its row does not
have.  No slot that they ask to be filled is without kinds, so nothing else has this cause. -/
def Cause.beyondRow : Cause := .missingOperand ⟨[]⟩

/-- The fault was found in a place that there is. -/
def Fault.InPlace (fault : Fault) : Prop := fault.cause ≠ .beyondRow

@[simp] theorem Fault.inPlace_mk_iff (cause : Cause) (place : Position) :
    Fault.InPlace ⟨cause, place⟩ ↔ cause ≠ .missingOperand ⟨[]⟩ := Iff.rfl

/-- If the result is a fault, it was found in a place that there is. -/
abbrev InPlace {α : Type} : Except Fault α → Prop := Obeys (fun _ => True) Fault.InPlace

theorem Token.refuse_inPlace {α : Type} (token : Token) {cause : Cause}
    (h : cause ≠ .missingOperand ⟨[]⟩) : InPlace (token.refuse cause : Except Fault α) := h

theorem Slot.Misfit.inPlace {slot : Slot} {row : List Token} {n : Nat} {fault : Fault}
    (h : slot.Misfit row n fault) (hkinds : slot.kinds ≠ []) : fault.InPlace := by
  have hslot : slot ≠ ⟨[]⟩ := fun hempty => hkinds (congrArg Slot.kinds hempty)
  cases h with
  | wrong _ _ => simp
  | missing _ _ => simpa using hslot
  | empty _ => simpa using hslot

theorem Pattern.verify_inPlace {pattern : Pattern} (h : ∀ slot ∈ pattern, slot.kinds ≠ [])
    (row : List Token) : InPlace (pattern.verify row) := by
  cases hverify : pattern.verify row with
  | ok _ => trivial
  | error fault =>
      obtain ⟨n, slot, hslot, hmisfit, _⟩ := verify_eq_error_iff.mp hverify
      exact hmisfit.inPlace (h slot (List.mem_of_getElem? hslot))

namespace Format

variable (format : Format)

theorem length_pattern : format.pattern.length = 6 := by
  rw [format.pattern_eq]
  rfl

theorem kinds_ne_nil : ∀ slot ∈ format.pattern, slot.kinds ≠ [] := by
  cases format with
  | other code => exact (by decide : ∀ slot ∈ Pattern.branch, slot.kinds ≠ [])
  | _ => decide

end Format

/-- Where the operands of an instruction stand. -/
structure Operands.StandIn (operands : Operands) (row : List Token) : Prop where
  first : row[1]? = some operands.first
  second : row[3]? = some operands.second
  third : row[5]? = some operands.third

theorem Operands.exists_standIn {row : List Token} (h : 6 ≤ row.length) :
    ∃ operands, Operands.ofRow? row = some operands ∧ operands.StandIn row := by
  match row, h with
  | _ :: first :: _ :: second :: _ :: third :: _, _ =>
      exact ⟨⟨first, second, third⟩, rfl, rfl, rfl, rfl⟩

namespace Opcode

variable {opcode : Opcode} {row : List Token}

/-- A row that is verified has the operands in their places. -/
theorem operands_of_verify (h : opcode.format.pattern.verify row = .ok ()) :
    6 ≤ row.length ∧ ∃ found, opcode.operands row = .ok found ∧ found.StandIn row := by
  have hlength := (Pattern.verify_eq_ok_iff.mp h).1
  rw [Format.length_pattern] at hlength
  obtain ⟨found, hfound, hstand⟩ := Operands.exists_standIn hlength
  refine ⟨hlength, found, ?_, hstand⟩
  unfold operands
  rw [h, hfound]
  rfl

theorem operands_inPlace : InPlace (opcode.operands row) := by
  have hverified := Pattern.verify_inPlace opcode.format.kinds_ne_nil row
  cases hverify : opcode.format.pattern.verify row with
  | ok _ =>
      obtain ⟨_, found, hfound, _⟩ := operands_of_verify hverify
      rw [hfound]
      trivial
  | error fault =>
      unfold operands
      rw [hverify] at hverified ⊢
      exact hverified

end Opcode

theorem Token.guard_inPlace {α : Type} (token : Token) (result : Except RegisterError α) :
    InPlace (token.guard result) := by
  cases result with
  | ok value => trivial
  | error found => exact token.refuse_inPlace (by simp)

theorem Token.registerIndex_inPlace (token : Token) : InPlace token.registerIndex := by
  unfold registerIndex
  split
  · trivial
  · exact token.refuse_inPlace (by simp)

theorem Token.immediate_inPlace (token : Token) : InPlace token.immediate := by
  unfold Token.immediate
  split
  · trivial
  · exact token.refuse_inPlace (by simp)

namespace LabelTable

variable (labels : LabelTable) (registers : RegisterFile) (first : Token)

theorem jump_inPlace (label : Token) : InPlace (labels.jump registers label) := by
  rw [jump_eq]
  split
  · trivial
  · exact label.refuse_inPlace (by simp)

theorem branch_inPlace (target : Token) : InPlace (labels.branch registers target) := by
  rw [branch_eq]
  split
  · exact target.immediate_inPlace.bind fun _ _ => trivial
  · exact labels.jump_inPlace registers target

theorem instruction_inPlace (row : List Token) :
    InPlace (labels.instruction registers first row) := by
  have hfetch : ∀ token, InPlace (registers.fetch token) := fun token =>
    token.registerIndex_inPlace.bind fun _ _ => token.guard_inPlace _
  have hstore : ∀ token value, InPlace (registers.store token value) := by
    intro token value
    rw [RegisterFile.store_eq]
    exact token.registerIndex_inPlace.bind fun _ _ => token.guard_inPlace _
  rw [instruction_eq]
  split
  · exact first.refuse_inPlace (by simp)
  · apply Opcode.operands_inPlace.bind
    intro operands _
    split
    · exact (hfetch _).bind fun _ _ => (hfetch _).bind fun _ _ => hstore _ _
    · exact (hfetch _).bind fun _ _ =>
        operands.third.immediate_inPlace.bind fun _ _ => hstore _ _
    · apply (hfetch _).bind
      intro a _
      apply (hfetch _).bind
      intro b _
      split
      · exact labels.branch_inPlace registers _
      · trivial

theorem directive_inPlace (row : List Token) : InPlace (labels.directive registers first row) := by
  have hkinds : ∀ slot ∈ Pattern.directive, slot.kinds ≠ [] := by decide
  have hverified := Pattern.verify_inPlace hkinds row
  rw [directive_eq]
  split
  · exact first.refuse_inPlace (by simp)
  split
  · cases hverify : Pattern.directive.verify row with
    | error fault =>
        rw [hverify] at hverified
        exact hverified
    | ok _ =>
        have hlength : 2 ≤ row.length := (Pattern.verify_eq_ok_iff.mp hverify).1
        match row, hlength with
        | _ :: label :: _, _ => exact labels.jump_inPlace registers label
  · exact first.refuse_inPlace (by simp)

end LabelTable

namespace Program

variable (program : Program) (registers : RegisterFile) (first : Token) (row : List Token)

theorem execute_inPlace : InPlace (program.execute registers first row) := by
  rw [execute_eq]
  split
  · trivial
  · trivial
  · exact (program.labels.instruction_inPlace registers first row).bind fun _ _ => trivial
  · exact (program.labels.directive_inPlace registers first row).bind fun _ _ => trivial
  · exact first.refuse_inPlace (by simp)

theorem executeGlobal_inPlace : InPlace (program.executeGlobal registers first row) := by
  rw [executeGlobal_eq]
  split
  · exact (program.labels.directive_inPlace registers first row).bind fun _ _ => trivial
  · exact first.refuse_inPlace (by simp)

end Program

namespace Machine

variable (machine : Machine)

theorem execute_inPlace (first : Token) (row : List Token) :
    InPlace (machine.execute first row) := by
  rw [execute_eq]
  split
  · exact machine.program.executeGlobal_inPlace machine.registers first row
  · exact machine.program.execute_inPlace machine.registers first row

/-- An empty row is refused before anything in it is looked at. -/
theorem step_of_empty_body {n : Nat} {row : Row} (hn : machine.counter = n)
    (hrow : machine.program.rows[n]? = some row) (hbody : row.body = []) :
    machine.step.outcome = .refused ⟨.emptyRow n, machine.last⟩ := by
  have hlt : n < machine.program.size := (Array.getElem?_eq_some_iff.mp hrow).1
  rcases machine.verdict_cases with ⟨hdone, _⟩ | ⟨hneg, _⟩ | ⟨m, found, hm, hfound, hverdict⟩
  · omega
  · omega
  · obtain rfl : m = n := by omega
    cases hfound.symm.trans hrow
    rw [hbody] at hverdict
    obtain ⟨log, hstep⟩ := machine.exists_step_eq_conclude
    rw [hstep, hverdict]
    rfl

/-- No step looks at a place that its row does not have. -/
theorem step_inPlace {fault : Fault} (h : machine.step.outcome = .refused fault) :
    fault.InPlace := by
  obtain ⟨place, hrefusal⟩ := exists_refusal_of_refused h
  cases hverdict : machine.verdict with
  | finished => simp [hverdict, Verdict.refusal?] at hrefusal
  | lost cause =>
      simp only [hverdict, Verdict.refusal?, Option.some.injEq, Prod.mk.injEq] at hrefusal
      rw [← hrefusal.1, Fault.inPlace_mk_iff]
      rintro rfl
      cases liesInRow_of_lost hverdict
  | refused found start =>
      simp only [hverdict, Verdict.refusal?, Option.some.injEq, Prod.mk.injEq] at hrefusal
      obtain ⟨_, _, first, rest, _, _, _, hrow⟩ :=
        machine.exists_row_of_verdict (by simp [hverdict]) (by simp [hverdict])
      have hexecute := execute_of_rowVerdict_refused (hrow.symm.trans hverdict)
      rw [← hrefusal.1]
      exact (machine.execute_inPlace first (first :: rest)).of_error hexecute
  | executed registers start => simp [hverdict, Verdict.refusal?] at hrefusal

end Machine

/-- Verification takes exactly the rows that match, and reports the first slot that is not
filled as a syntax error; further tokens do no harm.  Hence the operands of an instruction and
the name behind a directive are in their places whenever they are looked at, and an empty row
is not looked into at all. -/
theorem verify_exact_and_places_there :
    (∀ (pattern : Pattern) (row : List Token),
      (pattern.verify row = .ok () ↔ pattern.Matches row) ∧
      (∀ fault, pattern.verify row = .error fault ↔ pattern.FirstMisfit row fault) ∧
      (∀ fault, pattern.FirstMisfit row fault → fault.kind = .syntaxError) ∧
      (pattern.verify row = .ok () → ∀ more, pattern.verify (row ++ more) = .ok ())) ∧
    (∀ (opcode : Opcode) (row : List Token), opcode.format.pattern.verify row = .ok () →
      6 ≤ row.length ∧ ∃ operands, opcode.operands row = .ok operands ∧ operands.StandIn row) ∧
    (∀ row, Pattern.directive.verify row = .ok () → 2 ≤ row.length) ∧
    (∀ (machine : Machine) (n : Nat) (row : Row), machine.counter = n →
      machine.program.rows[n]? = some row → row.body = [] →
        machine.step.outcome = .refused ⟨.emptyRow n, machine.last⟩) ∧
    ∀ (machine : Machine) (fault : Fault), machine.step.outcome = .refused fault →
      fault.cause ≠ .beyondRow := by
  refine ⟨?_, ?_, ?_, ?_, ?_⟩
  · intro pattern row
    refine ⟨Pattern.verify_eq_ok_iff, fun _ => Pattern.verify_eq_error_iff, ?_, ?_⟩
    · rintro fault ⟨_, _, _, hmisfit, _⟩
      exact hmisfit.kind
    · intro hverify more
      exact Pattern.verify_eq_ok_iff.mpr ((Pattern.verify_eq_ok_iff.mp hverify).append more)
  · intro opcode row hverify
    exact Opcode.operands_of_verify hverify
  · intro row hverify
    exact (Pattern.verify_eq_ok_iff.mp hverify).1
  · intro machine n row hn hrow hbody
    exact machine.step_of_empty_body hn hrow hbody
  · intro machine fault hrefused
    exact machine.step_inPlace hrefused

/-- The row of `add s0, s1, s2`. -/
def sumRow : List Token :=
  [⟨.instruction, "add", 1, 1⟩, ⟨.register, "13", 1, 5⟩, ⟨.comma, "", 1, 7⟩,
    ⟨.register, "14", 1, 9⟩, ⟨.comma, "", 1, 11⟩, ⟨.register, "15", 1, 13⟩]

/-- The row of `.global main`. -/
def globalRow : List Token := [⟨.directive, "global", 1, 1⟩, ⟨.ident, "main", 1, 9⟩]

/-- The machine of a program whose only row is given. -/
def onlyRow (row : List Token) : Machine :=
  .start (.ofTokens [row]) { enforceGlobal := false }

/-- Cut short behind its second operand, the row misses a comma at that operand; whole, it has
its operands, also with another row behind it. -/
theorem sumRow_verified :
    Pattern.register.FirstMisfit (sumRow.take 4) ⟨.missingOperand ⟨[.comma]⟩, ⟨1, 9⟩⟩ ∧
      (⟨.missingOperand ⟨[.comma]⟩, ⟨1, 9⟩⟩ : Fault).kind = .syntaxError ∧
      Pattern.register.verify (sumRow ++ sumRow) = .ok () ∧
      (∃ operands, Opcode.add.operands sumRow = .ok operands ∧ operands.StandIn sumRow) ∧
      2 ≤ globalRow.length ∧
      (onlyRow [⟨.tab, "", 1, 1⟩]).step.outcome = .refused ⟨.emptyRow 0, ⟨0, 0⟩⟩ ∧
      (onlyRow (sumRow.take 4)).step.outcome =
        .refused ⟨.missingOperand ⟨[.comma]⟩, ⟨1, 9⟩⟩ ∧
      Cause.missingOperand ⟨[.comma]⟩ ≠ .beyondRow := by
  obtain ⟨hverify, hoperands, hdirective, hempty, hplaces⟩ := verify_exact_and_places_there
  obtain ⟨_, hmisfit, hkind, _⟩ := hverify .register (sumRow.take 4)
  obtain ⟨_, _, _, hmore⟩ := hverify .register sumRow
  have hshort : Pattern.register.FirstMisfit (sumRow.take 4)
      ⟨.missingOperand ⟨[.comma]⟩, ⟨1, 9⟩⟩ := (hmisfit _).mp rfl
  have hrefused : (onlyRow (sumRow.take 4)).step.outcome =
      .refused ⟨.missingOperand ⟨[.comma]⟩, ⟨1, 9⟩⟩ := by decide +kernel
  refine ⟨hshort, hkind _ hshort, hmore rfl sumRow,
    (hoperands .add sumRow rfl).2, hdirective globalRow rfl, ?_, hrefused, ?_⟩
  · exact hempty (onlyRow [⟨.tab, "", 1, 1⟩]) 0 ⟨false, []⟩ rfl (by decide +kernel) rfl
  · exact hplaces _ _ hrefused

end ToyRisc
