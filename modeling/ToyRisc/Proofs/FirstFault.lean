/-
The first fault.  Where a row can be faulty in several ways, it is looked over in a fixed
order, and the first fault found is the one reported.  The order is given as the list of
what each look would find; a result reports the list if it fails exactly with the first
fault in it.  Checks made one after the other report their lists one after the other, and
a pattern is checked place by place.
-/
import ToyRisc.Proofs.RowEffects

namespace ToyRisc

/-- The fault with which a result fails, if it does. -/
def faultOf {α : Type} : Except Fault α → Option Fault
  | .ok _ => none
  | .error fault => some fault

/-- The first fault found, if any look finds one. -/
def firstFault (faults : List (Option Fault)) : Option Fault := faults.findSome? id

theorem firstFault_append (faults more : List (Option Fault)) :
    firstFault (faults ++ more) = (firstFault faults).or (firstFault more) :=
  List.findSome?_append

/-- `Reports faults P result`: the result fails with the first of these faults, and where
there is none it is a value with the property. -/
def Reports {α : Type} (faults : List (Option Fault)) (P : α → Prop) : Except Fault α → Prop :=
  Obeys (fun value => P value ∧ firstFault faults = none)
    (fun fault => firstFault faults = some fault)

namespace Reports

variable {α β : Type} {P Q : α → Prop} {R : β → Prop} {faults more : List (Option Fault)}

theorem faultOf_eq {result : Except Fault α} (h : Reports faults P result) :
    faultOf result = firstFault faults := by
  cases result with
  | ok value => exact h.2.symm
  | error fault => exact h.symm

/-- What is looked at later counts only where nothing was found before. -/
theorem bind {result : Except Fault α} {next : α → Except Fault β}
    (hresult : Reports faults P result)
    (hnext : ∀ value, P value → Reports more R (next value)) :
    Reports (faults ++ more) R (result >>= next) := by
  cases result with
  | error fault =>
      have hfirst : firstFault (faults ++ more) = some fault := by
        rw [firstFault_append, hresult, Option.some_or]
      exact hfirst
  | ok value =>
      obtain ⟨hvalue, hnone⟩ := hresult
      have hfirst : firstFault (faults ++ more) = firstFault more := by
        rw [firstFault_append, hnone, Option.none_or]
      rw [Reports, hfirst]
      exact hnext value hvalue

theorem mono {result : Except Fault α} (h : Reports faults P result)
    (hPQ : ∀ value, P value → Q value) : Reports faults Q result :=
  Obeys.mono h fun value hvalue => ⟨hPQ value hvalue.1, hvalue.2⟩

end Reports

/-- Where a row is found to be too short: at its last token. -/
def lastPlace (row : List Token) : Position := (row.getLast?.map Token.position).getD .nowhere

/-- What a slot finds wrong in place `n` of a row. -/
def Slot.fault? (slot : Slot) (row : List Token) (n : Nat) : Option Fault :=
  match row[n]? with
  | some token =>
      if slot.accepts token.kind then none
      else some ⟨.wrongOperand slot token.kind, token.position⟩
  | none => some ⟨.missingOperand slot, lastPlace row⟩

namespace Pattern

/-- What a pattern finds wrong in a row, place by place. -/
def faults (pattern : Pattern) (row : List Token) : List (Option Fault) :=
  pattern.mapIdx fun n slot => slot.fault? row n

/-- The rest of a pattern reports what it finds behind the tokens that are done with. -/
theorem verifyFrom_reports (pattern : Pattern) (passed tokens : List Token) :
    Reports (pattern.mapIdx fun n slot => slot.fault? (passed ++ tokens) (passed.length + n))
      (fun _ => True) (pattern.verifyFrom (lastPlace passed) tokens) := by
  induction pattern generalizing passed tokens with
  | nil => exact ⟨trivial, rfl⟩
  | cons slot slots ih =>
      rw [List.mapIdx_cons]
      cases tokens with
      | nil =>
          have hmissing : slot.fault? (passed ++ []) (passed.length + 0) =
              some ⟨.missingOperand slot, lastPlace passed⟩ := by
            simp [Slot.fault?]
          rw [hmissing]
          exact rfl
      | cons token tokens =>
          have hplace : (passed ++ token :: tokens)[passed.length + 0]? = some token := by simp
          rw [Slot.fault?, hplace, verifyFrom]
          by_cases haccepts : slot.accepts token.kind = true
          · -- the token joins those that are done with
            have hrest := ih (passed ++ [token]) tokens
            have hlast : lastPlace (passed ++ [token]) = token.position := by simp [lastPlace]
            rw [hlast, List.append_assoc] at hrest
            simp only [haccepts, if_true]
            simpa [Reports, firstFault, Nat.add_assoc, Nat.add_comm 1] using hrest
          · simp only [haccepts]
            exact rfl

/-- Verification finds the first place in which a row does not match. -/
theorem verify_reports (pattern : Pattern) (row : List Token) :
    Reports (pattern.faults row) (fun _ => True) (pattern.verify row) := by
  have h := pattern.verifyFrom_reports [] row
  simpa [faults, verify, lastPlace] using h

end Pattern

end ToyRisc
