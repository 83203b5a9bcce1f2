/-
Empty rows.  A run stops at a row without a body, and a loaded program has such rows
where a comment stands behind two or more indentation marks: one mark alone is
dropped with its line, two are kept.
-/
import Mathlib.Data.List.TakeWhile
import ToyRisc.Proofs.CommentLines
import ToyRisc.Proofs.RowEffects
import ToyRisc.Proofs.Stepping

namespace ToyRisc

/-- Rows of nothing but indentation marks, and more than one of them. -/
structure OnlyMarks (row : List Token) : Prop where
  several : 2 ≤ row.length
  marks : AllMarks row

theorem body_ofTokens_eq_nil_iff (row : List Token) :
    (Row.ofTokens row).body = [] ↔ AllMarks row := by
  simp only [Row.ofTokens, AllMarks, List.dropWhile_eq_nil_iff, Row.isMark, beq_iff_eq]

/-- A row that is worth keeping and has no other token has several marks. -/
theorem onlyMarks_of_keeps {row : List Token} (hkeeps : Source.keeps row = true)
    (hmarks : AllMarks row) : OnlyMarks row := by
  refine ⟨?_, hmarks⟩
  match row with
  | [] => cases hkeeps
  | [token] =>
      rw [Source.keeps, hmarks token List.mem_cons_self] at hkeeps
      cases hkeeps
  | first :: second :: rest => simp

theorem OnlyMarks.keeps {row : List Token} (h : OnlyMarks row) : Source.keeps row = true := by
  match row, h.several with
  | first :: second :: rest, _ => rfl

namespace Machine

theorem bodyVerdict_lost_iff {machine : Machine} {n : Nat} {body : List Token} {cause : Cause} :
    machine.bodyVerdict n body = .lost cause ↔ body = [] ∧ cause = .emptyRow n := by
  cases body with
  | nil => simp [bodyVerdict, eq_comm]
  | cons first rest =>
      simp only [bodyVerdict, rowVerdict]
      split
      · simp
      · simp

theorem verdict_eq_emptyRow_iff (machine : Machine) (n : Nat) :
    machine.verdict = .lost (.emptyRow n) ↔
      machine.counter = n ∧ ∃ row, machine.program.rows[n]? = some row ∧ row.body = [] := by
  rcases machine.verdict_cases with
    ⟨hsize, hverdict⟩ | ⟨hneg, hverdict⟩ | ⟨m, row, hm, hrow, hverdict⟩
  · rw [hverdict]
    simp only [reduceCtorEq, false_iff, not_and, not_exists]
    intro hn row hrow
    have hlt := (Array.getElem?_eq_some_iff.mp hrow).1
    rw [Program.size] at hsize
    omega
  · rw [hverdict]
    simp only [Verdict.lost.injEq, reduceCtorEq, false_iff, not_and]
    intro hn
    omega
  · rw [hverdict, bodyVerdict_lost_iff, hm]
    constructor
    · rintro ⟨hbody, hcause⟩
      cases hcause
      exact ⟨rfl, row, hrow, hbody⟩
    · rintro ⟨hn, found, hfound, hbody⟩
      obtain rfl : m = n := Int.ofNat.inj hn
      rw [hrow] at hfound
      cases hfound
      exact ⟨hbody, rfl⟩

/-- A step finds an empty row exactly where the program counter is on one. -/
theorem step_emptyRow_iff (machine : Machine) (n : Nat) :
    (∃ place, machine.step.outcome = .refused ⟨.emptyRow n, place⟩) ↔
      machine.counter = n ∧ ∃ row, machine.program.rows[n]? = some row ∧ row.body = [] := by
  rw [← verdict_eq_emptyRow_iff]
  constructor
  · rintro ⟨place, hstep⟩
    obtain ⟨start, hrefusal⟩ := exists_refusal_of_refused hstep
    cases hverdict : machine.verdict with
    | finished => simp [hverdict, Verdict.refusal?] at hrefusal
    | lost cause =>
        simp only [hverdict, Verdict.refusal?, Option.some.injEq, Prod.mk.injEq,
          Fault.mk.injEq] at hrefusal
        rw [hrefusal.1.1]
    | refused fault found =>
        -- what an executed row is refused for is never that it is empty
        obtain ⟨_, _, _, _, _, _, _, hfault⟩ := rowFault_of_verdict hverdict
        have hlies := hfault.liesInRow
        simp only [hverdict, Verdict.refusal?, Option.some.injEq, Prod.mk.injEq] at hrefusal
        rw [hrefusal.1] at hlies
        cases hlies
    | executed registers found => simp [hverdict, Verdict.refusal?] at hrefusal
  · intro hverdict
    obtain ⟨log, hstep⟩ := machine.exists_step_eq_conclude
    exact ⟨machine.last, by rw [hstep, hverdict]; rfl⟩

end Machine

/-- In a program made of rows of tokens the empty rows are those of marks alone. -/
theorem Machine.reached_emptyRow_iff (rows : List (List Token)) (options : Settings)
    (history : List Call) (n : Nat) :
    (∃ place, (reached rows options history).step.outcome = .refused ⟨.emptyRow n, place⟩) ↔
      (reached rows options history).counter = n ∧ ∃ row, rows[n]? = some row ∧ AllMarks row := by
  rw [step_emptyRow_iff, reached_program]
  simp [Program.ofTokens, body_ofTokens_eq_nil_iff]

section Loading

open Source

variable {settings : LoadSettings} {lines : List Text} {rows : List (List Token)}

theorem Source.Loads.marks_or_other (h : Loads settings 1 lines rows) {row : List Token}
    (hrow : row ∈ rows) : (∃ token ∈ row, token.kind ≠ .tab) ∨ OnlyMarks row := by
  by_cases hmarks : AllMarks row
  · exact .inr (onlyMarks_of_keeps (h.exists_line hrow).1 hmarks)
  · simp only [AllMarks, Classical.not_forall] at hmarks
    obtain ⟨token, htoken, hkind⟩ := hmarks
    exact .inl ⟨token, htoken, hkind⟩

/-- A comment line has a row in the program exactly where it has several marks. -/
theorem Source.Loads.commentLine_iff (h : Loads settings 1 lines rows) {i : Nat} {line : Text}
    {tabs : Nat} (hi : lines[i]? = some line) (hnewline : .scalar '\n' ∉ line)
    (hcomment : CommentLine line tabs) :
    (∃ row ∈ rows, ∃ token ∈ row, token.line = i + 1) ↔ 2 ≤ tabs := by
  obtain ⟨row, hload, hkept⟩ := h.exists_row hi
  obtain ⟨hmarks, rfl⟩ := hcomment.marks hnewline hload
  constructor
  · rintro ⟨found, hfound, token, htoken, hline⟩
    obtain ⟨hkeeps, j, other, hj, hother⟩ := h.exists_line hfound
    -- its tokens tell which line a row is from
    have hnumber := token_line_of_loadLine hother token htoken
    obtain rfl : j = i := by omega
    rw [hi] at hj
    cases hj
    rw [hload] at hother
    cases hother
    exact (onlyMarks_of_keeps hkeeps hmarks).several
  · intro hseveral
    have hrow := hkept (OnlyMarks.keeps ⟨hseveral, hmarks⟩)
    obtain ⟨token, htoken⟩ := List.exists_mem_of_length_pos (l := row) (by omega)
    refine ⟨row, hrow, token, htoken, ?_⟩
    rw [token_line_of_loadLine hload token htoken]
    omega

/-- A row of marks alone is the row of a comment line. -/
theorem Source.Loads.exists_commentLine (h : Loads settings 1 lines rows)
    (hnewline : ∀ line ∈ lines, .scalar '\n' ∉ line) {row : List Token} (hrow : row ∈ rows)
    (hmarks : OnlyMarks row) :
    ∃ (i : Nat) (line : Text), lines[i]? = some line ∧ CommentLine line row.length ∧
      ∀ token ∈ row, token.line = i + 1 := by
  obtain ⟨_, i, line, hi, hload⟩ := h.exists_line hrow
  have hbare := hnewline line (List.mem_of_getElem? hi)
  have hne : row ≠ [] := by
    rintro rfl
    exact absurd hmarks.several (by decide)
  obtain ⟨tabs, hcomment⟩ := exists_commentLine_of_allMarks hbare hload hmarks.marks hne
  obtain ⟨_, rfl⟩ := hcomment.marks hbare hload
  refine ⟨i, line, hi, hcomment, ?_⟩
  intro token htoken
  rw [token_line_of_loadLine hload token htoken]
  omega

end Loading

/-- Where the empty rows of a loaded program come from.  Every row has a token that is
no indentation mark, or consists of two or more marks and is from a comment line; a
run stops at an empty row exactly where it gets to one of the latter; and a comment
line is dropped exactly where its indentation comes to no more than one tab. -/
theorem loaded_rows_empty_exactly (settings : LoadSettings) (text : Text)
    (hload : (Source.load settings text).error = none) :
    (∀ row ∈ (Source.load settings text).rows,
      (∃ token ∈ row, token.kind ≠ .tab) ∨
        OnlyMarks row ∧ ∃ (i : Nat) (line : Text), (Source.lines text)[i]? = some line ∧
          CommentLine line row.length ∧ ∀ token ∈ row, token.line = i + 1) ∧
    (∀ (options : Settings) (history : List Call) (n : Nat),
      (∃ place, (Machine.reached (Source.load settings text).rows options history).step.outcome =
          .refused ⟨.emptyRow n, place⟩) ↔
        (Machine.reached (Source.load settings text).rows options history).counter = n ∧
          ∃ row, (Source.load settings text).rows[n]? = some row ∧ OnlyMarks row) ∧
    (∀ (i : Nat) (line : Text) (tabs : Nat), (Source.lines text)[i]? = some line →
      CommentLine line tabs →
        ((∃ row ∈ (Source.load settings text).rows, ∃ token ∈ row, token.line = i + 1) ↔
          2 ≤ tabs)) := by
  have hloads := Source.loads_of_load hload
  refine ⟨?_, ?_, ?_⟩
  · intro row hrow
    rcases hloads.marks_or_other hrow with hother | hmarks
    · exact .inl hother
    · exact .inr ⟨hmarks, hloads.exists_commentLine
        (fun line hline => Source.newline_not_mem_lines hline) hrow hmarks⟩
  · intro options history n
    rw [Machine.reached_emptyRow_iff]
    constructor
    · rintro ⟨hcounter, row, hrow, hmarks⟩
      have hkeeps := (hloads.exists_line (List.mem_of_getElem? hrow)).1
      exact ⟨hcounter, row, hrow, onlyMarks_of_keeps hkeeps hmarks⟩
    · rintro ⟨hcounter, row, hrow, hmarks⟩
      exact ⟨hcounter, row, hrow, hmarks.marks⟩
  · intro i line tabs hi hcomment
    exact hloads.commentLine_iff hi (Source.newline_not_mem_lines (List.mem_of_getElem? hi))
      hcomment

/-- A comment behind two tabs. -/
def twiceIndented : Text := .ofString "\t\t# c"

/-- Not every row of a loaded program has a token that is no mark, nor can every run
go on: the comment behind two tabs makes an empty row. -/
theorem twiceIndented_row_empty :
    (Source.load {} twiceIndented).error = none ∧
      ¬ (∀ row ∈ (Source.load {} twiceIndented).rows, ∃ token ∈ row, token.kind ≠ .tab) ∧
      (Machine.reached (Source.load {} twiceIndented).rows {} []).step.outcome =
        .refused ⟨.emptyRow 0, .nowhere⟩ := by
  decide +kernel

/-- A comment behind a tab and four spaces. -/
def mixedIndent : Text := .ofString "\t    # c"

theorem mixedIndent_commentLine : CommentLine mixedIndent 2 :=
  ⟨['\t', ' ', ' ', ' ', ' '], ['\t', '\t'], [.scalar ' ', .scalar 'c'], rfl, by simp,
    .first ['\t'] [] (by decide), rfl⟩

/-- The line is kept, and a run stops at it before anything is executed. -/
theorem mixedIndent_kept_and_refused :
    (∃ row ∈ (Source.load {} mixedIndent).rows, ∃ token ∈ row, token.line = 1) ∧
      ∃ place, (Machine.reached (Source.load {} mixedIndent).rows {} []).step.outcome =
        .refused ⟨.emptyRow 0, place⟩ := by
  have hload : (Source.load {} mixedIndent).error = none := by decide +kernel
  obtain ⟨_, hruns, hlines⟩ := loaded_rows_empty_exactly {} mixedIndent hload
  constructor
  · exact (hlines 0 mixedIndent 2 rfl mixedIndent_commentLine).mpr (Nat.le_refl 2)
  · have hrow : (Source.load {} mixedIndent).rows[0]? =
        some [⟨.tab, "", 1, 1⟩, ⟨.tab, "", 1, 2⟩] := by decide +kernel
    exact (hruns {} [] 0).mpr ⟨rfl, _, hrow, by decide, by simp [AllMarks]⟩

end ToyRisc
