/-
What an executed row does, exactly.  An arithmetic instruction changes its destination and
the program counter, every other row the program counter alone.  The program counter can be
a source and the destination itself, and it goes on by one after everything else; only the
destination and an offset can carry it beyond what a word holds, and the offsets that a lexer
reads cannot.
-/
import ToyRisc.Proofs.GlobalDirective
import ToyRisc.Proofs.Instructions
import ToyRisc.Proofs.Payloads

namespace ToyRisc

/-- An integer as a word holds it. -/
def wrapped (n : Int) : Int := n.bmod (2 ^ 32)

theorem wrapped_of_fits {n : Int} (hlow : -2 ^ 31 ≤ n) (hhigh : n < 2 ^ 31) : wrapped n = n :=
  Int.bmod_eq_of_le (by simp; omega) (by simp; omega)

theorem toInt_add_one (a : Int32) : (a + 1).toInt = wrapped (a.toInt + 1) :=
  Int32.toInt_add a 1

/-- The sum may wrap on the way; in the end it has wrapped once. -/
theorem toInt_add_offset (a : Int32) {m : Int} (hlow : -2 ^ 31 ≤ m) (hhigh : m < 2 ^ 31) :
    (a + Int32.ofInt m / 4 + 1).toInt = wrapped (a.toInt + 1 + m.tdiv 4) := by
  have hword : (Int32.ofInt m).toInt = m := Int32.toInt_ofInt_of_le hlow hhigh
  have hfour : (4 : Int32).toInt = 4 := rfl
  rw [toInt_add_one, Int32.toInt_add, Int32.toInt_div, hword, hfour, Int.add_bmod_bmod, wrapped,
    Int.bmod_add_bmod, wrapped, Int.add_right_comm]

namespace RegisterFile

theorem read_pcIndex (registers : RegisterFile) :
    registers.read pcIndex = .ok registers.counter := rfl

/-- `registers.SentTo n changed`: the program counter has come to `n`, and nothing else has
changed. -/
structure SentTo (registers : RegisterFile) (n : Int) (changed : RegisterFile) : Prop where
  counter : changed.counter.toInt = n
  others : SameBut pcIndex changed registers

theorem SameBut.sentTo {registers moved : RegisterFile} (h : SameBut pcIndex moved registers)
    {target : Int32} {n : Int} (htarget : target.toInt = n) :
    registers.SentTo n (moved.goto target) := by
  refine ⟨?_, h.goto target⟩
  rw [counter_goto, htarget]

/-- A jump and the step behind it. -/
theorem sentTo_goto_advance (registers : RegisterFile) {target : Int32} {n : Int}
    (h : (target + 1).toInt = n) : registers.SentTo n (registers.goto target).advance := by
  have hsame : SameBut pcIndex registers registers := fun _ _ _ => rfl
  apply (hsame.goto target).sentTo
  rw [counter_goto, h]

theorem sentTo_advance (registers : RegisterFile) (h : registers.counter.toInt + 1 < 2 ^ 31) :
    registers.SentTo (registers.counter.toInt + 1) registers.advance := by
  have hsame : SameBut pcIndex registers registers := fun _ _ _ => rfl
  exact hsame.sentTo (toInt_add_one_of_lt (by omega))

end RegisterFile

namespace LabelTable

/-- What an instruction does to the registers.  The sources are those before the row; `wrap`
tells what becomes of a sum that may be too large for the program counter. -/
inductive InstructionEffect (wrap : Int → Int) (labels : LabelTable) (registers : RegisterFile)
    (row : List Token) (changed : RegisterFile) : Prop
  /-- The result goes to a register other than the program counter. -/
  | result {target : Int} {value : Int32} (hcomputes : registers.Computes row target value)
      (htarget : target ≠ pcIndex) (hvalue : changed.read target = .ok value)
      (hcounter : changed.counter.toInt = registers.counter.toInt + 1)
      (hothers : RegisterFile.SameBut target changed registers)
  /-- The result goes to the program counter, which then goes on. -/
  | counter {value : Int32} (hcomputes : registers.Computes row pcIndex value)
      (hsent : registers.SentTo (wrap (value.toInt + 1)) changed)
  | untaken {target : Token} (hbranches : registers.Branches row false target)
      (hsent : registers.SentTo (registers.counter.toInt + 1) changed)
  | label {target : Token} {m : Nat} (hbranches : registers.Branches row true target)
      (hkind : target.kind = .ident) (hfind : labels.find? target.literal = some m)
      (hsent : registers.SentTo (m + 1) changed)
  | offset {target : Token} {m : Int} (hbranches : registers.Branches row true target)
      (hkind : target.kind = .immediate) (hnumber : target.number? = some m)
      (hword : -2 ^ 31 ≤ m ∧ m < 2 ^ 31)
      (hsent : registers.SentTo (wrap (registers.counter.toInt + 1 + m.tdiv 4)) changed)

section Effects

variable {labels : LabelTable} {registers moved : RegisterFile} {row : List Token}

theorem effect_of_writes {target : Int} {value : Int32}
    (hcounter : registers.counter.toInt + 1 < 2 ^ 31)
    (hcomputes : registers.Computes row target value)
    (hwrite : registers.write target value = .ok moved) :
    labels.InstructionEffect wrapped registers row moved.advance := by
  have hsame : RegisterFile.SameBut target moved registers :=
    fun index hindex _ => RegisterFile.read_of_write_of_ne hwrite hindex
  by_cases htarget : target = pcIndex
  · subst htarget
    have hmoved := (moved.read_pcIndex).symm.trans (RegisterFile.read_of_write hwrite)
    apply InstructionEffect.counter hcomputes
    apply hsame.sentTo
    rw [Except.ok.inj hmoved, toInt_add_one]
  · have hmoved : moved.counter = registers.counter := by
      have hread := RegisterFile.read_of_write_of_ne hwrite (Ne.symm htarget)
      exact Except.ok.inj hread
    apply InstructionEffect.result hcomputes htarget
    · rw [RegisterFile.advance, RegisterFile.read_goto_of_ne _ _ htarget,
        RegisterFile.read_of_write hwrite]
    · rw [RegisterFile.counter_advance, hmoved, toInt_add_one_of_lt (by omega)]
    · exact hsame.goto _

/-- The effect of an instruction behind which the program counter can go on, as behind all
labels. -/
theorem Performs.effect (h : labels.Performs registers row moved)
    (hcounter : registers.counter.toInt + 1 < 2 ^ 31)
    (hlabels : ∀ name m, labels.find? name = some m → m + 1 < 2 ^ 31) :
    labels.InstructionEffect wrapped registers row moved.advance := by
  rcases h with ⟨hcomputes, hwrite⟩ | ⟨hbranches⟩ | ⟨hbranches, hleads⟩
  · exact effect_of_writes hcounter hcomputes hwrite
  · exact .untaken hbranches (registers.sentTo_advance hcounter)
  · rcases hleads with ⟨hkind, hfind⟩ | ⟨hkind, hword⟩
    · have hlt := hlabels _ _ hfind
      apply InstructionEffect.label hbranches hkind hfind
      exact registers.sentTo_goto_advance (toInt_ofNat_add_one hlt)
    · obtain ⟨m, hnumber, hrange, rfl⟩ := Token.word?_eq_some_iff.mp hword
      apply InstructionEffect.offset hbranches hkind hnumber hrange
      exact registers.sentTo_goto_advance (toInt_add_offset _ hrange.1 hrange.2)

end Effects

end LabelTable

namespace Program

/-- The first row from `n` on that is not indented, or the number of rows. -/
def skipIndented (program : Program) (n : Nat) : Nat :=
  if h : n < program.rows.size then
    if program.rows[n].indented then program.skipIndented (n + 1) else n
  else n
termination_by program.rows.size - n

theorem le_skipIndented (program : Program) (n : Nat) : n ≤ program.skipIndented n := by
  fun_induction skipIndented program n with
  | case1 n hlt hindented ih => omega
  | case2 n hlt hindented => exact Nat.le_refl n
  | case3 n hle => exact Nat.le_refl n

theorem skipIndented_le (program : Program) {n : Nat} (h : n ≤ program.size) :
    program.skipIndented n ≤ program.size := by
  fun_induction skipIndented program n with
  | case1 n hlt hindented ih => exact ih hlt
  | case2 n hlt hindented => exact h
  | case3 n hle => exact h

theorem skipIndented_of_indentedAt {program : Program} {n : Nat}
    (h : program.indentedAt n = true) :
    program.skipIndented n = program.skipIndented (n + 1) := by
  have hlt : n < program.rows.size := by
    have hrow := lt_size_of_indentedAt h
    rw [size] at hrow
    omega
  have hindented : program.rows[n].indented = true := by
    simpa [indentedAt, hlt] using h
  rw [skipIndented, dif_pos hlt, if_pos hindented]

theorem skipIndented_of_not_indentedAt {program : Program} {n : Nat}
    (h : ¬ program.indentedAt n = true) : program.skipIndented n = n := by
  rw [skipIndented]
  split
  · rename_i hlt
    have hplain : ¬ program.rows[n].indented = true := by
      simpa [indentedAt, hlt] using h
    rw [if_neg hplain]
  · rfl

/-- As long as words can count the rows, the loop over the register ends at the first row that is
not indented. -/
theorem leaveBody_eq {program : Program} (hsize : program.size < 2 ^ 31) (registers : RegisterFile)
    (hlow : 0 ≤ registers.counter.toInt) :
    program.leaveBody registers =
      registers.goto (Int32.ofNat (program.skipIndented registers.counter.toInt.toNat)) := by
  have hcounter : registers.counter.toInt = registers.counter.toInt.toNat := by omega
  fun_induction program.leaveBody registers with
  | case1 registers hindented ih =>
      have hrow := lt_size_of_indentedAt hindented
      have hnext : registers.advance.counter.toInt = registers.counter.toInt + 1 := by
        rw [RegisterFile.counter_advance, toInt_add_one_of_lt (by omega)]
      rw [hcounter] at hindented
      rw [ih (by omega) (by omega), skipIndented_of_indentedAt hindented, hnext,
        Int.toNat_add hlow (by decide), RegisterFile.advance, RegisterFile.goto_goto]
      rfl
  | case2 registers hplain =>
      rw [hcounter] at hplain
      have hword : Int32.ofNat registers.counter.toInt.toNat = registers.counter := by
        rw [← Int32.toInt_inj, Int32.toInt_ofNat_of_lt]
        · exact hcounter.symm
        · have hhigh := registers.counter.toInt_lt
          omega
      rw [skipIndented_of_not_indentedAt hplain, hword, RegisterFile.goto_counter]

/-- What a row does to the registers. -/
inductive RowEffect (wrap : Int → Int) (program : Program) (registers : RegisterFile)
    (first : Token) (row : List Token) (changed : RegisterFile) : Prop
  | nop (hkind : first.kind = .nop)
      (hsent : registers.SentTo (registers.counter.toInt + 1) changed)
  /-- The indented rows below a label are skipped. -/
  | label (hkind : first.kind = .label)
      (hsent : registers.SentTo (program.skipIndented (registers.counter.toInt + 1).toNat) changed)
  | directive {name : Token} {m : Nat} (hkind : first.kind = .directive) (hline : first.line = 1)
      (hname : row[1]? = some name) (hfind : program.labels.find? name.literal = some m)
      (hsent : registers.SentTo (m + 1) changed)
  | instruction (hkind : first.kind = .instruction)
      (heffect : program.labels.InstructionEffect wrap registers row changed)

section Rows

variable {rows : List (List Token)} {registers changed : RegisterFile} {first : Token}
  {rest : List Token}

theorem effect_of_directive (hrows : rows.length < 2 ^ 31) (hkind : first.kind = .directive)
    {moved : RegisterFile}
    (h : (ofTokens rows).labels.directive registers first (first :: rest) = .ok moved) :
    (ofTokens rows).RowEffect wrapped registers first (first :: rest) moved.advance := by
  obtain ⟨hline, mark, name, more, m, hsplit, _, hfind, rfl⟩ := LabelTable.directive_eq_ok h
  have hlt := lt_size_of_find? rows hfind
  apply RowEffect.directive hkind hline _ hfind
  · exact registers.sentTo_goto_advance (toInt_ofNat_add_one (by omega))
  · rw [hsplit]
    rfl

theorem effect_of_label (hrows : rows.length < 2 ^ 31) (hlow : 0 ≤ registers.counter.toInt)
    (hhigh : registers.counter.toInt < rows.length) :
    registers.SentTo ((ofTokens rows).skipIndented (registers.counter.toInt + 1).toNat)
      ((ofTokens rows).leaveBody registers.advance) := by
  have hadvance := registers.sentTo_advance (by omega)
  have hle : (ofTokens rows).skipIndented (registers.counter.toInt + 1).toNat ≤ rows.length := by
    rw [← size_ofTokens rows]
    apply skipIndented_le
    rw [size_ofTokens]
    omega
  have hsize : (ofTokens rows).size < 2 ^ 31 := by rwa [size_ofTokens]
  have hnext : 0 ≤ registers.advance.counter.toInt := by
    rw [hadvance.counter]
    omega
  rw [leaveBody_eq hsize registers.advance hnext, hadvance.counter]
  apply hadvance.others.sentTo
  exact Int32.toInt_ofNat_of_lt (by omega)

/-- What a row does that is executed in its place. -/
theorem effect_of_execute (hrows : rows.length < 2 ^ 31) (hlow : 0 ≤ registers.counter.toInt)
    (hhigh : registers.counter.toInt < rows.length)
    (h : (ofTokens rows).execute registers first (first :: rest) = .ok changed) :
    (ofTokens rows).RowEffect wrapped registers first (first :: rest) changed := by
  rw [execute_eq] at h
  split at h
  · rename_i hkind
    cases h
    exact .nop hkind (registers.sentTo_advance (by omega))
  · rename_i hkind
    cases h
    exact .label hkind (effect_of_label hrows hlow hhigh)
  · rename_i hkind
    have hreports := (ofTokens rows).labels.instruction_reports registers first rest
    cases hmoved : (ofTokens rows).labels.instruction registers first (first :: rest) with
    | error fault =>
        rw [hmoved] at h
        cases h
    | ok moved =>
        rw [hmoved] at h hreports
        cases h
        apply RowEffect.instruction hkind
        apply hreports.1.effect (by omega)
        intro name m hfind
        have hlt := lt_size_of_find? rows hfind
        omega
  · rename_i hkind
    cases hmoved : (ofTokens rows).labels.directive registers first (first :: rest) with
    | error fault =>
        rw [hmoved] at h
        cases h
    | ok moved =>
        rw [hmoved] at h
        cases h
        exact effect_of_directive hrows hkind hmoved
  · cases h

end Rows

end Program

namespace Machine

/-- `machine.Faces rows tokens first rest`: the program counter is on the row of these tokens,
which opens with `first`, any marks left aside. -/
structure Faces (machine : Machine) (rows : List (List Token)) (tokens : List Token)
    (first : Token) (rest : List Token) : Prop where
  nonneg : 0 ≤ machine.counter
  row : rows[machine.counter.toNat]? = some tokens
  body : (Row.ofTokens tokens).body = first :: rest

section Steps

variable {machine : Machine} {rows : List (List Token)} {tokens : List Token} {first : Token}
  {rest : List Token}

theorem faces_of_counter {n : Nat} (hcounter : machine.counter = n) (hrow : rows[n]? = some tokens)
    (hbody : (Row.ofTokens tokens).body = first :: rest) :
    machine.Faces rows tokens first rest := by
  refine ⟨by omega, ?_, hbody⟩
  rw [hcounter, Int.toNat_natCast, hrow]

theorem Faces.lt_length (h : machine.Faces rows tokens first rest) :
    machine.counter < rows.length := by
  have hlt := (List.getElem?_eq_some_iff.mp h.row).1
  have hnonneg := h.nonneg
  omega

theorem Faces.unique (h : machine.Faces rows tokens first rest) {others : List Token}
    {other : Token} {more : List Token} (hother : machine.Faces rows others other more) :
    tokens = others ∧ first = other ∧ rest = more := by
  obtain rfl : tokens = others := Option.some.inj (h.row.symm.trans hother.row)
  exact ⟨rfl, List.cons.inj (h.body.symm.trans hother.body)⟩

theorem Faces.verdict (h : machine.Faces rows tokens first rest)
    (hprogram : machine.program = .ofTokens rows) :
    machine.verdict = machine.rowVerdict first (first :: rest) := by
  have hlength := h.lt_length
  have hnonneg := h.nonneg
  have hsize : machine.program.size = rows.length := by rw [hprogram, Program.size_ofTokens]
  rcases machine.verdict_cases with ⟨hdone, _⟩ | ⟨hneg, _⟩ | ⟨n, row, hn, hrow, hverdict⟩
  · omega
  · omega
  · have hfaced := h.row
    rw [hn, Int.toNat_natCast] at hfaced
    rw [hprogram, Program.rows_ofTokens, hfaced] at hrow
    cases hrow
    rw [hverdict, h.body]
    rfl

/-- Where the directive is asked for and found, it has no other effect than elsewhere. -/
theorem program_execute_of_execute {row : List Token} {changed : RegisterFile}
    (h : machine.execute first row = .ok changed) :
    machine.program.execute machine.registers first row = .ok changed := by
  rw [execute_eq] at h
  split at h
  · have hglobal := (Program.executeGlobal_eq_ok h).1
    rwa [Program.executeGlobal_eq_execute _ _ _ hglobal] at h
  · exact h

/-- A step that executes a row has that row's effect, and the row is remembered. -/
theorem step_effect (hprogram : machine.program = .ofTokens rows) (hrows : rows.length < 2 ^ 31)
    (h : machine.step.outcome.ran = true) :
    ∃ tokens first rest, machine.Faces rows tokens first rest ∧
      (Program.ofTokens rows).RowEffect wrapped machine.registers first (first :: rest)
        machine.step.machine.registers ∧
      machine.step.machine.last = first.position := by
  obtain ⟨changed, place, log, hverdict, hstep⟩ := exists_step_eq_emit h
  obtain ⟨n, row, first, rest, hn, hrow, hbody, hrowVerdict⟩ :=
    machine.exists_row_of_verdict (by simp [hverdict]) (by simp [hverdict])
  rw [hprogram, Program.rows_ofTokens] at hrow
  obtain ⟨tokens, htokens, rfl⟩ := Option.map_eq_some_iff.mp hrow
  have hfaces : machine.Faces rows tokens first rest := faces_of_counter hn htokens hbody
  have hexecuted := hrowVerdict.symm.trans hverdict
  have hexecute := execute_of_rowVerdict_executed hexecuted
  rw [rowVerdict, hexecute] at hexecuted
  cases hexecuted
  have hchanged := program_execute_of_execute hexecute
  rw [hprogram] at hchanged
  rw [hstep, emit_machine]
  exact ⟨tokens, first, rest, hfaces,
    Program.effect_of_execute hrows hfaces.nonneg hfaces.lt_length hchanged, rfl⟩

end Steps

end Machine

/-- Rows that the lexer makes of some line. -/
def Lexed (tokens : List Token) : Prop := ∃ chars line, tokenize chars line = .ok tokens

theorem Source.lexed_of_mem_load {settings : LoadSettings} {text : Text} {tokens : List Token}
    (h : tokens ∈ (load settings text).rows) : Lexed tokens := by
  obtain ⟨_, i, _, prepared, _, _, _, htokens⟩ := exists_rowOf h
  exact ⟨prepared.chars, 1 + i, htokens⟩

/-- No immediate of the row has a negative number. -/
def Unsigned (row : List Token) : Prop :=
  ∀ token ∈ row, token.kind = .immediate → ∀ m, token.number? = some m → 0 ≤ m

/-- No lexer reads a sign. -/
theorem Lexed.unsigned {tokens : List Token} (h : Lexed tokens) : Unsigned tokens := by
  intro token hmem hkind m hnumber
  obtain ⟨chars, line, htokens⟩ := h
  obtain ⟨spans, hcuts, himages⟩ := (scan_eq_ok_iff _ _ tokens).mp htokens
  have hbefore : Images line ([] : List Char).length spans tokens := himages
  obtain ⟨span, rest, hstands⟩ := hcuts.exists_standsFor hbefore hmem
  have hmeans := hstands.means
  rw [hkind] at hmeans
  obtain ⟨digits, rfl, hliteral⟩ := hmeans.exists_number
  rw [Token.number?, hliteral, String.toList_ofList] at hnumber
  exact Decimal.nonneg_of_integer? hstands.fits.2.inside hnumber

/-- From one of the first `2 ^ 30` rows no offset leads too far. -/
theorem wrapped_offset {n m : Int} (hlow : 0 ≤ n) (hhigh : n < 2 ^ 30) (hm : 0 ≤ m)
    (hword : m < 2 ^ 31) : wrapped (n + 1 + m.tdiv 4) = n + 1 + m.tdiv 4 := by
  have hquarter : m.tdiv 4 = m / 4 := Int.tdiv_eq_ediv_of_nonneg hm
  exact wrapped_of_fits (by omega) (by omega)

section Offsets

variable {wrap : Int → Int} {labels : LabelTable} {program : Program}
  {registers changed : RegisterFile} {first : Token} {row : List Token}

theorem LabelTable.InstructionEffect.counter_of_offset
    (h : labels.InstructionEffect wrap registers row changed) {target : Token} {m : Int}
    (hbranches : registers.Branches row true target) (hkind : target.kind = .immediate)
    (hnumber : target.number? = some m) :
    (-2 ^ 31 ≤ m ∧ m < 2 ^ 31) ∧
      changed.counter.toInt = wrap (registers.counter.toInt + 1 + m.tdiv 4) := by
  rcases h with ⟨hcomputes, _, _, _, _⟩ | ⟨hcomputes, _⟩ | ⟨huntaken, _⟩ |
    ⟨htaken, hident, _, _⟩ | ⟨htaken, _, hfound, hword, hsent⟩
  · exact absurd hbranches hcomputes.not_branches
  · exact absurd hbranches hcomputes.not_branches
  · exact absurd (huntaken.unique hbranches).1 (by simp)
  · obtain rfl := (htaken.unique hbranches).2
    rw [hident] at hkind
    cases hkind
  · obtain rfl := (htaken.unique hbranches).2
    obtain rfl := Option.some.inj (hfound.symm.trans hnumber)
    exact ⟨hword, hsent.counter⟩

theorem LabelTable.InstructionEffect.unwrapped
    (h : labels.InstructionEffect wrapped registers row changed)
    (hlow : 0 ≤ registers.counter.toInt) (hhigh : registers.counter.toInt < 2 ^ 30)
    (hunsigned : Unsigned row) (hcomputes : ∀ value, ¬ registers.Computes row pcIndex value) :
    labels.InstructionEffect id registers row changed := by
  rcases h with ⟨hresult, htarget, hvalue, hcounter, hothers⟩ | ⟨hresult, _⟩ | ⟨huntaken, hsent⟩ |
    ⟨htaken, hkind, hfind, hsent⟩ | ⟨htaken, hkind, hnumber, hword, hsent⟩
  · exact .result hresult htarget hvalue hcounter hothers
  · exact absurd hresult (hcomputes _)
  · exact .untaken huntaken hsent
  · exact .label htaken hkind hfind hsent
  · have hnonneg := hunsigned _ htaken.target_mem hkind _ hnumber
    rw [wrapped_offset hlow hhigh hnonneg hword.2] at hsent
    exact .offset htaken hkind hnumber hword hsent

theorem Program.RowEffect.of_instruction (h : program.RowEffect wrap registers first row changed)
    (hkind : first.kind = .instruction) :
    program.labels.InstructionEffect wrap registers row changed := by
  rcases h with ⟨hother, _⟩ | ⟨hother, _⟩ | ⟨hother, _, _, _, _⟩ | ⟨_, heffect⟩
  · simp [hkind] at hother
  · simp [hkind] at hother
  · simp [hkind] at hother
  · exact heffect

/-- Where no row has the program counter for its destination, nothing wraps. -/
theorem Program.RowEffect.unwrapped (h : program.RowEffect wrapped registers first row changed)
    (hlow : 0 ≤ registers.counter.toInt) (hhigh : registers.counter.toInt < 2 ^ 30)
    (hunsigned : Unsigned row) (hcomputes : ∀ value, ¬ registers.Computes row pcIndex value) :
    program.RowEffect id registers first row changed := by
  rcases h with ⟨hkind, hsent⟩ | ⟨hkind, hsent⟩ | ⟨hkind, hline, hname, hfind, hsent⟩ |
    ⟨hkind, heffect⟩
  · exact .nop hkind hsent
  · exact .label hkind hsent
  · exact .directive hkind hline hname hfind hsent
  · exact .instruction hkind (heffect.unwrapped hlow hhigh hunsigned hcomputes)

/-- `program.JumpsTo registers first row m`: the row names a label that stands for row `m`. -/
inductive Program.JumpsTo (program : Program) (registers : RegisterFile) (first : Token)
    (row : List Token) (m : Nat) : Prop
  | directive {name : Token} (hline : first.line = 1) (hname : row[1]? = some name)
      (hfind : program.labels.find? name.literal = some m)
  | branch {target : Token} (htaken : registers.Branches row true target)
      (hkind : target.kind = .ident) (hfind : program.labels.find? target.literal = some m)

/-- Where nothing wraps, only a label can lead back. -/
theorem Program.RowEffect.onward_or_jumps (h : program.RowEffect id registers first row changed)
    (hunsigned : Unsigned row) (hcomputes : ∀ value, ¬ registers.Computes row pcIndex value) :
    registers.counter.toInt < changed.counter.toInt ∨
      ∃ m, program.JumpsTo registers first row m ∧ changed.counter.toInt = m + 1 := by
  rcases h with ⟨_, hsent⟩ | ⟨_, hsent⟩ | ⟨_, hline, hname, hfind, hsent⟩ | ⟨_, heffect⟩
  · exact .inl (by rw [hsent.counter]; omega)
  · have hskip := program.le_skipIndented (registers.counter.toInt + 1).toNat
    exact .inl (by rw [hsent.counter]; omega)
  · exact .inr ⟨_, .directive hline hname hfind, hsent.counter⟩
  · rcases heffect with ⟨_, _, _, hcounter, _⟩ | ⟨hresult, _⟩ | ⟨_, hsent⟩ |
      ⟨htaken, hkind, hfind, hsent⟩ | ⟨htaken, hkind, hnumber, _, hsent⟩
    · exact .inl (by rw [hcounter]; omega)
    · exact absurd hresult (hcomputes _)
    · exact .inl (by rw [hsent.counter]; omega)
    · exact .inr ⟨_, .branch htaken hkind hfind, hsent.counter⟩
    · have hm := hunsigned _ htaken.target_mem hkind _ hnumber
      have hquarter := Int.tdiv_nonneg hm (by decide : (0 : Int) ≤ 4)
      exact .inl (by rw [hsent.counter, id]; omega)

end Offsets

namespace Machine

namespace Faces

variable {machine : Machine} {rows : List (List Token)} {tokens : List Token} {first : Token}
  {rest : List Token}

theorem effect (hfaces : machine.Faces rows tokens first rest)
    (hprogram : machine.program = .ofTokens rows) (hrows : rows.length < 2 ^ 30)
    (hran : machine.step.outcome.ran = true) :
    (Program.ofTokens rows).RowEffect wrapped machine.registers first (first :: rest)
        machine.step.machine.registers ∧
      machine.step.machine.last = first.position := by
  obtain ⟨_, _, _, hfaced, heffect⟩ := step_effect hprogram (by omega) hran
  obtain ⟨rfl, rfl, rfl⟩ := hfaces.unique hfaced
  exact heffect

theorem unsigned (hfaces : machine.Faces rows tokens first rest) (h : Unsigned tokens) :
    Unsigned (first :: rest) := by
  rw [← hfaces.body]
  exact fun token hmem => h token (mem_of_mem_body hmem)

theorem effect_unwrapped (hfaces : machine.Faces rows tokens first rest)
    (hprogram : machine.program = .ofTokens rows) (hrows : rows.length < 2 ^ 30)
    (hran : machine.step.outcome.ran = true) (hunsigned : Unsigned tokens)
    (hcomputes : ∀ value, ¬ machine.registers.Computes (first :: rest) pcIndex value) :
    (Program.ofTokens rows).RowEffect id machine.registers first (first :: rest)
      machine.step.machine.registers := by
  have hlength := hfaces.lt_length
  have hhigh : machine.counter < 2 ^ 30 := by omega
  exact (hfaces.effect hprogram hrows hran).1.unwrapped hfaces.nonneg hhigh
    (hfaces.unsigned hunsigned) hcomputes

/-- In a row that the lexer made, an offset leads onward. -/
theorem counter_of_offset (hfaces : machine.Faces rows tokens first rest)
    (hrows : rows.length < 2 ^ 30) (hunsigned : Unsigned tokens)
    {target : Token} {m : Int}
    (heffect : (Program.ofTokens rows).labels.InstructionEffect wrapped machine.registers
      (first :: rest) machine.step.machine.registers)
    (hbranches : machine.registers.Branches (first :: rest) true target)
    (hkind : target.kind = .immediate) (hnumber : target.number? = some m) :
    0 ≤ m ∧ machine.step.machine.counter = machine.counter + 1 + m.tdiv 4 := by
  obtain ⟨hword, hcounter⟩ := heffect.counter_of_offset hbranches hkind hnumber
  have hm := hfaces.unsigned hunsigned target hbranches.target_mem hkind m hnumber
  have hlength := hfaces.lt_length
  have hhigh : machine.counter < 2 ^ 30 := by omega
  exact ⟨hm, hcounter.trans (wrapped_offset hfaces.nonneg hhigh hm hword.2)⟩

end Faces

/-- The exact effect of a step that executes an instruction: what `InstructionEffect` says,
with sums that wrap to 32 bits.  In a row that the lexer made, an offset is no negative number,
so that it is rounded down, leads onward and does not wrap. -/
theorem instruction_changes_exactly (rows : List (List Token)) (options : Settings)
    (history : List Call) (hrows : rows.length < 2 ^ 30) (tokens : List Token) (first : Token)
    (rest : List Token) (hfaces : (reached rows options history).Faces rows tokens first rest)
    (hkind : first.kind = .instruction)
    (hran : (reached rows options history).step.outcome.ran = true) :
    (Program.ofTokens rows).labels.InstructionEffect wrapped
        (reached rows options history).registers (first :: rest)
        (reached rows options history).step.machine.registers ∧
      (Lexed tokens → ∀ target m,
        (reached rows options history).registers.Branches (first :: rest) true target →
        target.kind = .immediate → target.number? = some m →
          m.tdiv 4 = m.fdiv 4 ∧
          (reached rows options history).step.machine.counter =
            (reached rows options history).counter + 1 + m.fdiv 4 ∧
          (reached rows options history).counter <
            (reached rows options history).step.machine.counter) := by
  have hprogram := reached_program rows options history
  have heffect := (hfaces.effect hprogram hrows hran).1.of_instruction hkind
  refine ⟨heffect, ?_⟩
  intro hlexed target m hbranches himmediate hnumber
  obtain ⟨hm, hcounter⟩ :=
    hfaces.counter_of_offset hrows hlexed.unsigned heffect hbranches himmediate hnumber
  have htrunc : m.tdiv 4 = m / 4 := Int.tdiv_eq_ediv_of_nonneg hm
  have hfloor : m.fdiv 4 = m / 4 := Int.fdiv_eq_ediv_of_nonneg m (by decide)
  rw [htrunc] at hcounter
  rw [htrunc, hfloor]
  exact ⟨rfl, hcounter, by omega⟩

/-- The row of `beq zero, zero, 9`. -/
def branchByNine : List Token :=
  [⟨.instruction, "beq", 5, 1⟩, ⟨.register, "0", 5, 5⟩, ⟨.comma, "", 5, 9⟩,
    ⟨.register, "0", 5, 11⟩, ⟨.comma, "", 5, 15⟩, ⟨.immediate, "9", 5, 17⟩]

/-- A row that adds three to the program counter, which leads onto a branch in row 4. -/
def leaps : List (List Token) :=
  [[⟨.instruction, "addi", 1, 1⟩, ⟨.register, "32", 1, 6⟩, ⟨.comma, "", 1, 8⟩,
    ⟨.register, "32", 1, 10⟩, ⟨.comma, "", 1, 12⟩, ⟨.immediate, "3", 1, 14⟩],
    [⟨.nop, "", 2, 1⟩], [⟨.nop, "", 3, 1⟩], [⟨.nop, "", 4, 1⟩], branchByNine]

/-- The machine on its way through these rows. -/
def leaping (history : List Call) : Machine := reached leaps { enforceGlobal := false } history

theorem leaps_change_exactly :
    (leaping []).counter = 0 ∧ (leaping [.step]).counter = 4 ∧
      (Program.ofTokens leaps).labels.InstructionEffect wrapped (leaping []).registers
        (leaps.headD []) (leaping []).step.machine.registers ∧
      (leaping [.step]).step.machine.counter = 4 + 1 + (9 : Int).fdiv 4 := by
  have hzero : (leaping []).counter = 0 := by decide +kernel
  have hfour : (leaping [.step]).counter = 4 := by decide +kernel
  have hstart := instruction_changes_exactly leaps { enforceGlobal := false } [] (by decide)
    (leaps.headD []) _ _ ⟨hzero.ge, rfl, rfl⟩ rfl (by decide +kernel)
  have hfaces : (leaping [.step]).Faces leaps branchByNine ⟨.instruction, "beq", 5, 1⟩
      branchByNine.tail := ⟨by rw [hfour]; decide, by rw [hfour]; rfl, rfl⟩
  obtain ⟨_, honward⟩ := instruction_changes_exactly leaps { enforceGlobal := false } [.step]
    (by decide) _ _ _ hfaces rfl (by decide +kernel)
  have hlexed : Lexed branchByNine := ⟨"beq zero, zero, 9".toList, 5, by decide +kernel⟩
  have hrow : Instruction.ofRow? branchByNine = some ⟨.beq, ⟨⟨.register, "0", 5, 5⟩,
      ⟨.register, "0", 5, 11⟩, ⟨.immediate, "9", 5, 17⟩⟩⟩ := by decide +kernel
  have hbranches : (leaping [.step]).registers.Branches branchByNine true
      ⟨.immediate, "9", 5, 17⟩ :=
    .intro hrow rfl (a := 0) (b := 0) (by decide +kernel) (by decide +kernel)
  refine ⟨hzero, hfour, hstart.1, ?_⟩
  rw [← hfour]
  exact (honward hlexed _ 9 hbranches rfl (by decide +kernel)).2.1

end Machine

end ToyRisc
