/-
Indentation.  How many marks stand in front of a row has no meaning, only whether there are
any: a row is told apart by its first token behind them, and two programs whose rows differ in
the number of marks alone take the same steps.  What the marks do mean is that a label which is
come to in sequence skips the indented rows below it, all of them and no other.
-/
import Mathlib.Order.Bounds.Basic
import ToyRisc.Proofs.EmptyRows
import ToyRisc.Proofs.ExactEffects

namespace ToyRisc

section Marks

variable {marks rest : List Token} {first : Token}

theorem AllMarks.isMark (h : AllMarks marks) {token : Token} (hmem : token ∈ marks) :
    Row.isMark token = true :=
  beq_iff_eq.mpr (h token hmem)

theorem body_ofTokens_marks (h : AllMarks marks) (body : List Token) :
    (Row.ofTokens (marks ++ body)).body = (Row.ofTokens body).body :=
  List.dropWhile_append_of_pos fun _ hmem => h.isMark hmem

theorem body_ofTokens_of_ne_tab (hfirst : first.kind ≠ .tab) :
    (Row.ofTokens (first :: rest)).body = first :: rest := by
  have hmark : Row.isMark first = false := beq_eq_false_iff_ne.mpr hfirst
  exact List.dropWhile_cons_of_neg (by simp [hmark])

/-- What stands in front of the body are marks, and the body does not start with one. -/
theorem exists_marks_of_body {tokens : List Token}
    (h : (Row.ofTokens tokens).body = first :: rest) :
    ∃ marks, tokens = marks ++ first :: rest ∧ AllMarks marks ∧ first.kind ≠ .tab := by
  have hbody : tokens.dropWhile Row.isMark = first :: rest := h
  refine ⟨tokens.takeWhile Row.isMark, ?_, ?_, ?_⟩
  · rw [← hbody, List.takeWhile_append_dropWhile]
  · intro token hmem
    have hmark : Row.isMark token = true := List.mem_takeWhile_imp hmem
    exact beq_iff_eq.mp hmark
  · have hfirst := List.head?_dropWhile_not Row.isMark tokens
    rw [hbody] at hfirst
    exact beq_eq_false_iff_ne.mp hfirst

end Marks

/-- Rows that differ in the number of marks in front alone, with marks in front of both or of
neither. -/
inductive SameButDepth : List Token → List Token → Prop
  | intro {marks others : List Token} (body : List Token) (hmarks : AllMarks marks)
      (hothers : AllMarks others) (hboth : marks = [] ↔ others = []) :
      SameButDepth (marks ++ body) (others ++ body)

/-- The row of some tokens behind a number of marks. -/
theorem ofTokens_marks {marks : List Token} (h : AllMarks marks) (hne : marks ≠ [])
    (body : List Token) :
    Row.ofTokens (marks ++ body) =
      ⟨!(Row.ofTokens body).body.isEmpty, (Row.ofTokens body).body⟩ := by
  have hbody := body_ofTokens_marks h body
  have hhead : ((marks ++ body).head?.map Row.isMark).getD false = true := by
    obtain ⟨mark, more, rfl⟩ := List.exists_cons_of_ne_nil hne
    exact h.isMark List.mem_cons_self
  have hindented : (Row.ofTokens (marks ++ body)).indented =
      !(Row.ofTokens (marks ++ body)).body.isEmpty := by
    change (_ && ((marks ++ body).head?.map Row.isMark).getD false) = _
    rw [hhead, Bool.and_true]
    rfl
  rw [← hbody, ← hindented]

theorem SameButDepth.ofTokens_eq {tokens others : List Token} (h : SameButDepth tokens others) :
    Row.ofTokens tokens = Row.ofTokens others := by
  cases h with
  | @intro marks others body hmarks hothers hboth =>
      by_cases hnone : marks = []
      · rw [hnone, hboth.mp hnone]
      · rw [ofTokens_marks hmarks hnone, ofTokens_marks hothers (fun h => hnone (hboth.mpr h))]

/-- Programs that differ in the depth of their rows are the same program. -/
theorem Program.ofTokens_eq_of_sameButDepth {rows others : List (List Token)}
    (h : List.Forall₂ SameButDepth rows others) : ofTokens rows = ofTokens others := by
  have hrows : rows.map Row.ofTokens = others.map Row.ofTokens := by
    induction h with
    | nil => rfl
    | cons hrow _ ih => rw [List.map_cons, List.map_cons, hrow.ofTokens_eq, ih]
  rw [ofTokens, ofTokens, hrows]

namespace Machine

/-- Whether the directive is asked for in the row under the program counter. -/
def Asks (machine : Machine) : Prop :=
  machine.counter = 0 ∧ machine.settings.enforceGlobal = true

/-- `machine.Dispatches first row result`: what comes of a row that opens with `first`, by the
kind of that token. -/
inductive Dispatches (machine : Machine) (first : Token) (row : List Token) :
    Except Fault RegisterFile → Prop
  | missing (hasks : machine.Asks) (hother : ¬ first.IsGlobal) :
      Dispatches machine first row (.error ⟨.missingGlobal first.kind, first.position⟩)
  | nop (hfree : ¬ machine.Asks) (hkind : first.kind = .nop) :
      Dispatches machine first row (.ok machine.registers.advance)
  | label (hfree : ¬ machine.Asks) (hkind : first.kind = .label) :
      Dispatches machine first row (.ok (machine.program.leaveBody machine.registers.advance))
  | instruction (hfree : ¬ machine.Asks) (hkind : first.kind = .instruction) :
      Dispatches machine first row
        ((machine.program.labels.instruction machine.registers first row).map
          RegisterFile.advance)
  | directive (hglobal : machine.Asks → first.IsGlobal) (hkind : first.kind = .directive) :
      Dispatches machine first row
        ((machine.program.labels.directive machine.registers first row).map
          RegisterFile.advance)
  | other (hfree : ¬ machine.Asks)
      (hkind : first.kind ∉ [Kind.nop, .label, .instruction, .directive]) :
      Dispatches machine first row (.error ⟨.unexpectedToken first.kind, first.position⟩)

theorem bind_advance (result : Except Fault RegisterFile) :
    (result >>= fun moved => .ok moved.advance) = result.map RegisterFile.advance := by
  cases result with
  | ok moved => rfl
  | error fault => rfl

theorem dispatches_of_not_asks {machine : Machine} (hfree : ¬ machine.Asks) (first : Token)
    (row : List Token) :
    machine.Dispatches first row (machine.program.execute machine.registers first row) := by
  rw [Program.execute_eq]
  split
  · rename_i hkind
    exact .nop hfree hkind
  · rename_i hkind
    exact .label hfree hkind
  · rename_i hkind
    rw [bind_advance]
    exact .instruction hfree hkind
  · rename_i hkind
    rw [bind_advance]
    exact .directive (fun hasks => absurd hasks hfree) hkind
  · rename_i hnop hlabel hinstruction hdirective
    refine .other hfree ?_
    simp only [List.mem_cons, List.not_mem_nil, or_false, not_or]
    exact ⟨hnop, hlabel, hinstruction, hdirective⟩

theorem dispatches_of_asks {machine : Machine} (hasks : machine.Asks) (first : Token)
    (row : List Token) :
    machine.Dispatches first row (machine.program.executeGlobal machine.registers first row) := by
  rw [Program.executeGlobal_eq]
  split
  · rename_i hglobal
    rw [bind_advance]
    exact .directive (fun _ => hglobal) hglobal.1
  · rename_i hother
    exact .missing hasks hother

theorem dispatches_execute (machine : Machine) (first : Token) (row : List Token) :
    machine.Dispatches first row (machine.execute first row) := by
  rw [execute_eq]
  split
  · rename_i hasks
    exact dispatches_of_asks hasks first row
  · rename_i hfree
    exact dispatches_of_not_asks hfree first row

/-- `machine.StepsBy first result`: the step looks at the row of this token, and does what the
result says. -/
structure StepsBy (machine : Machine) (first : Token) (result : Except Fault RegisterFile) :
    Prop where
  last : machine.step.machine.last = first.position
  executed : ∀ registers, result = .ok registers →
    machine.step.outcome.ran = true ∧ machine.step.machine.registers = registers
  refused : ∀ fault, result = .error fault →
    machine.step.outcome = .refused fault ∧ machine.step.machine.registers = machine.registers

section Dispatch

variable {machine : Machine} {rows : List (List Token)} {tokens : List Token} {first : Token}
  {rest : List Token}

theorem stepsBy_of_verdict {row : List Token}
    (h : machine.verdict = machine.rowVerdict first row) :
    machine.StepsBy first (machine.execute first row) := by
  obtain ⟨log, hstep⟩ := machine.exists_step_eq_conclude
  cases hresult : machine.execute first row with
  | ok registers =>
      have hverdict : machine.verdict = .executed registers first.position := by
        rw [h, rowVerdict, hresult]
      refine ⟨by rw [hstep, hverdict, conclude, emit_machine], ?_, ?_⟩
      · intro changed hchanged
        cases hchanged
        exact step_of_executed hverdict
      · intro fault hfault
        cases hfault
  | error fault =>
      have hverdict : machine.verdict = .refused fault first.position := by
        rw [h, rowVerdict, hresult]
      rw [hverdict, conclude] at hstep
      refine ⟨by rw [hstep], ?_, ?_⟩
      · intro registers hregisters
        cases hregisters
      · intro found hfound
        cases hfound
        rw [hstep]
        exact ⟨rfl, rfl⟩

/-- A row is dealt with by its first token that is no mark. -/
theorem Faces.dispatches (hfaces : machine.Faces rows tokens first rest)
    (hprogram : machine.program = .ofTokens rows) :
    ∃ result, machine.Dispatches first (first :: rest) result ∧ machine.StepsBy first result :=
  ⟨_, machine.dispatches_execute first (first :: rest),
    stepsBy_of_verdict (hfaces.verdict hprogram)⟩

theorem faces_of_marks {n : Nat} {marks : List Token} (hcounter : machine.counter = n)
    (hrow : rows[n]? = some (marks ++ first :: rest)) (hmarks : AllMarks marks)
    (hfirst : first.kind ≠ .tab) : machine.Faces rows (marks ++ first :: rest) first rest := by
  apply faces_of_counter hcounter hrow
  rw [body_ofTokens_marks hmarks, body_ofTokens_of_ne_tab hfirst]

/-- A row of marks alone is refused, and nothing changes. -/
theorem step_of_allMarks {n : Nat} (hprogram : machine.program = .ofTokens rows)
    (hcounter : machine.counter = n) (hrow : rows[n]? = some tokens) (hmarks : AllMarks tokens) :
    machine.step.outcome = .refused ⟨.emptyRow n, machine.last⟩ ∧
      machine.step.machine = machine := by
  have hverdict : machine.verdict = .lost (.emptyRow n) := by
    rw [verdict_eq_emptyRow_iff, hprogram, Program.rows_ofTokens, hrow]
    exact ⟨hcounter, _, rfl, (body_ofTokens_eq_nil_iff tokens).mpr hmarks⟩
  obtain ⟨log, hstep⟩ := machine.exists_step_eq_conclude
  rw [hstep, hverdict]
  exact ⟨rfl, rfl⟩

end Dispatch

/-- The depth of indentation has no meaning.  Programs whose rows differ in nothing else have the
same labels and take the same steps, whatever is called: with the same outcome, the same state
behind it and the same output and log.  Every step goes by the first token of its row that is no
mark; where there is none, it is refused. -/
theorem depth_of_indentation_irrelevant (rows others : List (List Token)) (settings : Settings)
    (h : List.Forall₂ SameButDepth rows others) :
    (Program.ofTokens rows).labels = (Program.ofTokens others).labels ∧
    ∀ history,
      (reached rows settings history).step = (reached others settings history).step ∧
      ∀ (n : Nat) (tokens : List Token), (reached rows settings history).counter = n →
        rows[n]? = some tokens →
          (AllMarks tokens →
            (reached rows settings history).step.outcome =
                .refused ⟨.emptyRow n, (reached rows settings history).last⟩ ∧
              (reached rows settings history).step.machine = reached rows settings history) ∧
          ∀ marks first rest, tokens = marks ++ first :: rest → AllMarks marks →
            first.kind ≠ .tab →
              ∃ result, (reached rows settings history).Dispatches first (first :: rest) result ∧
                (reached rows settings history).StepsBy first result := by
  have hsame := Program.ofTokens_eq_of_sameButDepth h
  refine ⟨by rw [hsame], ?_⟩
  intro history
  have hprogram := reached_program rows settings history
  refine ⟨by rw [reached, reached, hsame], ?_⟩
  intro n tokens hcounter hrow
  refine ⟨step_of_allMarks hprogram hcounter hrow, ?_⟩
  intro marks first rest hsplit hmarks hfirst
  rw [hsplit] at hrow
  exact (faces_of_marks hcounter hrow hmarks hfirst).dispatches hprogram

/-- An indentation mark. -/
def mark (line col : Int) : Token := ⟨.tab, "", line, col⟩

/-- An indented label with an indented row below it, and a row of marks alone. -/
def shallow : List (List Token) :=
  [[mark 1 3, ⟨.label, "a", 1, 4⟩], [mark 2 3, ⟨.nop, "", 2, 4⟩], [mark 3 1]]

/-- The same rows with more marks. -/
def deep : List (List Token) :=
  [[mark 1 1, mark 1 2, mark 1 3, ⟨.label, "a", 1, 4⟩],
    [mark 2 2, mark 2 3, ⟨.nop, "", 2, 4⟩], [mark 3 1, mark 3 2]]

theorem shallow_sameButDepth_deep : List.Forall₂ SameButDepth shallow deep := by
  have hmark : ∀ line col, (mark line col).kind = .tab := fun _ _ => rfl
  have hfirst : SameButDepth ([mark 1 3] ++ [⟨.label, "a", 1, 4⟩])
      ([mark 1 1, mark 1 2, mark 1 3] ++ [⟨.label, "a", 1, 4⟩]) :=
    .intro _ (by simp [AllMarks, hmark]) (by simp [AllMarks, hmark]) (by simp)
  have hsecond : SameButDepth ([mark 2 3] ++ [⟨.nop, "", 2, 4⟩])
      ([mark 2 2, mark 2 3] ++ [⟨.nop, "", 2, 4⟩]) :=
    .intro _ (by simp [AllMarks, hmark]) (by simp [AllMarks, hmark]) (by simp)
  have hthird : SameButDepth ([mark 3 1] ++ []) ([mark 3 1, mark 3 2] ++ []) :=
    .intro _ (by simp [AllMarks, hmark]) (by simp [AllMarks, hmark]) (by simp)
  exact .cons hfirst (.cons hsecond (.cons hthird .nil))

/-- With either, the first step takes the label and skips one row, and the second is refused at
the row of marks. -/
theorem shallow_steps_like_deep :
    (Program.ofTokens shallow).labels = (Program.ofTokens deep).labels ∧
      (reached deep { enforceGlobal := false } []).step.outcome = .executed false ∧
      (reached deep { enforceGlobal := false } [.step]).step.outcome =
        .refused ⟨.emptyRow 2, ⟨1, 4⟩⟩ ∧
      ∃ result, (reached shallow { enforceGlobal := false } []).Dispatches
          ⟨.label, "a", 1, 4⟩ [⟨.label, "a", 1, 4⟩] result ∧
        (reached shallow { enforceGlobal := false } []).StepsBy ⟨.label, "a", 1, 4⟩ result := by
  obtain ⟨hlabels, hsteps⟩ := depth_of_indentation_irrelevant shallow deep
    { enforceGlobal := false } shallow_sameButDepth_deep
  obtain ⟨hfirst, hdispatch⟩ := hsteps []
  obtain ⟨hsecond, hrefused⟩ := hsteps [.step]
  have hzero : (reached shallow { enforceGlobal := false } []).counter = (0 : Nat) := by
    decide +kernel
  have htwo : (reached shallow { enforceGlobal := false } [.step]).counter = (2 : Nat) := by
    decide +kernel
  refine ⟨hlabels, ?_, ?_, ?_⟩
  · rw [← hfirst]
    decide +kernel
  · rw [← hsecond, ((hrefused 2 [mark 3 1] htwo rfl).1 (by simp [AllMarks, mark])).1]
    decide +kernel
  · exact (hdispatch 0 _ hzero rfl).2 [mark 1 3] _ [] rfl (by simp [AllMarks, mark]) (by decide)

end Machine

/-- Rows with one mark or more in front of some other token. -/
def Indented (tokens : List Token) : Prop :=
  ∃ marks first rest, tokens = marks ++ first :: rest ∧ marks ≠ [] ∧ AllMarks marks ∧
    first.kind ≠ .tab

theorem indented_ofTokens_iff (tokens : List Token) :
    (Row.ofTokens tokens).indented = true ↔ Indented tokens := by
  constructor
  · intro h
    have hindented : (!(Row.ofTokens tokens).body.isEmpty &&
        (tokens.head?.map Row.isMark).getD false) = true := h
    rw [Bool.and_eq_true, Bool.not_eq_true', List.isEmpty_eq_false_iff] at hindented
    obtain ⟨first, rest, hbody⟩ := List.exists_cons_of_ne_nil hindented.1
    obtain ⟨marks, hsplit, hmarks, hfirst⟩ := exists_marks_of_body hbody
    refine ⟨marks, first, rest, hsplit, ?_, hmarks, hfirst⟩
    intro hnone
    rw [hsplit, hnone] at hindented
    exact hfirst (beq_iff_eq.mp hindented.2)
  · intro h
    obtain ⟨marks, first, rest, rfl, hne, hmarks, hfirst⟩ := h
    rw [ofTokens_marks hmarks hne, body_ofTokens_of_ne_tab hfirst]
    rfl

namespace Program

/-- From some row on, the row that the marks lead to is the first one that is not indented. -/
theorem isLeast_skipIndented (program : Program) {n : Nat} (h : n ≤ program.size) :
    IsLeast {q | n ≤ q ∧ (q = program.size ∨
      ∃ row, program.rows[q]? = some row ∧ row.indented = false)} (program.skipIndented n) := by
  fun_induction skipIndented program n with
  | case1 n hlt hindented ih =>
      have hleast := ih hlt
      refine ⟨⟨Nat.le_of_succ_le hleast.1.1, hleast.1.2⟩, ?_⟩
      intro q hq
      by_cases hn : q = n
      · -- row `n` is indented, so it is no row to stop at
        subst hn
        rcases hq.2 with hend | ⟨row, hrow, hout⟩
        · rw [size] at hend
          omega
        · rw [Array.getElem?_eq_getElem hlt] at hrow
          cases hrow
          rw [hindented] at hout
          cases hout
      · have hle := hq.1
        exact hleast.2 ⟨by omega, hq.2⟩
  | case2 n hlt hindented =>
      refine ⟨⟨Nat.le_refl n, .inr ⟨_, Array.getElem?_eq_getElem hlt, ?_⟩⟩, fun q hq => hq.1⟩
      simpa using hindented
  | case3 n hle =>
      refine ⟨⟨Nat.le_refl n, .inl ?_⟩, fun q hq => hq.1⟩
      rw [size] at h ⊢
      omega

end Program

/-- `StopsAt rows q`: the indented rows in front of row `q` do not go on with it, since it is not
indented, or the last one was before it. -/
def StopsAt (rows : List (List Token)) (q : Nat) : Prop :=
  q = rows.length ∨ ∃ tokens, rows[q]? = some tokens ∧ ¬ Indented tokens

section Bodies

variable {rows : List (List Token)} {p q : Nat} {tokens : List Token}

theorem isLeast_stopsAt {n : Nat} (h : n ≤ rows.length) :
    IsLeast {q | n ≤ q ∧ StopsAt rows q} ((Program.ofTokens rows).skipIndented n) := by
  have hstops : ∀ q, StopsAt rows q ↔ q = (Program.ofTokens rows).size ∨
      ∃ row, (Program.ofTokens rows).rows[q]? = some row ∧ row.indented = false := by
    intro q
    simp [StopsAt, Program.size_ofTokens, Program.rows_ofTokens, ← indented_ofTokens_iff]
  simp only [hstops]
  apply Program.isLeast_skipIndented
  rwa [Program.size_ofTokens]

theorem StopsAt.not_indented (h : StopsAt rows q) (hrow : rows[q]? = some tokens) :
    ¬ Indented tokens := by
  rcases h with hend | ⟨found, hfound, hout⟩
  · have hlt := (List.getElem?_eq_some_iff.mp hrow).1
    omega
  · obtain rfl : found = tokens := Option.some.inj (hfound.symm.trans hrow)
    exact hout

theorem indented_of_isLeast (h : IsLeast {q | p < q ∧ StopsAt rows q} q) {m : Nat} (hp : p < m)
    (hm : m < q) (hrow : rows[m]? = some tokens) : Indented tokens := by
  by_contra hout
  have hle : q ≤ m := h.2 ⟨hp, .inr ⟨tokens, hrow, hout⟩⟩
  omega

theorem le_length_of_isLeast (h : IsLeast {q | p < q ∧ StopsAt rows q} q)
    (hp : p < rows.length) : q ≤ rows.length :=
  h.2 ⟨hp, .inl rfl⟩

end Bodies

namespace Machine

/-- `machine.FallsTo rows p q`: from row `p` the machine steps to row `q`, over indented rows
only, with no other register changed.  A failing sink is all that can go wrong. -/
structure FallsTo (machine : Machine) (rows : List (List Token)) (p q : Nat) : Prop where
  outcome : machine.step.outcome =
    if machine.settings.sink = .failing ∧ machine.printing = true then .unwritten
    else .executed (decide (q = rows.length))
  registers : machine.registers.SentTo q machine.step.machine.registers
  steps : machine.step.machine.steps = machine.steps + 1
  skipped : ∀ m tokens, p < m → m < q → rows[m]? = some tokens → Indented tokens
  entered : ∀ tokens, rows[q]? = some tokens → ¬ Indented tokens

section Labels

variable {machine : Machine} {rows : List (List Token)} {tokens : List Token} {first : Token}
  {rest : List Token}

theorem execute_of_not_asks (hfree : ¬ machine.Asks) (row : List Token) :
    machine.execute first row = machine.program.execute machine.registers first row := by
  rw [execute_eq]
  exact if_neg hfree

/-- The step onto the rest of the program from a label that is come to in sequence. -/
theorem Faces.exists_emit_of_label (hfaces : machine.Faces rows tokens first rest)
    (hprogram : machine.program = .ofTokens rows) (hrows : rows.length < 2 ^ 31)
    (hkind : first.kind = .label) (hfree : ¬ machine.Asks) :
    ∃ changed log,
      machine.registers.SentTo ((Program.ofTokens rows).skipIndented (machine.counter + 1).toNat)
        changed ∧
      machine.step = { machine with
        registers := changed, steps := machine.steps + 1, last := first.position }.emit log := by
  have hexecute : machine.execute first (first :: rest) =
      .ok ((Program.ofTokens rows).leaveBody machine.registers.advance) := by
    rw [execute_of_not_asks hfree, hprogram, Program.execute_eq, hkind]
  obtain ⟨log, hstep⟩ := machine.exists_step_eq_conclude
  refine ⟨_, log, Program.effect_of_label hrows hfaces.nonneg hfaces.lt_length, ?_⟩
  rw [hstep, hfaces.verdict hprogram, rowVerdict, hexecute, conclude]

theorem Faces.fallsTo_of_label (hfaces : machine.Faces rows tokens first rest)
    (hprogram : machine.program = .ofTokens rows) (hrows : rows.length < 2 ^ 31)
    (hkind : first.kind = .label) (hfree : ¬ machine.Asks) {p : Nat}
    (hcounter : machine.counter = p) :
    ∃ q, IsLeast {q | p < q ∧ StopsAt rows q} q ∧ machine.FallsTo rows p q := by
  obtain ⟨changed, log, hsent, hstep⟩ :=
    hfaces.exists_emit_of_label hprogram hrows hkind hfree
  have hp : p < rows.length := by
    have hlt := hfaces.lt_length
    omega
  have hnext : (machine.counter + 1).toNat = p + 1 := by omega
  rw [hnext] at hsent
  have hleast : IsLeast {q | p < q ∧ StopsAt rows q}
      ((Program.ofTokens rows).skipIndented (p + 1)) := isLeast_stopsAt hp
  have hle := le_length_of_isLeast hleast hp
  refine ⟨_, hleast, ?_, ?_, ?_, fun m tokens => indented_of_isLeast hleast,
    fun tokens => hleast.1.2.not_indented⟩
  · have hdone : Machine.done { machine with
        registers := changed, steps := machine.steps + 1, last := first.position } =
        decide ((Program.ofTokens rows).skipIndented (p + 1) = rows.length) := by
      rw [done, counter, hsent.counter, hprogram, Program.size_ofTokens]
      apply decide_eq_decide.mpr
      omega
    rw [hstep, emit_outcome, hdone]
    rfl
  · rw [hstep, emit_machine]
    exact hsent
  · rw [hstep, emit_machine]

end Labels

/-- A label that is come to in sequence skips the indented rows below it, in one step.  The
program counter comes to the next row that is not indented, or to the end of the program, and
nothing else changes; rows of marks alone are not indented. -/
theorem label_skips_exactly_its_body (rows : List (List Token)) (hrows : rows.length < 2 ^ 31)
    (machine : Machine) (hprogram : machine.program = .ofTokens rows) (p : Nat)
    (hcounter : machine.counter = p) (tokens : List Token) (hrow : rows[p]? = some tokens)
    (first : Token) (hopening : opening? tokens = some first) (hkind : first.kind = .label)
    (hfree : ¬ machine.Asks) :
    ∃ q, IsLeast {q | p < q ∧ StopsAt rows q} q ∧ machine.FallsTo rows p q := by
  rw [← head?_body_ofTokens] at hopening
  obtain ⟨rest, hbody⟩ := List.head?_eq_some_iff.mp hopening
  have hfaces : machine.Faces rows tokens first rest := faces_of_counter hcounter hrow hbody
  exact hfaces.fallsTo_of_label hprogram hrows hkind hfree hcounter

/-- A label whose body has a label of its own and ends with a row of marks alone. -/
def nestedLabels : List (List Token) :=
  [[⟨.nop, "", 1, 1⟩], [⟨.label, "outer", 2, 1⟩], [mark 3 1, ⟨.label, "inner", 3, 2⟩],
    [mark 4 1, mark 4 2, ⟨.nop, "", 4, 3⟩], [mark 5 1, mark 5 2], [⟨.nop, "", 6, 1⟩]]

/-- The machine in front of the first label. -/
def beforeOuter : Machine := reached nestedLabels { enforceGlobal := false } [.step]

theorem beforeOuter_falls :
    beforeOuter.counter = 1 ∧ beforeOuter.step.outcome = .executed false ∧
      beforeOuter.FallsTo nestedLabels 1 4 := by
  have hone : beforeOuter.counter = (1 : Nat) := by decide +kernel
  have hfree : ¬ beforeOuter.Asks := by
    intro hasks
    have hzero := hasks.1
    omega
  obtain ⟨q, _, hfalls⟩ := label_skips_exactly_its_body nestedLabels (by decide) beforeOuter
    (reached_program _ _ _) 1 hone _ rfl ⟨.label, "outer", 2, 1⟩ rfl rfl hfree
  have hfour : beforeOuter.step.machine.registers.counter.toInt = (4 : Nat) := by decide +kernel
  obtain rfl : q = 4 := by
    have hcounter := hfalls.registers.counter
    omega
  exact ⟨hone, hfalls.outcome, hfalls⟩

end Machine

end ToyRisc
