/-
Words as labels.  Any word with a colon behind it declares a label; a word without one names a
label only if it is no mnemonic, in whatever case, and no keyword.  So a reserved word can be
declared but not branched to.  Names are compared as they are spelled.
-/
import ToyRisc.Proofs.ExactEffects
import ToyRisc.Proofs.Statements

namespace ToyRisc

/-- Words that have a meaning of their own where no colon follows them. -/
def Reserved (word : List Char) : Prop :=
  lowerWord (String.ofList word) ∈ mnemonics ∨ (keyword? (String.ofList word)).isSome = true

instance (word : List Char) : Decidable (Reserved word) := inferInstanceAs (Decidable (_ ∨ _))

namespace Span.Means

variable {chars : List Char} {kind : Kind} {literal : String}

/-- What a word stands for where no colon follows it. -/
theorem of_word (h : (Span.word chars false).Means kind literal) :
    (kind, literal) = classify (String.ofList chars) := by
  cases h with
  | mnemonic hword => simp [classify, (isMnemonic_iff _).mpr hword]
  | keyword hword hkeyword => simp [classify, isMnemonic_iff, hword, hkeyword]
  | ident hword hkeyword => simp [classify, isMnemonic_iff, hword, hkeyword]

theorem of_not_reserved (h : (Span.word chars false).Means kind literal)
    (hfree : ¬ Reserved chars) : kind = .ident ∧ literal = String.ofList chars := by
  rw [Reserved, not_or] at hfree
  cases h with
  | mnemonic hword => exact absurd hword hfree.1
  | keyword hword hkeyword => simp [hkeyword] at hfree
  | ident hword hkeyword => exact ⟨rfl, rfl⟩

/-- A reserved word is neither a name nor an immediate. -/
theorem of_reserved (h : (Span.word chars false).Means kind literal) (hreserved : Reserved chars) :
    kind ∉ [Kind.ident, .immediate] := by
  cases h with
  | mnemonic hword => decide
  | keyword hword hkeyword =>
      intro hkind
      have hmem := kind_of_keyword? hkeyword
      simp only [List.mem_cons, List.not_mem_nil, or_false] at hkind hmem
      rcases hkind with rfl | rfl <;> simp at hmem
  | ident hword hkeyword => simp [Reserved, hword, hkeyword] at hreserved

end Span.Means

namespace Source

variable {settings : LoadSettings} {text : Text} {word : List Char} {n : Nat}

/-- `Declares settings text word n`: row `n` of the loaded text is that of a line that opens
with the word and a colon. -/
def Declares (settings : LoadSettings) (text : Text) (word : List Char) (n : Nat) : Prop :=
  ∃ i row spans more, RowReads settings text n i row spans ∧
    statement spans = .word word true :: more

/-- The last row that declares a word. -/
structure LastDeclares (settings : LoadSettings) (text : Text) (word : List Char) (n : Nat) :
    Prop where
  declares : Declares settings text word n
  last : ∀ m, Declares settings text word m → m ≤ n

theorem declares_iff :
    Declares settings text word n ↔ ∃ row, (load settings text).rows[n]? = some row ∧
      (Row.ofTokens row).declared? = some (String.ofList word) := by
  constructor
  · rintro ⟨i, row, spans, more, hreads, hopens⟩
    exact ⟨row, hreads.kept, (hreads.images.declared?_iff word).mpr ⟨more, hopens⟩⟩
  · rintro ⟨row, hrow, hdeclared⟩
    obtain ⟨i, spans, hreads⟩ := exists_rowReads hrow
    obtain ⟨more, hopens⟩ := (hreads.images.declared?_iff word).mp hdeclared
    exact ⟨i, row, spans, more, hreads, hopens⟩

/-- The table of labels has the words that are declared, and for each of them the last row
that declares it. -/
theorem find?_eq_some_iff :
    (Program.ofTokens (load settings text).rows).labels.find? (String.ofList word) = some n ↔
      LastDeclares settings text word n := by
  have hrow : ∀ m, Declares settings text word m ↔ ∃ row,
      ((load settings text).rows.map Row.ofTokens)[m]? = some row ∧
        row.declared? = some (String.ofList word) := by
    intro m
    simp [declares_iff]
  rw [Program.find?_labels_iff]
  constructor
  · intro h
    refine ⟨(hrow n).mpr h.declared, ?_⟩
    intro m hm
    obtain ⟨row, hm, hdeclared⟩ := (hrow m).mp hm
    exact h.last m row hm hdeclared
  · intro h
    refine ⟨(hrow n).mp h.declares, ?_⟩
    intro m row hm hdeclared
    exact h.last m ((hrow m).mpr ⟨row, hm, hdeclared⟩)

theorem Declares.exists_last (h : Declares settings text word n) :
    ∃ m, n ≤ m ∧ LastDeclares settings text word m := by
  have hbound : ∀ m, Declares settings text word m → m ≤ (load settings text).rows.length := by
    intro m hm
    obtain ⟨row, hrow, _⟩ := declares_iff.mp hm
    exact (List.getElem?_eq_some_iff.mp hrow).1.le
  classical
  refine ⟨_, Nat.le_findGreatest (hbound n h) h, Nat.findGreatest_spec (hbound n h) h, ?_⟩
  intro m hm
  exact Nat.le_findGreatest (hbound m hm) hm

end Source

/-- The lexemes of `beq zero, zero, word`. -/
def branchTo (word : List Char) : List Span :=
  [.word "beq".toList false, .word "zero".toList false, .comma, .word "zero".toList false, .comma,
    .word word false]

section Words

variable {word : List Char} {spans : List Span}

/-- A line that has a word and a colon behind its tabs opens with that word as a label. -/
theorem statement_of_label (hne : word ≠ []) (hword : ∀ c ∈ word, isWordChar c = true)
    {tabs : Nat} {rest : List Char}
    (h : Cuts (List.replicate tabs '\t' ++ (word ++ ':' :: rest)) spans []) :
    ∃ more, statement spans = .word word true :: more := by
  have hfits : (Span.word word true).Fits rest.head? := ⟨hne, hword⟩
  have hcuts : Cuts (word ++ ':' :: rest) (.word word true :: spansOf rest) [] := by
    rw [List.append_cons]
    exact .cons hfits (cuts_spansOf rest)
  rw [h.unique (cuts_tabs tabs hcuts), statement_tabs]
  exact ⟨_, rfl⟩

/-- A word before a blank or a comma, and what is cut behind it. -/
theorem cuts_word (hne : word ≠ []) (hword : ∀ c ∈ word, isWordChar c = true) {c : Char}
    (hc : c = ' ' ∨ c = ',') {rest : List Char} (h : Cuts (c :: rest) spans []) :
    Cuts (word ++ c :: rest) (.word word false :: spans) [] := by
  have hfits : (Span.word word false).Fits (c :: rest).head? := by
    apply Span.fits_word hne hword
    rintro d ⟨⟩
    rcases hc with rfl | rfl <;> decide
  exact .cons hfits h

/-- The branch to a word reads as such, also where the word starts like a register. -/
theorem statement_of_branch (hne : word ≠ []) (hword : ∀ c ∈ word, isWordChar c = true)
    (h : Cuts ("beq zero, zero, ".toList ++ word) spans []) : statement spans = branchTo word := by
  have hblank : ∀ next, (Span.blank ' ').Fits next := fun _ => .inl rfl
  have hcomma : ∀ next, Span.comma.Fits next := fun _ => trivial
  have hzero : ∀ c ∈ "zero".toList, isWordChar c = true := List.all_eq_true.mp (by decide)
  have hlast : Cuts word [.word word false] [] := by
    have hfits : (Span.word word false).Fits ([] : List Char).head? :=
      Span.fits_word hne hword (fun c hc => by cases hc)
    have hcuts := Cuts.cons hfits (.nil [])
    rw [List.append_nil] at hcuts
    exact hcuts
  have hoperand : ∀ {rest others}, Cuts rest others [] →
      Cuts ("zero".toList ++ ',' :: ' ' :: rest)
        (.word "zero".toList false :: .comma :: .blank ' ' :: others) [] := fun hrest =>
    cuts_word (by decide) hzero (.inr rfl) (.cons (hcomma _) (.cons (hblank _) hrest))
  have hcuts : Cuts ("beq".toList ++ ' ' ::
      ("zero".toList ++ ',' :: ' ' :: ("zero".toList ++ ',' :: ' ' :: word))) _ [] :=
    cuts_word (by decide) (List.all_eq_true.mp (by decide)) (.inl rfl)
      (.cons (hblank _) (hoperand (hoperand hlast)))
  rw [h.unique hcuts]
  rfl

end Words

/-- `ZeroBranch target row`: the row is a branch to this target that is taken because a
register is compared with itself. -/
inductive ZeroBranch (target : Token) : List Token → Prop
  | intro {first left comma right another : Token} (rest : List Token)
      (hfirst : first.kind = .instruction ∧ first.literal = "beq")
      (hleft : left.kind = .register ∧ left.literal = "0") (hcomma : comma.kind = .comma)
      (hright : right.kind = .register ∧ right.literal = "0") (hanother : another.kind = .comma) :
      ZeroBranch target (first :: left :: comma :: right :: another :: target :: rest)

theorem Span.StandsAs.kind_literal {chars : List Char} {token : Token} {kind : Kind}
    {literal : String} (h : (Span.word chars false).StandsAs token)
    (hclassify : classify (String.ofList chars) = (kind, literal)) :
    token.kind = kind ∧ token.literal = literal := by
  have hpair : (token.kind, token.literal) = (kind, literal) := h.of_word.trans hclassify
  exact ⟨congrArg Prod.fst hpair, congrArg Prod.snd hpair⟩

theorem Span.StandsAs.kind_comma {token : Token} (h : Span.comma.StandsAs token) :
    token.kind = .comma := by
  have hmeans : Span.comma.Means token.kind token.literal := h
  generalize token.kind = kind at hmeans ⊢
  generalize token.literal = literal at hmeans
  cases hmeans
  rfl

theorem exists_zeroBranch {word : List Char} {more : List Span} {row : List Token}
    (h : List.Forall₂ Span.StandsAs (branchTo word ++ more) row) :
    ∃ target, row[5]? = some target ∧ (Span.word word false).StandsAs target ∧
      ZeroBranch target row := by
  simp only [branchTo, List.cons_append, List.nil_append, List.forall₂_cons_left_iff] at h
  obtain ⟨first, _, hfirst, ⟨left, _, hleft, ⟨comma, _, hcomma, ⟨right, _, hright,
    ⟨another, _, hanother, ⟨target, rest, htarget, _, rfl⟩, rfl⟩, rfl⟩, rfl⟩, rfl⟩, rfl⟩ := h
  refine ⟨target, rfl, htarget, .intro rest ?_ ?_ hcomma.kind_comma ?_ hanother.kind_comma⟩
  · exact hfirst.kind_literal (by decide +kernel)
  · exact hleft.kind_literal (by decide +kernel)
  · exact hright.kind_literal (by decide +kernel)

theorem RegisterFile.fetch_zero (registers : RegisterFile) {token : Token}
    (h : token.literal = "0") : registers.fetch token = .ok registers.cells[0] := by
  have hname : token.literal = Decimal.text (0 : Nat) := h.trans (by decide +kernel)
  rw [(Token.accesses_of_literal hname (by decide)).fetch]
  rfl

/-- What is found at the target of a branch that it cannot have. -/
def notBranchable (target : Token) : Fault :=
  ⟨.wrongOperand ⟨[.ident, .immediate]⟩ target.kind, target.position⟩

namespace ZeroBranch

variable {target first : Token} {row rest : List Token}

theorem verify (h : ZeroBranch target row) :
    Pattern.branch.verify row =
      if target.kind ∈ [Kind.ident, .immediate] then .ok () else .error (notBranchable target) := by
  cases h with
  | intro rest hfirst hleft hcomma hright hanother =>
      simp [Pattern.branch, Pattern.threeOperands, Pattern.verify, Pattern.verifyFrom,
        Slot.accepts, Token.refuse, notBranchable, hfirst.1, hleft.1, hcomma, hright.1, hanother]

theorem kind_first (h : ZeroBranch target (first :: rest)) : first.kind = .instruction := by
  cases h with
  | intro rest hfirst hleft hcomma hright hanother => exact hfirst.1

theorem operands (h : ZeroBranch target row) :
    ∃ left right, left.literal = "0" ∧ right.literal = "0" ∧ Opcode.beq.operands row =
      if target.kind ∈ [Kind.ident, .immediate] then .ok ⟨left, right, target⟩
      else .error (notBranchable target) := by
  have hverify := h.verify
  cases h with
  | @intro _ left comma right another rest hfirst hleft hcomma hright hanother =>
      refine ⟨left, right, hleft.2, hright.2, ?_⟩
      change (Pattern.branch.verify _ >>= fun _ => _) = _
      rw [hverify]
      split <;> rfl

/-- The branch is taken, if its target is of a kind that branches can have. -/
theorem instruction (labels : LabelTable) (registers : RegisterFile)
    (h : ZeroBranch target (first :: rest)) :
    labels.instruction registers first (first :: rest) =
      if target.kind ∈ [Kind.ident, .immediate] then labels.branch registers target
      else .error (notBranchable target) := by
  obtain ⟨left, right, hleft, hright, hoperands⟩ := h.operands
  have hopcode : Opcode.ofMnemonic? first.literal = some .beq := by
    cases h with
    | intro rest hfirst =>
        rw [hfirst.2]
        decide
  have htaken : Opcode.beq.taken registers.cells[0] registers.cells[0] = true :=
    beq_self_eq_true _
  rw [LabelTable.instruction_eq, hopcode]
  change (Opcode.beq.operands _ >>= fun operands => _) = _
  rw [hoperands]
  split
  · change (registers.fetch left >>= fun a => _) = _
    rw [registers.fetch_zero hleft]
    change (registers.fetch right >>= fun b => _) = _
    rw [registers.fetch_zero hright]
    change (if Opcode.beq.taken _ _ = true then _ else _) = _
    rw [if_pos htaken]
  · rfl

theorem execute (program : Program) (registers : RegisterFile)
    (h : ZeroBranch target (first :: rest)) :
    program.execute registers first (first :: rest) =
      if target.kind ∈ [Kind.ident, .immediate] then
        (program.labels.branch registers target).map RegisterFile.advance
      else .error (notBranchable target) := by
  have hexecute : program.execute registers first (first :: rest) =
      (program.labels.instruction registers first (first :: rest) >>= fun moved =>
        .ok moved.advance) := by
    rw [Program.execute_eq, h.kind_first]
  rw [hexecute, h.instruction]
  split
  · cases program.labels.branch registers target with
    | ok moved => rfl
    | error fault => rfl
  · rfl

end ZeroBranch

theorem toInt_ofNat_add_one_wrapped (n : Nat) :
    (Int32.ofNat n + 1).toInt = wrapped (n + 1) := by
  have hsize : Int32.size = 2 ^ 32 := rfl
  rw [toInt_add_one, Int32.toInt_ofNat', hsize, wrapped, Int.bmod_add_bmod, wrapped]

namespace Machine

variable {machine : Machine} {rows : List (List Token)} {tokens : List Token} {first : Token}
  {rest : List Token}

/-- What comes of the branch `beq zero, zero, word` that a machine faces, where `target` is the
token of the word. -/
structure BranchFate (machine : Machine) (settings : LoadSettings) (text : Text)
    (word : List Char) (target : Token) : Prop where
  ran_iff : machine.step.outcome.ran = true ↔
    (∃ n, Source.Declares settings text word n) ∧ ¬ Reserved word
  jumps : ∀ n, Source.LastDeclares settings text word n → ¬ Reserved word →
    machine.registers.SentTo (wrapped (n + 1)) machine.step.machine.registers
  resumes : ∀ n, Source.LastDeclares settings text word n → ¬ Reserved word →
    (Source.load settings text).rows.length < 2 ^ 31 → machine.step.machine.counter = n + 1
  reserved : Reserved word → ∃ fault, machine.step.outcome = .refused fault ∧
    fault.kind = .syntaxError ∧ fault.position = target.position
  unknown : (∀ n, ¬ Source.Declares settings text word n) → ¬ Reserved word →
    machine.step.outcome = .refused ⟨.unknownLabel (String.ofList word), target.position⟩

section Branching

variable {settings : LoadSettings} {text : Text} {word : List Char} {target : Token}

theorem BranchFate.of_reserved {fault : Fault} (hreserved : Reserved word)
    (hrefused : machine.step.outcome = .refused fault) (hkind : fault.kind = .syntaxError)
    (hplace : fault.position = target.position) :
    machine.BranchFate settings text word target where
  ran_iff := by simp [hrefused, Outcome.ran, hreserved]
  jumps := fun _ _ hfree => absurd hreserved hfree
  resumes := fun _ _ hfree => absurd hreserved hfree
  reserved := fun _ => ⟨fault, hrefused, hkind, hplace⟩
  unknown := fun _ hfree => absurd hreserved hfree

theorem BranchFate.of_unknown (hfree : ¬ Reserved word)
    (hnone : ∀ n, ¬ Source.Declares settings text word n)
    (hrefused : machine.step.outcome =
      .refused ⟨.unknownLabel (String.ofList word), target.position⟩) :
    machine.BranchFate settings text word target where
  ran_iff := by simp [hrefused, Outcome.ran, hnone]
  jumps := fun n hlast => absurd hlast.declares (hnone n)
  resumes := fun n hlast => absurd hlast.declares (hnone n)
  reserved := fun hreserved => absurd hreserved hfree
  unknown := fun _ _ => hrefused

theorem BranchFate.of_declared (hfree : ¬ Reserved word) {n : Nat}
    (hlast : Source.LastDeclares settings text word n) {place : Position}
    (hverdict : machine.verdict =
      .executed (machine.registers.goto (Int32.ofNat n)).advance place) :
    machine.BranchFate settings text word target := by
  obtain ⟨hran, hregisters⟩ := step_of_executed hverdict
  have hunique : ∀ m, Source.LastDeclares settings text word m → m = n := fun m hm =>
    Nat.le_antisymm (hlast.last m hm.declares) (hm.last n hlast.declares)
  have hsent : machine.registers.SentTo (wrapped (n + 1)) machine.step.machine.registers := by
    rw [hregisters]
    exact machine.registers.sentTo_goto_advance (toInt_ofNat_add_one_wrapped n)
  refine ⟨?_, ?_, ?_, ?_, ?_⟩
  · simp only [hran, true_iff]
    exact ⟨⟨n, hlast.declares⟩, hfree⟩
  · intro m hm _
    rw [hunique m hm]
    exact hsent
  · intro m hm _ hlength
    obtain ⟨row, hrow, _⟩ := Source.declares_iff.mp hlast.declares
    have hlt := (List.getElem?_eq_some_iff.mp hrow).1
    rw [hunique m hm, counter, hsent.counter, wrapped_of_fits (by omega) (by omega)]
  · exact fun hreserved => absurd hreserved hfree
  · exact fun hnone => absurd hlast.declares (hnone n)

/-- A machine that faces the branch executes or refuses it as its word tells. -/
theorem branchFate_of_faces
    (hprogram : machine.program = .ofTokens (Source.load settings text).rows)
    (hfaces : machine.Faces (Source.load settings text).rows tokens first rest)
    (hplain : machine.counter ≠ 0 ∨ machine.settings.enforceGlobal = false)
    (hbranch : ZeroBranch target (first :: rest))
    (htarget : (Span.word word false).StandsAs target) :
    machine.BranchFate settings text word target := by
  have hexecute : machine.execute first (first :: rest) =
      machine.program.execute machine.registers first (first :: rest) := by
    rw [Machine.execute_eq, if_neg]
    rintro ⟨hzero, hasked⟩
    rcases hplain with hplace | hfree
    · exact hplace hzero
    · rw [hfree] at hasked
      cases hasked
  have hverdict := hfaces.verdict hprogram
  rw [rowVerdict, hexecute, hprogram, hbranch.execute] at hverdict
  by_cases hreserved : Reserved word
  · have hkind := htarget.of_reserved hreserved
    rw [if_neg hkind] at hverdict
    exact .of_reserved hreserved (step_of_rowRefused hverdict) rfl rfl
  · obtain ⟨hkind, hliteral⟩ := htarget.of_not_reserved hreserved
    have hident : target.kind ≠ .immediate := by simp [hkind]
    rw [if_pos (by simp [hkind]), LabelTable.branch_eq, if_neg hident, LabelTable.jump_eq,
      hliteral] at hverdict
    cases hfind : (Program.ofTokens (Source.load settings text).rows).labels.find?
        (String.ofList word) with
    | none =>
        rw [hfind] at hverdict
        have hnone : ∀ n, ¬ Source.Declares settings text word n := by
          intro n hn
          obtain ⟨m, _, hlast⟩ := hn.exists_last
          rw [Source.find?_eq_some_iff.mpr hlast] at hfind
          cases hfind
        exact .of_unknown hreserved hnone (step_of_rowRefused hverdict)
    | some n =>
        rw [hfind] at hverdict
        exact .of_declared hreserved (Source.find?_eq_some_iff.mp hfind) hverdict

end Branching

end Machine

/-- A row declares one word. -/
theorem Source.Declares.unique {settings : LoadSettings} {text : Text} {word other : List Char}
    {n : Nat} (h : Declares settings text word n) (hother : Declares settings text other n) :
    word = other := by
  obtain ⟨row, hrow, hword⟩ := declares_iff.mp h
  obtain ⟨same, hsame, hanother⟩ := declares_iff.mp hother
  obtain rfl := Option.some.inj (hrow.symm.trans hsame)
  exact String.ofList_injective (Option.some.inj (hword.symm.trans hanother))

/-- Declaring a word and branching to it.  Any word of letters and underscores is read as such
before a colon and as the target of a branch, whatever letter it starts with.  In a text that
loads, every line that opens with a word and a colon declares it, whatever the word means
elsewhere.  The table of labels has the last row that declares a word, and no other spelling of
it.  A branch `beq zero, zero, word` comes to the row behind that one if the word is declared and
not reserved; a reserved word is a syntax error, declared or not, and any other word is an
unknown label. -/
theorem label_words_declared_and_reached (settings : LoadSettings) (text : Text)
    (word : List Char) :
    (word ≠ [] → (∀ c ∈ word, isWordChar c = true) →
        (∀ tabs rest spans,
          Cuts (List.replicate tabs '\t' ++ (word ++ ':' :: rest)) spans [] →
          ∃ more, statement spans = .word word true :: more) ∧
        ∀ spans, Cuts ("beq zero, zero, ".toList ++ word) spans [] →
          statement spans = branchTo word) ∧
      ((Source.load settings text).error = none → ∀ i spans more,
        Source.LineReads settings text i spans → statement spans = .word word true :: more →
        ∃ n row, Source.RowReads settings text n i row spans ∧
          Source.Declares settings text word n) ∧
      (∀ n, (Program.ofTokens (Source.load settings text).rows).labels.find?
          (String.ofList word) = some n ↔ Source.LastDeclares settings text word n) ∧
      (∀ n, Source.Declares settings text word n →
        (∃ m, n ≤ m ∧ Source.LastDeclares settings text word m) ∧
          ∀ other, Source.Declares settings text other n → word = other) ∧
      ∀ (options : Settings) (history : List Call) (n i : Nat) (row : List Token)
        (spans more : List Span),
        (Machine.reached (Source.load settings text).rows options history).counter = n →
        Source.RowReads settings text n i row spans → statement spans = branchTo word ++ more →
        (n ≠ 0 ∨ (Machine.reached (Source.load settings text).rows options
          history).settings.enforceGlobal = false) →
        ∃ target, (Row.ofTokens row).body[5]? = some target ∧
          (Machine.reached (Source.load settings text).rows options history).BranchFate
            settings text word target := by
  refine ⟨?_, ?_, fun n => Source.find?_eq_some_iff,
    fun n h => ⟨h.exists_last, fun other hother => h.unique hother⟩, ?_⟩
  · intro hne hword
    exact ⟨fun tabs rest spans hcuts => statement_of_label hne hword hcuts,
      fun spans hcuts => statement_of_branch hne hword hcuts⟩
  · intro hload i spans more hline hopens
    obtain ⟨n, row, hreads⟩ := Source.exists_rowReads_of_word hload hline hopens
    exact ⟨n, row, hreads, i, row, spans, more, hreads, hopens⟩
  · intro options history n i row spans more hcounter hreads hopens hplain
    have hstatement := hreads.images.statement
    rw [hopens] at hstatement
    obtain ⟨target, hplace, htarget, hbranch⟩ := exists_zeroBranch hstatement
    refine ⟨target, hplace, ?_⟩
    cases hbody : (Row.ofTokens row).body with
    | nil =>
        rw [hbody] at hplace
        cases hplace
    | cons first rest =>
        rw [hbody] at hbranch
        have hfaces : (Machine.reached (Source.load settings text).rows options history).Faces
            (Source.load settings text).rows row first rest := by
          refine ⟨by omega, ?_, hbody⟩
          rw [hcounter, Int.toNat_natCast]
          exact hreads.kept
        apply Machine.branchFate_of_faces (Machine.reached_program _ options history) hfaces _
          hbranch htarget
        rw [hcounter]
        exact hplain.imp_left Int.natCast_ne_zero.mpr

/-- The line of a branch to a word. -/
def branchLine (word : String) : String := "beq zero, zero, " ++ word

/-- Two spellings of a word and a keyword are declared, and then there is the branch. -/
def spelledTwice (word : String) : Text := .ofString ("loop:\nLoop:\nzero:\n" ++ branchLine word)

/-- The row of that branch, which ends with the token of the word. -/
def branchRow (kind : Kind) (literal : String) : List Token :=
  [⟨.instruction, "beq", 4, 1⟩, ⟨.register, "0", 4, 5⟩, ⟨.comma, "", 4, 9⟩,
    ⟨.register, "0", 4, 11⟩, ⟨.comma, "", 4, 15⟩, ⟨kind, literal, 4, 17⟩]

/-- All rows of that text. -/
def spelledRows (kind : Kind) (literal : String) : List (List Token) :=
  [[⟨.label, "loop", 1, 1⟩], [⟨.label, "Loop", 2, 1⟩], [⟨.label, "zero", 3, 1⟩],
    branchRow kind literal]

/-- The machine in front of the branch. -/
def beforeBranch (word : String) : Machine :=
  .reached (Source.load {} (spelledTwice word)).rows { enforceGlobal := false }
    [.step, .step, .step]

theorem branchLine_reads {word literal : String} {kind : Kind}
    (hrows : (Source.load {} (spelledTwice word)).rows = spelledRows kind literal)
    (hline : (Source.lines (spelledTwice word))[3]? = some (.ofString (branchLine word)))
    (hreturn : Source.dropReturn (.ofString (branchLine word)) = .ofString (branchLine word))
    (htokens : tokenize (Text.ofString (branchLine word)).chars 4 =
      .ok (branchRow kind literal)) :
    Source.RowReads {} (spelledTwice word) 3 3 (branchRow kind literal)
      (spansOf (foldIndent [] (Text.ofString (branchLine word)).chars)) := by
  apply Source.rowReads_of_tokenize _ hline _ htokens
  · rw [hrows]
    rfl
  · rw [hreturn]
    rfl

/-- The word is found in the spelling in which it is declared and in no other; the keyword is
found in the table but not branched to. -/
theorem spelledTwice_branches :
    (beforeBranch "Loop").step.machine.counter = 2 ∧
      (∃ n, Source.Declares {} (spelledTwice "zero") "zero".toList n) ∧
      (Program.ofTokens (Source.load {} (spelledTwice "zero")).rows).labels.find? "zero" =
        some 2 ∧
      (∃ fault, (beforeBranch "zero").step.outcome = .refused fault ∧
        fault.kind = .syntaxError ∧ fault.position = ⟨4, 17⟩) ∧
      (beforeBranch "LOOP").step.outcome = .refused ⟨.unknownLabel "LOOP", ⟨4, 17⟩⟩ := by
  have hloop : (Source.load {} (spelledTwice "Loop")).rows = spelledRows .ident "Loop" := by
    decide +kernel
  have hzero : (Source.load {} (spelledTwice "zero")).rows = spelledRows .register "0" := by
    decide +kernel
  have hupper : (Source.load {} (spelledTwice "LOOP")).rows = spelledRows .ident "LOOP" := by
    decide +kernel
  have hline : Source.LineReads {} (spelledTwice "zero") 2
      (spansOf (foldIndent [] (Text.ofString "zero:").chars)) :=
    ⟨.ofString "zero:", .ofString "zero:", _, by decide +kernel, by decide +kernel,
      folded_foldIndent _, cuts_spansOf _⟩
  refine ⟨?_, ?_, by rw [hzero]; decide +kernel, ?_, ?_⟩
  · obtain ⟨hlexemes, _, htable, _, hbranch⟩ :=
      label_words_declared_and_reached {} (spelledTwice "Loop") "Loop".toList
    have hcuts : Cuts ("beq zero, zero, ".toList ++ "Loop".toList)
        (spansOf (foldIndent [] (Text.ofString (branchLine "Loop")).chars)) [] := by
      have hchars : foldIndent [] (Text.ofString (branchLine "Loop")).chars =
          "beq zero, zero, ".toList ++ "Loop".toList := by decide +kernel
      rw [hchars]
      exact cuts_spansOf _
    have hopens := (hlexemes (by decide) (List.all_eq_true.mp (by decide))).2 _ hcuts
    have hreads := branchLine_reads hloop (by decide +kernel) (by decide +kernel)
      (by decide +kernel)
    obtain ⟨target, _, hfate⟩ := hbranch { enforceGlobal := false } [.step, .step, .step] 3 3 _ _
      [] (by rw [hloop]; decide +kernel) hreads hopens (.inl (by decide))
    have hlast := (htable 1).mp (by rw [hloop]; decide +kernel)
    exact hfate.resumes 1 hlast (by decide +kernel) (by rw [hloop]; decide)
  · obtain ⟨_, hdeclares, _⟩ :=
      label_words_declared_and_reached {} (spelledTwice "zero") "zero".toList
    obtain ⟨n, _, _, hn⟩ := hdeclares (by decide +kernel) 2 _ [] hline (by decide +kernel)
    exact ⟨n, hn⟩
  · obtain ⟨_, _, _, _, hbranch⟩ :=
      label_words_declared_and_reached {} (spelledTwice "zero") "zero".toList
    have hreads := branchLine_reads hzero (by decide +kernel) (by decide +kernel)
      (by decide +kernel)
    obtain ⟨target, htarget, hfate⟩ := hbranch { enforceGlobal := false } [.step, .step, .step]
      3 3 _ _ [] (by rw [hzero]; decide +kernel) hreads (by decide +kernel) (.inl (by decide))
    cases htarget
    exact hfate.reserved (by decide +kernel)
  · obtain ⟨_, _, htable, hlast, hbranch⟩ :=
      label_words_declared_and_reached {} (spelledTwice "LOOP") "LOOP".toList
    have hreads := branchLine_reads hupper (by decide +kernel) (by decide +kernel)
      (by decide +kernel)
    obtain ⟨target, htarget, hfate⟩ := hbranch { enforceGlobal := false } [.step, .step, .step]
      3 3 _ _ [] (by rw [hupper]; decide +kernel) hreads (by decide +kernel) (.inl (by decide))
    cases htarget
    apply hfate.unknown _ (by decide +kernel)
    intro n hn
    obtain ⟨m, _, hm⟩ := (hlast n hn).1
    have hnone : (Program.ofTokens (spelledRows .ident "LOOP")).labels.find?
        (String.ofList "LOOP".toList) = none := by decide +kernel
    have hfound := (htable m).mpr hm
    rw [hupper, hnone] at hfound
    cases hfound

end ToyRisc
