/-
What tokens carry from a line to the machine.  Where a line reads a register letter and
digits, the token made of them names the register they come to, and where it reads
digits alone, the token is the immediate of their value; so no step of a loaded program
is refused because a register name cannot be read, and none because a mnemonic is
unknown, save the one that is reserved without an instruction behind it.
-/
import ToyRisc.Proofs.Labels
import ToyRisc.Proofs.Loading
import ToyRisc.Proofs.Numerals
import ToyRisc.Proofs.RowEffects

namespace ToyRisc

/-- What a line reads from the column of a token on. -/
def Token.onward (token : Token) (c : List Char) : List Char := c.drop (token.col.toNat - 1)

/-- `token.StandsFor span rest c`: the token is that of this span, which the line `c`
reads in its column, before `rest`. -/
structure Token.StandsFor (token : Token) (span : Span) (rest c : List Char) : Prop where
  reads : token.onward c = span.text ++ rest
  fits : span.Fits rest.head?
  means : span.Means token.kind token.literal

theorem Cuts.exists_standsFor {c rest : List Char} {spans : List Span} (h : Cuts c spans rest)
    {line : Int} {before : List Char} {tokens : List Token}
    (himages : Images line before.length spans tokens) {token : Token} (htoken : token ∈ tokens) :
    ∃ span remaining, token.StandsFor span remaining (before ++ c) := by
  induction h generalizing before tokens with
  | nil rest =>
      cases himages
      cases htoken
  | @cons span spans remaining rest hfits htail ih =>
      have hpassed : before.length + span.width = (before ++ span.text).length := by
        rw [List.length_append, Span.width]
      rw [← List.append_assoc]
      cases himages with
      | silent hsilent himages => exact ih (hpassed ▸ himages) htoken
      | @token _ _ _ tokens kind literal hmeans himages =>
          rcases List.mem_cons.mp htoken with rfl | hmore
          · refine ⟨span, remaining, ?_, hfits, hmeans⟩
            simp [Token.onward]
          · exact ih (hpassed ▸ himages) hmore

namespace Source

/-- `RowOf settings text row c`: the row is that of a line of the text, which reads `c`
when its expressions are expanded and its first four spaces folded. -/
def RowOf (settings : LoadSettings) (text : Text) (row : List Token) (c : List Char) : Prop :=
  ∃ (i : Nat) (line prepared : Text), (lines text)[i]? = some line ∧
    prepare settings (1 + i) (dropReturn line) = .ok prepared ∧ Folded prepared.chars c ∧
      tokenize prepared.chars (1 + i) = .ok row

variable {settings : LoadSettings} {text : Text} {row : List Token}

theorem exists_rowOf (h : row ∈ (load settings text).rows) :
    ∃ c, RowOf settings text row c := by
  obtain ⟨i, line, hi, hkeeps, hload⟩ := exists_line_of_mem_load h
  rcases loadLine_cases hload with ⟨_, rfl⟩ | ⟨_, prepared, hprepare, htokens⟩
  · cases hkeeps
  · exact ⟨_, i, line, prepared, hi, hprepare, folded_foldIndent prepared.chars, htokens⟩

/-- Every token of a row stands for a span of its line. -/
theorem RowOf.exists_standsFor {c : List Char} (h : RowOf settings text row c) {token : Token}
    (htoken : token ∈ row) : ∃ span rest, token.StandsFor span rest c := by
  obtain ⟨i, line, prepared, _, _, hfolded, htokens⟩ := h
  obtain ⟨spans, hcuts, himages⟩ := (scan_eq_ok_iff _ _ row).mp htokens
  obtain rfl := hfolded.eq_foldIndent
  have hbefore : Images (1 + i) ([] : List Char).length spans row := himages
  exact hcuts.exists_standsFor hbefore htoken

end Source

section Literals

variable {span : Span} {literal : String}

theorem registerBase?_le {letter : Char} {base : Nat} (h : registerBase? letter = some base) :
    base ≤ 25 := by
  unfold registerBase? at h
  split at h <;> cases h <;> decide

theorem readSigned_of_keyword {name : String} (h : keyword? name = some (.register, literal)) :
    ∃ index, Decimal.readSigned 64 literal.toList = .ok index := by
  unfold keyword? at h
  have hcounter : ∃ index, Decimal.readSigned 64 (Decimal.text pcIndex).toList = .ok index :=
    ⟨_, Decimal.readSigned_text (by decide)⟩
  -- only the words for registers are left; all but the program counter are numerals themselves
  split at h <;> cases h
  iterate 6 exact ⟨_, rfl⟩
  exact hcounter

/-- The name of a register is a number that can be read. -/
theorem Span.Means.readSigned (h : span.Means .register literal) :
    ∃ index, Decimal.readSigned 64 literal.toList = .ok index := by
  generalize hkind : Kind.register = kind at h
  cases h with
  | @register letter base digits hbase hvalue =>
      have hle := registerBase?_le hbase
      exact ⟨_, Decimal.readSigned_text (by omega)⟩
  | keyword hword hkeyword =>
      subst hkind
      exact readSigned_of_keyword hkeyword
  | _ => cases hkind

/-- What is read as an instruction is a mnemonic in lower case. -/
theorem Span.Means.exists_mnemonic (h : span.Means .instruction literal) :
    ∃ chars, span = .word chars false ∧ literal = lowerWord (String.ofList chars) ∧
      literal ∈ mnemonics := by
  cases h with
  | @mnemonic chars hword => exact ⟨chars, rfl, rfl, hword⟩
  | keyword hword hkeyword => exact absurd (kind_of_keyword? hkeyword) (by decide)

theorem Span.Means.exists_number (h : span.Means .immediate literal) :
    ∃ digits, span = .number digits ∧ literal = String.ofList digits := by
  cases h with
  | number digits => exact ⟨digits, rfl, rfl⟩
  | keyword hword hkeyword => exact absurd (kind_of_keyword? hkeyword) (by decide)

/-- One mnemonic is no instruction. -/
theorem eq_bqe_of_ofMnemonic? (hmem : literal ∈ mnemonics)
    (hnone : Opcode.ofMnemonic? literal = none) : literal = "bqe" := by
  have hall : ∀ mnemonic ∈ mnemonics, Opcode.ofMnemonic? mnemonic = none → mnemonic = "bqe" := by
    decide +kernel
  exact hall literal hmem hnone

end Literals

namespace Token

/-- The token names the register with this index: that one is read and written, and
both fail for its bounds exactly where there is no such register. -/
structure Accesses (token : Token) (index : Nat) : Prop where
  fetch : ∀ registers : RegisterFile,
    registers.fetch token = token.guard (registers.read index)
  store : ∀ (registers : RegisterFile) (value : Int32),
    registers.store token value = token.guard (registers.write index value)
  fetch_bounds : ∀ registers : RegisterFile,
    registers.fetch token = .error ⟨.registerAccess (.bounds index), token.position⟩ ↔ 32 < index
  store_bounds : ∀ (registers : RegisterFile) (value : Int32),
    registers.store token value = .error ⟨.registerAccess (.bounds index), token.position⟩ ↔
      32 < index

/-- The token is decoded to the value of the digits, unless that is too large. -/
structure Decodes (token : Token) (digits : List Char) : Prop where
  value : Decimal.value digits ≤ 2147483647 →
    ∃ word, token.immediate = .ok word ∧ word.toInt = Decimal.value digits
  range : 2147483647 < Decimal.value digits →
    token.immediate = .error ⟨.immediateRange (String.ofList digits), token.position⟩

theorem guard_eq_bounds_iff {α : Type} (token : Token) (result : Except RegisterError α)
    (index : Int) :
    token.guard result = .error ⟨.registerAccess (.bounds index), token.position⟩ ↔
      result = .error (.bounds index) := by
  cases result with
  | ok value => simp [guard]
  | error found => simp [guard, refuse]

theorem accesses_of_literal {token : Token} {index : Nat}
    (hliteral : token.literal = Decimal.text index) (hindex : index < 2 ^ 63) :
    token.Accesses index := by
  have hread : token.registerIndex = .ok (index : Int) := by
    rw [registerIndex, hliteral, Decimal.readSigned_text hindex]
  have hfetch : ∀ registers : RegisterFile,
      registers.fetch token = token.guard (registers.read index) := by
    intro registers
    rw [RegisterFile.fetch, hread]
    rfl
  have hstore : ∀ (registers : RegisterFile) (value : Int32),
      registers.store token value = token.guard (registers.write index value) := by
    intro registers value
    rw [RegisterFile.store_eq, hread]
    rfl
  refine ⟨hfetch, hstore, ?_, ?_⟩
  · intro registers
    rw [hfetch, guard_eq_bounds_iff, RegisterFile.read]
    split
    · simp only [reduceCtorEq, false_iff]
      omega
    · simp only [true_iff]
      omega
  · intro registers value
    rw [hstore, guard_eq_bounds_iff, RegisterFile.write_eq]
    split
    · simp only [Except.error.injEq, reduceCtorEq, false_iff]
      omega
    split
    · simp only [reduceCtorEq, false_iff]
      omega
    · simp only [true_iff]
      omega

theorem decodes_of_literal {token : Token} {digits : List Char}
    (hliteral : token.literal = String.ofList digits) (hne : digits ≠ [])
    (hdigits : ∀ d ∈ digits, d.isDigit = true) : token.Decodes digits := by
  have hread : Decimal.readSigned 32 token.literal.toList =
      if Decimal.value digits < 2 ^ 31 then .ok (Decimal.value digits : Int)
      else .error .outOfRange := by
    rw [hliteral, String.toList_ofList, Decimal.readSigned_of_digits hne hdigits]
  constructor
  · intro hle
    refine ⟨Int32.ofInt (Decimal.value digits), ?_, ?_⟩
    · rw [immediate, hread, if_pos (by omega)]
    · rw [Int32.toInt_ofInt_of_le (by omega) (by omega)]
  · intro hlt
    rw [immediate, hread, if_neg (by omega), hliteral]
    rfl

end Token

/-- What a token carries is what its line `c` reads in its column. -/
structure CarriesText (c : List Char) (token : Token) : Prop where
  /-- A register letter before digits. -/
  register : ∀ {letter : Char} {base : Nat} {digits rest : List Char},
    token.onward c = letter :: (digits ++ rest) → registerBase? letter = some base →
    digits ≠ [] → Maximal Char.isDigit digits rest.head? → Decimal.value digits < 2 ^ 31 →
      token.kind = .register ∧ token.Accesses (base + Decimal.value digits)
  /-- Digits alone. -/
  immediate : ∀ {digits rest : List Char},
    token.onward c = digits ++ rest → digits ≠ [] → Maximal Char.isDigit digits rest.head? →
      token.kind = .immediate ∧ token.Decodes digits

theorem Token.StandsFor.carriesText {token : Token} {span : Span} {remaining c : List Char}
    (h : token.StandsFor span remaining c) : CarriesText c token := by
  constructor
  · intro letter base digits rest hreads hbase hne hrun hvalue
    have hletter : letter ∈ registerLetters :=
      (isRegisterLetter_iff letter).mp (by rw [isRegisterLetter, hbase]; rfl)
    have hfits : (Span.register letter digits).Fits rest.head? := ⟨hletter, hne, hrun⟩
    obtain ⟨rfl, rfl⟩ := Span.eq_of_fits h.fits hfits (h.reads.symm.trans hreads)
    have hmeans := h.means
    generalize hkind : token.kind = kind at hmeans
    generalize hliteral : token.literal = literal at hmeans
    cases hmeans with
    | @register _ found _ hfound _ =>
        obtain rfl : found = base := Option.some.inj (hfound.symm.trans hbase)
        have hle := registerBase?_le hbase
        exact ⟨rfl, Token.accesses_of_literal hliteral (by omega)⟩
  · intro digits rest hreads hne hrun
    have hfits : (Span.number digits).Fits rest.head? := ⟨hne, hrun⟩
    obtain ⟨rfl, rfl⟩ := Span.eq_of_fits h.fits hfits (h.reads.symm.trans hreads)
    have hmeans := h.means
    generalize hkind : token.kind = kind at hmeans
    generalize hliteral : token.literal = literal at hmeans
    cases hmeans with
    | number => exact ⟨rfl, Token.decodes_of_literal hliteral hne hrun.inside⟩

/-- What a step of a program is refused for, as far as it lies in a row, lies in a row of
its tokens. -/
theorem Machine.exists_row_of_refused {rows : List (List Token)} {options : Settings}
    {history : List Call} {fault : Fault}
    (h : (reached rows options history).step.outcome = .refused fault)
    (hlies : fault.cause.liesInRow = true) :
    ∃ row ∈ rows, ∃ first rest, (Row.ofTokens row).body = first :: rest ∧
      RowFault first (first :: rest) fault := by
  obtain ⟨n, row, first, rest, _, hrow, hbody, hfault⟩ := rowFault_of_refused h hlies
  rw [reached_program, Program.rows_ofTokens] at hrow
  obtain ⟨tokens, htokens, rfl⟩ := Option.map_eq_some_iff.mp hrow
  exact ⟨tokens, List.mem_of_getElem? htokens, first, rest, hbody, hfault⟩

section Steps

variable {settings : LoadSettings} {text : Text} {options : Settings} {history : List Call}
  {place : Position}

theorem step_ne_registerName (name : String) :
    (Machine.reached (Source.load settings text).rows options history).step.outcome ≠
      .refused ⟨.registerName name, place⟩ := by
  intro h
  obtain ⟨row, hrow, first, rest, hbody, hfault⟩ := Machine.exists_row_of_refused h rfl
  obtain ⟨c, hrowOf⟩ := Source.exists_rowOf hrow
  cases hfault with
  | @registerName token hmem hkind hindex =>
      obtain ⟨span, remaining, hstands⟩ := hrowOf.exists_standsFor (mem_of_mem_body (hbody ▸ hmem))
      have hmeans := hstands.means
      rw [hkind] at hmeans
      obtain ⟨index, hread⟩ := hmeans.readSigned
      exact hindex index hread

/-- The mnemonic that is refused as unknown is `bqe`, in whatever case it is written. -/
theorem step_unknownInstruction {name : String}
    (h : (Machine.reached (Source.load settings text).rows options history).step.outcome =
      .refused ⟨.unknownInstruction name, place⟩) :
    name = "bqe" ∧ ∃ row ∈ (Source.load settings text).rows, ∃ c token word rest,
      Source.RowOf settings text row c ∧ token ∈ row ∧ token.position = place ∧
        token.onward c = word ++ rest ∧ lowerWord (String.ofList word) = "bqe" := by
  obtain ⟨row, hrow, first, rest, hbody, hfault⟩ := Machine.exists_row_of_refused h rfl
  obtain ⟨c, hrowOf⟩ := Source.exists_rowOf hrow
  cases hfault with
  | unknownInstruction hkind hopcode =>
      have hmem : first ∈ row := mem_of_mem_body (hbody ▸ List.mem_cons_self)
      obtain ⟨span, remaining, hstands⟩ := hrowOf.exists_standsFor hmem
      have hmeans := hstands.means
      rw [hkind] at hmeans
      obtain ⟨chars, rfl, hliteral, hmnemonic⟩ := hmeans.exists_mnemonic
      have hbqe := eq_bqe_of_ofMnemonic? hmnemonic hopcode
      exact ⟨hbqe, row, hrow, c, first, chars, remaining, hrowOf, hmem, rfl, hstands.reads,
        hliteral.symm.trans hbqe⟩

end Steps

/-- Lexer and machine agree on what tokens carry.  In a loaded program, a token names the
register or stands for the value that its line reads in its column; and no step of it is
refused because a register name cannot be read, or because a mnemonic other than `bqe`
is unknown. -/
theorem loaded_payloads_agree (settings : LoadSettings) (text : Text) :
    (∀ row ∈ (Source.load settings text).rows, ∃ c, Source.RowOf settings text row c) ∧
    (∀ row c, Source.RowOf settings text row c → ∀ token ∈ row, CarriesText c token) ∧
    ∀ (options : Settings) (history : List Call) (place : Position) (name : String),
      (Machine.reached (Source.load settings text).rows options history).step.outcome ≠
          .refused ⟨.registerName name, place⟩ ∧
        ((Machine.reached (Source.load settings text).rows options history).step.outcome =
            .refused ⟨.unknownInstruction name, place⟩ →
          name = "bqe" ∧ ∃ row ∈ (Source.load settings text).rows, ∃ c token word rest,
            Source.RowOf settings text row c ∧ token ∈ row ∧ token.position = place ∧
              token.onward c = word ++ rest ∧ lowerWord (String.ofList word) = "bqe") := by
  refine ⟨fun row hrow => Source.exists_rowOf hrow, ?_, fun options history place name =>
    ⟨step_ne_registerName name, step_unknownInstruction⟩⟩
  intro row c hrowOf token htoken
  obtain ⟨span, rest, hstands⟩ := hrowOf.exists_standsFor htoken
  exact hstands.carriesText

/-- A reserved mnemonic before operands that go to the bounds. -/
def reservedLine : Text := .ofString "BqE t007, x0033, 2147483648"

/-- The tokens of that line. -/
def reservedRow : List Token :=
  [⟨.instruction, "bqe", 1, 1⟩, ⟨.register, "13", 1, 5⟩, ⟨.comma, "", 1, 9⟩,
    ⟨.register, "33", 1, 11⟩, ⟨.comma, "", 1, 16⟩, ⟨.immediate, "2147483648", 1, 18⟩]

theorem reservedRow_of_line : Source.RowOf {} reservedLine reservedRow reservedLine.chars := by
  have htokens : tokenize reservedLine.chars 1 = .ok reservedRow := by decide +kernel
  refine ⟨0, reservedLine, reservedLine, by decide +kernel, rfl, .none ?_, htokens⟩
  decide +kernel

/-- What its operands carry, and what a run of it is refused for. -/
theorem reservedLine_payloads :
    Token.Accesses ⟨.register, "13", 1, 5⟩ 13 ∧ Token.Accesses ⟨.register, "33", 1, 11⟩ 33 ∧
      Token.immediate ⟨.immediate, "2147483648", 1, 18⟩ =
        .error ⟨.immediateRange "2147483648", ⟨1, 18⟩⟩ ∧
      (Machine.reached (Source.load {} reservedLine).rows { enforceGlobal := false }
          []).step.outcome = .refused ⟨.unknownInstruction "bqe", ⟨1, 1⟩⟩ ∧
      ∃ row ∈ (Source.load {} reservedLine).rows, ∃ c token word rest,
        Source.RowOf {} reservedLine row c ∧ token ∈ row ∧ token.position = ⟨1, 1⟩ ∧
          token.onward c = word ++ rest ∧ lowerWord (String.ofList word) = "bqe" := by
  obtain ⟨_, hcarries, hsteps⟩ := loaded_payloads_agree {} reservedLine
  have hrow := hcarries reservedRow reservedLine.chars reservedRow_of_line
  have hcomma : ∀ c, some ',' = some c → c.isDigit = false := by
    rintro c ⟨⟩
    decide
  have hsmall : Token.onward ⟨.register, "13", 1, 5⟩ reservedLine.chars =
      't' :: (['0', '0', '7'] ++ ',' :: " x0033, 2147483648".toList) := by decide +kernel
  have hlarge : Token.onward ⟨.register, "33", 1, 11⟩ reservedLine.chars =
      'x' :: (['0', '0', '3', '3'] ++ ',' :: " 2147483648".toList) := by decide +kernel
  have hdigits : Token.onward ⟨.immediate, "2147483648", 1, 18⟩ reservedLine.chars =
      "2147483648".toList ++ [] := by decide +kernel
  have hrefused : (Machine.reached (Source.load {} reservedLine).rows { enforceGlobal := false }
      []).step.outcome = .refused ⟨.unknownInstruction "bqe", ⟨1, 1⟩⟩ := by decide +kernel
  refine ⟨?_, ?_, ?_, hrefused, ((hsteps _ [] ⟨1, 1⟩ "bqe").2 hrefused).2⟩
  · exact ((hrow _ (by decide)).register hsmall rfl (by decide)
      ⟨List.all_eq_true.mp rfl, hcomma⟩ (by decide)).2
  · exact ((hrow _ (by decide)).register hlarge rfl (by decide)
      ⟨List.all_eq_true.mp rfl, hcomma⟩ (by decide)).2
  · exact ((hrow _ (by decide)).immediate hdigits (by decide)
      ⟨List.all_eq_true.mp (by decide +kernel), fun c hc => nomatch hc⟩).2.range
      (by decide +kernel)

end ToyRisc
