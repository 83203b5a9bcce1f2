/-
Arithmetic on words.  What an opcode makes of two words is said in terms of the integers they
stand for: sums, differences and shifts to the left are right up to a multiple of `2 ^ 32`,
shifts to the right round down, and the logical opcodes go bit by bit.  Each of these leaves
room for one word, and that is the result.  An opcode that takes an immediate differs from the
one that takes a register in nothing else.
-/
import Mathlib.Data.Int.ModEq
import ToyRisc.Proofs.Verification

namespace ToyRisc

/-- One word and no other differs from an integer by a multiple of `2 ^ 32`. -/
theorem modEq_iff_eq_ofInt {word : Int32} {n : Int} :
    word.toInt ≡ n [ZMOD 2 ^ 32] ↔ word = Int32.ofInt n := by
  constructor
  · intro h
    have hmod : word.toInt % Int32.size = n % Int32.size := h
    rw [← Int32.toInt_inj, Int32.toInt_ofInt, ← Int.emod_bmod, ← hmod, Int.emod_bmod]
    exact word.toInt_bmod.symm
  · rintro rfl
    rw [Int32.toInt_ofInt]
    exact Int.bmod_emod

/-- In two's complement a negative word is represented by `2 ^ 32` more than it stands for. -/
theorem toInt_cases (word : Int32) :
    word.toInt = word.toBitVec.toNat ∨ word.toInt = word.toBitVec.toNat - 2 ^ 32 := by
  have h := word.toBitVec.toInt_eq_toNat_cond
  change word.toInt = _ at h
  split at h
  · exact .inl h
  · exact .inr h

theorem toInt_modEq_toNat (word : Int32) :
    word.toInt ≡ word.toBitVec.toNat [ZMOD 2 ^ 32] := by
  rw [Int.ModEq]
  rcases toInt_cases word with h | h <;> omega

theorem bmod_modEq (n : Int) : n.bmod (2 ^ 32) ≡ n [ZMOD 2 ^ 32] := Int.bmod_emod

theorem toInt_add_modEq (a b : Int32) : (a + b).toInt ≡ a.toInt + b.toInt [ZMOD 2 ^ 32] := by
  rw [Int32.toInt_add]
  exact bmod_modEq _

theorem toInt_sub_modEq (a b : Int32) : (a - b).toInt ≡ a.toInt - b.toInt [ZMOD 2 ^ 32] := by
  rw [Int32.toInt_sub]
  exact bmod_modEq _

section Bits

/-- Bit `n` of a word in two's complement: whether the word, divided by `2 ^ n` and rounded
down, is odd. -/
def bit (n : Nat) (word : Int32) : Bool := word.toInt.fdiv (2 ^ n) % 2 = 1

/-- Each bit of the result is made of the bits in the same place. -/
def BitByBit (operation : Bool → Bool → Bool) (a b result : Int32) : Prop :=
  ∀ n < 32, bit n result = operation (bit n a) (bit n b)

theorem fdiv_two_pow (z : Int) (n : Nat) : z.fdiv (2 ^ n) = z / 2 ^ n :=
  Int.fdiv_eq_ediv_of_nonneg z (Int.le_of_lt (Int.pow_pos (by decide)))

theorem bit_eq_getLsbD {n : Nat} (hn : n < 32) (word : Int32) :
    bit n word = word.toBitVec.getLsbD n := by
  have hnat : word.toBitVec.getLsbD n = decide ((word.toBitVec.toNat : Int) / 2 ^ n % 2 = 1) := by
    rw [BitVec.getLsbD, Nat.testBit_eq_decide_div_mod_eq, decide_eq_decide]
    norm_cast
  rw [hnat, bit, decide_eq_decide, fdiv_two_pow]
  rcases toInt_cases word with h | h
  · rw [h]
  · -- what represents the word is larger by `2 ^ 32`, and its quotient by an even number
    have heven : (2 : Int) ^ 32 = 2 * 2 ^ (31 - n) * 2 ^ n := by
      rw [mul_assoc, ← pow_add, ← pow_succ']
      congr 1
      omega
    rw [h, heven, Int.sub_mul_ediv_right _ _ (pow_ne_zero n (by decide))]
    omega

theorem BitByBit.unique {operation : Bool → Bool → Bool} {a b result another : Int32}
    (h : BitByBit operation a b result) (hanother : BitByBit operation a b another) :
    result = another := by
  apply Int32.toBitVec_inj.mp
  apply BitVec.eq_of_getLsbD_eq
  intro n hn
  rw [← bit_eq_getLsbD hn, ← bit_eq_getLsbD hn, h n hn, hanother n hn]

theorem bitByBit_of_getLsbD {operation : Bool → Bool → Bool} {a b result : Int32}
    (h : ∀ n, result.toBitVec.getLsbD n =
      operation (a.toBitVec.getLsbD n) (b.toBitVec.getLsbD n)) :
    BitByBit operation a b result := by
  intro n hn
  rw [bit_eq_getLsbD hn, bit_eq_getLsbD hn, bit_eq_getLsbD hn, h]

end Bits

section Shifts

/-- By how many places a word tells to shift: its residue modulo 32. -/
def places (word : Int32) : Nat := (word.toInt % 32).toNat

/-- The low five bits of a word are its residue, whether it is negative or not. -/
theorem toNat_smod (b : Int32) : ((b &&& 31).toBitVec.smod 32).toNat = places b := by
  have hmask : (b.toBitVec &&& 31#32).toNat = b.toBitVec.toNat % 32 := by
    rw [BitVec.toNat_and]
    exact Nat.and_two_pow_sub_one_eq_mod _ 5
  have hmsb : (b.toBitVec &&& 31#32).msb = false := by
    rw [BitVec.msb_and, show (31#32).msb = false from rfl, Bool.and_false]
  have hsmod : ((b.toBitVec &&& 31#32).smod 32#32).toNat = b.toBitVec.toNat % 32 := by
    rw [BitVec.toNat_smod, hmsb, show (32#32).msb = false from rfl]
    change ((b.toBitVec &&& 31#32) % 32#32).toNat = _
    rw [BitVec.toNat_umod, hmask]
    exact Nat.mod_mod _ 32
  have hcases := toInt_cases b
  have hplaces : (places b : Int) = b.toBitVec.toNat % 32 := by
    rw [places]
    omega
  exact hsmod.trans (by omega)

theorem toInt_shiftRight (a b : Int32) :
    (a >>> (b &&& 31)).toInt = a.toInt.fdiv (2 ^ places b) := by
  have hshift : (a >>> (b &&& 31)).toInt = a.toInt >>> places b := by
    rw [← toNat_smod]
    exact BitVec.toInt_sshiftRight'
  rw [hshift, Int.shiftRight_eq_div_pow, fdiv_two_pow, Int.natCast_pow]
  rfl

theorem toInt_shiftLeft_modEq (a b : Int32) :
    (a <<< (b &&& 31)).toInt ≡ a.toInt * 2 ^ places b [ZMOD 2 ^ 32] := by
  have hshift : (a <<< (b &&& 31)).toInt =
      ((a.toBitVec.toNat <<< places b : Nat) : Int).bmod (2 ^ 32) := by
    rw [← toNat_smod]
    exact BitVec.toInt_shiftLeft
  have hproduct : ((a.toBitVec.toNat <<< places b : Nat) : Int) =
      a.toBitVec.toNat * 2 ^ places b := by
    rw [Nat.shiftLeft_eq]
    push_cast
    rfl
  calc (a <<< (b &&& 31)).toInt
      ≡ a.toBitVec.toNat * 2 ^ places b [ZMOD 2 ^ 32] := by
        rw [hshift, hproduct]
        exact bmod_modEq _
    _ ≡ a.toInt * 2 ^ places b [ZMOD 2 ^ 32] := (toInt_modEq_toNat a).symm.mul_right _

end Shifts

namespace Opcode

/-- What an opcode asks of the result for two words, in terms of the integers that they stand
for.  Where it does no arithmetic, it asks for zero. -/
def Requires (opcode : Opcode) (a b result : Int32) : Prop :=
  match opcode with
  | add | addi => result.toInt ≡ a.toInt + b.toInt [ZMOD 2 ^ 32]
  | sub => result.toInt ≡ a.toInt - b.toInt [ZMOD 2 ^ 32]
  | and | andi => BitByBit (· && ·) a b result
  | or | ori => BitByBit (· || ·) a b result
  | xor | xori => BitByBit (· ^^ ·) a b result
  | sll | slli => result.toInt ≡ a.toInt * 2 ^ places b [ZMOD 2 ^ 32]
  | srl | srli => result.toInt = a.toInt.fdiv (2 ^ places b)
  | slt | slti => result.toInt = if a.toInt < b.toInt then 1 else 0
  | beq | bne | blt | other _ => result.toInt = 0

/-- What an opcode makes of two words is what it asks for. -/
theorem requires_alu (opcode : Opcode) (a b : Int32) :
    opcode.Requires a b (opcode.alu a b) := by
  cases opcode with
  | add | addi => exact toInt_add_modEq a b
  | sub => exact toInt_sub_modEq a b
  | and | andi => exact bitByBit_of_getLsbD fun n => BitVec.getLsbD_and
  | or | ori => exact bitByBit_of_getLsbD fun n => BitVec.getLsbD_or
  | xor | xori => exact bitByBit_of_getLsbD fun n => BitVec.getLsbD_xor
  | sll | slli => exact toInt_shiftLeft_modEq a b
  | srl | srli => exact toInt_shiftRight a b
  | slt | slti =>
      simp only [Requires, alu, Int32.lt_iff_toInt_lt]
      split
      · rfl
      · rfl
  | beq | bne | blt | other code => rfl

/-- It leaves no choice between two words. -/
theorem Requires.unique {opcode : Opcode} {a b result another : Int32}
    (h : opcode.Requires a b result) (hanother : opcode.Requires a b another) :
    result = another := by
  cases opcode with
  | add | addi | sub | sll | slli =>
      exact (modEq_iff_eq_ofInt.mp h).trans (modEq_iff_eq_ofInt.mp hanother).symm
  | and | andi | or | ori | xor | xori => exact BitByBit.unique h hanother
  | srl | srli | slt | slti | beq | bne | blt | other code =>
      exact Int32.toInt_inj.mp (h.trans hanother.symm)

theorem requires_iff (opcode : Opcode) (a b result : Int32) :
    opcode.Requires a b result ↔ result = opcode.alu a b := by
  constructor
  · intro h
    exact h.unique (opcode.requires_alu a b)
  · rintro rfl
    exact opcode.requires_alu a b

/-- The opcode that takes an immediate in place of the second register. -/
def immediateForm? : Opcode → Option Opcode
  | add => some addi
  | and => some andi
  | or => some ori
  | xor => some xori
  | sll => some slli
  | srl => some srli
  | slt => some slti
  | _ => none

/-- `register.HasForm immediate`: the two differ in whether the last operand is a register or an
immediate, and their mnemonics in the letter that says so. -/
structure HasForm (register immediate : Opcode) : Prop where
  register_format : register.format = .register
  immediate_format : immediate.format = .immediate
  name : immediate.name = register.name ++ "i"
  register_name : ofMnemonic? register.name = some register
  immediate_name : ofMnemonic? immediate.name = some immediate
  alu : immediate.alu = register.alu

theorem hasForm_of_immediateForm? {register immediate : Opcode}
    (h : register.immediateForm? = some immediate) : register.HasForm immediate := by
  cases register with
  | add | and | or | xor | sll | srl | slt =>
      cases h
      exact ⟨rfl, rfl, rfl, rfl, rfl, rfl⟩
  | _ => cases h

theorem exists_immediateForm? {immediate : Opcode} (h : immediate.format = .immediate) :
    ∃ register : Opcode, register.immediateForm? = some immediate := by
  cases immediate with
  | addi => exact ⟨add, rfl⟩
  | andi => exact ⟨and, rfl⟩
  | ori => exact ⟨or, rfl⟩
  | xori => exact ⟨xor, rfl⟩
  | slli => exact ⟨sll, rfl⟩
  | srli => exact ⟨srl, rfl⟩
  | slti => exact ⟨slt, rfl⟩
  | other code =>
      rw [format] at h
      split at h
      · cases h
      · cases h
  | _ => cases h

end Opcode

section Rows

variable {operands : Operands} {mnemonic comma another : Token} {more : List Token}

/-- The row of an instruction: its mnemonic, its operands with commas between them, and what is
not looked at. -/
def Operands.row (operands : Operands) (mnemonic comma another : Token) (more : List Token) :
    List Token :=
  mnemonic :: operands.first :: comma :: operands.second :: another :: operands.third :: more

theorem Operands.verify_row_iff {last : List Kind} :
    (Pattern.threeOperands last).verify (operands.row mnemonic comma another more) = .ok () ↔
      [mnemonic.kind, operands.first.kind, comma.kind, operands.second.kind, another.kind] =
        [.instruction, .register, .comma, .register, .comma] ∧ operands.third.kind ∈ last := by
  constructor
  · intro h
    obtain ⟨_, hkinds⟩ := Pattern.verify_eq_ok_iff.mp h
    have hmnemonic := hkinds 0 _ mnemonic rfl rfl
    have hfirst := hkinds 1 _ operands.first rfl rfl
    have hcomma := hkinds 2 _ comma rfl rfl
    have hsecond := hkinds 3 _ operands.second rfl rfl
    have hanother := hkinds 4 _ another rfl rfl
    have hthird := hkinds 5 _ operands.third rfl rfl
    simp only [List.mem_singleton] at hmnemonic hfirst hcomma hsecond hanother
    rw [hmnemonic, hfirst, hcomma, hsecond, hanother]
    exact ⟨rfl, hthird⟩
  · rintro ⟨hkinds, hthird⟩
    simp only [List.cons.injEq, and_true] at hkinds
    simp [row, Pattern.verify, Pattern.threeOperands, Pattern.verifyFrom, Slot.accepts, hkinds,
      hthird]

theorem Opcode.operands_row {opcode : Opcode}
    (h : opcode.format.pattern.verify (operands.row mnemonic comma another more) = .ok ()) :
    opcode.operands (operands.row mnemonic comma another more) = .ok operands := by
  unfold Opcode.operands
  rw [h]
  rfl

/-- The last argument of an arithmetic instruction, from a register or from the row itself. -/
def RegisterFile.argument (registers : RegisterFile) (format : Format) (token : Token) :
    Except Fault Int32 :=
  if format = .immediate then token.immediate else registers.fetch token

/-- Arithmetic instructions differ in where their last argument is taken from and in what they
make of the arguments. -/
theorem LabelTable.instruction_row (labels : LabelTable) (registers : RegisterFile)
    {opcode : Opcode} (hopcode : Opcode.ofMnemonic? mnemonic.literal = some opcode)
    (hbranch : opcode.format ≠ .branch)
    (hverify : opcode.format.pattern.verify (operands.row mnemonic comma another more) = .ok ()) :
    labels.instruction registers mnemonic (operands.row mnemonic comma another more) = (do
      let a ← registers.fetch operands.second
      let b ← registers.argument opcode.format operands.third
      registers.store operands.first (opcode.alu a b)) := by
  have hoperands := Opcode.operands_row hverify
  rw [LabelTable.instruction_eq, hopcode]
  simp only [hoperands]
  cases hformat : opcode.format with
  | register => rfl
  | immediate => rfl
  | branch => exact absurd hformat hbranch
  | other code => exact absurd hformat (opcode.format_ne_other code)

theorem Program.execute_of_instruction (program : Program) (registers : RegisterFile)
    (first : Token) (row : List Token) (hkind : first.kind = .instruction) :
    program.execute registers first row = (do
      let changed ← program.labels.instruction registers first row
      .ok changed.advance) := by
  rw [Program.execute_eq, hkind]

/-- A register that holds a value and an immediate that stands for it can replace each other,
whatever program the row is in. -/
theorem Program.execute_immediateForm (program changed : Program) {registers : RegisterFile}
    {register immediate : Opcode} {literal : Token} {v : Int32}
    (hform : register.immediateForm? = some immediate)
    (hname : mnemonic.literal = register.name)
    (hverify : Pattern.register.verify (operands.row mnemonic comma another more) = .ok ())
    (hvalue : registers.fetch operands.third = .ok v)
    (hkind : literal.kind = .immediate) (hword : literal.immediate = .ok v) :
    program.execute registers mnemonic (operands.row mnemonic comma another more) =
      changed.execute registers { mnemonic with literal := immediate.name }
        ({ operands with third := literal }.row { mnemonic with literal := immediate.name }
          comma another more) := by
  have hforms := Opcode.hasForm_of_immediateForm? hform
  obtain ⟨hkinds, _⟩ := Operands.verify_row_iff.mp hverify
  have hmnemonic : mnemonic.kind = .instruction := (List.cons.inj hkinds).1
  have hchanged : immediate.format.pattern.verify
      ({ operands with third := literal }.row { mnemonic with literal := immediate.name }
        comma another more) = .ok () := by
    rw [hforms.immediate_format]
    exact Operands.verify_row_iff.mpr ⟨hkinds, List.mem_singleton.mpr hkind⟩
  have hregister : Opcode.ofMnemonic? mnemonic.literal = some register := by
    rw [hname, hforms.register_name]
  have hleft := program.labels.instruction_row registers hregister
    (by rw [hforms.register_format]; decide) (by rw [hforms.register_format]; exact hverify)
  have hright := changed.labels.instruction_row registers hforms.immediate_name
    (by rw [hforms.immediate_format]; decide) hchanged
  have hargument : registers.argument register.format operands.third =
      registers.argument immediate.format literal := by
    rw [hforms.register_format, hforms.immediate_format]
    exact hvalue.trans hword.symm
  rw [program.execute_of_instruction registers mnemonic _ hmnemonic, hleft, hargument,
    changed.execute_of_instruction registers { mnemonic with literal := immediate.name } _
      hmnemonic, hright, hforms.alu]

end Rows

/-- What an opcode makes of two words is the one word that the arithmetic of integers allows.
Every opcode with an immediate computes the same as one with two registers, and its rows can
replace those of the other where the register holds the immediate. -/
theorem arithmetic_wraps_and_forms_agree :
    (∀ (opcode : Opcode) (a b result : Int32),
      opcode.Requires a b result ↔ result = opcode.alu a b) ∧
    (∀ immediate : Opcode, immediate.format = .immediate →
      ∃ register : Opcode, register.immediateForm? = some immediate) ∧
    ∀ register immediate : Opcode, register.immediateForm? = some immediate →
      register.HasForm immediate ∧
      ∀ (program changed : Program) (registers : RegisterFile) (operands : Operands)
        (mnemonic comma another literal : Token) (more : List Token) (v : Int32),
        mnemonic.literal = register.name →
        Pattern.register.verify (operands.row mnemonic comma another more) = .ok () →
        registers.fetch operands.third = .ok v →
        literal.kind = .immediate → literal.immediate = .ok v →
        program.execute registers mnemonic (operands.row mnemonic comma another more) =
          changed.execute registers { mnemonic with literal := immediate.name }
            ({ operands with third := literal }.row { mnemonic with literal := immediate.name }
              comma another more) := by
  refine ⟨Opcode.requires_iff, fun immediate => Opcode.exists_immediateForm?, ?_⟩
  intro register immediate hform
  refine ⟨Opcode.hasForm_of_immediateForm? hform, ?_⟩
  intro program changed registers operands mnemonic comma another literal more v hname hverify
    hvalue hkind hword
  exact program.execute_immediateForm changed hform hname hverify hvalue hkind hword

/-- The registers with 1 in `s1` and -1 in `s2`. -/
def oneAndMinusOne : RegisterFile := ⟨((Vector.replicate 33 0).set 14 1).set 15 (-1)⟩

/-- The same with the least word in `s0`. -/
def leastWord : RegisterFile := ⟨oneAndMinusOne.cells.set 13 Int32.minValue⟩

/-- A shift by -1 goes by 31 places: it takes one to the least word, and the least word to -1.
Where `s2` holds -1, `sll s0, s1, s2` does the same as `slli s0, s1, -1`. -/
theorem shift_by_minus_one :
    (Opcode.sll.Requires 1 (-1) Int32.minValue ∧ Opcode.srl.Requires Int32.minValue (-1) (-1)) ∧
      (∃ register : Opcode, register.immediateForm? = some .slli) ∧
      (Program.ofTokens []).execute oneAndMinusOne ⟨.instruction, "sll", 1, 1⟩
          (⟨.instruction, "sll", 1, 1⟩ :: sumRow.tail) = .ok leastWord.advance := by
  obtain ⟨hrequires, hexists, hforms⟩ := arithmetic_wraps_and_forms_agree
  obtain ⟨_, hreplace⟩ := hforms .sll .slli rfl
  refine ⟨⟨(hrequires _ _ _ _).mpr rfl, (hrequires _ _ _ _).mpr rfl⟩, hexists .slli rfl, ?_⟩
  -- the result is that of the row with the immediate
  exact hreplace (.ofTokens []) (.ofTokens []) oneAndMinusOne
    ⟨⟨.register, "13", 1, 5⟩, ⟨.register, "14", 1, 9⟩, ⟨.register, "15", 1, 13⟩⟩
    ⟨.instruction, "sll", 1, 1⟩ ⟨.comma, "", 1, 7⟩ ⟨.comma, "", 1, 11⟩
    ⟨.immediate, "-1", 1, 13⟩ [] (-1) rfl rfl rfl rfl rfl

end ToyRisc
