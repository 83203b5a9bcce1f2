/-
Numerals.  What is written is a run of digits, whose value is the number written.  On
such a run the reader's check of every value on the way comes to one check of the value
of the whole run; what it reads are the numerals whose number the word holds.
-/
import Mathlib.Algebra.Group.Int.Defs
import Mathlib.Algebra.Group.Nat.Defs
import ToyRisc.Vocabulary

namespace ToyRisc.Decimal

theorem digitChar_isDigit : ∀ n < 10, (digitChar n).isDigit = true := by
  decide

theorem isDigit_of_mem_digits {n : Nat} {c : Char} (h : c ∈ digits n) : c.isDigit = true := by
  fun_induction digits n with
  | case1 n hn =>
      rw [List.mem_singleton.mp h]
      exact digitChar_isDigit n hn
  | case2 n hn ih =>
      rcases List.mem_append.mp h with hfront | hlast
      · exact ih hfront
      · rw [List.mem_singleton.mp hlast]
        exact digitChar_isDigit (n % 10) (Nat.mod_lt n (by decide))

theorem digits_ne_nil (n : Nat) : digits n ≠ [] := by
  unfold digits
  split
  · simp
  · simp

/-- The value of a run of digits behind digits whose value is `n`. -/
def valueFrom (n : Nat) (ds : List Char) : Nat :=
  ds.foldl (fun n c => 10 * n + digitValue c) n

theorem le_valueFrom (n : Nat) (ds : List Char) : n ≤ valueFrom n ds := by
  induction ds generalizing n with
  | nil => exact Nat.le_refl n
  | cons d ds ih =>
      calc n ≤ 10 * n + digitValue d := by omega
        _ ≤ valueFrom (10 * n + digitValue d) ds := ih _

theorem readFrom_of_digits {limit n : Nat} {ds : List Char} (hn : n ≤ limit)
    (hds : ∀ d ∈ ds, d.isDigit = true) :
    readFrom limit n ds =
      if valueFrom n ds ≤ limit then .ok (valueFrom n ds) else .error .outOfRange := by
  induction ds generalizing n with
  | nil => simp [readFrom, valueFrom, hn]
  | cons d ds ih =>
      have hd := hds d List.mem_cons_self
      have hrest : ∀ e ∈ ds, e.isDigit = true :=
        fun e he => hds e (List.mem_cons_of_mem d he)
      have hvalue : valueFrom n (d :: ds) = valueFrom (10 * n + digitValue d) ds := rfl
      rw [readFrom, if_pos hd, hvalue]
      by_cases hle : 10 * n + digitValue d ≤ limit
      · rw [if_pos hle, ih hle hrest]
      · -- what is too large already only grows
        have hgrow := le_valueFrom (10 * n + digitValue d) ds
        rw [if_neg hle, if_neg (by omega)]

theorem readUnsigned_of_digits {bits : Nat} {ds : List Char} (hne : ds ≠ [])
    (hds : ∀ d ∈ ds, d.isDigit = true) :
    readUnsigned bits ds =
      if value ds < 2 ^ bits then .ok (value ds) else .error .outOfRange := by
  cases ds with
  | nil => exact absurd rfl hne
  | cons d ds =>
      have hpos : 0 < 2 ^ bits := Nat.two_pow_pos bits
      have hvalue : valueFrom 0 (d :: ds) = value (d :: ds) := rfl
      have hiff : value (d :: ds) ≤ Nat.pow 2 bits - 1 ↔ value (d :: ds) < 2 ^ bits := by
        change value (d :: ds) ≤ 2 ^ bits - 1 ↔ _
        omega
      rw [readUnsigned, readFrom_of_digits (Nat.zero_le _) hds, hvalue]
      simp only [hiff]

theorem digitValue_digitChar : ∀ n < 10, digitValue (digitChar n) = n := by
  decide

theorem value_concat (ds : List Char) (d : Char) :
    value (ds ++ [d]) = 10 * value ds + digitValue d := by
  simp [value]

/-- What is written has the value it is written for. -/
theorem value_digits (n : Nat) : value (digits n) = n := by
  fun_induction digits n with
  | case1 n hn => simp [value, digitValue_digitChar n hn]
  | case2 n hn ih =>
      rw [value_concat, ih, digitValue_digitChar (n % 10) (Nat.mod_lt n (by decide))]
      omega

theorem toList_text (n : Nat) : (text n).toList = digits n :=
  String.toList_ofList

/-- Without a sign, a run of digits is read into a signed word if it has one bit less. -/
theorem readSigned_of_digits {bits : Nat} {ds : List Char} (hne : ds ≠ [])
    (hds : ∀ d ∈ ds, d.isDigit = true) :
    readSigned bits ds =
      if value ds < 2 ^ (bits - 1) then .ok (value ds : Int) else .error .outOfRange := by
  have hsigned : readSigned bits ds = (readUnsigned bits ds).bind (withSign bits false) := by
    unfold readSigned
    split
    · exact absurd (hds '-' List.mem_cons_self) (by decide)
    · exact absurd (hds '+' List.mem_cons_self) (by decide)
    · rfl
  have hle : 2 ^ (bits - 1) ≤ 2 ^ bits := Nat.pow_le_pow_right (by decide) (Nat.sub_le bits 1)
  rw [hsigned, readUnsigned_of_digits hne hds]
  by_cases hword : value ds < 2 ^ bits
  · rw [if_pos hword]
    rfl
  · rw [if_neg hword, if_neg (by omega)]
    rfl

/-- A number that is written and read again comes back, as far as the word holds it. -/
theorem readSigned_text {bits n : Nat} (hn : n < 2 ^ (bits - 1)) :
    readSigned bits (text n).toList = .ok (n : Int) := by
  rw [toList_text, readSigned_of_digits (digits_ne_nil n) fun _ => isDigit_of_mem_digits,
    value_digits, if_pos hn]

theorem isDigit_of_readFrom {limit n v : Nat} {cs : List Char} (h : readFrom limit n cs = .ok v) :
    ∀ c ∈ cs, c.isDigit = true := by
  induction cs generalizing n with
  | nil => simp
  | cons c cs ih =>
      unfold readFrom at h
      split at h
      · rename_i hc
        split at h
        · intro d hd
          rcases List.mem_cons.mp hd with rfl | hmore
          · exact hc
          · exact ih h d hmore
        · cases h
      · cases h

/-- The number that a run of digits stands for, however large. -/
def natural? (ds : List Char) : Option Nat :=
  if ds ≠ [] ∧ ds.all Char.isDigit = true then some (value ds) else none

/-- The number that digits behind an optional sign stand for, however large. -/
def integer? : List Char → Option Int
  | '-' :: ds => (natural? ds).map fun n : Nat => -(n : Int)
  | '+' :: ds => (natural? ds).map fun n : Nat => (n : Int)
  | ds => (natural? ds).map fun n : Nat => (n : Int)

theorem natural?_eq_some_iff {ds : List Char} {n : Nat} :
    natural? ds = some n ↔ (ds ≠ [] ∧ ∀ d ∈ ds, d.isDigit = true) ∧ value ds = n := by
  rw [natural?, Option.ite_none_right_eq_some, Option.some.injEq, List.all_eq_true]

theorem natural?_digits (n : Nat) : natural? (digits n) = some n :=
  natural?_eq_some_iff.mpr ⟨⟨digits_ne_nil n, fun _ => isDigit_of_mem_digits⟩, value_digits n⟩

theorem integer?_of_digits {ds : List Char} (hds : ∀ d ∈ ds, d.isDigit = true) :
    integer? ds = (natural? ds).map fun n : Nat => (n : Int) := by
  fun_cases integer? ds with
  | case1 ds => exact absurd (hds '-' List.mem_cons_self) (by decide)
  | case2 ds => exact absurd (hds '+' List.mem_cons_self) (by decide)
  | case3 _ hminus hplus => rfl

/-- A number that is written stands for itself. -/
theorem integer?_text (z : Int) : integer? (text z).toList = some z := by
  cases z with
  | ofNat n =>
      have htext : (text (Int.ofNat n)).toList = digits n := String.toList_ofList
      rw [htext, integer?_of_digits fun _ => isDigit_of_mem_digits, natural?_digits]
      rfl
  | negSucc n =>
      have htext : (text (Int.negSucc n)).toList = '-' :: digits (n + 1) := String.toList_ofList
      rw [htext, integer?, natural?_digits]
      rfl

theorem isDigit_or_minus_of_mem_text {z : Int} {c : Char} (h : c ∈ (text z).toList) :
    c.isDigit = true ∨ c = '-' := by
  have htext : (text z).toList = signed id z := String.toList_ofList
  rw [htext] at h
  cases z with
  | ofNat n => exact .inl (isDigit_of_mem_digits h)
  | negSucc n =>
      rcases List.mem_cons.mp h with rfl | hdigit
      · exact .inr rfl
      · exact .inl (isDigit_of_mem_digits hdigit)

/-- Without a sign a number is not negative. -/
theorem nonneg_of_integer? {ds : List Char} (hdigits : ∀ d ∈ ds, d.isDigit = true) {z : Int}
    (h : integer? ds = some z) : 0 ≤ z := by
  rw [integer?_of_digits hdigits] at h
  obtain ⟨n, _, rfl⟩ := Option.map_eq_some_iff.mp h
  exact Int.natCast_nonneg n

theorem readUnsigned_eq_ok_iff {bits n : Nat} {cs : List Char} :
    readUnsigned bits cs = .ok n ↔ natural? cs = some n ∧ n < 2 ^ bits := by
  rw [natural?_eq_some_iff]
  constructor
  · intro h
    cases cs with
    | nil => cases h
    | cons c cs =>
        have hdigits := isDigit_of_readFrom h
        rw [readUnsigned_of_digits (List.cons_ne_nil c cs) hdigits] at h
        split at h
        · rename_i hlt
          cases h
          exact ⟨⟨⟨List.cons_ne_nil c cs, hdigits⟩, rfl⟩, hlt⟩
        · cases h
  · rintro ⟨⟨⟨hne, hdigits⟩, rfl⟩, hlt⟩
    rw [readUnsigned_of_digits hne hdigits, if_pos hlt]

theorem withSign_eq_ok_iff {bits n : Nat} {negative : Bool} {z : Int} :
    withSign bits negative n = .ok z ↔
      z = (if negative then -(n : Int) else n) ∧ -2 ^ (bits - 1) ≤ z ∧ z < 2 ^ (bits - 1) := by
  have hpow : ((Nat.pow 2 (bits - 1) : Nat) : Int) = 2 ^ (bits - 1) := by
    exact Int.natCast_pow 2 (bits - 1)
  have hpos : (0 : Int) < 2 ^ (bits - 1) := Int.pow_pos (by decide)
  cases negative with
  | true =>
      simp only [withSign, if_true]
      split
      · simp only [Except.ok.injEq]
        omega
      · simp only [reduceCtorEq, false_iff]
        omega
  | false =>
      simp only [withSign, Bool.false_eq_true, if_false]
      split
      · simp only [Except.ok.injEq]
        omega
      · simp only [reduceCtorEq, false_iff]
        omega

theorem bind_withSign_eq_ok_iff {bits : Nat} (hbits : 0 < bits) {negative : Bool}
    {ds : List Char} {z : Int} :
    (readUnsigned bits ds).bind (withSign bits negative) = .ok z ↔
      (∃ n : Nat, natural? ds = some n ∧ (if negative then -(n : Int) else n) = z) ∧
        -2 ^ (bits - 1) ≤ z ∧ z < 2 ^ (bits - 1) := by
  constructor
  · intro h
    cases hread : readUnsigned bits ds with
    | error reason =>
        rw [hread] at h
        cases h
    | ok n =>
        rw [hread] at h
        obtain ⟨hz, hrange⟩ := withSign_eq_ok_iff.mp h
        exact ⟨⟨n, (readUnsigned_eq_ok_iff.mp hread).1, hz.symm⟩, hrange⟩
  · rintro ⟨⟨n, hn, hz⟩, hrange⟩
    -- a number that fits with its sign fits without it
    have hdouble : (2 : Int) ^ bits = 2 * 2 ^ (bits - 1) := by
      rw [← Int.pow_succ', Nat.sub_add_cancel hbits]
    have hfits : n < 2 ^ bits := by
      have hcast : ((2 ^ bits : Nat) : Int) = 2 ^ bits := Int.natCast_pow 2 bits
      split at hz <;> omega
    rw [readUnsigned_eq_ok_iff.mpr ⟨hn, hfits⟩]
    exact withSign_eq_ok_iff.mpr ⟨hz.symm, hrange⟩

/-- The reader takes exactly the numerals whose number the word holds. -/
theorem readSigned_eq_ok_iff {bits : Nat} (hbits : 0 < bits) {cs : List Char} {z : Int} :
    readSigned bits cs = .ok z ↔
      integer? cs = some z ∧ -2 ^ (bits - 1) ≤ z ∧ z < 2 ^ (bits - 1) := by
  fun_cases integer? cs with
  | case1 ds =>
      rw [readSigned, bind_withSign_eq_ok_iff hbits, Option.map_eq_some_iff]
      simp only [if_true]
  | case2 ds =>
      rw [readSigned, bind_withSign_eq_ok_iff hbits, Option.map_eq_some_iff]
      simp only [Bool.false_eq_true, if_false]
  | case3 _ hminus hplus =>
      rw [readSigned, bind_withSign_eq_ok_iff hbits, Option.map_eq_some_iff]
      · simp only [Bool.false_eq_true, if_false]
      · exact hminus
      · exact hplus

end ToyRisc.Decimal

namespace ToyRisc

theorem registerIndex?_of_digits {letter : Char} {base : Nat} {digits : List Char}
    (hbase : registerBase? letter = some base) (hne : digits ≠ [])
    (hdigits : ∀ d ∈ digits, d.isDigit = true) :
    registerIndex? letter digits =
      if Decimal.value digits < 2 ^ 31 then some (base + Decimal.value digits) else none := by
  rw [registerIndex?, hbase, Decimal.readUnsigned_of_digits hne hdigits]
  by_cases hvalue : Decimal.value digits < 2 ^ 31
  · rw [if_pos hvalue, if_pos hvalue]
  · rw [if_neg hvalue, if_neg hvalue]

end ToyRisc
