/-
Text and the bytes it is read off.  A byte below 0x80 is a symbol of its own wherever it
stands, so that bytes can be cut there before or after they are read; and the size of a
text is the number of its bytes.
-/
import Mathlib.Algebra.Group.Nat.Defs
import ToyRisc.Text.Symbol

namespace ToyRisc

namespace Text

/-- What a continuation takes, byte by byte. -/
theorem continuePoint_succ {point n result : Nat} {low high : UInt8} {bytes : List UInt8}
    (h : continuePoint point (n + 1) low high bytes = some result) :
    ∃ b rest, bytes = b :: rest ∧ low.toNat ≤ b.toNat ∧ b.toNat ≤ high.toNat ∧
      continuePoint (point * 64 + (b.toNat - 0x80)) n 0x80 0xBF rest = some result := by
  cases bytes with
  | nil => cases h
  | cons b rest =>
      rw [continuePoint] at h
      split at h
      · rename_i hrange
        exact ⟨b, rest, rfl, UInt8.le_iff_toNat_le.mp hrange.1,
          UInt8.le_iff_toNat_le.mp hrange.2, h⟩
      · cases h

theorem le_length_of_continuePoint {point n result : Nat} {low high : UInt8}
    {bytes : List UInt8} (h : continuePoint point n low high bytes = some result) :
    n ≤ bytes.length := by
  induction n generalizing point low high bytes with
  | zero => exact Nat.zero_le _
  | succ n ih =>
      obtain ⟨b, rest, rfl, _, _, hrest⟩ := continuePoint_succ h
      exact Nat.succ_le_succ (ih hrest)

/-- A code point lies in the range that the bounds on its first continuation byte give. -/
theorem continuePoint_bounds {point n result : Nat} {low high : UInt8} {bytes : List UInt8}
    (h : continuePoint point (n + 1) low high bytes = some result) :
    (point * 64 + (low.toNat - 0x80)) * 64 ^ n ≤ result ∧
      result < (point * 64 + (high.toNat - 0x80) + 1) * 64 ^ n := by
  induction n generalizing point low high bytes with
  | zero =>
      obtain ⟨b, rest, rfl, hlow, hhigh, hrest⟩ := continuePoint_succ h
      rw [continuePoint, Option.some.injEq] at hrest
      omega
  | succ n ih =>
      obtain ⟨b, rest, rfl, hlow, hhigh, hrest⟩ := continuePoint_succ h
      obtain ⟨hleast, hmost⟩ := ih hrest
      have hl : (0x80 : UInt8).toNat = 0x80 := rfl
      have hh : (0xBF : UInt8).toNat = 0xBF := rfl
      rw [hl, Nat.sub_self, Nat.add_zero] at hleast
      rw [hh] at hmost
      have hpow : 64 ^ (n + 1) = 64 * 64 ^ n := Nat.pow_succ'
      rw [hpow, ← Nat.mul_assoc, ← Nat.mul_assoc]
      constructor
      · exact Nat.le_trans (Nat.mul_le_mul_right _ (by omega)) hleast
      · exact Nat.lt_of_lt_of_le hmost (Nat.mul_le_mul_right _ (by omega))

/-- A continuation ends before a byte below 0x80. -/
theorem continuePoint_append {point n : Nat} {low high b : UInt8} (hlow : 0x80 ≤ low)
    (hb : b < 0x80) (bytes rest : List UInt8) :
    continuePoint point n low high (bytes ++ b :: rest) =
      continuePoint point n low high bytes := by
  induction n generalizing point low high bytes with
  | zero => rw [continuePoint, continuePoint]
  | succ n ih =>
      cases bytes with
      | nil =>
          have hshort : ¬ (low ≤ b ∧ b ≤ high) :=
            fun hrange => absurd (UInt8.lt_of_le_of_lt (UInt8.le_trans hlow hrange.1) hb)
              (UInt8.lt_irrefl _)
          simp only [List.nil_append, continuePoint, if_neg hshort]
      | cons c bytes =>
          rw [List.cons_append, continuePoint, continuePoint, ih (by decide)]

/-- What a lead byte announces: the range of the byte decides how many bytes follow, and
at the ends of a range the first of them is bound more narrowly. -/
theorem lead_cases {b : UInt8} {lead : Lead} (h : Lead.of? b = some lead) :
    (b < 0x80 ∧ lead = ⟨b.toNat, 0, 0x80, 0xBF⟩) ∨
      (0xC2 ≤ b ∧ b < 0xE0 ∧ lead = ⟨b.toNat - 0xC0, 1, 0x80, 0xBF⟩) ∨
      (0xE0 ≤ b ∧ b < 0xF0 ∧ lead = ⟨b.toNat - 0xE0, 2, if b = 0xE0 then 0xA0 else 0x80,
        if b = 0xED then 0x9F else 0xBF⟩) ∨
      (0xF0 ≤ b ∧ b < 0xF5 ∧ lead = ⟨b.toNat - 0xF0, 3, if b = 0xF0 then 0x90 else 0x80,
        if b = 0xF4 then 0x8F else 0xBF⟩) := by
  simp only [Lead.of?] at h
  split at h
  · rename_i hb
    exact .inl ⟨hb, (Option.some.inj h).symm⟩
  split at h
  · cases h
  rename_i htwo
  split at h
  · rename_i hb
    exact .inr (.inl ⟨UInt8.not_lt.mp htwo, hb, (Option.some.inj h).symm⟩)
  rename_i hthree
  split at h
  · rename_i hb
    exact .inr (.inr (.inl ⟨UInt8.not_lt.mp hthree, hb, (Option.some.inj h).symm⟩))
  rename_i hfour
  split at h
  · rename_i hb
    exact .inr (.inr (.inr ⟨UInt8.not_lt.mp hfour, hb, (Option.some.inj h).symm⟩))
  · cases h

theorem low_of_lead {b : UInt8} {lead : Lead} (h : Lead.of? b = some lead) :
    0x80 ≤ lead.low := by
  rcases lead_cases h with ⟨_, rfl⟩ | ⟨_, _, rfl⟩ | ⟨_, _, rfl⟩ | ⟨_, _, rfl⟩
  · exact UInt8.le_refl _
  · exact UInt8.le_refl _
  · dsimp only
    split <;> decide
  · dsimp only
    split <;> decide

theorem scalarAt?_append {b : UInt8} (hb : b < 0x80) (first : UInt8) (bytes rest : List UInt8) :
    scalarAt? first (bytes ++ b :: rest) = scalarAt? first bytes := by
  unfold scalarAt?
  cases hlead : Lead.of? first with
  | none => rfl
  | some lead => simp only [continuePoint_append (low_of_lead hlead) hb]

theorem scalarAt?_of_lt {b : UInt8} (hb : b < 0x80) (bytes : List UInt8) :
    scalarAt? b bytes = some (Char.ofNat b.toNat, 0) := by
  simp only [scalarAt?, Lead.of?, if_pos hb, continuePoint]

theorem toNat_ofNat {n : Nat} (hvalid : n.isValidChar) : (Char.ofNat n).toNat = n := by
  rw [Char.ofNat, dif_pos hvalid]
  rfl

/-- A code point takes as many bytes as its range says. -/
theorem utf8Size_ofNat {n : Nat} (hvalid : n.isValidChar) :
    (Char.ofNat n).utf8Size =
      if n ≤ 0x7F then 1 else if n ≤ 0x7FF then 2 else if n ≤ 0xFFFF then 3 else 4 := by
  simp only [Char.utf8Size, UInt32.le_iff_toNat_le, Char.toNat_val, toNat_ofNat hvalid]
  rfl

/-- A scalar takes one byte more than its lead byte announces. -/
theorem utf8Size_of_lead {b : UInt8} {lead : Lead} {bytes : List UInt8} {point : Nat}
    (hlead : Lead.of? b = some lead)
    (hpoint : continuePoint lead.payload lead.tail lead.low lead.high bytes = some point) :
    (Char.ofNat point).utf8Size = lead.tail + 1 := by
  have hcases := lead_cases hlead
  simp only [UInt8.lt_iff_toNat_lt, UInt8.le_iff_toNat_le, ← UInt8.toNat_inj] at hcases
  rcases hcases with ⟨hb, rfl⟩ | ⟨hlow, hhigh, rfl⟩ | ⟨hlow, hhigh, rfl⟩ | ⟨hlow, hhigh, rfl⟩
  · rw [continuePoint, Option.some.injEq] at hpoint
    subst hpoint
    simp only [UInt8.reduceToNat] at hb ⊢
    rw [utf8Size_ofNat (.inl (by omega)), if_pos (by omega)]
  · have hbounds := continuePoint_bounds hpoint
    simp only [UInt8.reduceToNat] at hlow hhigh hbounds
    rw [utf8Size_ofNat (.inl (by omega)), if_neg (by omega), if_pos (by omega)]
  · have hbounds := continuePoint_bounds hpoint
    simp only [apply_ite UInt8.toNat, UInt8.reduceToNat] at hlow hhigh hbounds
    -- no overlong form behind 0xE0, no surrogate behind 0xED
    have hrange : 0x7FF < point ∧ point ≤ 0xFFFF ∧ (point < 0xD800 ∨ 0xDFFF < point) := by
      split at hbounds <;> split at hbounds <;> omega
    have hvalid : point.isValidChar := hrange.2.2.imp_right (⟨·, by omega⟩)
    rw [utf8Size_ofNat hvalid, if_neg (by omega), if_neg (by omega), if_pos hrange.2.1]
  · have hbounds := continuePoint_bounds hpoint
    simp only [apply_ite UInt8.toNat, UInt8.reduceToNat] at hlow hhigh hbounds
    -- no overlong form behind 0xF0, nothing above the last plane behind 0xF4
    have hrange : 0xFFFF < point ∧ point < 0x110000 := by
      split at hbounds <;> split at hbounds <;> omega
    rw [utf8Size_ofNat (.inr ⟨by omega, hrange.2⟩), if_neg (by omega), if_neg (by omega),
      if_neg (by omega)]

/-- A scalar that is read takes its lead byte and what it says of the bytes behind it; only
a lead byte below 0x80 stands alone. -/
theorem scalarAt?_cases {b : UInt8} {bytes : List UInt8} {c : Char} {n : Nat}
    (h : scalarAt? b bytes = some (c, n)) :
    n ≤ bytes.length ∧ c.utf8Size = n + 1 ∧ (n = 0 → b < 0x80) := by
  unfold scalarAt? at h
  split at h
  · cases h
  rename_i lead hlead
  split at h
  · cases h
  rename_i point hpoint
  cases h
  refine ⟨le_length_of_continuePoint hpoint, utf8Size_of_lead hlead hpoint, ?_⟩
  intro hzero
  rcases lead_cases hlead with ⟨hb, _⟩ | ⟨_, _, rfl⟩ | ⟨_, _, rfl⟩ | ⟨_, _, rfl⟩
  · exact hb
  · cases hzero
  · cases hzero
  · cases hzero

/-- Bytes are read symbol by symbol. -/
theorem bytes_induction {motive : List UInt8 → Prop} (nil : motive [])
    (scalar : ∀ b bytes c n, scalarAt? b bytes = some (c, n) → motive (bytes.drop n) →
      motive (b :: bytes))
    (stray : ∀ b bytes, scalarAt? b bytes = none → motive bytes → motive (b :: bytes))
    (bytes : List UInt8) : motive bytes :=
  readBytes.induct (fun _ bytes => motive bytes) (fun _ => nil)
    (fun _ b bytes c n hscalar ih => scalar b bytes c n hscalar ih)
    (fun _ b bytes hstray ih => stray b bytes hstray ih) [] bytes

theorem readBytes_eq (read : Text) (bytes : List UInt8) :
    readBytes read bytes = read.reverse ++ ofBytes bytes := by
  induction bytes using bytes_induction generalizing read with
  | nil => simp [ofBytes, readBytes]
  | scalar b bytes c n hscalar ih =>
      simp only [ofBytes, readBytes, hscalar]
      rw [ih (.scalar c :: read), ih [.scalar c]]
      simp
  | stray b bytes hstray ih =>
      simp only [ofBytes, readBytes, hstray]
      rw [ih (.stray b :: read), ih [.stray b]]
      simp

@[simp] theorem ofBytes_nil : ofBytes [] = [] := by
  simp [ofBytes, readBytes]

theorem ofBytes_scalar {b : UInt8} {bytes : List UInt8} {c : Char} {n : Nat}
    (h : scalarAt? b bytes = some (c, n)) :
    ofBytes (b :: bytes) = .scalar c :: ofBytes (bytes.drop n) := by
  rw [ofBytes, readBytes]
  simp only [h]
  rw [readBytes_eq]
  rfl

theorem ofBytes_stray {b : UInt8} {bytes : List UInt8} (h : scalarAt? b bytes = none) :
    ofBytes (b :: bytes) = .stray b :: ofBytes bytes := by
  rw [ofBytes, readBytes]
  simp only [h]
  rw [readBytes_eq]
  rfl

theorem ofBytes_eq_nil_iff {bytes : List UInt8} : ofBytes bytes = [] ↔ bytes = [] := by
  constructor
  · intro h
    cases bytes with
    | nil => rfl
    | cons b bytes =>
        cases hscalar : scalarAt? b bytes with
        | none => simp [ofBytes_stray hscalar] at h
        | some found => simp [ofBytes_scalar hscalar] at h
  · rintro rfl
    exact ofBytes_nil

theorem size_cons (s : Symbol) (text : Text) : size (s :: text) = s.width + size text := by
  rw [size, List.foldl_cons, Nat.zero_add, foldl_width]

/-- The size of a text is the number of its bytes. -/
theorem size_ofBytes (bytes : List UInt8) : size (ofBytes bytes) = bytes.length := by
  induction bytes using bytes_induction with
  | nil => simp [size]
  | scalar b bytes c n hscalar ih =>
      obtain ⟨hn, hsize, _⟩ := scalarAt?_cases hscalar
      rw [ofBytes_scalar hscalar, size_cons, ih, List.length_drop, Symbol.width, hsize,
        List.length_cons]
      omega
  | stray b bytes hstray ih =>
      rw [ofBytes_stray hstray, size_cons, ih, Symbol.width, List.length_cons, Nat.add_comm]

section Ascii

variable {b : UInt8}

/-- A byte below 0x80 is read by itself wherever it stands. -/
theorem ofBytes_append (hb : b < 0x80) (left right : List UInt8) :
    ofBytes (left ++ b :: right) =
      ofBytes left ++ .scalar (Char.ofNat b.toNat) :: ofBytes right := by
  induction left using bytes_induction with
  | nil => simpa using ofBytes_scalar (scalarAt?_of_lt hb right)
  | scalar first bytes c n hscalar ih =>
      have hlater := (scalarAt?_append hb first bytes right).trans hscalar
      rw [List.cons_append, ofBytes_scalar hlater, ofBytes_scalar hscalar,
        List.drop_append_of_le_length (scalarAt?_cases hscalar).1, ih, List.cons_append]
  | stray first bytes hstray ih =>
      have hlater := (scalarAt?_append hb first bytes right).trans hstray
      rw [List.cons_append, ofBytes_stray hlater, ofBytes_stray hstray, ih, List.cons_append]

theorem eq_of_scalarAt? (hb : b < 0x80) {first : UInt8} {bytes : List UInt8} {n : Nat}
    (h : scalarAt? first bytes = some (Char.ofNat b.toNat, n)) : first = b ∧ n = 0 := by
  have hone : (Char.ofNat b.toNat).utf8Size = 1 :=
    (scalarAt?_cases (scalarAt?_of_lt hb [])).2.1
  obtain ⟨_, hsize, hascii⟩ := scalarAt?_cases h
  have hzero : n = 0 := by omega
  have hfirst := hascii hzero
  rw [scalarAt?_of_lt hfirst, Option.some.injEq, Prod.mk.injEq] at h
  have hbyte (b : UInt8) : (Char.ofNat b.toNat).toNat = b.toNat :=
    toNat_ofNat (.inl (Nat.lt_trans b.toNat_lt (by decide)))
  refine ⟨?_, hzero⟩
  rw [← UInt8.toNat_inj, ← hbyte, h.1, hbyte]

/-- Where a text has the symbol of a byte below 0x80, its bytes can be cut at that byte. -/
theorem exists_bytes_of_ofBytes_eq (hb : b < 0x80) {bytes : List UInt8} {left right : Text}
    (h : ofBytes bytes = left ++ .scalar (Char.ofNat b.toNat) :: right) :
    ∃ front back, bytes = front ++ b :: back ∧ ofBytes front = left ∧ ofBytes back = right := by
  induction bytes using bytes_induction generalizing left with
  | nil => simp at h
  | scalar first bytes c n hscalar ih =>
      rw [ofBytes_scalar hscalar] at h
      cases left with
      | nil =>
          obtain ⟨hc, hright⟩ := List.cons.inj h
          rw [Symbol.scalar.injEq] at hc
          obtain ⟨rfl, rfl⟩ := eq_of_scalarAt? hb (hc ▸ hscalar)
          exact ⟨[], bytes, rfl, ofBytes_nil, hright⟩
      | cons s left =>
          obtain ⟨hs, hrest⟩ := List.cons.inj h
          obtain ⟨front, back, hdrop, hfront, hback⟩ := ih hrest
          have hbytes : bytes = (bytes.take n ++ front) ++ b :: back := by
            rw [List.append_assoc, ← hdrop, List.take_append_drop]
          -- what is cut off behind had no part in the first scalar
          have hn := List.length_take_of_le (scalarAt?_cases hscalar).1
          rw [hbytes, scalarAt?_append hb] at hscalar
          refine ⟨first :: (bytes.take n ++ front), back, by rw [List.cons_append, ← hbytes],
            ?_, hback⟩
          rw [ofBytes_scalar hscalar, List.drop_left' hn, hs, hfront]
  | stray first bytes hstray ih =>
      rw [ofBytes_stray hstray] at h
      cases left with
      | nil => cases h
      | cons s left =>
          obtain ⟨hs, hrest⟩ := List.cons.inj h
          obtain ⟨front, back, rfl, hfront, hback⟩ := ih hrest
          rw [scalarAt?_append hb] at hstray
          exact ⟨first :: front, back, rfl, by rw [ofBytes_stray hstray, hs, hfront], hback⟩

/-- A byte below 0x80 that is not among some bytes has no symbol in their text. -/
theorem scalar_not_mem_ofBytes (hb : b < 0x80) {bytes : List UInt8} (h : b ∉ bytes) :
    .scalar (Char.ofNat b.toNat) ∉ ofBytes bytes := by
  intro hmem
  obtain ⟨left, right, heq⟩ := List.append_of_mem hmem
  obtain ⟨front, back, rfl, _⟩ := exists_bytes_of_ofBytes_eq hb heq
  simp at h

end Ascii

/-- Bytes below 0x80 that follow one another in a text do so in the bytes it is read off. -/
theorem exists_bytes_of_ofBytes_append {ascii bytes : List UInt8}
    (hascii : ∀ b ∈ ascii, b < 0x80) (hne : ascii ≠ []) {left right : Text}
    (h : ofBytes bytes = left ++ (ofBytes ascii ++ right)) :
    ∃ front back, bytes = front ++ (ascii ++ back) ∧ ofBytes front = left := by
  induction ascii generalizing bytes left with
  | nil => exact absurd rfl hne
  | cons b ascii ih =>
      have hb := hascii b List.mem_cons_self
      rw [ofBytes_scalar (scalarAt?_of_lt hb ascii), List.drop_zero] at h
      obtain ⟨front, rest, rfl, hfront, hrest⟩ := exists_bytes_of_ofBytes_eq hb h
      by_cases hlast : ascii = []
      · exact ⟨front, rest, by simp [hlast], hfront⟩
      · have hnext : ofBytes rest = [] ++ (ofBytes ascii ++ right) := hrest
        obtain ⟨between, back, rfl, hbetween⟩ :=
          ih (fun a ha => hascii a (List.mem_cons_of_mem b ha)) hlast hnext
        rw [ofBytes_eq_nil_iff.mp hbetween]
        exact ⟨front, back, by simp, hfront⟩

end Text

end ToyRisc
