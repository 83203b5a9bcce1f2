/-
Fault texts.  The text of a fault can be taken apart in one way only, so it tells kind, line,
column and detail.  No kind's text begins the text of another.  A comma stands both inside a
number and behind it, but inside a number a digit follows the comma, and what a text goes on with
behind a number is the end, a colon or a comma and a space.
-/
import ToyRisc.Fault
import ToyRisc.Proofs.Numerals

namespace ToyRisc.Decimal

/-- `GoesOn rest`: a number with its digits grouped could go on with the text, which begins with
a digit or with a comma and a digit. -/
inductive GoesOn : List Char → Prop
  | digit {d : Char} (hd : d.isDigit = true) (rest : List Char) : GoesOn (d :: rest)
  | comma {d : Char} (hd : d.isDigit = true) (rest : List Char) : GoesOn (',' :: d :: rest)

namespace GoesOn

theorem append {tail : List Char} (h : GoesOn tail) (rest : List Char) :
    GoesOn (tail ++ rest) := by
  cases h with
  | digit hd more => exact .digit hd (more ++ rest)
  | comma hd more => exact .comma hd (more ++ rest)

theorem of_digits {ds : List Char} (hne : ds ≠ []) (hds : ∀ d ∈ ds, d.isDigit = true) :
    GoesOn ds := by
  cases ds with
  | nil => exact absurd rfl hne
  | cons d ds => exact .digit (hds d List.mem_cons_self) ds

theorem comma_of_digits {ds : List Char} (hne : ds ≠ []) (hds : ∀ d ∈ ds, d.isDigit = true) :
    GoesOn (',' :: ds) := by
  cases ds with
  | nil => exact absurd rfl hne
  | cons d ds => exact .comma (hds d List.mem_cons_self) ds

end GoesOn

section Groups

variable {ds : List Char} (hds : ∀ d ∈ ds, d.isDigit = true)

include hds

theorem filter_digits : ds.filter (· != ',') = ds := by
  rw [List.filter_eq_self]
  intro d hd
  refine bne_iff_ne.mpr ?_
  rintro rfl
  exact absurd (hds ',' hd) (by decide)

/-- Without the commas the digits are as they were. -/
theorem filter_commas : (commas ds).filter (· != ',') = ds := by
  fun_induction commas ds with
  | case1 ds hlen => exact filter_digits hds
  | case2 ds hlen ih =>
      have hfront := ih fun d hd => hds d (List.mem_of_mem_take hd)
      have hlast : (ds.drop (ds.length - 3)).filter (· != ',') = ds.drop (ds.length - 3) :=
        filter_digits fun d hd => hds d (List.mem_of_mem_drop hd)
      rw [List.filter_append, List.filter_cons_of_neg (by decide), hfront, hlast,
        List.take_append_drop]

/-- Wherever grouped digits are cut, the part in front could go on with the part behind. -/
theorem goesOn_of_commas_eq {front tail : List Char} (h : commas ds = front ++ tail)
    (hne : tail ≠ []) : GoesOn tail := by
  fun_induction commas ds generalizing front tail with
  | case1 ds hlen =>
      subst h
      exact .of_digits hne fun d hd => hds d (List.mem_append_right front hd)
  | case2 ds hlen ih =>
      have hlast : ∀ d ∈ ds.drop (ds.length - 3), d.isDigit = true :=
        fun d hd => hds d (List.mem_of_mem_drop hd)
      have hgroup : GoesOn (',' :: ds.drop (ds.length - 3)) := by
        refine .comma_of_digits ?_ hlast
        rw [← List.length_pos_iff, List.length_drop]
        omega
      rcases List.append_eq_append_iff.mp h with ⟨mid, _, hcut⟩ | ⟨mid, hcut, rfl⟩
      · -- the cut is in front of the last comma or behind it
        cases mid with
        | nil =>
            rw [hcut] at hgroup
            exact hgroup
        | cons c mid =>
            obtain ⟨-, hdrop⟩ := List.cons.inj hcut
            exact .of_digits hne fun d hd => hlast d (hdrop ▸ List.mem_append_right mid hd)
      · by_cases hmid : mid = []
        · rw [hmid]
          exact hgroup
        · exact (ih (fun d hd => hds d (List.mem_of_mem_take hd)) hcut hmid).append _

end Groups

section Grouped

variable {z z' : Int} {rest rest' : List Char}

theorem toList_grouped (z : Int) : (grouped z).toList = signed commas z :=
  String.toList_ofList

theorem filter_grouped (z : Int) : (grouped z).toList.filter (· != ',') = (text z).toList := by
  have htext : (text z).toList = signed id z := String.toList_ofList
  rw [toList_grouped, htext]
  cases z with
  | ofNat n => exact filter_commas fun _ => isDigit_of_mem_digits
  | negSucc n =>
      rw [signed, List.filter_cons_of_pos (by decide),
        filter_commas fun _ => isDigit_of_mem_digits]
      rfl

theorem grouped_inj (h : (grouped z).toList = (grouped z').toList) : z = z' := by
  have htext : (text z).toList = (text z').toList := by rw [← filter_grouped, h, filter_grouped]
  have hnumber : some z = some z' := by rw [← integer?_text z, htext, integer?_text]
  exact Option.some.inj hnumber

theorem toList_grouped_ne_nil (z : Int) : (grouped z).toList ≠ [] := by
  intro hnil
  have hfilter := filter_grouped z
  have hnumber := integer?_text z
  rw [hnil] at hfilter
  rw [← hfilter] at hnumber
  cases hnumber

theorem goesOn_of_grouped_eq {front tail : List Char} (h : (grouped z).toList = front ++ tail)
    (hfront : front ≠ []) (htail : tail ≠ []) : GoesOn tail := by
  rw [toList_grouped] at h
  cases z with
  | ofNat n => exact goesOn_of_commas_eq (fun _ => isDigit_of_mem_digits) h htail
  | negSucc n =>
      -- the sign stands in front of the cut
      obtain ⟨c, more, rfl⟩ := List.exists_cons_of_ne_nil hfront
      obtain ⟨-, hcommas⟩ := List.cons.inj h
      exact goesOn_of_commas_eq (fun _ => isDigit_of_mem_digits) hcommas htail

/-- A number that begins with another is longer only by what that one could go on with. -/
theorem eq_of_grouped_eq_append {more : List Char}
    (h : (grouped z').toList = (grouped z).toList ++ more) (hrest : ¬ GoesOn (more ++ rest)) :
    z = z' ∧ more = [] := by
  have hmore : more = [] := Classical.not_not.mp fun hne =>
    hrest ((goesOn_of_grouped_eq h (toList_grouped_ne_nil z) hne).append rest)
  rw [hmore, List.append_nil] at h
  exact ⟨(grouped_inj h).symm, hmore⟩

/-- A number is told from the text behind it, if it could not go on with that. -/
theorem grouped_append_inj
    (h : (grouped z).toList ++ rest = (grouped z').toList ++ rest')
    (hrest : ¬ GoesOn rest) (hrest' : ¬ GoesOn rest') : z = z' ∧ rest = rest' := by
  rcases List.append_eq_append_iff.mp h with ⟨more, hlonger, rfl⟩ | ⟨more, hlonger, rfl⟩
  · obtain ⟨hz, rfl⟩ := eq_of_grouped_eq_append hlonger hrest
    exact ⟨hz, rfl⟩
  · obtain ⟨hz, rfl⟩ := eq_of_grouped_eq_append hlonger hrest'
    exact ⟨hz.symm, rfl⟩

end Grouped

end ToyRisc.Decimal

namespace ToyRisc

/-- No kind's text begins the text of another. -/
theorem FaultKind.eq_of_text_isPrefix {kind kind' : FaultKind}
    (h : kind.text.toList <+: kind'.text.toList) : kind = kind' := by
  revert h
  cases kind <;> cases kind' <;> decide

theorem FaultKind.text_append_inj {kind kind' : FaultKind} {rest rest' : List Char}
    (h : kind.text.toList ++ rest = kind'.text.toList ++ rest') :
    kind = kind' ∧ rest = rest' := by
  have hkind : kind = kind' := by
    have hleft : kind.text.toList <+: kind'.text.toList ++ rest' := ⟨rest, h⟩
    rcases List.prefix_or_prefix_of_prefix hleft (List.prefix_append _ rest') with hbegins | hbegins
    · exact eq_of_text_isPrefix hbegins
    · exact (eq_of_text_isPrefix hbegins).symm
  subst hkind
  exact ⟨rfl, List.append_cancel_left h⟩

/-- What a fault's text says of its column. -/
def columnPart (col : Int) : List Char :=
  if col = 0 then [] else ", col ".toList ++ (Decimal.grouped col).toList

/-- What a fault's text says of its detail. -/
def detailPart (detail : String) : List Char :=
  if detail.isEmpty then [] else ": ".toList ++ detail.toList

theorem toList_positioned (kind : String) (place : Position) (detail : String) :
    (positioned kind place detail).toList =
      kind.toList ++ (" from line ".toList ++ ((Decimal.grouped place.line).toList ++
        (columnPart place.col ++ detailPart detail))) := by
  simp only [positioned, columnPart, detailPart, String.toList_append, apply_ite String.toList,
    String.toList_empty, List.append_assoc]

theorem columnPart_zero : columnPart 0 = [] := rfl

theorem columnPart_of_ne {col : Int} (h : col ≠ 0) :
    columnPart col = ", col ".toList ++ (Decimal.grouped col).toList :=
  if_neg h

theorem detailPart_cases (detail : String) :
    (detail = "" ∧ detailPart detail = []) ∨ detailPart detail = ':' :: ' ' :: detail.toList := by
  by_cases hempty : detail = ""
  · subst hempty
    exact .inl ⟨rfl, rfl⟩
  · right
    rw [detailPart, if_neg (by simpa using hempty)]
    rfl

theorem detailPart_inj {detail detail' : String} (h : detailPart detail = detailPart detail') :
    detail = detail' := by
  rcases detailPart_cases detail with ⟨rfl, hpart⟩ | hpart <;>
    rcases detailPart_cases detail' with ⟨rfl, hpart'⟩ | hpart'
  · rfl
  · rw [hpart, hpart'] at h
    cases h
  · rw [hpart, hpart'] at h
    cases h
  · rw [hpart, hpart', List.cons.injEq, List.cons.injEq] at h
    exact String.toList_injective h.2.2

theorem eq_colon_of_detailPart {detail : String} {c : Char} {rest : List Char}
    (h : detailPart detail = c :: rest) : c = ':' := by
  rcases detailPart_cases detail with ⟨-, hpart⟩ | hpart
  · rw [hpart] at h
    cases h
  · rw [hpart] at h
    exact (List.cons.inj h).1.symm

theorem not_goesOn_detailPart (detail : String) : ¬ Decimal.GoesOn (detailPart detail) := by
  intro h
  generalize hpart : detailPart detail = part at h
  cases h with
  | digit hd _ =>
      rw [eq_colon_of_detailPart hpart] at hd
      exact absurd hd (by decide)
  | comma _ _ => exact absurd (eq_colon_of_detailPart hpart) (by decide)

theorem not_goesOn_columnPart (col : Int) (detail : String) :
    ¬ Decimal.GoesOn (columnPart col ++ detailPart detail) := by
  by_cases hcol : col = 0
  · rw [hcol, columnPart_zero]
    exact not_goesOn_detailPart detail
  · rw [columnPart_of_ne hcol]
    intro h
    cases h with
    | digit hd _ => exact absurd hd (by decide)
    | comma hd _ => exact absurd hd (by decide)

/-- Column and detail are told from what follows the line. -/
theorem columnPart_append_inj {col col' : Int} {detail detail' : String}
    (h : columnPart col ++ detailPart detail = columnPart col' ++ detailPart detail') :
    col = col' ∧ detail = detail' := by
  by_cases hcol : col = 0 <;> by_cases hcol' : col' = 0
  · -- a column that is left out is 0
    rw [hcol, hcol', columnPart_zero, List.nil_append, List.nil_append] at h
    exact ⟨hcol.trans hcol'.symm, detailPart_inj h⟩
  · rw [hcol, columnPart_zero, columnPart_of_ne hcol'] at h
    exact absurd (eq_colon_of_detailPart h) (by decide)
  · rw [hcol', columnPart_zero, columnPart_of_ne hcol] at h
    exact absurd (eq_colon_of_detailPart h.symm) (by decide)
  · rw [columnPart_of_ne hcol, columnPart_of_ne hcol', List.append_assoc, List.append_assoc] at h
    obtain ⟨hsame, hdetail⟩ := Decimal.grouped_append_inj (List.append_cancel_left h)
      (not_goesOn_detailPart detail) (not_goesOn_detailPart detail')
    exact ⟨hsame, detailPart_inj hdetail⟩

/-- The text of a fault tells its kind, its line, its column and its detail: two texts are equal
only if all four are. -/
theorem positioned_eq_iff (kind kind' : FaultKind) (place place' : Position)
    (detail detail' : String) :
    positioned kind.text place detail = positioned kind'.text place' detail' ↔
      kind = kind' ∧ place.line = place'.line ∧ place.col = place'.col ∧ detail = detail' := by
  constructor
  · intro h
    have hchars := congrArg String.toList h
    rw [toList_positioned, toList_positioned] at hchars
    obtain ⟨hkind, hbehind⟩ := FaultKind.text_append_inj hchars
    obtain ⟨hline, htail⟩ := Decimal.grouped_append_inj (List.append_cancel_left hbehind)
      (not_goesOn_columnPart place.col detail) (not_goesOn_columnPart place'.col detail')
    obtain ⟨hcol, hdetail⟩ := columnPart_append_inj htail
    exact ⟨hkind, hline, hcol, hdetail⟩
  · rintro ⟨rfl, hline, hcol, rfl⟩
    obtain ⟨line, col⟩ := place
    subst hline hcol
    rfl

-- commas inside a number, behind it and in the detail
example : positioned FaultKind.syntaxError.text ⟨-1234567, 4321⟩ "1,234, col 5" =
    "syntax error from line -1,234,567, col 4,321: 1,234, col 5" := by
  cbv

end ToyRisc
