/-
Rows and labels of a program.  The rows are those that were given, without the marks in
front; a name is in the table of labels exactly if some row declares it, and stands for
the last one that does.
-/
import Mathlib.Data.List.TakeWhile
import ToyRisc.Program

namespace ToyRisc

/-- The first token of a row that is no indentation mark. -/
def opening? (tokens : List Token) : Option Token := tokens.find? (!Row.isMark ·)

theorem head?_body_ofTokens (tokens : List Token) :
    (Row.ofTokens tokens).body.head? = opening? tokens :=
  (tokens.find?_not_eq_head?_dropWhile Row.isMark).symm

theorem mem_of_mem_body {tokens : List Token} {token : Token}
    (h : token ∈ (Row.ofTokens tokens).body) : token ∈ tokens :=
  (List.dropWhile_sublist Row.isMark).subset h

section Entries

variable {β : Type} {entries : List (String × β)} {name other : String}

theorem lookup_filter_ne (hne : other ≠ name) (entries : List (String × β)) :
    (entries.filter (·.1 != name)).lookup other = entries.lookup other := by
  induction entries with
  | nil => rfl
  | cons entry entries ih =>
      obtain ⟨key, value⟩ := entry
      by_cases hkey : key = name
      · have hother : (other == key) = false := by simpa [hkey] using hne
        have hdropped : (key != name) = false := by simpa using hkey
        rw [List.filter_cons, hdropped, List.lookup_cons, hother]
        exact ih
      · have hkept : (key != name) = true := by simpa using hkey
        rw [List.filter_cons, hkept, if_pos rfl, List.lookup_cons, List.lookup_cons, ih]

/-- A name that is put in front of entries without it replaces what it stood for. -/
theorem lookup_put (entries : List (String × β)) (name other : String) (value : β) :
    ((name, value) :: entries.filter (·.1 != name)).lookup other =
      if other = name then some value else entries.lookup other := by
  by_cases hname : other = name
  · rw [if_pos hname, List.lookup_cons, hname, beq_self_eq_true]
  · have hother : (other == name) = false := by simpa using hname
    rw [if_neg hname, List.lookup_cons, hother]
    exact lookup_filter_ne hname entries

theorem nodup_put (h : (entries.map Prod.fst).Nodup) (name : String) (value : β) :
    (((name, value) :: entries.filter (·.1 != name)).map Prod.fst).Nodup := by
  have hnames : ((name, value) :: entries.filter (·.1 != name)).map Prod.fst =
      name :: (entries.map Prod.fst).filter (· != name) := by
    rw [List.map_cons, List.filter_map]
    rfl
  rw [hnames, List.nodup_cons]
  refine ⟨?_, h.filter _⟩
  simp

/-- Where no name stands twice, the entries are what is looked up. -/
theorem mem_iff_lookup (h : (entries.map Prod.fst).Nodup) {value : β} :
    (name, value) ∈ entries ↔ entries.lookup name = some value := by
  rw [List.lookup_eq_some_iff]
  constructor
  · intro hmem
    obtain ⟨before, behind, hsplit⟩ := List.append_of_mem hmem
    refine ⟨before, behind, hsplit, ?_⟩
    intro entry hentry
    rw [hsplit, List.map_append, List.nodup_append] at h
    rw [bne_iff_ne]
    exact (h.2.2 entry.1 (List.mem_map_of_mem hentry) name List.mem_cons_self).symm
  · rintro ⟨before, behind, hsplit, _⟩
    rw [hsplit]
    exact List.mem_append_right before List.mem_cons_self

end Entries

namespace LabelTable

theorem find?_declare (table : LabelTable) (name other : String) (row : Nat) :
    (table.declare name row).find? other =
      if other = name then some row else table.find? other :=
  lookup_put table.entries name other row

end LabelTable

/-- `DeclaredLast rows name n`: row `n` declares the name, and no later row does. -/
structure DeclaredLast (rows : List Row) (name : String) (n : Nat) : Prop where
  declared : ∃ row, rows[n]? = some row ∧ row.declared? = some name
  last : ∀ m row, rows[m]? = some row → row.declared? = some name → m ≤ n

namespace DeclaredLast

variable {row : Row} {rows : List Row} {name : String} {n : Nat}

theorem cons_succ_iff : DeclaredLast (row :: rows) name (n + 1) ↔ DeclaredLast rows name n := by
  constructor
  · intro h
    refine ⟨h.declared, ?_⟩
    intro m later hm hlater
    exact Nat.le_of_succ_le_succ (h.last (m + 1) later hm hlater)
  · intro h
    refine ⟨h.declared, ?_⟩
    intro m later hm hlater
    cases m with
    | zero => exact Nat.zero_le _
    | succ m => exact Nat.succ_le_succ (h.last m later hm hlater)

theorem cons_zero_iff : DeclaredLast (row :: rows) name 0 ↔
    row.declared? = some name ∧ ∀ later ∈ rows, later.declared? ≠ some name := by
  constructor
  · rintro ⟨⟨first, hfirst, hname⟩, hlast⟩
    cases hfirst
    refine ⟨hname, ?_⟩
    intro later hmem hlater
    obtain ⟨m, hm⟩ := List.getElem?_of_mem hmem
    exact absurd (hlast (m + 1) later hm hlater) (by omega)
  · rintro ⟨hname, hnone⟩
    refine ⟨⟨row, rfl, hname⟩, ?_⟩
    intro m later hm hlater
    cases m with
    | zero => exact Nat.le_refl 0
    | succ m => exact absurd hlater (hnone later (List.mem_of_getElem? hm))

end DeclaredLast

namespace LabelTable

/-- The table in which a row has its label. -/
def note (table : LabelTable) (n : Nat) (row : Row) : LabelTable :=
  match row.declared? with
  | some name => table.declare name n
  | none => table

theorem collect_cons (table : LabelTable) (n : Nat) (row : Row) (rows : List Row) :
    table.collect n (row :: rows) = (table.note n row).collect (n + 1) rows := by
  rw [collect, note]
  cases row.declared? with
  | none => rfl
  | some name => rfl

theorem find?_note (table : LabelTable) (n : Nat) (row : Row) (name : String) :
    (table.note n row).find? name =
      if row.declared? = some name then some n else table.find? name := by
  rw [note]
  cases row.declared? with
  | none => simp
  | some found => simp only [find?_declare, Option.some.injEq, eq_comm]

/-- What a table knows when the labels of some rows are added. -/
theorem find?_collect (table : LabelTable) (start : Nat) (rows : List Row) (name : String)
    (n : Nat) :
    (table.collect start rows).find? name = some n ↔
      (∃ i, n = start + i ∧ DeclaredLast rows name i) ∨
        (∀ row ∈ rows, row.declared? ≠ some name) ∧ table.find? name = some n := by
  induction rows generalizing table start with
  | nil =>
      simp only [collect, List.not_mem_nil, false_implies, implies_true, true_and]
      constructor
      · exact .inr
      · rintro (⟨i, _, ⟨row, hrow, _⟩, _⟩ | h)
        · cases hrow
        · exact h
  | cons row rows ih =>
      rw [collect_cons, ih, find?_note]
      constructor
      · rintro (⟨i, rfl, hi⟩ | ⟨hnone, hfound⟩)
        · exact .inl ⟨i + 1, by omega, DeclaredLast.cons_succ_iff.mpr hi⟩
        · split at hfound
          · rename_i hname
            cases hfound
            exact .inl ⟨0, rfl, DeclaredLast.cons_zero_iff.mpr ⟨hname, hnone⟩⟩
          · rename_i hname
            refine .inr ⟨?_, hfound⟩
            intro later hlater
            rcases List.mem_cons.mp hlater with rfl | hmore
            · exact hname
            · exact hnone later hmore
      · rintro (⟨i, rfl, hi⟩ | ⟨hnone, hfound⟩)
        · cases i with
          | zero =>
              obtain ⟨hname, hnone⟩ := DeclaredLast.cons_zero_iff.mp hi
              exact .inr ⟨hnone, by rw [if_pos hname]; rfl⟩
          | succ i => exact .inl ⟨i, by omega, DeclaredLast.cons_succ_iff.mp hi⟩
        · refine .inr ⟨fun later hlater => hnone later (List.mem_cons_of_mem row hlater), ?_⟩
          rw [if_neg (hnone row List.mem_cons_self), hfound]

end LabelTable

namespace Program

variable (rows : List (List Token))

theorem rows_ofTokens (n : Nat) : (ofTokens rows).rows[n]? = rows[n]?.map Row.ofTokens := by
  simp [ofTokens]

theorem size_ofTokens : (ofTokens rows).size = rows.length := by
  simp [ofTokens, size]

/-- A label stands for the last row that declares it. -/
theorem find?_labels_iff (name : String) (n : Nat) :
    (ofTokens rows).labels.find? name = some n ↔
      DeclaredLast (rows.map Row.ofTokens) name n := by
  have hcollect := LabelTable.find?_collect .empty 0 (rows.map Row.ofTokens) name n
  rw [ofTokens, hcollect]
  constructor
  · rintro (⟨i, rfl, hi⟩ | ⟨_, hfound⟩)
    · rwa [Nat.zero_add]
    · cases hfound
  · intro h
    exact .inl ⟨n, (Nat.zero_add n).symm, h⟩

/-- The row of a label is a row of the program. -/
theorem lt_size_of_find? {name : String} {n : Nat}
    (h : (ofTokens rows).labels.find? name = some n) : n < rows.length := by
  obtain ⟨row, hrow, _⟩ := ((find?_labels_iff rows name n).mp h).declared
  have hlt := (List.getElem?_eq_some_iff.mp hrow).1
  rwa [List.length_map] at hlt

end Program

end ToyRisc
