/-
Defined names.  An item defines a name if it is the name, an equals sign and a numeral; in any
other form it is malformed.  Items are read up to the first malformed one, and each name has
the value of the last item read for it.
-/
import Mathlib.Data.List.Forall2
import ToyRisc.Definition
import ToyRisc.Proofs.Labels
import ToyRisc.Proofs.Numerals

namespace ToyRisc

/-- The text is a decimal with an optional sign, of a number that 64 bits hold. -/
structure HasWord (text : List Char) (value : Int) : Prop where
  number : Decimal.integer? text = some value
  lower : -2 ^ 63 ≤ value
  upper : value < 2 ^ 63

/-- `Defines item name value`: the name, which is not empty, is what stands in front of the
first equals sign, and the value is the number behind it. -/
structure Defines (item name : String) (value : Int) : Prop where
  parts : ∃ numeral, item.toList = name.toList ++ '=' :: numeral ∧ HasWord numeral value
  plain : '=' ∉ name.toList
  named : name ≠ ""

/-- Why an item does not define anything. -/
inductive Malformed (item : String) : Prop where
  | withoutEquals (h : '=' ∉ item.toList)
  | withoutName (h : item.toList.head? = some '=')
  | withoutNumber {name text : List Char} (hparts : item.toList = name ++ '=' :: text)
      (hplain : '=' ∉ name) (htext : ¬ ∃ value, HasWord text value)

/-- The item that an error is about. -/
def DefinitionError.item : DefinitionError → String
  | noName item => item
  | badValue item _ _ => item

/-- Every message starts with the item in quotation marks. -/
theorem DefinitionError.message_of_item (error : DefinitionError) :
    ∃ reason, error.message = "malformed definition " ++ Quoted.quote error.item ++ reason := by
  unfold message
  cases error with
  | noName item => exact ⟨"", String.append_empty.symm⟩
  | badValue item value reason =>
      simp only [String.append_assoc]
      exact ⟨_, rfl⟩

theorem readSigned_eq_ok_iff_hasWord {text : List Char} {value : Int} :
    Decimal.readSigned 64 text = .ok value ↔ HasWord text value := by
  rw [Decimal.readSigned_eq_ok_iff (by decide)]
  constructor
  · rintro ⟨hnumber, hlower, hupper⟩
    exact ⟨hnumber, hlower, hupper⟩
  · rintro ⟨hnumber, hlower, hupper⟩
    exact ⟨hnumber, hlower, hupper⟩

namespace Definitions

section Items

variable {item : String} {name text : List Char}

theorem readItem_of_not_mem (h : '=' ∉ item.toList) : readItem item = .error (.noName item) := by
  have hdrop : item.toList.dropWhile (· != '=') = [] := by
    rw [List.dropWhile_eq_nil_iff]
    intro c hc
    exact bne_iff_ne.mpr (ne_of_mem_of_not_mem hc h)
  rw [readItem, hdrop]

theorem readItem_of_head (h : item.toList.head? = some '=') :
    readItem item = .error (.noName item) := by
  obtain ⟨text, htext⟩ := List.head?_eq_some_iff.mp h
  rw [readItem, htext]
  rfl

theorem readItem_of_parts (hparts : item.toList = name ++ '=' :: text) (hplain : '=' ∉ name)
    (hne : name ≠ []) :
    readItem item =
      ((Decimal.readSigned 64 text).mapError (.badValue item (String.ofList text))).map
        (String.ofList name, ·) := by
  have hname : ∀ c ∈ name, (c != '=') = true := fun c hc =>
    bne_iff_ne.mpr (ne_of_mem_of_not_mem hc hplain)
  have htake : item.toList.takeWhile (· != '=') = name := by
    rw [hparts, List.takeWhile_append_of_pos hname, List.takeWhile_cons_of_neg (by decide),
      List.append_nil]
  have hdrop : item.toList.dropWhile (· != '=') = '=' :: text := by
    rw [hparts, List.dropWhile_append_of_pos hname, List.dropWhile_cons_of_neg (by decide)]
  have hempty : ¬ name.isEmpty = true := by simpa using hne
  simp only [readItem, htake, hdrop, if_neg hempty]
  cases Decimal.readSigned 64 text with
  | ok number => rfl
  | error reason => rfl

/-- An item that defines a name is read as what it defines. -/
theorem readItem_of_defines {name : String} {value : Int} (h : Defines item name value) :
    readItem item = .ok (name, value) := by
  obtain ⟨numeral, hparts, hword⟩ := h.parts
  have hne : name.toList ≠ [] := by simpa using h.named
  rw [readItem_of_parts hparts h.plain hne, readSigned_eq_ok_iff_hasWord.mpr hword,
    String.ofList_toList]
  rfl

/-- A malformed item is refused, with an error about it. -/
theorem readItem_of_malformed (h : Malformed item) :
    ∃ error, error.item = item ∧ readItem item = .error error := by
  cases h with
  | withoutEquals hsign => exact ⟨.noName item, rfl, readItem_of_not_mem hsign⟩
  | withoutName hhead => exact ⟨.noName item, rfl, readItem_of_head hhead⟩
  | @withoutNumber name text hparts hplain htext =>
      by_cases hne : name = []
      · exact ⟨.noName item, rfl, readItem_of_head (by rw [hparts, hne]; rfl)⟩
      · rw [readItem_of_parts hparts hplain hne]
        cases hsigned : Decimal.readSigned 64 text with
        | ok value => exact absurd ⟨value, readSigned_eq_ok_iff_hasWord.mp hsigned⟩ htext
        | error reason => exact ⟨_, rfl, rfl⟩

theorem not_malformed_of_defines {name : String} {value : Int} (h : Defines item name value) :
    ¬ Malformed item := by
  intro hmalformed
  obtain ⟨error, _, herror⟩ := readItem_of_malformed hmalformed
  cases herror.symm.trans (readItem_of_defines h)

theorem defines_or_malformed (item : String) :
    (∃ name value, Defines item name value) ∨ Malformed item := by
  by_cases hsign : '=' ∈ item.toList
  · -- the first equals sign cuts the item in two
    obtain ⟨name, text, hparts, hplain⟩ := List.eq_append_cons_of_mem hsign
    by_cases hname : name = []
    · exact .inr (.withoutName (by rw [hparts, hname]; rfl))
    by_cases htext : ∃ value, HasWord text value
    · obtain ⟨value, hword⟩ := htext
      refine .inl ⟨String.ofList name, value, ⟨text, ?_, hword⟩, ?_, ?_⟩
      · rw [String.toList_ofList, hparts]
      · rw [String.toList_ofList]
        exact hplain
      · simpa using hname
    · exact .inr (.withoutNumber hparts hplain htext)
  · exact .inr (.withoutEquals hsign)

end Items

/-- The entries are those of the pairs, each name once; of several pairs with one name the last
one counts. -/
structure LastWins (definitions : Definitions) (pairs : List (String × Int)) : Prop where
  distinct : (definitions.entries.map Prod.fst).Nodup
  found : ∀ name, definitions.find? name = pairs.reverse.lookup name

/-- The items define the pairs, one by one. -/
abbrev DefineAll (items : List String) (pairs : List (String × Int)) : Prop :=
  List.Forall₂ (fun item pair => Defines item pair.1 pair.2) items pairs

section Reading

variable {definitions : Definitions} {earlier pairs : List (String × Int)}
  {items before : List String}

theorem lastWins_empty : empty.LastWins [] :=
  ⟨List.nodup_nil, fun _ => rfl⟩

theorem LastWins.define (h : definitions.LastWins earlier) (name : String) (value : Int) :
    (definitions.define name value).LastWins (earlier ++ [(name, value)]) := by
  refine ⟨nodup_put h.distinct name value, ?_⟩
  intro other
  rw [find?, Definitions.define, lookup_put, List.reverse_append, List.reverse_singleton,
    List.singleton_append, List.lookup_cons]
  by_cases hname : other = name
  · rw [if_pos hname, hname, beq_self_eq_true]
  · rw [if_neg hname, beq_false_of_ne hname]
    exact h.found other

/-- Items that define something are passed, and leave what they define. -/
theorem addItems_append (h : definitions.LastWins earlier) (hbefore : DefineAll before pairs)
    (behind : List String) :
    ∃ reached : Definitions, reached.LastWins (earlier ++ pairs) ∧
      definitions.addItems (before ++ behind) = reached.addItems behind := by
  induction hbefore generalizing definitions earlier with
  | nil => exact ⟨definitions, by rwa [List.append_nil], rfl⟩
  | @cons item pair before pairs hitem _ ih =>
      obtain ⟨reached, hreached, hadd⟩ := ih (h.define pair.1 pair.2)
      refine ⟨reached, by rwa [List.append_assoc] at hreached, ?_⟩
      rw [List.cons_append, addItems, readItem_of_defines hitem]
      exact hadd

theorem ofItems_of_defineAll (h : DefineAll items pairs) :
    (ofItems items).1.LastWins pairs ∧ (ofItems items).2 = none := by
  obtain ⟨reached, hreached, hadd⟩ := addItems_append lastWins_empty h []
  rw [List.append_nil] at hadd
  rw [ofItems, hadd]
  exact ⟨hreached, rfl⟩

theorem ofItems_of_malformed (h : DefineAll before pairs) {item : String}
    (hitem : Malformed item) (behind : List String) :
    (ofItems (before ++ item :: behind)).1.LastWins pairs ∧
      ∃ error, (ofItems (before ++ item :: behind)).2 = some error ∧ error.item = item := by
  obtain ⟨reached, hreached, hadd⟩ := addItems_append lastWins_empty h (item :: behind)
  obtain ⟨error, hname, herror⟩ := readItem_of_malformed hitem
  rw [ofItems, hadd, addItems, herror]
  exact ⟨hreached, error, rfl, hname⟩

/-- All items define something, or there is a first one that does not. -/
theorem defineAll_or_first_malformed (items : List String) :
    (∃ pairs, DefineAll items pairs) ∨
      ∃ before pairs item behind, items = before ++ item :: behind ∧ DefineAll before pairs ∧
        Malformed item := by
  induction items with
  | nil => exact .inl ⟨[], .nil⟩
  | cons item items ih =>
      rcases defines_or_malformed item with ⟨name, value, hitem⟩ | hitem
      · rcases ih with ⟨pairs, hall⟩ | ⟨before, pairs, first, behind, rfl, hall, hfirst⟩
        · exact .inl ⟨(name, value) :: pairs, .cons hitem hall⟩
        · exact .inr ⟨item :: before, (name, value) :: pairs, first, behind, rfl,
            .cons hitem hall, hfirst⟩
      · exact .inr ⟨[], [], item, items, rfl, .nil, hitem⟩

/-- What becomes of all items, or of those in front of the first malformed one. -/
theorem ofItems_cases (items : List String) :
    (∃ pairs, DefineAll items pairs ∧ (ofItems items).1.LastWins pairs ∧
        (ofItems items).2 = none) ∨
      ∃ before pairs error behind, items = before ++ error.item :: behind ∧
        Malformed error.item ∧ DefineAll before pairs ∧ (ofItems items).1.LastWins pairs ∧
        (ofItems items).2 = some error := by
  rcases defineAll_or_first_malformed items with
    ⟨pairs, hall⟩ | ⟨before, pairs, item, behind, rfl, hall, hitem⟩
  · exact .inl ⟨pairs, hall, ofItems_of_defineAll hall⟩
  · obtain ⟨hwins, error, herror, rfl⟩ := ofItems_of_malformed hall hitem behind
    exact .inr ⟨before, pairs, error, behind, rfl, hitem, hall, hwins, herror⟩

theorem not_malformed_of_defineAll (h : DefineAll items pairs) :
    ∀ item ∈ items, ¬ Malformed item := by
  induction h with
  | nil => simp
  | cons hitem _ ih =>
      intro item hmem
      rcases List.mem_cons.mp hmem with rfl | hmore
      · exact not_malformed_of_defines hitem
      · exact ih item hmore

/-- A name and a number, written as an item, are what the item defines. -/
theorem defines_written {name : String} {value : Int} (hnamed : name ≠ "")
    (hplain : '=' ∉ name.toList) (hlower : -2 ^ 63 ≤ value) (hupper : value < 2 ^ 63) :
    Defines (name ++ "=" ++ Decimal.text value) name value := by
  refine ⟨⟨(Decimal.text value).toList, ?_, Decimal.integer?_text value, hlower, hupper⟩,
    hplain, hnamed⟩
  rw [String.toList_append, String.toList_append, List.append_assoc]
  rfl

end Reading

/-- Items are read up to the first malformed one, which the error names, and the definitions are
those of the items read, of several for one name the last.  Names and numbers that are written
as items come back. -/
theorem items_read_up_to_malformed :
    (∀ items, (ofItems items).2 ≠ none ↔ ∃ item ∈ items, Malformed item) ∧
    (∀ items, (ofItems items).2 = none →
      ∃ pairs, DefineAll items pairs ∧ (ofItems items).1.LastWins pairs) ∧
    (∀ items error, (ofItems items).2 = some error →
      (∃ reason, error.message = "malformed definition " ++ Quoted.quote error.item ++ reason) ∧
      ∃ before pairs behind, items = before ++ error.item :: behind ∧ Malformed error.item ∧
        (∀ item ∈ before, ¬ Malformed item) ∧
        DefineAll before pairs ∧ (ofItems items).1.LastWins pairs) ∧
    ∀ pairs : List (String × Int),
      (∀ pair ∈ pairs, pair.1 ≠ "" ∧ '=' ∉ pair.1.toList ∧ -2 ^ 63 ≤ pair.2 ∧ pair.2 < 2 ^ 63) →
      (ofItems (pairs.map fun pair => pair.1 ++ "=" ++ Decimal.text pair.2)).2 = none ∧
      (ofItems (pairs.map fun pair => pair.1 ++ "=" ++ Decimal.text pair.2)).1.LastWins pairs := by
  refine ⟨?_, ?_, ?_, ?_⟩
  · intro items
    rcases ofItems_cases items with
      ⟨pairs, hall, _, hnone⟩ | ⟨before, _, error, behind, hitems, hitem, _, _, herror⟩
    · simpa [hnone] using not_malformed_of_defineAll hall
    · have hmem : error.item ∈ items := by simp [hitems]
      rw [herror]
      exact ⟨fun _ => ⟨error.item, hmem, hitem⟩, fun _ => Option.some_ne_none error⟩
  · intro items hnone
    rcases ofItems_cases items with
      ⟨pairs, hall, hwins, _⟩ | ⟨_, _, error, _, _, _, _, _, herror⟩
    · exact ⟨pairs, hall, hwins⟩
    · cases hnone.symm.trans herror
  · intro items error hsome
    refine ⟨error.message_of_item, ?_⟩
    rcases ofItems_cases items with
      ⟨_, _, _, hnone⟩ | ⟨before, pairs, found, behind, hitems, hitem, hall, hwins, hfound⟩
    · cases hsome.symm.trans hnone
    · cases hsome.symm.trans hfound
      exact ⟨before, pairs, behind, hitems, hitem, not_malformed_of_defineAll hall, hall, hwins⟩
  · intro pairs hpairs
    have hall : DefineAll (pairs.map fun pair => pair.1 ++ "=" ++ Decimal.text pair.2) pairs := by
      rw [DefineAll, List.forall₂_map_left_iff, List.forall₂_same]
      intro pair hmem
      obtain ⟨hnamed, hplain, hlower, hupper⟩ := hpairs pair hmem
      exact defines_written hnamed hplain hlower hupper
    exact ⟨(ofItems_of_defineAll hall).2, (ofItems_of_defineAll hall).1⟩

/-- Both ends of the range come back, and a name that is given twice has its second value.  Of
`x=5`, `y=1=2` and `z=3` only the first is read: behind the first equals sign of the second is no
numeral. -/
theorem extremes_come_back :
    (ofItems ([("x", 0), ("y", -2 ^ 63), ("x", 2 ^ 63 - 1)].map
        fun pair => pair.1 ++ "=" ++ Decimal.text pair.2)).1.LastWins
      [("x", 0), ("y", -2 ^ 63), ("x", 2 ^ 63 - 1)] ∧
    (ofItems ["x=5", "y=1=2", "z=3"]).2 ≠ none ∧
    (∃ pairs, DefineAll ["x=5"] pairs ∧ (ofItems ["x=5"]).1.LastWins pairs) ∧
    ∃ before pairs behind, ["x=5", "y=1=2", "z=3"] = before ++ "y=1=2" :: behind ∧
      Malformed "y=1=2" ∧ (∀ item ∈ before, ¬ Malformed item) ∧
      DefineAll before pairs ∧ (ofItems ["x=5", "y=1=2", "z=3"]).1.LastWins pairs := by
  obtain ⟨hfails, hread, hrefused, hwritten⟩ := items_read_up_to_malformed
  have hnumeral : ¬ ∃ value, HasWord "1=2".toList value := by
    rintro ⟨value, hword⟩
    have hnone : Decimal.integer? "1=2".toList = none := by decide
    cases hnone.symm.trans hword.number
  have hparts : "y=1=2".toList = ['y'] ++ '=' :: "1=2".toList := rfl
  have hitem : Malformed "y=1=2" := .withoutNumber hparts (by decide) hnumeral
  refine ⟨(hwritten _ (by decide)).2, (hfails _).mpr ⟨"y=1=2", by decide, hitem⟩,
    hread ["x=5"] rfl, ?_⟩
  exact (hrefused ["x=5", "y=1=2", "z=3"] (.badValue "y=1=2" "1=2" .malformed) rfl).2

end Definitions

end ToyRisc
