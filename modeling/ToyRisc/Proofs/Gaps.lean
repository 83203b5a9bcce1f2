/-
Gaps in a line.  More spaces where there are some already make no difference to what is read,
as long as no four of them are folded that were not folded before.  A gap that is widened to
the first four spaces of its line becomes a tab, and the four spaces that were folded in its
place, further to the right, are spaces again.
-/
import ToyRisc.Proofs.Readings
import ToyRisc.Proofs.Renaming

namespace ToyRisc

section Folding

variable {left right before after folded : List Char}

/-- Four spaces do not come about at a seam that has no space on one side. -/
theorem not_fourSpaces_append (hleft : ¬ fourSpaces <:+: left) (hright : ¬ fourSpaces <:+: right)
    (hseam : left.getLast? ≠ some ' ' ∨ right.head? ≠ some ' ') :
    ¬ fourSpaces <:+: left ++ right := by
  rw [List.infix_append_iff]
  rintro (hfound | hfound | ⟨front, back, hfour, hfront, hback⟩)
  · exact hleft hfound
  · exact hright hfound
  · have hspace : ∀ c ∈ front ++ back, c = ' ' := by
      rw [← hfour]
      simp [fourSpaces]
    rcases List.eq_nil_or_concat front with rfl | ⟨start, c, rfl⟩
    · rw [List.nil_append] at hfour
      rw [← hfour] at hback
      exact hright hback.isInfix
    · cases back with
      | nil =>
          rw [List.append_nil] at hfour
          rw [← hfour] at hfront
          exact hleft hfront.isInfix
      | cons d back =>
          obtain ⟨start', rfl⟩ := hfront
          obtain ⟨back', rfl⟩ := hback
          have hc : c = ' ' := hspace c (by simp)
          have hd : d = ' ' := hspace d (by simp)
          simp [hc, hd] at hseam

theorem not_fourSpaces_spaces {n : Nat} (hn : n < 4) : ¬ fourSpaces <:+: spaces n := by
  intro hfound
  have hlength := hfound.length_le
  simp only [fourSpaces, spaces, List.length_cons, List.length_nil,
    List.length_replicate] at hlength
  omega

theorem Folded.eq_of_not_infix (h : Folded before folded) (hfour : ¬ fourSpaces <:+: before) :
    folded = before := by
  rw [← h.eq_foldIndent, (Folded.none hfour).eq_foldIndent]

/-- Where four spaces stand in the front part, nothing behind it is folded. -/
theorem Folded.append_of_infix (h : Folded before folded) (hfour : fourSpaces <:+: before)
    (rest : List Char) : Folded (before ++ rest) (folded ++ rest) := by
  cases h with
  | none hnone => exact absurd hfour hnone
  | first front back hfirst =>
      have hafter := Folded.first front (back ++ rest) hfirst
      simpa using hafter

/-- Where no four spaces stand in the front part or at the seam, all folding is behind it. -/
theorem Folded.prepend (h : Folded after folded) (hbefore : ¬ fourSpaces <:+: before)
    (hseam : after.head? ≠ some ' ') : Folded (before ++ after) (before ++ folded) := by
  cases h with
  | none hnone => exact .none (not_fourSpaces_append hbefore hnone (.inr hseam))
  | first front back hfirst =>
      have hfront : (front ++ [' ', ' ', ' ']).head? ≠ some ' ' := by
        cases front with
        | nil => exact absurd rfl hseam
        | cons c front => exact hseam
      have hnone := not_fourSpaces_append hbefore hfirst (.inr hfront)
      rw [← List.append_assoc] at hnone
      have hfolded := Folded.first (before ++ front) back hnone
      simpa using hfolded

/-- The first four spaces of a line become a tab. -/
theorem folded_spaces (hbefore : ¬ fourSpaces <:+: before) (hlast : before.getLast? ≠ some ' ')
    {n : Nat} (hn : 4 ≤ n) (after : List Char) :
    Folded (before ++ (spaces n ++ after)) (before ++ '\t' :: (spaces (n - 4) ++ after)) := by
  have hfirst : ¬ fourSpaces <:+: before ++ [' ', ' ', ' '] :=
    not_fourSpaces_append hbefore (by decide) (.inl hlast)
  have hspaces : spaces n = fourSpaces ++ spaces (n - 4) := by
    obtain ⟨more, rfl⟩ := Nat.exists_eq_add_of_le hn
    rw [Nat.add_sub_cancel_left, spaces, List.replicate_add]
    rfl
  rw [hspaces, List.append_assoc]
  exact .first before _ hfirst

end Folding

/-- `Gap line before m after`: the line has `m` spaces between `before` and `after`, and no
more, and reading it comes to them from one span to the next: they are in no comment and in no
quotation. -/
structure Gap (line : Int) (before : List Char) (m : Nat) (after : List Char) : Prop where
  pos : 0 < m
  start : before.getLast? ≠ some ' '
  stop : after.head? ≠ some ' '
  outside : ∃ folded, Folded before folded ∧ Reaches line folded (spaces m ++ after)

/-- The gap is widened to the first four spaces of its line. -/
structure BecomesTab (before : List Char) (m k : Nat) : Prop where
  first : ¬ fourSpaces <:+: before
  narrow : m < 4
  wide : 4 ≤ m + k

/-- What stands in front of a gap is read to these tokens, with `folded` for its first four
spaces folded, whatever blank it is that follows. -/
structure Leads (line : Int) (before folded : List Char) (left : List Token) : Prop where
  folds : Folded before folded
  last : before.getLast? ≠ some ' '
  passes : ∀ d other, d = ' ' ∨ d = '\t' → Passes line folded (d :: other) left

/-- What a line says that has `n` spaces in its gap. -/
def saying (line : Int) (before after : List Char) (n : Nat) : Option (List (Kind × String)) :=
  reading line (foldIndent [] (before ++ (spaces n ++ after)))

namespace Leads

variable {line : Int} {before folded after : List Char} {left : List Token} {n : Nat}

theorem reading_spaces (h : Leads line before folded left) (hn : 0 < n) (other : List Char) :
    reading line (folded ++ (spaces n ++ other)) =
      (reading line other).map (contents left ++ ·) := by
  obtain ⟨more, hspaces⟩ := exists_spaces hn other
  rw [hspaces, (h.passes ' ' _ (.inl rfl)).reading_append, reading_space, ToyRisc.reading_spaces]

/-- Where four spaces are folded in front of the gap, the gap is skipped. -/
theorem saying_of_infix (h : Leads line before folded left) (hfour : fourSpaces <:+: before)
    (hn : 0 < n) : saying line before after n = (reading line after).map (contents left ++ ·) := by
  rw [saying, (h.folds.append_of_infix hfour _).eq_foldIndent, h.reading_spaces hn]

/-- Where the gap has the first four spaces, they are a tab, and nothing behind is folded. -/
theorem saying_of_wide (h : Leads line before folded left) (hfour : ¬ fourSpaces <:+: before)
    (hn : 4 ≤ n) : saying line before after n =
      (reading line after).map fun said => contents left ++ (.tab, "") :: said := by
  obtain rfl := h.folds.eq_of_not_infix hfour
  rw [saying, (folded_spaces hfour h.last hn after).eq_foldIndent,
    (h.passes '\t' _ (.inr rfl)).reading_append, reading_tab, ToyRisc.reading_spaces,
    Option.map_map]
  rfl

/-- Where there are fewer, the gap is skipped, and folding goes on behind it. -/
theorem saying_of_narrow (h : Leads line before folded left) (hfour : ¬ fourSpaces <:+: before)
    (hn : 0 < n) (hnarrow : n < 4) (hstop : after.head? ≠ some ' ') :
    saying line before after n =
      (reading line (foldIndent [] after)).map (contents left ++ ·) := by
  obtain rfl := h.folds.eq_of_not_infix hfour
  have hfront : ¬ fourSpaces <:+: folded ++ spaces n :=
    not_fourSpaces_append hfour (not_fourSpaces_spaces hnarrow) (.inl h.last)
  have hfolded := (folded_foldIndent after).prepend hfront hstop
  rw [List.append_assoc, List.append_assoc] at hfolded
  rw [saying, hfolded.eq_foldIndent, h.reading_spaces hn]

end Leads

namespace Gap

variable {line : Int} {before after : List Char} {m : Nat}

/-- What stands in front of the gap is read in the same way in front of any blank. -/
theorem exists_leads (h : Gap line before m after) :
    ∃ folded left, tokenize before line = .ok left ∧ Leads line before folded left := by
  obtain ⟨folded, hfolded, spans, left, hcuts, himages⟩ := h.outside
  obtain ⟨more, hspaces⟩ := exists_spaces h.pos after
  rw [hspaces] at hcuts
  have hpasses : Passes line folded (' ' :: (spaces more ++ after)) left :=
    ⟨spans, hcuts, himages⟩
  refine ⟨folded, left, ?_, hfolded, h.start, fun d other hd => hpasses.before_blank hd other⟩
  rw [tokenize_eq_scan hfolded, hpasses.scan_before]

end Gap

theorem saying_eq_some_iff {line : Int} {before after : List Char} {n : Nat}
    {said : List (Kind × String)} :
    saying line before after n = some said ↔
      ∃ tokens, tokenize (before ++ (spaces n ++ after)) line = .ok tokens ∧
        contents tokens = said :=
  reading_eq_some_iff

namespace Leads

variable {line : Int} {before folded after : List Char} {left : List Token} {m k : Nat}

/-- A gap that does not become a tab can be widened. -/
theorem saying_add (h : Leads line before folded left) (hstop : after.head? ≠ some ' ')
    (hm : 0 < m) (hkept : ¬ BecomesTab before m k) :
    saying line before after (m + k) = saying line before after m := by
  have hpos : 0 < m + k := by omega
  by_cases hfour : fourSpaces <:+: before
  · rw [h.saying_of_infix hfour hpos, h.saying_of_infix hfour hm]
  by_cases hwide : 4 ≤ m
  · rw [h.saying_of_wide hfour (by omega), h.saying_of_wide hfour hwide]
  have hnarrow : m + k < 4 := by
    by_contra hbeyond
    exact hkept ⟨hfour, by omega, by omega⟩
  rw [h.saying_of_narrow hfour hpos hnarrow hstop,
    h.saying_of_narrow hfour hm (by omega) hstop]

/-- A gap that becomes a tab leaves the line accepted: what stands behind it is now read as it
stands. -/
theorem saying_of_becomesTab (h : Leads line before folded left) (hstop : after.head? ≠ some ' ')
    (hm : 0 < m) (htab : BecomesTab before m k) {said : List (Kind × String)}
    (hsaid : saying line before after m = some said) :
    ∃ behind right, reading line (foldIndent [] after) = some behind ∧
      reading line after = some right ∧ said = contents left ++ behind ∧
        saying line before after (m + k) = some (contents left ++ (.tab, "") :: right) := by
  rw [h.saying_of_narrow htab.first hm htab.narrow hstop] at hsaid
  obtain ⟨behind, hbehind, rfl⟩ := Option.map_eq_some_iff.mp hsaid
  have hsome : (reading line after).isSome := by
    apply (folded_foldIndent after).exists_reading
    rw [hbehind]
    rfl
  obtain ⟨right, hright⟩ := Option.isSome_iff_exists.mp hsome
  refine ⟨behind, right, hbehind, hright, rfl, ?_⟩
  rw [h.saying_of_wide htab.first htab.wide, hright]
  rfl

end Leads

/-- The machine after `n` steps in a program that has the row among others. -/
def runWith (front back : List (List Token)) (settings : Settings) (n : Nat) (row : List Token) :
    Machine :=
  (Machine.start (.ofTokens (front ++ row :: back)) settings).after n

/-- Whatever program they are in, the two rows have the same effect. -/
def ActsLike (row other : List Token) : Prop :=
  ∀ front back settings n,
    (runWith front back settings n other).registers =
        (runWith front back settings n row).registers ∧
      (runWith front back settings n other).steps = (runWith front back settings n row).steps ∧
      (runWith front back settings n other).done = (runWith front back settings n row).done ∧
      (runWith front back settings n other).step.outcome.failure? =
        (runWith front back settings n row).step.outcome.failure?

/-- A row of one line acts by what it says. -/
theorem actsLike_of_contents {row other : List Token} {line : Int}
    (hrow : ∀ token ∈ row, token.line = line) (hother : ∀ token ∈ other, token.line = line)
    (h : contents other = contents row) : ActsLike row other := by
  have hrenamed : RenamedRow id row other := by
    induction row generalizing other with
    | nil =>
        obtain rfl : other = [] := List.map_eq_nil_iff.mp h
        exact .nil
    | cons token row ih =>
        obtain ⟨found, more, rfl, hfound, hmore⟩ := List.map_eq_cons_iff.mp h
        rw [List.forall_mem_cons] at hrow hother
        obtain ⟨hkind, hliteral⟩ := Prod.mk.inj hfound
        refine .cons ⟨hkind, by rw [hrow.1, hother.1], ?_⟩ (ih hrow.2 hother.2 hmore)
        rw [hliteral, id, ite_self]
  have hself : ∀ rows : List (List Token), List.Forall₂ (RenamedRow id) rows rows := by
    intro rows
    have hsame : ∀ token : Token, token.Renamed id token :=
      fun token => ⟨rfl, Iff.rfl, by rw [id, ite_self]⟩
    exact List.forall₂_same.mpr fun tokens _ => List.forall₂_same.mpr fun token _ => hsame token
  intro front back settings n
  have hrows : List.Forall₂ (RenamedRow id) (front ++ row :: back) (front ++ other :: back) :=
    List.rel_append (hself front) (.cons hrenamed (hself back))
  have hstart : (Machine.start (.ofTokens (front ++ row :: back)) settings).Renamed id
      (Machine.start (.ofTokens (front ++ other :: back)) settings) :=
    ⟨Program.ofTokens_renamed Function.injective_id hrows, rfl, rfl, rfl⟩
  have hlater := hstart.after Function.injective_id n
  exact ⟨hlater.registers, hlater.steps, hlater.done_eq,
    hlater.failure?_eq Function.injective_id⟩

theorem token_line_of_tokenize {c : List Char} {line : Int} {tokens : List Token}
    (h : tokenize c line = .ok tokens) : ∀ token ∈ tokens, token.line = line := by
  obtain ⟨spans, _, himages⟩ := (scan_eq_ok_iff line _ tokens).mp h
  exact himages.token_line

/-- More spaces in a gap.  A line that is accepted is accepted with any number of further spaces
in a gap of it, and has tokens of the same kinds and literals, so that it does the same in any
program, unless the gap becomes the first four spaces of the line.  Then its tokens are those in
front of the gap, a tab, and those of what stands behind the gap, of which nothing is folded any
more. -/
theorem widened_gap_reads {line : Int} {before after : List Char} {m : Nat}
    (hgap : Gap line before m after) {tokens : List Token}
    (htokens : tokenize (before ++ (spaces m ++ after)) line = .ok tokens) (k : Nat) :
    ∃ widened, tokenize (before ++ (spaces (m + k) ++ after)) line = .ok widened ∧
      (¬ BecomesTab before m k → contents widened = contents tokens) ∧
      (contents widened = contents tokens → ActsLike tokens widened) ∧
      (BecomesTab before m k → ∃ left behind right, tokenize before line = .ok left ∧
        tokenize after line = .ok behind ∧ (Lexer.scan line 0 [] after).1 = .ok right ∧
        contents tokens = contents left ++ contents behind ∧
        contents widened = contents left ++ (.tab, "") :: contents right) := by
  obtain ⟨folded, left, hleft, hleads⟩ := hgap.exists_leads
  have hsaid : saying line before after m = some (contents tokens) :=
    saying_eq_some_iff.mpr ⟨tokens, htokens, rfl⟩
  have hacts : ∀ widened, tokenize (before ++ (spaces (m + k) ++ after)) line = .ok widened →
      contents widened = contents tokens → ActsLike tokens widened := fun widened hwidened =>
    actsLike_of_contents (token_line_of_tokenize htokens) (token_line_of_tokenize hwidened)
  by_cases htab : BecomesTab before m k
  · obtain ⟨_, _, hbehind, hright, hcontents, hwide⟩ :=
      hleads.saying_of_becomesTab hgap.stop hgap.pos htab hsaid
    obtain ⟨widened, hwidened, hsays⟩ := saying_eq_some_iff.mp hwide
    obtain ⟨behind, hafter, rfl⟩ := reading_eq_some_iff.mp hbehind
    obtain ⟨right, hscan, rfl⟩ := reading_eq_some_iff.mp hright
    exact ⟨widened, hwidened, fun hkept => absurd htab hkept, hacts widened hwidened,
      fun _ => ⟨left, behind, right, hleft, hafter, hscan, hcontents, hsays⟩⟩
  · have hsame := (hleads.saying_add hgap.stop hgap.pos htab).trans hsaid
    obtain ⟨widened, hwidened, hsays⟩ := saying_eq_some_iff.mp hsame
    exact ⟨widened, hwidened, fun _ => hsays, hacts widened hwidened,
      fun hbecomes => absurd hbecomes htab⟩

/-- The operands of an instruction. -/
def threeOperands : List Char := "s0, s1, s2".toList

theorem mnemonic_cuts {rest : List Char} (h : rest.head? = some ' ') :
    Cuts (['a', 'd', 'd'] ++ rest) [.word ['a', 'd', 'd'] false] rest := by
  have hfits : (Span.word ['a', 'd', 'd'] false).Fits rest.head? := by
    apply Span.fits_word (by decide) (List.all_eq_true.mp rfl)
    rw [h]
    rintro c ⟨⟩
    decide
  exact .cons hfits (.nil rest)

/-- The gap behind an indented mnemonic. -/
theorem indented_gap : Gap 2 "    add".toList 1 threeOperands := by
  refine ⟨by decide, by decide, by decide, '\t' :: ['a', 'd', 'd'], .first [] _ (by decide), ?_⟩
  have htab : Span.tab.Fits (['a', 'd', 'd'] ++ (spaces 1 ++ threeOperands)).head? := trivial
  exact ⟨[.tab, .word ['a', 'd', 'd'] false], _, .cons htab (mnemonic_cuts rfl),
    .token .tab (.token (.mnemonic (by decide +kernel)) (.nil _))⟩

/-- The row of the indented instruction. -/
def indentedRow : List Token :=
  [⟨.tab, "", 2, 1⟩, ⟨.instruction, "add", 2, 2⟩, ⟨.register, "13", 2, 6⟩, ⟨.comma, "", 2, 8⟩,
    ⟨.register, "14", 2, 10⟩, ⟨.comma, "", 2, 12⟩, ⟨.register, "15", 2, 14⟩]

/-- Behind an indented mnemonic, seven more spaces make no difference. -/
theorem indented_gap_widened :
    ∃ widened, tokenize ("    add".toList ++ (spaces (1 + 7) ++ threeOperands)) 2 = .ok widened ∧
      contents widened = contents indentedRow ∧ ActsLike indentedRow widened := by
  have htokens : tokenize ("    add".toList ++ (spaces 1 ++ threeOperands)) 2 =
      .ok indentedRow := by decide +kernel
  obtain ⟨widened, hwidened, hsame, hacts, _⟩ := widened_gap_reads indented_gap htokens 7
  have hkept : ¬ BecomesTab "    add".toList 1 7 := fun h => h.first (by decide)
  exact ⟨widened, hwidened, hsame hkept, hacts (hsame hkept)⟩

/-- The row of the instruction at the start of a line. -/
def plainRow : List Token :=
  [⟨.instruction, "add", 1, 1⟩, ⟨.register, "13", 1, 5⟩, ⟨.comma, "", 1, 7⟩,
    ⟨.register, "14", 1, 9⟩, ⟨.comma, "", 1, 11⟩, ⟨.register, "15", 1, 13⟩]

/-- The same with the operands moved to the right by three columns. -/
def alignedRow : List Token :=
  [⟨.instruction, "add", 1, 1⟩, ⟨.tab, "", 1, 4⟩, ⟨.register, "13", 1, 5⟩, ⟨.comma, "", 1, 7⟩,
    ⟨.register, "14", 1, 9⟩, ⟨.comma, "", 1, 11⟩, ⟨.register, "15", 1, 13⟩]

/-- Where the mnemonic is not indented, three more spaces make a tab of the gap, and the row is
no longer an instruction. -/
theorem plain_gap_becomes_tab :
    Gap 1 "add".toList 1 threeOperands ∧
      tokenize ("add".toList ++ (spaces 1 ++ threeOperands)) 1 = .ok plainRow ∧
      tokenize ("add".toList ++ (spaces (1 + 3) ++ threeOperands)) 1 = .ok alignedRow ∧
      contents alignedRow ≠ contents plainRow ∧ ¬ ActsLike plainRow alignedRow := by
  refine ⟨?_, by decide +kernel, by decide +kernel, by decide, ?_⟩
  · refine ⟨by decide, by decide, by decide, ['a', 'd', 'd'], .none (by decide), ?_⟩
    exact ⟨[.word ['a', 'd', 'd'] false], _, mnemonic_cuts rfl,
      .token (.mnemonic (by decide +kernel)) (.nil _)⟩
  · intro hacts
    obtain ⟨_, _, _, hfailure⟩ := hacts [] [] { enforceGlobal := false } 0
    exact absurd hfailure (by decide +kernel)

end ToyRisc
