/-
Loading is local to lines.  What becomes of a line hangs on its own bytes and its number
only, and a text loads as its lines do: the rows of the lines that are kept, up to the first
line that is refused.  So nothing behind a refused line counts, and where lines end in a
carriage return it is as if they did not.
-/
import ToyRisc.Proofs.Bytes
import ToyRisc.Proofs.Loading

namespace ToyRisc

/-- What becomes of a line. -/
inductive Fate where
  | skipped
  | kept (row : List Token)
  | refused (error : LoadError)
  deriving DecidableEq, Repr

namespace Fate

/-- The row of a line that is kept. -/
def row? : Fate → Option (List Token)
  | kept row => some row
  | skipped | refused _ => none

/-- Why a line is refused. -/
def error? : Fate → Option LoadError
  | refused error => some error
  | skipped | kept _ => none

theorem row?_eq_some_iff {fate : Fate} {row : List Token} :
    fate.row? = some row ↔ fate = .kept row := by
  cases fate with
  | kept found => simp [row?]
  | skipped => simp [row?]
  | refused error => simp [row?]

end Fate

/-- The rows up to the first line that is refused, and why that line is refused. -/
def Loaded.ofFates (fates : List Fate) : Loaded :=
  ⟨(fates.takeWhile (·.error?.isNone)).filterMap Fate.row?, fates.findSome? Fate.error?⟩

namespace Loaded

@[simp] theorem ofFates_nil : ofFates [] = ⟨[], none⟩ := rfl

@[simp] theorem ofFates_skipped (fates : List Fate) :
    ofFates (.skipped :: fates) = ofFates fates := rfl

@[simp] theorem ofFates_kept (row : List Token) (fates : List Fate) :
    ofFates (.kept row :: fates) = ⟨row :: (ofFates fates).rows, (ofFates fates).error⟩ := rfl

@[simp] theorem ofFates_refused (error : LoadError) (fates : List Fate) :
    ofFates (.refused error :: fates) = ⟨[], some error⟩ := rfl

/-- Nothing behind a line that is refused counts. -/
theorem ofFates_append {fates : List Fate} {error : LoadError} (h : .refused error ∈ fates)
    (more : List Fate) : ofFates (fates ++ more) = ofFates fates := by
  induction fates with
  | nil => cases h
  | cons fate fates ih =>
      cases fate with
      | refused first => simp
      | skipped => simpa using ih (by simpa using h)
      | kept row => simp [ih (by simpa using h)]

end Loaded

namespace Source

/-- The lines of a text, byte by byte: what stands between line feeds, except for nothing
behind the last one. -/
def byteLines (bytes : List UInt8) : List (List UInt8) :=
  let parts := bytes.splitOn 10
  if parts.getLast? = some [] then parts.dropLast else parts

/-- A line without the carriage return at its end. -/
def cutReturn (line : List UInt8) : List UInt8 :=
  if line.getLast? = some 13 then line.dropLast else line

/-- What becomes of the line with a given number. -/
def fate (settings : LoadSettings) (number : Nat) (line : List UInt8) : Fate :=
  let text := Text.ofBytes (cutReturn line)
  if 65536 ≤ line.length then .refused .tooLong
  else if text.chars.all isBlankChar then .skipped
  else
    match
      if settings.expressions then
        expand (evaluatorAt settings.interpret settings.definitions number) number text
      else .ok text
    with
    | .error fault => .refused (.fault fault)
    | .ok expanded =>
        match tokenize expanded.chars number with
        | .error fault => .refused (.fault fault)
        | .ok row =>
            if row = [] ∨ row.map Token.kind = [.tab] then .skipped else .kept row

/-- What becomes of lines that start at a given number. -/
def fates (settings : LoadSettings) (number : Nat) (lines : List (List UInt8)) : List Fate :=
  (lines.zipIdx number).map fun line => fate settings line.2 line.1

/-- A text in which every line feed stands behind a carriage return. -/
def withReturns (bytes : List UInt8) : List UInt8 :=
  bytes.flatMap fun b => if b = 10 then [13, 10] else [b]

section Cutting

variable {part rest : List UInt8}

@[simp] theorem byteLines_nil : byteLines [] = [] := rfl

theorem splitOn_of_not_mem (h : 10 ∉ part) : part.splitOn 10 = [part] := by
  rw [List.splitOn_eq_splitOnP]
  apply List.splitOnP_eq_singleton
  intro b hb
  rw [beq_eq_false_iff_ne]
  rintro rfl
  exact h hb

theorem byteLines_of_not_mem (hpart : part ≠ []) (h : 10 ∉ part) : byteLines part = [part] := by
  simp [byteLines, splitOn_of_not_mem h, hpart]

theorem byteLines_append (h : 10 ∉ part) (rest : List UInt8) :
    byteLines (part ++ 10 :: rest) = part :: byteLines rest := by
  have hne := List.splitOn_ne_nil (10 : UInt8) rest
  simp only [byteLines, List.splitOn_append_cons_self, splitOn_of_not_mem h,
    List.singleton_append, List.getLast?_cons_of_ne_nil hne, List.dropLast_cons_of_ne_nil hne]
  split <;> rfl

/-- A text is cut line by line. -/
theorem lines_induction {motive : List UInt8 → Prop} (nil : motive [])
    (last : ∀ part, part ≠ [] → 10 ∉ part → motive part)
    (line : ∀ part rest, 10 ∉ part → motive rest → motive (part ++ 10 :: rest))
    (bytes : List UInt8) : motive bytes := by
  induction hlength : bytes.length using Nat.strongRecOn generalizing bytes with
  | ind length ih =>
      by_cases hmem : 10 ∈ bytes
      · obtain ⟨part, rest, rfl, hpart⟩ := List.eq_append_cons_of_mem hmem
        refine line part rest hpart (ih rest.length ?_ rest rfl)
        rw [← hlength, List.length_append, List.length_cons]
        omega
      · by_cases hbytes : bytes = []
        · rw [hbytes]
          exact nil
        · exact last bytes hbytes hmem

end Cutting

section SymbolLines

variable {part rest : Text}

theorem cutLines_append (h : .scalar '\n' ∉ part) (done : List Text) (current rest : Text) :
    cutLines done current (part ++ rest) = cutLines done (part.reverse ++ current) rest := by
  induction part generalizing current with
  | nil => rfl
  | cons s part ih =>
      rw [List.mem_cons, not_or] at h
      rw [List.cons_append, cutLines, if_neg (Ne.symm h.1), ih h.2, List.reverse_cons,
        List.append_assoc, List.singleton_append]

theorem cutLines_eq_append (done : List Text) (current text : Text) :
    cutLines done current text = done.reverse ++ cutLines [] current text := by
  induction text generalizing done current with
  | nil =>
      simp only [cutLines]
      split <;> simp
  | cons s text ih =>
      simp only [cutLines]
      split
      · rw [ih (current.reverse :: done), ih [current.reverse]]
        simp
      · exact ih done (s :: current)

theorem lines_append (h : .scalar '\n' ∉ part) (rest : Text) :
    lines (part ++ .scalar '\n' :: rest) = part :: lines rest := by
  rw [lines, cutLines_append h, cutLines, if_pos rfl, cutLines_eq_append]
  simp [lines]

theorem lines_of_not_mem (hpart : part ≠ []) (h : .scalar '\n' ∉ part) :
    lines part = [part] := by
  rw [lines, ← List.append_nil part, cutLines_append h, cutLines]
  simp [hpart]

end SymbolLines

theorem newline_not_mem_ofBytes {bytes : List UInt8} (h : 10 ∉ bytes) :
    .scalar '\n' ∉ Text.ofBytes bytes :=
  Text.scalar_not_mem_ofBytes (b := 10) (by decide) h

/-- Bytes can be cut into lines before they are read. -/
theorem lines_ofBytes (bytes : List UInt8) :
    lines (Text.ofBytes bytes) = (byteLines bytes).map Text.ofBytes := by
  induction bytes using lines_induction with
  | nil => simp [lines, cutLines]
  | last part hpart hnewline =>
      have htext : Text.ofBytes part ≠ [] := by rwa [Ne, Text.ofBytes_eq_nil_iff]
      rw [byteLines_of_not_mem hpart hnewline,
        lines_of_not_mem htext (newline_not_mem_ofBytes hnewline)]
      rfl
  | line part rest hnewline ih =>
      rw [byteLines_append hnewline, Text.ofBytes_append (by decide), List.map_cons, ← ih]
      exact lines_append (newline_not_mem_ofBytes hnewline) _

/-- The carriage return at the end of a line can be dropped before the line is read. -/
theorem dropReturn_ofBytes (line : List UInt8) :
    dropReturn (Text.ofBytes line) = Text.ofBytes (cutReturn line) := by
  unfold cutReturn
  split
  · rename_i hlast
    obtain ⟨front, rfl⟩ := List.getLast?_eq_some_iff.mp hlast
    rw [Text.ofBytes_append (by decide), dropReturn, Text.ofBytes_nil]
    simp
  · rename_i hlast
    rw [dropReturn, if_neg]
    intro hreturn
    apply hlast
    obtain ⟨left, heq⟩ := List.getLast?_eq_some_iff.mp hreturn
    obtain ⟨front, back, rfl, _, hback⟩ :=
      Text.exists_bytes_of_ofBytes_eq (b := 13) (by decide) heq
    simp [Text.ofBytes_eq_nil_iff.mp hback]

theorem keeps_eq_false_iff (row : List Token) :
    keeps row = false ↔ row = [] ∨ row.map Token.kind = [.tab] := by
  match row with
  | [] => simp [keeps]
  | [token] => simp [keeps]
  | first :: second :: more => simp [keeps]

/-- What becomes of a line is what its error or its row makes of it. -/
theorem fate_cases (settings : LoadSettings) (number : Nat) (line : List UInt8) :
    (∃ error, loadLine settings number (Text.ofBytes line) = .error error ∧
        fate settings number line = .refused error) ∨
      ∃ row, loadLine settings number (Text.ofBytes line) = .ok row ∧
        fate settings number line = if keeps row then .kept row else .skipped := by
  simp only [fate, loadLine, loadTokens, lineLimit, Text.isBlank, Text.size_ofBytes,
    dropReturn_ofBytes]
  by_cases hlong : 65536 ≤ line.length
  · simp only [if_pos hlong]
    exact .inl ⟨.tooLong, rfl, rfl⟩
  by_cases hblank : (Text.ofBytes (cutReturn line)).chars.all isBlankChar = true
  · simp only [if_neg hlong, if_pos hblank]
    exact .inr ⟨[], rfl, rfl⟩
  simp only [if_neg hlong, if_neg hblank, ← prepare.eq_def]
  cases prepare settings number (Text.ofBytes (cutReturn line)) with
  | error fault => exact .inl ⟨.fault fault, rfl, rfl⟩
  | ok text =>
      simp only [bind, Except.bind]
      cases tokenize text.chars number with
      | error fault => exact .inl ⟨.fault fault, rfl, rfl⟩
      | ok row =>
          refine .inr ⟨row, rfl, ?_⟩
          simp only [← keeps_eq_false_iff]
          cases keeps row <;> rfl

theorem fates_cons (settings : LoadSettings) (number : Nat) (line : List UInt8)
    (lines : List (List UInt8)) :
    fates settings number (line :: lines) =
      fate settings number line :: fates settings (number + 1) lines := rfl

/-- What lines load to, behind rows that stand in reverse order, is settled by what becomes
of each of them. -/
theorem loadFrom_eq (settings : LoadSettings) (number : Nat) (done : List (List Token))
    (lines : List (List UInt8)) :
    loadFrom settings number done (lines.map Text.ofBytes) =
      ⟨done.reverse ++ (Loaded.ofFates (fates settings number lines)).rows,
        (Loaded.ofFates (fates settings number lines)).error⟩ := by
  induction lines generalizing number done with
  | nil => simp [loadFrom, fates]
  | cons line lines ih =>
      rw [fates_cons, List.map_cons, loadFrom]
      rcases fate_cases settings number line with ⟨error, hline, hfate⟩ | ⟨row, hline, hfate⟩
      · simp [hline, hfate]
      · have hnext : (number : Int) + 1 = ((number + 1 : Nat) : Int) := rfl
        simp only [hline, hfate]
        rw [hnext, ih]
        cases keeps row with
        | true => simp
        | false => simp

/-- What a text loads to is settled by what becomes of its lines. -/
theorem load_ofBytes (settings : LoadSettings) (bytes : List UInt8) :
    load settings (Text.ofBytes bytes) =
      Loaded.ofFates (fates settings 1 (byteLines bytes)) := by
  rw [load, lines_ofBytes]
  exact loadFrom_eq settings 1 [] (byteLines bytes)

section Rows

variable {settings : LoadSettings} {number : Nat} {line : List UInt8} {row : List Token}

/-- A row that is kept is not empty, and its tokens are all from its line. -/
theorem kept_row (h : fate settings number line = .kept row) :
    row ≠ [] ∧ ∀ token ∈ row, token.line = number := by
  rcases fate_cases settings number line with ⟨error, _, hfate⟩ | ⟨found, hline, hfate⟩
  · rw [hfate] at h
    cases h
  · rw [hfate] at h
    split at h
    · rename_i hkeeps
      cases h
      refine ⟨?_, token_line_of_loadLine hline⟩
      rintro rfl
      cases hkeeps
    · cases h

theorem exists_line_of_mem_fates {lines : List (List UInt8)}
    (h : row ∈ (Loaded.ofFates (fates settings number lines)).rows) :
    ∃ line ∈ lines.zipIdx number, fate settings line.2 line.1 = .kept row := by
  obtain ⟨found, hfound, hrow⟩ := List.mem_filterMap.mp h
  obtain ⟨line, hline, rfl⟩ := List.mem_map.mp ((List.takeWhile_sublist _).subset hfound)
  exact ⟨line, hline, Fate.row?_eq_some_iff.mp hrow⟩

/-- From row to row the numbers of the lines increase. -/
theorem pairwise_rows (settings : LoadSettings) (number : Nat) (lines : List (List UInt8)) :
    (Loaded.ofFates (fates settings number lines)).rows.Pairwise fun earlier later =>
      ∀ first ∈ earlier, ∀ second ∈ later, first.line < second.line := by
  have hnumbers : (lines.zipIdx number).Pairwise fun earlier later => earlier.2 < later.2 := by
    rw [← List.pairwise_map (f := Prod.snd), List.zipIdx_map_snd]
    exact List.pairwise_lt_range' 1
  rw [Loaded.ofFates, fates, List.takeWhile_map, List.filterMap_map, List.pairwise_filterMap]
  -- each row carries the number of its line, so the order of the numbers is that of the rows
  refine (hnumbers.sublist (List.takeWhile_sublist _)).imp ?_
  intro earlier later hlt row hrow row' hrow' first hfirst second hsecond
  rw [(kept_row (Fate.row?_eq_some_iff.mp hrow)).2 first hfirst,
    (kept_row (Fate.row?_eq_some_iff.mp hrow')).2 second hsecond]
  exact Int.ofNat_lt.mpr hlt

end Rows

section Ends

variable {settings : LoadSettings}

/-- The lines of a text are lines of every text that goes on behind them. -/
theorem byteLines_isPrefix (bytes rest : List UInt8) :
    byteLines bytes <+: byteLines (bytes ++ 10 :: rest) := by
  induction bytes using lines_induction with
  | nil => exact List.nil_prefix
  | last part hpart hnewline =>
      rw [byteLines_of_not_mem hpart hnewline, byteLines_append hnewline]
      exact ⟨byteLines rest, rfl⟩
  | line part more hnewline ih =>
      rw [List.append_assoc, List.cons_append, byteLines_append hnewline,
        byteLines_append hnewline]
      exact List.cons_prefix_cons.mpr ⟨rfl, ih⟩

/-- Nothing behind a refused line counts. -/
theorem load_append_of_refused {bytes line : List UInt8} {number : Nat} {error : LoadError}
    (hline : (line, number) ∈ (byteLines bytes).zipIdx 1)
    (hrefused : fate settings number line = .refused error) (rest : List UInt8) :
    load settings (Text.ofBytes (bytes ++ 10 :: rest)) =
      load settings (Text.ofBytes bytes) := by
  obtain ⟨more, hmore⟩ := byteLines_isPrefix bytes rest
  have hmem : .refused error ∈ fates settings 1 (byteLines bytes) :=
    List.mem_map.mpr ⟨(line, number), hline, hrefused⟩
  rw [load_ofBytes, load_ofBytes, ← hmore, fates, List.zipIdx_append, List.map_append]
  exact Loaded.ofFates_append hmem _

/-- A carriage return at the end of a line that has none changes nothing but its size. -/
theorem fate_append_return (number : Nat) {line : List UInt8} (hreturn : 13 ∉ line)
    (hshort : line.length ≤ 65534) :
    fate settings number (line ++ [13]) = fate settings number line := by
  have hcut : cutReturn (line ++ [13]) = cutReturn line := by
    rw [cutReturn, cutReturn, if_pos (by simp), List.dropLast_concat, if_neg]
    exact fun hlast => hreturn (List.mem_of_getLast? hlast)
  have hlong : ¬ 65536 ≤ (line ++ [13]).length := by
    rw [List.length_append, List.length_singleton]
    omega
  have hlong' : ¬ 65536 ≤ line.length := by omega
  simp only [fate, hcut, if_neg hlong, if_neg hlong']

theorem withReturns_of_not_mem {part : List UInt8} (h : 10 ∉ part) :
    withReturns part = part := by
  induction part with
  | nil => rfl
  | cons b part ih =>
      rw [List.mem_cons, not_or] at h
      rw [withReturns, List.flatMap_cons, if_neg (Ne.symm h.1), List.singleton_append,
        ← withReturns, ih h.2]

theorem withReturns_append {part : List UInt8} (h : 10 ∉ part) (rest : List UInt8) :
    withReturns (part ++ 10 :: rest) = (part ++ [13]) ++ 10 :: withReturns rest := by
  rw [withReturns, List.flatMap_append, ← withReturns, withReturns_of_not_mem h,
    List.flatMap_cons, if_pos rfl, ← withReturns, List.append_assoc]
  rfl

/-- It makes no difference whether lines end in a line feed alone. -/
theorem fates_withReturns {bytes : List UInt8} (number : Nat) (hreturn : 13 ∉ bytes)
    (hshort : ∀ line ∈ byteLines bytes, line.length ≤ 65534) :
    fates settings number (byteLines (withReturns bytes)) =
      fates settings number (byteLines bytes) := by
  induction bytes using lines_induction generalizing number with
  | nil => rfl
  | last part hpart hnewline => rw [withReturns_of_not_mem hnewline]
  | line part rest hnewline ih =>
      rw [byteLines_append hnewline, List.forall_mem_cons] at hshort
      simp only [List.mem_append, List.mem_cons, not_or] at hreturn
      -- the carriage return falls to the line in front of the line feed
      have hreturned : 10 ∉ part ++ [13] := by simpa using hnewline
      rw [withReturns_append hnewline, byteLines_append hreturned, byteLines_append hnewline,
        fates_cons, fates_cons, ih (number + 1) hreturn.2.2 hshort.2,
        fate_append_return number hreturn.1 hshort.1]

end Ends

end Source

/-- A text loads line by line.  Its rows are those of the lines that are kept, up to the
first that is refused, each with the number of its line at all its tokens; its error is that
of the refused line.  Nothing behind a refused line counts, and neither does a carriage
return in front of each line feed, if no line gets too long by it. -/
theorem load_line_by_line (settings : LoadSettings) (bytes : List UInt8) :
    (Source.load settings (Text.ofBytes bytes) =
      .ofFates (Source.fates settings 1 (Source.byteLines bytes))) ∧
    (∀ row ∈ (Source.load settings (Text.ofBytes bytes)).rows, row ≠ [] ∧
      ∃ line number, (line, number) ∈ (Source.byteLines bytes).zipIdx 1 ∧
        Source.fate settings number line = .kept row ∧ ∀ token ∈ row, token.line = number) ∧
    ((Source.load settings (Text.ofBytes bytes)).rows.Pairwise fun earlier later =>
      ∀ first ∈ earlier, ∀ second ∈ later, first.line < second.line) ∧
    (∀ line number error, (line, number) ∈ (Source.byteLines bytes).zipIdx 1 →
      Source.fate settings number line = .refused error →
      ∀ rest, Source.load settings (Text.ofBytes (bytes ++ 10 :: rest)) =
        Source.load settings (Text.ofBytes bytes)) ∧
    (13 ∉ bytes → (∀ line ∈ Source.byteLines bytes, line.length ≤ 65534) →
      Source.load settings (Text.ofBytes (Source.withReturns bytes)) =
        Source.load settings (Text.ofBytes bytes)) := by
  have hload := Source.load_ofBytes settings bytes
  refine ⟨hload, ?_, ?_, ?_, ?_⟩
  · intro row hrow
    rw [hload] at hrow
    obtain ⟨⟨line, number⟩, hline, hkept⟩ := Source.exists_line_of_mem_fates hrow
    obtain ⟨hrow, htokens⟩ := Source.kept_row hkept
    exact ⟨hrow, line, number, hline, hkept, htokens⟩
  · rw [hload]
    exact Source.pairwise_rows settings 1 (Source.byteLines bytes)
  · intro line number error hline hrefused rest
    exact Source.load_append_of_refused hline hrefused rest
  · intro hreturn hshort
    rw [Source.load_ofBytes, hload, Source.fates_withReturns 1 hreturn hshort]

/-- An empty line, a line that is kept and a line that is refused. -/
def brokenThird : List UInt8 := [10, 114, 49, 10, 64]

theorem brokenThird_line_by_line :
    Source.fate {} 3 [64] = .refused (.fault ⟨.illegalCharacter '@', ⟨3, 1⟩⟩) ∧
    (∀ rest, Source.load {} (Text.ofBytes (brokenThird ++ 10 :: rest)) =
      Source.load {} (Text.ofBytes brokenThird)) ∧
    Source.load {} (Text.ofBytes (Source.withReturns brokenThird)) =
      Source.load {} (Text.ofBytes brokenThird) := by
  have hlines : Source.byteLines brokenThird = [[], [114, 49], [64]] := by decide +kernel
  have hrefused : Source.fate {} 3 [64] =
      .refused (.fault ⟨.illegalCharacter '@', ⟨3, 1⟩⟩) := by decide +kernel
  obtain ⟨_, _, _, hrest, hreturns⟩ := load_line_by_line {} brokenThird
  rw [hlines] at hrest hreturns
  exact ⟨hrefused, hrest [64] 3 _ (by decide) hrefused, hreturns (by decide) (by decide)⟩

end ToyRisc
