/-
Loading line by line.  A text that loads has a row for each of its lines, of which
the rows worth keeping make up the program; a row says of each of its tokens which
line it is from.
-/
import ToyRisc.Proofs.Expansion
import ToyRisc.Proofs.Lexing
import ToyRisc.Source

namespace ToyRisc

theorem Images.token_line {line : Int} {passed : Nat} {spans : List Span}
    {tokens : List Token} (h : Images line passed spans tokens) :
    ∀ token ∈ tokens, token.line = line := by
  induction h with
  | nil passed => simp
  | silent hsilent htail ih => exact ih
  | token hmeans htail ih =>
      intro token htoken
      rcases List.mem_cons.mp htoken with rfl | hmore
      · rfl
      · exact ih token hmore

theorem Symbol.eq_scalar_of_char {s : Symbol} {c : Char} (h : s.char = c)
    (hc : c ≠ Char.ofNat 0xFFFD) : s = .scalar c := by
  cases s with
  | scalar d => rw [← h]; rfl
  | stray byte => exact absurd h.symm hc

theorem chars_takeWhile (text : Text) :
    Text.chars (text.takeWhile (Expansion.isNot '#')) = front text.chars := by
  have hclass : Expansion.isNot '#' = (· != '#') ∘ Symbol.char := by
    funext s
    rw [Bool.eq_iff_iff]
    cases s with
    | scalar c => simp [Expansion.isNot, Symbol.char]
    | stray byte => simp [Expansion.isNot, Symbol.char]
  rw [hclass, front, Text.chars, Text.chars, List.takeWhile_map]

theorem char_not_mem_chars {text : Text} {c : Char} (hc : c ≠ Char.ofNat 0xFFFD)
    (h : .scalar c ∉ text) : c ∉ Text.chars text := by
  intro hmem
  obtain ⟨s, hs, hchar⟩ := List.mem_map.mp hmem
  rw [Symbol.eq_scalar_of_char hchar hc] at hs
  exact h hs

theorem newline_not_mem_chars {text : Text} (h : .scalar '\n' ∉ text) :
    '\n' ∉ Text.chars text :=
  char_not_mem_chars (by decide) h

namespace Source

theorem cutLines_newline {done : List Text} {current rest : Text}
    (hdone : ∀ line ∈ done, .scalar '\n' ∉ line) (hcurrent : .scalar '\n' ∉ current) :
    ∀ line ∈ cutLines done current rest, .scalar '\n' ∉ line := by
  induction rest generalizing done current with
  | nil =>
      unfold cutLines
      split
      · simpa using hdone
      · intro line hline
        rcases List.mem_cons.mp (List.mem_reverse.mp hline) with rfl | hmore
        · simpa using hcurrent
        · exact hdone line hmore
  | cons s rest ih =>
      unfold cutLines
      split
      · apply ih
        · simpa using ⟨hcurrent, hdone⟩
        · simp
      · rename_i hs
        apply ih hdone
        simpa using ⟨Ne.symm hs, hcurrent⟩

/-- No line has a line end in it. -/
theorem newline_not_mem_lines {text line : Text} (h : line ∈ lines text) :
    .scalar '\n' ∉ line :=
  cutLines_newline (by simp) (by simp) line h

section Lines

variable {settings : LoadSettings} {number : Int} {line text : Text}

theorem prepare_cases (h : prepare settings number line = .ok text) :
    text = line ∨ ∃ evaluate more, text = more ++ line.dropWhile (Expansion.isNot '#') ∧
      Expansion.Expands evaluate (line.takeWhile (Expansion.isNot '#')) more := by
  unfold prepare at h
  split at h
  · exact .inr ⟨_, exists_expands_of_expand h⟩
  · cases h
    exact .inl rfl

/-- Where there is no dollar sign in front of the first hash, nothing is expanded. -/
theorem prepare_eq_of_not_mem (h : prepare settings number line = .ok text)
    (hdollar : '$' ∉ front line.chars) : text = line := by
  rcases prepare_cases h with heq | ⟨evaluate, more, rfl, hmore⟩
  · exact heq
  · have hhead : .scalar '$' ∉ line.takeWhile (Expansion.isNot '#') := by
      intro hmem
      apply hdollar
      rw [← chars_takeWhile]
      exact List.mem_map_of_mem hmem
    rw [hmore.eq_of_not_mem hhead, List.takeWhile_append_dropWhile]

theorem mem_or_digit_of_prepare (h : prepare settings number line = .ok text)
    {s : Symbol} (hs : s ∈ text) :
    s ∈ line ∨ ∃ c : Char, c.isDigit = true ∧ s = .scalar c := by
  rcases prepare_cases h with rfl | ⟨evaluate, more, rfl, hmore⟩
  · exact .inl hs
  · rcases List.mem_append.mp hs with hfront | hcomment
    · exact (hmore.mem_or_digit hfront).imp_left ((List.takeWhile_sublist _).subset ·)
    · exact .inl ((List.dropWhile_sublist _).subset hcomment)

theorem dropReturn_cases (line : Text) :
    dropReturn line = line ∨ line = dropReturn line ++ [.scalar '\r'] := by
  unfold dropReturn
  split
  · rename_i hlast
    obtain ⟨front, rfl⟩ := List.getLast?_eq_some_iff.mp hlast
    exact .inr (by simp)
  · exact .inl rfl

theorem newline_not_mem_dropReturn (h : .scalar '\n' ∉ line) :
    .scalar '\n' ∉ dropReturn line := by
  rcases dropReturn_cases line with heq | heq
  · rw [heq]
    exact h
  · intro hmem
    apply h
    rw [heq]
    exact List.mem_append_left _ hmem

end Lines

/-- A line that loads is blank, or it is lexed after its expressions are expanded. -/
theorem loadLine_cases {settings : LoadSettings} {number : Int} {line : Text}
    {row : List Token} (h : loadLine settings number line = .ok row) :
    ((dropReturn line).isBlank = true ∧ row = []) ∨
      ((dropReturn line).isBlank = false ∧
        ∃ text, prepare settings number (dropReturn line) = .ok text ∧
          tokenize text.chars number = .ok row) := by
  unfold loadLine at h
  split at h
  · cases h
  cases htokens : loadTokens settings number (dropReturn line) with
  | error fault =>
      rw [htokens] at h
      cases h
  | ok found =>
      rw [htokens] at h
      cases h
      unfold loadTokens at htokens
      split at htokens
      · rename_i hblank
        cases htokens
        exact .inl ⟨hblank, rfl⟩
      · rename_i hblank
        refine .inr ⟨by simpa using hblank, ?_⟩
        cases htext : prepare settings number (dropReturn line) with
        | error fault => simp [htext, bind, Except.bind] at htokens
        | ok text => exact ⟨text, rfl, by simpa [htext, bind, Except.bind] using htokens⟩

theorem token_line_of_loadLine {settings : LoadSettings} {number : Int} {line : Text}
    {row : List Token} (h : loadLine settings number line = .ok row) :
    ∀ token ∈ row, token.line = number := by
  rcases loadLine_cases h with ⟨_, rfl⟩ | ⟨_, text, _, htokens⟩
  · simp
  · obtain ⟨spans, _, himages⟩ := (scan_eq_ok_iff number _ row).mp htokens
    exact himages.token_line

/-- `Loads settings number lines rows`: the lines, of which the first has the given
number, all load, and these are the rows worth keeping. -/
inductive Loads (settings : LoadSettings) : Int → List Text → List (List Token) → Prop
  | nil (number : Int) : Loads settings number [] []
  | kept {number : Int} {line : Text} {lines : List Text} {row : List Token}
      {rows : List (List Token)} (hline : loadLine settings number line = .ok row)
      (hkept : keeps row = true) (htail : Loads settings (number + 1) lines rows) :
      Loads settings number (line :: lines) (row :: rows)
  | dropped {number : Int} {line : Text} {lines : List Text} {row : List Token}
      {rows : List (List Token)} (hline : loadLine settings number line = .ok row)
      (hdropped : keeps row = false) (htail : Loads settings (number + 1) lines rows) :
      Loads settings number (line :: lines) rows

/-- The rows of a text are those of its first lines: of all lines, unless it ends early. -/
theorem exists_loads_of_loadFrom (settings : LoadSettings) (number : Int)
    (done : List (List Token)) (lines : List Text) :
    ∃ front back rows, lines = front ++ back ∧
      (loadFrom settings number done lines).rows = done.reverse ++ rows ∧
      Loads settings number front rows ∧
      ((loadFrom settings number done lines).error = none → back = []) := by
  induction lines generalizing number done with
  | nil => exact ⟨[], [], [], rfl, by simp [loadFrom], .nil number, fun _ => rfl⟩
  | cons line lines ih =>
      cases hline : loadLine settings number line with
      | error error =>
          refine ⟨[], line :: lines, [], rfl, by simp [loadFrom, hline], .nil number, ?_⟩
          simp [loadFrom, hline]
      | ok row =>
          -- what is already done stays in front of what the other lines add
          simp only [loadFrom, hline]
          obtain ⟨front, back, rows, rfl, hrows, hloads, hall⟩ :=
            ih (number + 1) (if keeps row then row :: done else done)
          rw [hrows]
          cases hkeeps : keeps row with
          | true =>
              rw [hkeeps] at hall
              exact ⟨line :: front, back, row :: rows, rfl, by simp,
                .kept hline hkeeps hloads, hall⟩
          | false =>
              rw [hkeeps] at hall
              exact ⟨line :: front, back, rows, rfl, by simp,
                .dropped hline hkeeps hloads, hall⟩

/-- A text without an error loads line by line. -/
theorem loads_of_load {settings : LoadSettings} {text : Text}
    (h : (load settings text).error = none) :
    Loads settings 1 (lines text) (load settings text).rows := by
  obtain ⟨front, back, rows, hlines, hrows, hloads, hall⟩ :=
    exists_loads_of_loadFrom settings 1 [] (lines text)
  rw [load, hrows, hlines, hall h, List.append_nil]
  exact hloads

theorem number_add_succ (number : Int) (i : Nat) :
    number + ((i + 1 : Nat) : Int) = number + 1 + i := by
  omega

theorem exists_line_of_mem_loadFrom {settings : LoadSettings} {number : Int}
    {done : List (List Token)} {lines : List Text} {row : List Token}
    (h : row ∈ (loadFrom settings number done lines).rows) :
    row ∈ done ∨ ∃ (i : Nat) (line : Text), lines[i]? = some line ∧ keeps row = true ∧
      loadLine settings (number + i) line = .ok row := by
  induction lines generalizing number done with
  | nil => exact .inl (List.mem_reverse.mp h)
  | cons line lines ih =>
      cases hline : loadLine settings number line with
      | error error =>
          simp only [loadFrom, hline] at h
          exact .inl (List.mem_reverse.mp h)
      | ok found =>
          simp only [loadFrom, hline] at h
          rcases ih h with hdone | ⟨i, later, hi, hkeeps, hload⟩
          · split at hdone
            · rename_i hkeeps
              rcases List.mem_cons.mp hdone with rfl | hmore
              · exact .inr ⟨0, line, rfl, hkeeps, by simpa using hline⟩
              · exact .inl hmore
            · exact .inl hdone
          · exact .inr ⟨i + 1, later, hi, hkeeps, by rw [number_add_succ, hload]⟩

/-- Every row of a text, whether the text ends early or not, is the row of some line. -/
theorem exists_line_of_mem_load {settings : LoadSettings} {text : Text} {row : List Token}
    (h : row ∈ (load settings text).rows) :
    ∃ (i : Nat) (line : Text), (lines text)[i]? = some line ∧ keeps row = true ∧
      loadLine settings (1 + i) line = .ok row :=
  (exists_line_of_mem_loadFrom h).resolve_left List.not_mem_nil

namespace Loads

variable {settings : LoadSettings} {number : Int} {lines : List Text}
  {rows : List (List Token)}

/-- Every row of the program is the row of some line, and worth keeping. -/
theorem exists_line (h : Loads settings number lines rows) {row : List Token}
    (hrow : row ∈ rows) :
    keeps row = true ∧ ∃ i line, lines[i]? = some line ∧
      loadLine settings (number + (i : Nat)) line = .ok row := by
  induction h with
  | nil number => cases hrow
  | kept hline hkept htail ih =>
      rcases List.mem_cons.mp hrow with rfl | hmore
      · exact ⟨hkept, 0, _, rfl, by simpa using hline⟩
      · obtain ⟨hkeeps, i, line, hi, hload⟩ := ih hmore
        exact ⟨hkeeps, i + 1, line, hi, by rw [number_add_succ, hload]⟩
  | dropped hline hdropped htail ih =>
      obtain ⟨hkeeps, i, line, hi, hload⟩ := ih hrow
      exact ⟨hkeeps, i + 1, line, hi, by rw [number_add_succ, hload]⟩

/-- Every line has a row, which is in the program if it is worth keeping. -/
theorem exists_row (h : Loads settings number lines rows) {i : Nat} {line : Text}
    (hi : lines[i]? = some line) :
    ∃ row, loadLine settings (number + i) line = .ok row ∧
      (keeps row = true → row ∈ rows) := by
  induction h generalizing i with
  | nil number => cases hi
  | @kept number first lines row rows hline hkept htail ih =>
      cases i with
      | zero =>
          cases hi
          exact ⟨row, by simpa using hline, fun _ => List.mem_cons_self⟩
      | succ i =>
          obtain ⟨found, hload, hmem⟩ := ih hi
          exact ⟨found, by rw [number_add_succ, hload],
            fun hkeeps => List.mem_cons_of_mem _ (hmem hkeeps)⟩
  | @dropped number first lines row rows hline hdropped htail ih =>
      cases i with
      | zero =>
          cases hi
          refine ⟨row, by simpa using hline, ?_⟩
          intro hkeeps
          rw [hdropped] at hkeeps
          cases hkeeps
      | succ i =>
          obtain ⟨found, hload, hmem⟩ := ih hi
          exact ⟨found, by rw [number_add_succ, hload], hmem⟩

/-- A row has a line of its own, and so has every row before it. -/
theorem le_token_line (h : Loads settings number lines rows) {i : Nat} {row : List Token}
    (hi : rows[i]? = some row) : ∀ token ∈ row, number + i ≤ token.line := by
  induction h generalizing i with
  | nil number => cases hi
  | kept hline hkept htail ih =>
      cases i with
      | zero =>
          cases hi
          intro token htoken
          rw [token_line_of_loadLine hline token htoken]
          omega
      | succ i =>
          rw [number_add_succ]
          exact ih hi
  | dropped hline hdropped htail ih =>
      intro token htoken
      have hle := ih hi token htoken
      omega

end Loads

/-- Nothing but row 0 is on the first line of a text. -/
theorem eq_zero_of_line_eq_one {settings : LoadSettings} {text : Text} {i : Nat}
    {row : List Token} (hi : (load settings text).rows[i]? = some row) {token : Token}
    (htoken : token ∈ row) (hline : token.line = 1) : i = 0 := by
  obtain ⟨_, _, rows, _, hrows, hloads, _⟩ := exists_loads_of_loadFrom settings 1 [] (lines text)
  rw [load, hrows] at hi
  have hle := hloads.le_token_line hi token htoken
  omega

end Source

end ToyRisc
