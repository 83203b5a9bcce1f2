/-
What expansion does to a line.  The part in front of the comment is kept symbol by
symbol, except that expressions with a value give way to its digits.
-/
import ToyRisc.Line.Expansion
import ToyRisc.Proofs.Numerals

namespace ToyRisc

namespace Expansion

/-- `Expands evaluate text more`: expansion makes `more` of `text`. -/
inductive Expands (evaluate : Evaluator) : Text → Text → Prop
  | nil : Expands evaluate [] []
  | plain {s : Symbol} {rest more : Text}
      (hs : s = .scalar '$' → expressionAt? rest = none) (htail : Expands evaluate rest more) :
      Expands evaluate (s :: rest) (s :: more)
  | value {rest expression after next more : Text} {n : Nat}
      (hat : expressionAt? rest = some (expression, after, next))
      (hvalue : evaluate expression = .ok n) (htail : Expands evaluate next more) :
      Expands evaluate (.scalar '$' :: rest) (digitText n ++ after ++ more)

theorem exists_expands_of_expandFrom {evaluate : Evaluator} {line : Int}
    {head done text result : Text}
    (h : expandFrom evaluate line head done text = .ok result) :
    ∃ more, result = done.reverse ++ more ∧ Expands evaluate text more := by
  fun_induction expandFrom evaluate line head done text with
  | case1 done =>
      cases h
      exact ⟨[], by simp, .nil⟩
  | case2 done rest hat ih =>
      obtain ⟨more, rfl, hmore⟩ := ih h
      exact ⟨.scalar '$' :: more, by simp, .plain (fun _ => hat) hmore⟩
  | case3 => cases h
  | case4 done rest expression after next hat n hvalue ih =>
      obtain ⟨more, rfl, hmore⟩ := ih h
      exact ⟨digitText n ++ after ++ more, by simp, .value hat hvalue hmore⟩
  | case5 done s rest hs ih =>
      obtain ⟨more, rfl, hmore⟩ := ih h
      exact ⟨s :: more, by simp, .plain (fun heq => absurd heq hs) hmore⟩

theorem mem_of_splitLastClose? {text expression after : Text} {s : Symbol}
    (h : splitLastClose? text = some (expression, after)) (hs : s ∈ after) : s ∈ text := by
  unfold splitLastClose? at h
  split at h
  · cases h
  · cases h
    rw [List.mem_reverse] at hs
    exact List.mem_reverse.mp ((List.takeWhile_sublist _).subset hs)

theorem mem_of_expressionAt? {rest expression after next : Text} {s : Symbol}
    (h : expressionAt? rest = some (expression, after, next)) (hs : s ∈ after ∨ s ∈ next) :
    s ∈ rest := by
  unfold expressionAt? at h
  split at h
  · rename_i tail
    split at h
    · rename_i hsplit
      cases h
      apply List.mem_cons_of_mem
      rcases hs with hafter | hnext
      · exact (List.takeWhile_sublist _).subset (mem_of_splitLastClose? hsplit hafter)
      · exact (List.dropWhile_sublist _).subset hnext
    · cases h
  · cases h

namespace Expands

variable {evaluate : Evaluator} {text more : Text}

/-- Where a text changes, digits get into it. -/
theorem eq_or_digit (h : Expands evaluate text more) :
    more = text ∨ ∃ c : Char, c.isDigit = true ∧ .scalar c ∈ more := by
  induction h with
  | nil => exact .inl rfl
  | plain hs htail ih =>
      rcases ih with rfl | ⟨c, hc, hmem⟩
      · exact .inl rfl
      · exact .inr ⟨c, hc, List.mem_cons_of_mem _ hmem⟩
  | @value rest expression after next more n hat hvalue htail ih =>
      obtain ⟨c, hc⟩ := List.exists_mem_of_ne_nil _ (Decimal.digits_ne_nil n)
      refine .inr ⟨c, Decimal.isDigit_of_mem_digits hc, ?_⟩
      rw [List.append_assoc]
      exact List.mem_append_left _ (List.mem_map_of_mem hc)

/-- Nothing but digits gets into a text. -/
theorem mem_or_digit (h : Expands evaluate text more) {s : Symbol} (hs : s ∈ more) :
    s ∈ text ∨ ∃ c : Char, c.isDigit = true ∧ s = .scalar c := by
  induction h with
  | nil => exact .inl hs
  | plain hplain htail ih =>
      rcases List.mem_cons.mp hs with rfl | hmore
      · exact .inl List.mem_cons_self
      · exact (ih hmore).imp_left (List.mem_cons_of_mem _)
  | @value rest expression after next more n hat hvalue htail ih =>
      rw [List.append_assoc, List.mem_append, List.mem_append] at hs
      rcases hs with hdigit | hafter | hmore
      · obtain ⟨c, hc, rfl⟩ := List.mem_map.mp hdigit
        exact .inr ⟨c, Decimal.isDigit_of_mem_digits hc, rfl⟩
      · exact .inl (List.mem_cons_of_mem _ (mem_of_expressionAt? hat (.inl hafter)))
      · rcases ih hmore with hnext | hdigit
        · exact .inl (List.mem_cons_of_mem _ (mem_of_expressionAt? hat (.inr hnext)))
        · exact .inr hdigit

/-- Without a dollar sign nothing is expanded. -/
theorem eq_of_not_mem (h : Expands evaluate text more) (hdollar : .scalar '$' ∉ text) :
    more = text := by
  induction h with
  | nil => rfl
  | plain hs htail ih => rw [ih (fun hrest => hdollar (List.mem_cons_of_mem _ hrest))]
  | value hat hvalue htail ih => exact absurd List.mem_cons_self hdollar

end Expands

end Expansion

/-- An expanded line is the expansion of what stands before its first hash, with the
rest as it was. -/
theorem exists_expands_of_expand {evaluate : Evaluator} {line : Int} {text result : Text}
    (h : expand evaluate line text = .ok result) :
    ∃ more, result = more ++ text.dropWhile (Expansion.isNot '#') ∧
      Expansion.Expands evaluate (text.takeWhile (Expansion.isNot '#')) more := by
  unfold expand at h
  cases hfrom : Expansion.expandFrom evaluate line (text.takeWhile (Expansion.isNot '#')) []
      (text.takeWhile (Expansion.isNot '#')) with
  | error fault => simp [hfrom, Except.map] at h
  | ok found =>
      simp only [hfrom, Except.map, Except.ok.injEq] at h
      obtain ⟨more, hfound, hmore⟩ := Expansion.exists_expands_of_expandFrom hfrom
      rw [hfound] at h
      exact ⟨more, h.symm, hmore⟩

end ToyRisc
