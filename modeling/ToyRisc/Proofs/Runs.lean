/-
Runs and steps.  The run that asks after each step whether the program is done, and the
one that asks before each step and may be bounded, both come to where repeated steps
come to.  The bounded run ends at the limit or with the lifetime of the machine,
whichever is first, and its report says which.
-/
import ToyRisc.CommandLine.Report
import ToyRisc.Proofs.Halting

namespace ToyRisc

namespace Run

theorem proceed_succ (run : Run) (n : Nat) : run.proceed (n + 1) = (run.proceed n).advance := by
  induction n generalizing run with
  | zero => rfl
  | succ n ih => exact ih run.advance

theorem proceedBounded_add (limit : Int) (run : Run) (k n : Nat) :
    run.proceedBounded limit (k + n) =
      (run.proceedBounded limit k).proceedBounded limit n := by
  induction k generalizing run with
  | zero => rw [Nat.zero_add]; rfl
  | succ k ih =>
      rw [Nat.succ_add]
      exact ih (run.advanceBounded limit)

theorem proceedBounded_succ (limit : Int) (run : Run) (n : Nat) :
    run.proceedBounded limit (n + 1) = (run.proceedBounded limit n).advanceBounded limit :=
  run.proceedBounded_add limit n 1

/-- `run.Ends final ending`: the run comes to this ending, and `final` is all of it. -/
def Ends (run final : Run) (ending : Ending) : Prop :=
  final.ending = some ending ∧ ∃ n, run.proceed n = final

/-- The same for a run that is bounded by `limit`. -/
def EndsBounded (limit : Int) (run final : Run) (ending : Ending) : Prop :=
  final.ending = some ending ∧ ∃ n, run.proceedBounded limit n = final

/-- A run that has an ending stays as it is. -/
theorem proceedBounded_of_ended {limit : Int} {run : Run} {ending : Ending}
    (h : run.ending = some ending) (n : Nat) : run.proceedBounded limit n = run := by
  induction n with
  | zero => rfl
  | succ n ih => rw [proceedBounded_succ, ih, advanceBounded, h]

/-- No bounded run has two endings. -/
theorem EndsBounded.unique {limit : Int} {run final other : Run} {ending another : Ending}
    (h : run.EndsBounded limit final ending) (hother : run.EndsBounded limit other another) :
    other = final ∧ another = ending := by
  obtain ⟨hending, n, rfl⟩ := h
  obtain ⟨hanother, m, rfl⟩ := hother
  have hsame : run.proceedBounded limit m = run.proceedBounded limit n := by
    rcases Nat.le_total n m with hle | hle
    · obtain ⟨k, rfl⟩ := Nat.exists_eq_add_of_le hle
      rw [proceedBounded_add, proceedBounded_of_ended hending]
    · obtain ⟨k, rfl⟩ := Nat.exists_eq_add_of_le hle
      rw [proceedBounded_add, proceedBounded_of_ended hanother]
  rw [hsame, hending, Option.some.injEq] at hanother
  exact ⟨hsame, hanother.symm⟩

/-- The run with the ending it gets as soon as it asks whether the program is done. -/
def settle (run : Run) : Run :=
  if run.ending = none ∧ run.machine.done = true then { run with ending := some .completed }
  else run

theorem settle_of_ended {run : Run} {ending : Ending} (h : run.ending = some ending) :
    run.settle = run := by
  rw [settle, if_neg]
  simp [h]

theorem settle_of_not_done {run : Run} (h : run.machine.done = false) : run.settle = run := by
  rw [settle, if_neg]
  simp [h]

/-- Without a limit, asking before the step and asking after it come to the same. -/
theorem settle_advanceBounded {limit : Int} (hlimit : limit ≤ 0) (run : Run) :
    (run.advanceBounded limit).settle = run.settle.advance := by
  have hnever : ¬ (0 < limit ∧ limit ≤ run.machine.steps) := fun hreached => by omega
  cases hending : run.ending with
  | some ending =>
      have hbounded : run.advanceBounded limit = run := by simp [advanceBounded, hending]
      have hadvance : run.advance = run := by simp [advance, hending]
      rw [hbounded, settle_of_ended hending, hadvance]
  | none =>
      cases hdone : run.machine.done with
      | true =>
          have hsettle : run.settle = { run with ending := some .completed } := by
            simp [settle, hending, hdone]
          have hbounded : run.advanceBounded limit = { run with ending := some .completed } := by
            simp [advanceBounded, hending, hdone]
          rw [hsettle, hbounded]
          rfl
      | false =>
          rw [settle_of_not_done hdone]
          simp only [advanceBounded, advance, hending, hdone, if_neg hnever, Bool.false_eq_true,
            if_false]
          cases houtcome : run.machine.step.outcome with
          | executed done =>
              have hmachine := Machine.done_of_executed houtcome
              cases done with
              | false => exact settle_of_not_done hmachine
              | true => simp [settle, extend, endingOf, hmachine]
          | finished =>
              rw [Machine.step_outcome_finished_iff, hdone] at houtcome
              cases houtcome
          | refused fault => exact settle_of_ended rfl
          | unwritten => exact settle_of_ended rfl

theorem settle_proceedBounded {limit : Int} (hlimit : limit ≤ 0) (machine : Machine) (n : Nat) :
    ((startBounded machine).proceedBounded limit n).settle = (start machine).proceed n := by
  induction n with
  | zero =>
      change (startBounded machine).settle = start machine
      simp only [settle, startBounded, start, true_and]
      split
      · rfl
      · rfl
  | succ n ih => rw [proceedBounded_succ, settle_advanceBounded hlimit, ih, proceed_succ]

/-- A run bounded by nothing does what the unbounded run does. -/
theorem endsBounded_iff_ends {limit : Int} (hlimit : limit ≤ 0) (machine : Machine) (final : Run)
    (ending : Ending) :
    (startBounded machine).EndsBounded limit final ending ↔
      (start machine).Ends final ending := by
  constructor
  · rintro ⟨hending, n, rfl⟩
    refine ⟨hending, n, ?_⟩
    rw [← settle_proceedBounded hlimit, settle_of_ended hending]
  · rintro ⟨hending, n, hfinal⟩
    refine ⟨hending, ?_⟩
    rw [← settle_proceedBounded hlimit, settle] at hfinal
    split at hfinal
    · -- the bounded run has one more turn to take, in which it finds the program done
      rename_i hsettled
      refine ⟨n + 1, ?_⟩
      rw [proceedBounded_succ, ← hfinal]
      simp [advanceBounded, hsettled.1, hsettled.2]
    · exact ⟨n, hfinal⟩

/-- The run comes to an ending, and to none but one that is as required. -/
def EndsAs (run : Run) (required : Run → Ending → Prop) : Prop :=
  (∃ final ending, run.Ends final ending) ∧
    ∀ final ending, run.Ends final ending → required final ending

/-- The same for a run that is bounded by `limit`. -/
def EndsBoundedAs (limit : Int) (run : Run) (required : Run → Ending → Prop) : Prop :=
  (∃ final ending, run.EndsBounded limit final ending) ∧
    ∀ final ending, run.EndsBounded limit final ending → required final ending

theorem EndsBounded.as {limit : Int} {run final : Run} {ending : Ending}
    (h : run.EndsBounded limit final ending) {required : Run → Ending → Prop}
    (hrequired : required final ending) : run.EndsBoundedAs limit required := by
  refine ⟨⟨final, ending, h⟩, ?_⟩
  intro other another hother
  obtain ⟨rfl, rfl⟩ := h.unique hother
  exact hrequired

theorem Ends.as {machine : Machine} {final : Run} {ending : Ending}
    (h : (start machine).Ends final ending) {required : Run → Ending → Prop}
    (hrequired : required final ending) : (start machine).EndsAs required := by
  have hbounded := ((endsBounded_iff_ends le_rfl machine final ending).mpr h).as hrequired
  refine ⟨⟨final, ending, h⟩, ?_⟩
  intro other another hother
  exact hbounded.2 other another ((endsBounded_iff_ends le_rfl machine other another).mpr hother)

/-- The run shows what the first `n` steps of a machine have done. -/
structure Shows (run : Run) (machine : Machine) (n : ℕ) : Prop where
  state : run.machine.SameState (machine.after n)
  written : run.written = machine.transcript n

/-- The run has just taken the first `n` steps of a machine. -/
structure Follows (run : Run) (machine : Machine) (n : ℕ) : Prop where
  going : run.ending = none
  position : run.machine = machine.after n
  written : run.written = machine.transcript n

section Bounded

variable {limit : Int} {run : Run}

/-- The limit, if there is one, is not reached. -/
def Within (limit : Int) (steps : ℕ) : Prop := ¬ (0 < limit ∧ limit ≤ steps)

theorem advanceBounded_of_not_halted (hgoing : run.ending = none)
    (hwithin : Within limit run.machine.steps) (hsink : run.machine.settings.sink ≠ .failing)
    (hrunning : ¬ run.machine.Halted) :
    run.advanceBounded limit = run.extend run.machine.step none := by
  have hdone : run.machine.done = false := by
    rw [← Bool.not_eq_true]
    exact fun hdone => hrunning (.inl hdone)
  have hexecutes := Machine.executes_of_not_halted hsink hrunning
  simp only [advanceBounded, hgoing, hdone, if_neg hwithin, Bool.false_eq_true, if_false,
    hexecutes.outcome]

theorem advanceBounded_of_halted (hgoing : run.ending = none)
    (hwithin : Within limit run.machine.steps) (hhalted : run.machine.Halted) :
    ∃ ending, endingOf run.machine.step.outcome = some ending ∧
      (run.advanceBounded limit).ending = some ending ∧
      (run.advanceBounded limit).machine = run.machine.step.machine ∧
      (run.advanceBounded limit).written = run.written := by
  rcases hhalted with hdone | ⟨fault, hrefused⟩
  · have hstep := Machine.step_of_done hdone
    refine ⟨.completed, by rw [hstep]; rfl, ?_⟩
    simp [advanceBounded, hgoing, hdone, hstep]
  · have hsilent := (Machine.step_of_refused hrefused).2.2
    have hdone : run.machine.done = false := by
      rw [← Bool.not_eq_true, ← Machine.step_outcome_finished_iff, hrefused]
      simp
    refine ⟨.refused fault, by rw [hrefused]; rfl, ?_⟩
    simp only [advanceBounded, hgoing, hdone, if_neg hwithin, Bool.false_eq_true, if_false,
      hrefused]
    simp [extend, hsilent]

end Bounded

section Lifetime

variable {machine : Machine} {limit : Int} {n : ℕ}

/-- As long as the machine lives and the limit is not reached, turns are steps. -/
theorem follows_proceedBounded (hsink : machine.settings.sink ≠ .failing)
    (hlimit : limit ≤ 0 ∨ (machine.steps + n : ℕ) ≤ limit) (hn : n ≤ machine.lifetime) :
    ((startBounded machine).proceedBounded limit n).Follows machine n := by
  induction n with
  | zero => exact ⟨rfl, rfl, rfl⟩
  | succ n ih =>
      have hlt : n < machine.lifetime :=
        lt_of_lt_of_le (Nat.cast_lt.mpr (Nat.lt_succ_self n)) hn
      have hfollows := ih (by omega) hlt.le
      have hwithin : Within limit (machine.after n).steps := by
        rw [Machine.steps_after hsink hlt.le, Within]
        omega
      have hadvance := advanceBounded_of_not_halted hfollows.going
        (by rwa [hfollows.position]) (by rwa [hfollows.position, Machine.after_settings])
        (by rwa [hfollows.position, ← Machine.lt_lifetime_iff])
      rw [proceedBounded_succ, hadvance]
      refine ⟨rfl, ?_, ?_⟩
      · rw [Machine.after_succ, ← hfollows.position]
        rfl
      · rw [Machine.transcript_succ, ← hfollows.position, ← hfollows.written]
        rfl

/-- A run whose machine halts before the limit ends with it. -/
theorem endsBounded_of_lifetime (hsink : machine.settings.sink ≠ .failing)
    (hn : machine.lifetime = n) (hlimit : limit ≤ 0 ∨ (machine.steps + n : ℕ) < limit) :
    ∃ final ending, (startBounded machine).EndsBounded limit final ending ∧
      final.Shows machine n ∧ endingOf (machine.after n).step.outcome = some ending := by
  have hhalted := (machine.lifetime_le_iff n).mp hn.le
  have hfollows : ((startBounded machine).proceedBounded limit n).Follows machine n :=
    follows_proceedBounded hsink (by omega) hn.ge
  have hwithin : Within limit (machine.after n).steps := by
    rw [Machine.steps_after hsink hn.ge, Within]
    omega
  obtain ⟨ending, houtcome, hending, hmachine, hwritten⟩ :=
    advanceBounded_of_halted hfollows.going (by rwa [hfollows.position])
      (by rwa [hfollows.position])
  rw [← proceedBounded_succ] at hending hmachine hwritten
  refine ⟨_, ending, ⟨hending, n + 1, rfl⟩, ⟨?_, ?_⟩, by rwa [hfollows.position] at houtcome⟩
  · rw [hmachine, hfollows.position]
    exact hhalted.step.1.state
  · rw [hwritten, hfollows.written]

/-- A run whose machine lives up to the limit ends there. -/
theorem endsBounded_of_limit (hsink : machine.settings.sink ≠ .failing)
    (hfresh : machine.steps = 0) (hpos : 0 < n) (hn : n ≤ machine.lifetime) :
    ∃ final, final.Shows machine n ∧
      (startBounded machine).EndsBounded n final
        (if (machine.after n).done then .completed else .stopped n) := by
  have hfollows : ((startBounded machine).proceedBounded n n).Follows machine n :=
    follows_proceedBounded hsink (by omega) hn
  have hsteps : (machine.after n).steps = n := by
    rw [Machine.steps_after hsink hn, hfresh, Nat.zero_add]
  have hadvance : (startBounded machine).proceedBounded n (n + 1) =
      { (startBounded machine).proceedBounded n n with
        ending := some (if (machine.after n).done then .completed else .stopped n) } := by
    rw [proceedBounded_succ, advanceBounded, hfollows.going]
    simp only [hfollows.position, hsteps]
    cases (machine.after n).done with
    | true => rfl
    | false => simp [hpos]
  have hsame : ((startBounded machine).proceedBounded n n).machine.SameState (machine.after n) := by
    rw [hfollows.position]
    exact .refl _
  refine ⟨_, ⟨?_, ?_⟩, rfl, n + 1, hadvance⟩
  · exact hsame
  · exact hfollows.written

/-- Once the machine halts, the unbounded run ends. -/
theorem ends_of_halted (hsink : machine.settings.sink ≠ .failing)
    (h : (machine.after n).Halted) :
    ∃ final ending, (start machine).Ends final ending ∧ final.Shows machine n ∧
      endingOf (machine.after n).step.outcome = some ending := by
  have hle := (machine.lifetime_le_iff n).mpr h
  obtain ⟨m, hm⟩ := ENat.ne_top_iff_exists.mp (ne_top_of_le_ne_top (ENat.natCast_ne_top n) hle)
  obtain ⟨final, ending, hends, hshows, houtcome⟩ :=
    endsBounded_of_lifetime hsink hm.symm (.inl (le_refl (0 : Int)))
  -- between the end of the lifetime and step `n` nothing changes any more
  have hmn : m ≤ n := by rwa [← hm, Nat.cast_le] at hle
  obtain ⟨hrests, hsilent⟩ := ((machine.lifetime_le_iff m).mp hm.ge).of_le hmn
  refine ⟨final, ending, (endsBounded_iff_ends le_rfl machine final ending).mp hends, ⟨?_, ?_⟩, ?_⟩
  · exact hshows.state.trans hrests.state.symm
  · rw [hshows.written, hsilent]
  · rw [hrests.outcome, houtcome]

theorem not_ends_of_lifetime_eq_top (hsink : machine.settings.sink ≠ .failing)
    (h : machine.lifetime = ⊤) (final : Run) (ending : Ending) :
    ¬ (start machine).Ends final ending := by
  rw [← endsBounded_iff_ends le_rfl]
  rintro ⟨hending, n, rfl⟩
  have hfollows : ((startBounded machine).proceedBounded 0 n).Follows machine n :=
    follows_proceedBounded hsink (.inl le_rfl) (h ▸ le_top)
  rw [hfollows.going] at hending
  cases hending

end Lifetime

theorem endingOf_eq_refused_iff (outcome : Outcome) (fault : Fault) :
    endingOf outcome = some (.refused fault) ↔ outcome = .refused fault := by
  unfold endingOf
  split
  · simp
  · simp
  · simp
  · simp
  · simp

theorem endingOf_ne_stopped (outcome : Outcome) (steps : Nat) :
    endingOf outcome ≠ some (.stopped steps) := by
  unfold endingOf
  split
  · simp
  · simp
  · simp
  · simp
  · simp

end Run

namespace CommandLine

variable (path : String) (final : Run) (ending : Ending) (line : LogLine)

theorem warning_mem_endReport_iff :
    line ∈ (endReport path final ending).log ∧ line.level = .warning ↔
      ∃ steps, ending = .stopped steps ∧
        line = ⟨.warning, path ++ ": stopped after " ++ Decimal.text steps ++ " steps"⟩ := by
  cases ending with
  | completed => simp [endReport]
  | refused fault =>
      simp only [endReport, List.mem_singleton, reduceCtorEq, false_and, exists_false, iff_false]
      rintro ⟨rfl, hlevel⟩
      cases hlevel
  | unwritten =>
      simp only [endReport, List.mem_singleton, reduceCtorEq, false_and, exists_false, iff_false]
      rintro ⟨rfl, hlevel⟩
      cases hlevel
  | stopped steps =>
      simp only [endReport, List.mem_singleton, Ending.stopped.injEq, exists_eq_left']
      exact and_iff_left_of_imp fun hline => by rw [hline]

theorem error_mem_endReport_iff (hwritten : ending ≠ .unwritten) :
    line ∈ (endReport path final ending).log ∧ line.level = .error ↔
      ∃ fault, ending = .refused fault ∧ line = failure path fault.message := by
  cases ending with
  | completed => simp [endReport]
  | refused fault =>
      simp only [endReport, List.mem_singleton, Ending.refused.injEq, exists_eq_left']
      exact and_iff_left_of_imp fun hline => by rw [hline]; rfl
  | unwritten => exact absurd rfl hwritten
  | stopped steps =>
      simp only [endReport, List.mem_singleton, reduceCtorEq, false_and, exists_false, iff_false]
      rintro ⟨rfl, hlevel⟩
      cases hlevel

end CommandLine

namespace Machine

/-- How a run of a machine ends that is bounded by a positive limit: it executes as many
rows as limit and lifetime allow, warns where the limit is reached before the program
is done, and reports a row that is refused before that. -/
structure StopsBy (machine : Machine) (limit : ℕ) (final : Run) (ending : Ending) : Prop where
  steps : (final.machine.steps : ℕ∞) = min (limit : ℕ∞) machine.lifetime
  shows : final.Shows machine final.machine.steps
  warns : ∀ path line,
    line ∈ (CommandLine.endReport path final ending).log ∧ line.level = .warning ↔
      (limit ≤ machine.lifetime ∧ (machine.after limit).done = false) ∧
        line = ⟨.warning, path ++ ": stopped after " ++ Decimal.text limit ++ " steps"⟩
  fails : ∀ path line,
    line ∈ (CommandLine.endReport path final ending).log ∧ line.level = .error ↔
      ∃ (n : ℕ) (fault : Fault), machine.lifetime = n ∧ n < limit ∧
        (machine.after n).step.outcome = .refused fault ∧
          line = CommandLine.failure path fault.message

variable {machine : Machine} {limit : ℕ}

/-- The report follows from the ending. -/
theorem stopsBy_of_ending {final : Run} {ending : Ending}
    (hsteps : (final.machine.steps : ℕ∞) = min (limit : ℕ∞) machine.lifetime)
    (hshows : final.Shows machine final.machine.steps) (hwritten : ending ≠ .unwritten)
    (hstopped : ∀ steps, ending = .stopped steps ↔
      (limit ≤ machine.lifetime ∧ (machine.after limit).done = false) ∧ steps = limit)
    (hrefused : ∀ fault, ending = .refused fault ↔ ∃ n : ℕ, machine.lifetime = n ∧ n < limit ∧
      (machine.after n).step.outcome = .refused fault) :
    machine.StopsBy limit final ending := by
  refine ⟨hsteps, hshows, ?_, ?_⟩
  · intro path line
    simp only [CommandLine.warning_mem_endReport_iff, hstopped]
    constructor
    · rintro ⟨steps, ⟨hreached, rfl⟩, hline⟩
      exact ⟨hreached, hline⟩
    · rintro ⟨hreached, hline⟩
      exact ⟨limit, ⟨hreached, rfl⟩, hline⟩
  · intro path line
    rw [CommandLine.error_mem_endReport_iff path final ending line hwritten]
    constructor
    · rintro ⟨fault, hending, hline⟩
      obtain ⟨n, hn, hlt, houtcome⟩ := (hrefused fault).mp hending
      exact ⟨n, fault, hn, hlt, houtcome, hline⟩
    · rintro ⟨n, fault, hn, hlt, houtcome, hline⟩
      exact ⟨fault, (hrefused fault).mpr ⟨n, hn, hlt, houtcome⟩, hline⟩

/-- A limit that is reached. -/
theorem endsBoundedAs_of_le (hsink : machine.settings.sink ≠ .failing)
    (hfresh : machine.steps = 0) (hpos : 0 < limit) (hle : limit ≤ machine.lifetime) :
    (Run.startBounded machine).EndsBoundedAs limit (machine.StopsBy limit) := by
  obtain ⟨final, hshows, hends⟩ := Run.endsBounded_of_limit hsink hfresh hpos hle
  have hsteps : final.machine.steps = limit := by
    rw [hshows.state.steps, steps_after hsink hle, hfresh, Nat.zero_add]
  refine hends.as (stopsBy_of_ending ?_ (by rwa [hsteps]) ?_ ?_ ?_)
  · rw [hsteps, min_eq_left hle]
  · split
    · simp
    · simp
  · intro steps
    cases (machine.after limit).done with
    | true => simp
    | false => simp [hle, eq_comm]
  · intro fault
    have hnot : ∀ n : ℕ, machine.lifetime = n → ¬ n < limit := by
      intro n hn
      rwa [hn, Nat.cast_le, ← Nat.not_lt] at hle
    constructor
    · intro hending
      split at hending
      · cases hending
      · cases hending
    · rintro ⟨n, hn, hlt, _⟩
      exact absurd hlt (hnot n hn)

/-- A limit that the lifetime ends before. -/
theorem endsBoundedAs_of_lt (hsink : machine.settings.sink ≠ .failing)
    (hfresh : machine.steps = 0) (hlt : machine.lifetime < limit) :
    (Run.startBounded machine).EndsBoundedAs limit (machine.StopsBy limit) := by
  obtain ⟨n, hn⟩ := ENat.ne_top_iff_exists.mp (ne_top_of_lt hlt)
  have hnlt : n < limit := by rwa [← hn, Nat.cast_lt] at hlt
  have hhalted := (machine.lifetime_le_iff n).mp hn.ge
  have hbefore : (machine.steps + n : ℕ) < (limit : Int) := by omega
  obtain ⟨final, ending, hends, hshows, houtcome⟩ :=
    Run.endsBounded_of_lifetime hsink hn.symm (.inr hbefore)
  have hsteps : final.machine.steps = n := by
    rw [hshows.state.steps, steps_after hsink hn.le, hfresh, Nat.zero_add]
  refine hends.as (stopsBy_of_ending ?_ (by rwa [hsteps]) ?_ ?_ ?_)
  · rw [hsteps, hn, min_eq_right hlt.le]
  · rintro rfl
    rcases hhalted with hdone | ⟨fault, hrefused⟩
    · rw [(step_outcome_finished_iff _).mpr hdone] at houtcome
      cases houtcome
    · rw [hrefused] at houtcome
      cases houtcome
  · intro steps
    constructor
    · rintro rfl
      exact absurd houtcome (Run.endingOf_ne_stopped _ steps)
    · rintro ⟨⟨hle, _⟩, _⟩
      exact absurd hlt (not_lt.mpr hle)
  · intro fault
    have hiff := Run.endingOf_eq_refused_iff (machine.after n).step.outcome fault
    rw [houtcome, Option.some.injEq] at hiff
    rw [hiff]
    constructor
    · intro hrefused
      exact ⟨n, hn.symm, hnlt, hrefused⟩
    · rintro ⟨m, hm, _, hrefused⟩
      obtain rfl : n = m := Nat.cast_injective (hn.trans hm)
      exact hrefused

/-- Repeated steps, the run and the bounded run of a machine agree. -/
structure RunsAgree (machine : Machine) : Prop where
  /-- Where the machine halts, the run ends there, whatever steps are taken first. -/
  halting : ∀ n : ℕ, machine.lifetime = n → (machine.after n).steps = n ∧
    ∀ k, (Run.start (machine.after k)).EndsAs fun final ending =>
      final.machine.SameState (machine.after n) ∧
      machine.transcript k ++ final.written = machine.transcript n ∧
      Run.endingOf (machine.after n).step.outcome = some ending
  /-- Where it never halts, no run ends. -/
  endless : machine.lifetime = ⊤ →
    ∀ k final ending, ¬ (Run.start (machine.after k)).Ends final ending
  /-- A limit that is not positive is none. -/
  unlimited : ∀ limit ≤ 0, ∀ final ending,
    (Run.startBounded machine).EndsBounded limit final ending ↔
      (Run.start machine).Ends final ending
  /-- A positive limit makes every run end. -/
  limited : ∀ limit : ℕ, 0 < limit →
    (Run.startBounded machine).EndsBoundedAs limit (machine.StopsBy limit)

/-- Whatever the program and the settings, as long as snapshots can be written. -/
theorem start_runsAgree (rows : List (List Token)) (settings : Settings)
    (hsink : settings.sink ≠ .failing) : (start (.ofTokens rows) settings).RunsAgree := by
  have hlater : ∀ k, ((start (.ofTokens rows) settings).after k).settings.sink ≠ .failing := by
    intro k
    rwa [after_settings]
  refine ⟨?_, ?_, ?_, ?_⟩
  · intro n hn
    have hhalted := ((start (.ofTokens rows) settings).lifetime_le_iff n).mp hn.le
    refine ⟨(steps_after hsink hn.ge).trans (Nat.zero_add n), ?_⟩
    intro k
    -- `n` steps more than `k` are enough in any case
    obtain ⟨hrests, hsilent⟩ := hhalted.of_le (Nat.le_add_left n k)
    rw [after_add] at hrests
    obtain ⟨final, ending, hends, hshows, houtcome⟩ :=
      Run.ends_of_halted (hlater k) hrests.halted
    refine hends.as ⟨hshows.state.trans hrests.state, ?_, ?_⟩
    · rw [hshows.written, ← transcript_add, hsilent]
    · rw [← hrests.outcome, houtcome]
  · intro htop k
    apply Run.not_ends_of_lifetime_eq_top (hlater k)
    by_contra hfinite
    obtain ⟨n, hn⟩ := ENat.ne_top_iff_exists.mp hfinite
    have hhalted := (lifetime_le_iff _ n).mp hn.ge
    rw [← after_add, ← lifetime_le_iff, htop] at hhalted
    exact ENat.natCast_ne_top _ (top_le_iff.mp hhalted)
  · intro limit hlimit final ending
    exact Run.endsBounded_iff_ends hlimit _ final ending
  · intro limit hpos
    rcases le_or_gt (limit : ℕ∞) (start (.ofTokens rows) settings).lifetime with hle | hlt
    · exact endsBoundedAs_of_le hsink rfl hpos hle
    · exact endsBoundedAs_of_lt hsink rfl hlt

/-- The program whose second row is refused, run without a directive in front. -/
def strayMachine : Machine := start (.ofTokens strayBranch) { enforceGlobal := false }

theorem strayMachine_lifetime : strayMachine.lifetime = (1 : ℕ) := by
  rw [lifetime_eq_iff]
  refine ⟨.inr ⟨⟨.unknownLabel "nowhere", ⟨2, 15⟩⟩, by decide +kernel⟩, ?_⟩
  intro m hm
  obtain rfl : m = 0 := by omega
  have houtcome : (strayMachine.after 0).step.outcome = .executed false := by decide +kernel
  rintro (hdone | ⟨fault, hrefused⟩)
  · exact absurd hdone (by decide +kernel)
  · rw [houtcome] at hrefused
    cases hrefused

/-- One row can be executed: a limit of one is reached, a limit of two is not. -/
theorem strayMachine_stopped_or_refused :
    (∃ final ending, (Run.startBounded strayMachine).EndsBounded 1 final ending ∧
      ⟨.warning, "p: stopped after 1 steps"⟩ ∈ (CommandLine.endReport "p" final ending).log) ∧
    ∃ final ending, (Run.startBounded strayMachine).EndsBounded 2 final ending ∧
      CommandLine.failure "p" (Fault.message ⟨.unknownLabel "nowhere", ⟨2, 15⟩⟩) ∈
        (CommandLine.endReport "p" final ending).log := by
  have hagree : strayMachine.RunsAgree :=
    start_runsAgree strayBranch { enforceGlobal := false } (by decide)
  constructor
  · obtain ⟨⟨final, ending, hends⟩, hstops⟩ := hagree.limited 1 (by decide)
    have hwarns := ((hstops final ending hends).warns "p"
      ⟨.warning, "p: stopped after 1 steps"⟩).mpr
      ⟨⟨strayMachine_lifetime.ge, by decide +kernel⟩, by decide +kernel⟩
    exact ⟨final, ending, hends, hwarns.1⟩
  · obtain ⟨⟨final, ending, hends⟩, hstops⟩ := hagree.limited 2 (by decide)
    have hfails := ((hstops final ending hends).fails "p"
      (CommandLine.failure "p" (Fault.message ⟨.unknownLabel "nowhere", ⟨2, 15⟩⟩))).mpr
      ⟨1, _, strayMachine_lifetime, by decide, by decide +kernel, rfl⟩
    exact ⟨final, ending, hends, hfails.1⟩

end Machine

end ToyRisc
