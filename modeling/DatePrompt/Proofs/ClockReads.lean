import DatePrompt.Proofs.Steps

/-!
# What steps have in common

The steps of a session share nothing but the clock. A step that needs to know today's date reads
the clock once, whatever comes of the step (`Step.reads_eq`), and what comes of it depends on the
date that it reads and on nothing else (`Prompt.outcomeAt_eq_on`). A step that does not need the
date can therefore be taken at any time (`Prompt.run_insertIdx`).
-/

namespace DatePrompt

namespace Step

/-- Whether the step needs to know today's date. -/
def needsToday : Step → Bool
  | submit _ reference _ | feedback _ reference | weekday _ reference => reference.isNone
  | propose | today => true
  | display _ | template => false

theorem reads_eq (step : Step) : step.reads = if step.needsToday then 1 else 0 := by
  cases step with
  | submit _ reference _ | feedback _ reference | weekday _ reference => cases reference <;> rfl
  | display | propose | today | template => rfl

/-- The clock was read as often as there were steps that need today's date. -/
theorem readsBefore_eq_countP (steps : List Step) (i : Nat) :
    readsBefore steps i = (steps.take i).countP needsToday := by
  induction steps generalizing i with
  | nil => simp
  | cons step steps ih =>
    cases i with
    | zero => rfl
    | succ i =>
      rw [readsBefore_cons_succ, List.take_succ_cons, List.countP_cons, ih, reads_eq, Nat.add_comm]

end Step

namespace Prompt

variable (p : Prompt)

/-! ## The date that a step reads -/

/-- The prompt with a clock that always shows the same date. -/
def on (today : Date) : Prompt := { p with clock := fun _ => today }

/-- A step knows of the clock only the next date. -/
theorem outcomeAt_eq_on (n : Nat) : p.outcomeAt n = (p.on (p.clock n)).outcomeAt 0 := by
  funext step
  cases step <;> rfl

theorem outcomeAt_congr_clock {clock : Clock} {m n : Nat} (h : clock m = p.clock n) :
    Prompt.outcomeAt { p with clock } m = p.outcomeAt n := by
  rw [outcomeAt_eq_on, p.outcomeAt_eq_on, ← h]
  rfl

/-- A step that does not need the date has the same outcome on any day. -/
theorem outcomeAt_of_needsToday_eq_false {step : Step} (h : step.needsToday = false) (m n : Nat) :
    p.outcomeAt m step = p.outcomeAt n step := by
  cases step with
  | submit _ reference _ | feedback _ reference | weekday _ reference =>
    cases reference with
    | none => cases h
    | some _ => rfl
  | display | template => rfl
  | propose | today => cases h

/-! ## Sessions -/

theorem run_singleton (step : Step) : p.run [step] = [p.outcomeAt 0 step] := by
  refine List.ext_getElem? fun i => ?_
  rw [getElem?_run]
  cases i <;> rfl

theorem run_cons (step : Step) (steps : List Step) :
    p.run (step :: steps) = p.outcomeAt 0 step :: (p.later step.reads).run steps := by
  rw [run, runFrom, observe_act]
  dsimp only
  rw [runFrom_eq_run_later]
  simp [Session.empty]

/-- A step that does not need the date, taken in between, leaves the other outcomes as they are. -/
theorem run_insertIdx {moved : Step} (h : moved.needsToday = false) (steps : List Step) (i : Nat) :
    p.run (steps.insertIdx i moved) = (p.run steps).insertIdx i (p.outcomeAt 0 moved) := by
  induction steps generalizing p i with
  | nil =>
    cases i with
    | zero => exact p.run_singleton moved
    | succ i => rfl
  | cons step steps ih =>
    cases i with
    | zero =>
      have hreads : moved.reads = 0 := by rw [Step.reads_eq, h]; rfl
      rw [List.insertIdx_zero, List.insertIdx_zero, run_cons, hreads, later_zero]
    | succ i =>
      -- on the day of the next step the outcome is the same
      have htoday : (p.later step.reads).outcomeAt 0 moved = p.outcomeAt 0 moved := by
        rw [outcomeAt_later]
        exact p.outcomeAt_of_needsToday_eq_false h _ _
      rw [List.insertIdx_succ_cons, run_cons, run_cons, ih, htoday, List.insertIdx_succ_cons]

end Prompt

/-- A prompt keeps nothing between the steps of a session but its place on the clock. Each step
reads the clock once if it needs today's date and never if it does not, and has the outcome that it
has alone with a clock that begins there. A step that does not need the date has the same outcome
wherever it is put in, and the others keep theirs. -/
theorem steps_share_only_clock (p : Prompt) (steps : List Step) :
    (p.run steps).length = steps.length ∧
    (∀ (i : Nat) (step : Step), steps[i]? = some step → ∃ o, (p.run steps)[i]? = some o ∧
      o.reads = (if step.needsToday then 1 else 0) ∧
      ∀ clock : Clock, clock 0 = p.clock ((steps.take i).countP Step.needsToday) →
        Prompt.run { p with clock } [step] = [o]) ∧
    ∀ moved : Step, moved.needsToday = false → ∃ o, p.run [moved] = [o] ∧
      ∀ i, p.run (steps.insertIdx i moved) = (p.run steps).insertIdx i o := by
  refine ⟨p.length_run steps, fun i step hstep => ?_, fun moved hmoved => ?_⟩
  · have hrun : (p.run steps)[i]? = some (p.outcomeAt (Step.readsBefore steps i) step) := by
      rw [Prompt.getElem?_run, hstep, Option.map_some]
    refine ⟨_, hrun, step.reads_eq, fun clock hclock => ?_⟩
    rw [← Step.readsBefore_eq_countP] at hclock
    rw [Prompt.run_singleton, p.outcomeAt_congr_clock hclock]
  · exact ⟨_, p.run_singleton moved, p.run_insertIdx hmoved steps⟩

/-- No ninth day of the week is found, but the clock was read: what is proposed is the second date,
also when it is proposed alone, and also when another date is displayed before. -/
theorem steps_share_only_clock_leap_day :
    ∃ (clock : Clock) (failed o : Outcome),
      (Prompt.run ⟨Format.german, clock, true, some .debug⟩ [.weekday 9 none, .propose])[0]? =
        some failed ∧
      failed.answer = .error (.weekday (.outside 9)) ∧ failed.reads = 1 ∧
      (Prompt.run ⟨Format.german, clock, true, some .debug⟩ [.weekday 9 none, .propose])[1]? =
        some o ∧
      o.events = [.datePrinted "2016-02-29" "29.02.16"] ∧
      Prompt.run ⟨Format.german, fun _ => ⟨2016, 2, 29, by decide⟩, true, some .debug⟩
        [.propose] = [o] ∧
      (Prompt.run ⟨Format.german, clock, true, some .debug⟩
        [.weekday 9 none, .display .first, .propose])[2]? = some o := by
  obtain ⟨-, hsteps, hmoved⟩ := steps_share_only_clock
    ⟨Format.german, Clock.ofList .first [⟨2016, 2, 29, by decide⟩], true, some .debug⟩
    [.weekday 9 none, .propose]
  obtain ⟨failed, hfailed, hreads, -⟩ := hsteps 0 _ rfl
  obtain ⟨o, ho, -, halone⟩ := hsteps 1 _ rfl
  obtain ⟨o', -, hinsert⟩ := hmoved (.display .first) rfl
  refine ⟨_, failed, o, hfailed, ?_, hreads, ho, ?_, halone _ rfl, ?_⟩
  · rw [Prompt.getElem?_run] at hfailed
    rw [← Option.some.inj hfailed]
    rfl
  · rw [Prompt.getElem?_run] at ho
    rw [← Option.some.inj ho]
    decide +kernel
  · have hrun := hinsert 1
    change Prompt.run _ [.weekday 9 none, .display .first, .propose] = _ at hrun
    rw [hrun, List.getElem?_insertIdx_of_gt (by decide), ho]

end DatePrompt
