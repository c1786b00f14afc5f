import LinkQuality.Proofs.Binary64.Operations
import LinkQuality.Proofs.Settings.Accepted
import LinkQuality.Proofs.Trend.Observe

/-!
# How far the exit level shifts

The exit level shifts by half a decibel at a time, downwards, and only on a reading. Whether it has
shifted too far is asked before it shifts, not after: at exactly seven decibels it shifts once more,
and then no further. So it has shifted by at most fifteen steps, and while the shift itself goes
past the limit by half a decibel, what is rounded to whole decibels does not.

All of this is exact in floating point. There are sixteen shifts, each a number of halves, and an
exit level of 32 bits leaves room for whole decibels.

Roams leave the shift as it is, and take it along to the levels of the next link. Only a reset takes
it back.

## Main definitions

* `TrendScorer.shiftAfter`: the shift after a number of steps
* `Call.ShiftsTo`: what a call may do to the number of steps
* `TrendScorer.ShiftsByHalves`: whether settings are such as accepted ones are
* `TrendScorer.Memory.IsShifted`: the shift and the exit level after a number of steps

## Main results

* `TrendScorer.shiftDb_verdict`: what a verdict does to the shift
* `TrendScorer.exists_shiftAfter_step`, `TrendScorer.exists_shiftAfter_stateAfter`: one call, and
  a run of calls
* `TrendScorer.shift_bounded`: the shift and the exit level after any calls
-/

namespace LinkQuality

/-- Whether a call may leave the exit level shifted by a later number of steps. -/
def Call.ShiftsTo (steps later : ℕ) : Call → Prop
  | .score sample _ _ => later = steps ∨ sample.rssi?.isSome = true ∧ later = steps + 1
  | .reset => later = 0

namespace TrendScorer

section Steps

variable {α : Type} [Scalar α] {scorer : TrendScorer α} {memory : Memory α}

/-- How far the exit level has shifted after a number of steps. -/
def shiftAfter (scorer : TrendScorer α) (steps : ℕ) : α :=
  (fun shiftDb => shiftDb - scorer.settings.shiftStepDb)^[steps] 0

theorem shiftAfter_succ (scorer : TrendScorer α) (steps : ℕ) :
    scorer.shiftAfter (steps + 1) = scorer.shiftAfter steps - scorer.settings.shiftStepDb :=
  Function.iterate_succ_apply' _ _ _

/-- The exit level shifts only if it has not shifted too far yet. -/
theorem not_lt_of_mayShift (may : scorer.mayShift memory = true) :
    ¬ memory.shiftDb < -scorer.settings.maxShiftDb := by
  simp only [mayShift, Bool.and_eq_true, Bool.not_eq_true', decide_eq_false_iff_not] at may
  exact may.1.1.1

variable [Exponential α]

/-- A verdict leaves the shift or takes it a step further, the latter only on a reading and if it
has not gone too far yet. -/
theorem shiftDb_verdict (scorer : TrendScorer α) (memory : Memory α) (sample : Sample) (nowMs : ℕ)
    (isPrimary : Bool) :
    let later := (scorer.verdict memory sample nowMs isPrimary).1
    later.shiftDb = memory.shiftDb ∨
      sample.rssi?.isSome = true ∧ ¬ memory.shiftDb < -scorer.settings.maxShiftDb ∧
        later.shiftDb = memory.shiftDb - scorer.settings.shiftStepDb := by
  intro later
  -- Only what is observed shifts the level; scores and probes come after that.
  have sameShift : later.shiftDb = (scorer.observe memory sample).shiftDb := by
    dsimp only [later, verdict]
    split_ifs <;> rfl
  rw [sameShift]
  cases reading : sample.rssi? with
  | none => simp [observe_of_no_reading reading, count]
  | some rssi =>
    rw [observe_of_reading reading]
    have unread : (scorer.read memory sample rssi).shiftDb = memory.shiftDb := by
      simp [read, count]
    rcases shift_cases scorer (scorer.read memory sample rssi) with same | ⟨may, shifted⟩
    · exact .inl ((congrArg Memory.shiftDb same).trans unread)
    · refine .inr ⟨rfl, ?_, ?_⟩
      · exact unread ▸ not_lt_of_mayShift may
      · rw [shifted, unread]

/-- A call leaves the exit level shifted by a number of steps that is allowed, if a shift by all of
them is too far for another one. -/
theorem exists_shiftAfter_step {limit steps : ℕ}
    (tooFar : scorer.shiftAfter limit < -scorer.settings.maxShiftDb) (call : Call)
    (atMost : steps ≤ limit) (shifted : memory.shiftDb = scorer.shiftAfter steps) :
    ∃ later ≤ limit, (scorer.step memory call).1.shiftDb = scorer.shiftAfter later ∧
      call.ShiftsTo steps later := by
  cases call with
  | reset => exact ⟨0, Nat.zero_le _, rfl, rfl⟩
  | score sample nowMs isPrimary =>
    rcases shiftDb_verdict scorer memory sample nowMs isPrimary with same |
      ⟨reading, near, further⟩
    · exact ⟨steps, atMost, same.trans shifted, .inl rfl⟩
    · -- At the limit the shift is too far already, and would not have gone further.
      have notLast : steps ≠ limit := by
        rintro rfl
        exact near (shifted ▸ tooFar)
      refine ⟨steps + 1, by omega, ?_, .inr ⟨reading, rfl⟩⟩
      rw [shiftAfter_succ, ← shifted]
      exact further

/-- After any calls the exit level has shifted by a number of steps that is allowed. -/
theorem exists_shiftAfter_stateAfter {limit : ℕ}
    (tooFar : scorer.shiftAfter limit < -scorer.settings.maxShiftDb) (calls : List Call) :
    ∃ steps ≤ limit,
      (stateAfter scorer.step scorer.start calls).shiftDb = scorer.shiftAfter steps := by
  induction calls using List.reverseRecOn with
  | nil => exact ⟨0, Nat.zero_le _, rfl⟩
  | append_singleton calls call ih =>
    obtain ⟨steps, atMost, shifted⟩ := ih
    obtain ⟨later, laterAtMost, laterShifted, -⟩ :=
      exists_shiftAfter_step tooFar call atMost shifted
    rw [stateAfter_append]
    exact ⟨later, laterAtMost, laterShifted⟩

end Steps

/-! ### Halves of a decibel -/

open Binary64

/-- Whether the exit level shifts by half a decibel until it has shifted by more than seven, and has
32 bits on every band. -/
structure ShiftsByHalves (scorer : TrendScorer Float) : Prop where
  shiftStepDb : scorer.settings.shiftStepDb = 0.5
  maxShiftDb : scorer.settings.maxShiftDb = 7
  exitDbm : ∀ band, -0x80000000 ≤ (scorer.settings.levels.ofBand band).exitDbm ∧
    (scorer.settings.levels.ofBand band).exitDbm ≤ 0x7FFFFFFF

/-- Whether the exit level has shifted by a number of half decibels, at most fifteen, and is then a
whole number of decibels, at most seven below the level of the present band. -/
structure Memory.IsShifted (scorer : TrendScorer Float) (halves : ℕ) (memory : Memory Float) :
    Prop where
  halves_le : halves ≤ 15
  shiftDb : HasValue memory.shiftDb (-(halves / 2))
  exitLevel : ∃ level : ℤ, HasValue (scorer.exitLevel memory) level ∧
    (scorer.levels memory).exitDbm - 7 ≤ level ∧ level ≤ (scorer.levels memory).exitDbm

variable {scorer : TrendScorer Float}

/-- Halves are exact, and fifteen of them are too far for another one. -/
theorem ShiftsByHalves.shiftAfter (shifts : scorer.ShiftsByHalves) :
    (∀ halves ≤ 15, HasValue (scorer.shiftAfter halves) (-(halves / 2)) ∧
      HasValue (roundHalfUp (scorer.shiftAfter halves)) (-(halves / 2 : ℕ) : ℤ)) ∧
    scorer.shiftAfter 15 < -scorer.settings.maxShiftDb := by
  unfold TrendScorer.shiftAfter HasValue
  rw [shifts.shiftStepDb, shifts.maxShiftDb]
  decide +kernel

/-- What a memory holds after a number of steps that is allowed. -/
theorem ShiftsByHalves.isShifted (shifts : scorer.ShiftsByHalves) {memory : Memory Float}
    {halves : ℕ} (atMost : halves ≤ 15) (shifted : memory.shiftDb = scorer.shiftAfter halves) :
    memory.IsShifted scorer halves := by
  obtain ⟨value, rounded⟩ := shifts.shiftAfter.1 halves atMost
  -- Fifteen halves are seven whole decibels, as the last half is rounded up.
  have fits := shifts.exitDbm (memory.accessPoint?.bind AccessPoint.band)
  have level : HasValue (scorer.exitLevel memory)
      ((scorer.levels memory).exitDbm + -(halves / 2 : ℕ) : ℤ) := by
    rw [exitLevel, shifted]
    refine (hasValue_ofInt ?_).add_intCast rounded ?_
    · exact abs_lt.mpr ⟨by unfold levels; omega, by unfold levels; omega⟩
    · exact abs_lt.mpr ⟨by unfold levels; omega, by unfold levels; omega⟩
  exact ⟨atMost, shifted ▸ value, _, level, by omega, by omega⟩

/-- Accepted settings shift the exit level by half a decibel, if its levels are 32-bit integers. -/
theorem shiftsByHalves_of_accepted {overrides : Settings.Overrides Float}
    {settings : Settings Float} (accepted : overrides.resolve = .ok settings)
    (fits : ∀ band, -0x80000000 ≤ (settings.trend.levels.ofBand band).exitDbm ∧
      (settings.trend.levels.ofBand band).exitDbm ≤ 0x7FFFFFFF) :
    ShiftsByHalves ⟨settings.trend⟩ := by
  obtain ⟨horizon, rfl, -⟩ := Settings.Overrides.resolve_eq_ok_iff.mp accepted
  exact ⟨rfl, rfl, fits⟩

/-- With accepted settings, whose levels are 32-bit integers, and after any calls, the exit level
has shifted by at most fifteen halves of a decibel, and in whole decibels by at most seven. One more
call leaves the shift, or takes it half a decibel further if its sample has a reading, unless it is
a reset: then nothing of it is left. -/
theorem shift_bounded {overrides : Settings.Overrides Float} {settings : Settings Float}
    (accepted : overrides.resolve = .ok settings)
    (fits : ∀ band, -0x80000000 ≤ (settings.trend.levels.ofBand band).exitDbm ∧
      (settings.trend.levels.ofBand band).exitDbm ≤ 0x7FFFFFFF) (calls : List Call) :
    let scorer : TrendScorer Float := ⟨settings.trend⟩
    let memory := stateAfter scorer.step scorer.start calls
    ∃ halves, memory.IsShifted scorer halves ∧ ∀ call, ∃ later,
      (scorer.step memory call).1.IsShifted scorer later ∧ call.ShiftsTo halves later := by
  intro scorer memory
  have shifts : scorer.ShiftsByHalves := shiftsByHalves_of_accepted accepted fits
  have tooFar := shifts.shiftAfter.2
  obtain ⟨halves, atMost, shifted⟩ := exists_shiftAfter_stateAfter tooFar calls
  refine ⟨halves, shifts.isShifted atMost shifted, ?_⟩
  intro call
  obtain ⟨later, laterAtMost, laterShifted, follows⟩ :=
    exists_shiftAfter_step tooFar call atMost shifted
  exact ⟨later, shifts.isShifted laterAtMost laterShifted, follows⟩

/-- A busy link that is heard weakly may shift the exit level, a roam takes the shift to another
band, and after a reset there is none. -/
theorem shift_bounded_roam :
    let settings : Settings Float := .defaults
    let scorer : TrendScorer Float := ⟨settings.trend⟩
    let on (frequencyMhz : ℕ) (timestampMs : ℕ) (packets : ℕ) : Call :=
      let counters : Counters := { txSuccess := packets, rxSuccess := packets }
      .score { timestampMs, accessPoint := ⟨.zero, frequencyMhz⟩, rssiDbm := -85, counters }
        timestampMs true
    let memory := stateAfter scorer.step scorer.start
      [on 2412 0 0, on 2412 3000 30, on 2412 6000 60, on 5180 9000 90]
    ∃ halves, memory.IsShifted scorer halves ∧ ∀ call, ∃ later,
      (scorer.step memory call).1.IsShifted scorer later ∧ call.ShiftsTo halves later := by
  intro settings scorer on memory
  refine shift_bounded Settings.Overrides.resolve_empty ?_ _
  rintro (_ | _ | _ | _) <;> decide

end TrendScorer

end LinkQuality
