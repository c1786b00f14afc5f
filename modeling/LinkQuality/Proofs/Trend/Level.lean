import LinkQuality.Proofs.Trend.Observe
import LinkQuality.Proofs.Trend.Rest

/-!
# Scores of a link at rest

While the filter rests at a signal strength, the trend leads nowhere and the score is the distance
of that strength from the exit level, counted from the transition and kept to the range of scores.
So a reading of the same strength moves the score only if the exit level shifts.

It shifts by half a decibel and is rounded to whole ones, so one call moves it by at most one. And
it only shifts while it is less than two decibels below the signal, so no shift takes the score
further than to two above the transition. Without successes in both directions it does not shift.

## Main definitions

* `TrendScorer.nearestScore`: the score nearest to a whole number
* `TrendScorer.Memory.RestsAt`: whether a memory rests at a signal strength
* `TrendScorer.Rises`: how the raw score of one memory compares to that of a later one

## Main results

* `TrendScorer.rawScore_of_restsAt`: the score of a link at rest
* `TrendScorer.Memory.RestsAt.rises_shift`: what a shift does to it
* `TrendScorer.Memory.RestsAt.observe`, `TrendScorer.Memory.RestsAt.verdict`: a reading of the same
  strength, and the verdict on it
* `TrendScorer.isWorking_eq_false_of_isIdle`: a link without traffic in a direction does not work
-/

namespace LinkQuality

variable {K : Type} [Field K] [LinearOrder K] [FloorRing K]

namespace TrendScorer

/-- The score nearest to a whole number. -/
def nearestScore {α : Type} (scorer : TrendScorer α) (x : ℤ) : ℤ :=
  max 0 (min scorer.settings.maxScore x)

theorem nearestScore_mono {α : Type} {scorer : TrendScorer α} {x y : ℤ} (le : x ≤ y) :
    scorer.nearestScore x ≤ scorer.nearestScore y :=
  max_le_max le_rfl (min_le_min le_rfl le)

variable {scorer : TrendScorer (Exact K)} {memory : Memory (Exact K)} {last sample : Sample}
  {nowMs : ℕ} {isPrimary : Bool} {rssi level : ℤ}

/-- Whether settings are such as accepted ones are: with variances that can be, an exit level that
shifts by half a decibel, and a highest score that can be told. -/
structure IsProper (scorer : TrendScorer (Exact K)) : Prop where
  noise : scorer.noise.IsProper
  shiftStepDb : scorer.settings.shiftStepDb = .number (1 / 2)
  maxScore_nonneg : 0 ≤ scorer.settings.maxScore
  maxScore_fits : scorer.settings.maxScore ≤ 0x7FFFFFFF

/-- Whether a memory rests at a signal strength, after a last sample. -/
structure Memory.RestsAt (rssi : ℤ) (last : Sample) (memory : Memory (Exact K)) : Prop where
  filter : memory.filter.RestsAt (rssi : K)
  lastReadingMs : memory.lastReadingMs = some last.timestampMs
  accessPoint? : memory.accessPoint? = some last.accessPoint
  shiftDb : ∃ shift : K, memory.shiftDb = .number shift

/-- Whether a later memory has a raw score that is not lower, and higher only by as much as a link
near the exit level or below it can gain while it works. -/
structure Rises (scorer : TrendScorer (Exact K)) (memory later : Memory (Exact K)) : Prop where
  rawScore_le : scorer.rawScore memory ≤ scorer.rawScore later
  le_max : scorer.rawScore later ≤
    max (scorer.rawScore memory) (scorer.nearestScore (scorer.settings.transitionScore + 2))
  eq_of_idle : scorer.isWorking later = false → scorer.rawScore later = scorer.rawScore memory

/-! ### The exit level -/

/-- A shift leaves a memory at rest. -/
theorem Memory.RestsAt.shift (rests : memory.RestsAt rssi last) (proper : scorer.IsProper) :
    (scorer.shift memory).RestsAt rssi last := by
  obtain ⟨shift, isNumber⟩ := rests.shiftDb
  rcases shift_cases scorer memory with same | ⟨-, shifted⟩
  · rw [same]
    exact rests
  · rw [shifted]
    refine ⟨rests.filter, rests.lastReadingMs, rests.accessPoint?, shift - 1 / 2, ?_⟩
    rw [isNumber, proper.shiftStepDb, Exact.number_sub]

theorem exitLevel_number (scorer : TrendScorer (Exact K)) {shift : K}
    (isNumber : memory.shiftDb = .number shift) :
    scorer.exitLevel memory =
      .number (((scorer.levels memory).exitDbm + ⌊shift + 1 / 2⌋ : ℤ) : K) := by
  rw [exitLevel, isNumber, roundHalfUp, Exact.half_eq, Exact.number_add, Exact.whole_number,
    Exact.ofInt_eq, Exact.number_add, Int.cast_add]
  rfl

section Level

variable [IsStrictOrderedRing K]

/-- The score at rest is the distance from the exit level, counted from the transition. -/
theorem rawScore_of_restsAt (proper : scorer.IsProper)
    (rests : memory.filter.RestsAt (rssi : K))
    (atLevel : scorer.exitLevel memory = .number (level : K)) :
    scorer.rawScore memory =
      scorer.nearestScore (rssi - level + scorer.settings.transitionScore) := by
  have ahead : memory.filter.ahead scorer.settings.horizon.seconds = .number (rssi : K) := by
    rw [Trend.Filter.ahead, rests.value, rests.velocity, Exact.seconds_eq, Exact.number_mul,
      Exact.number_add, zero_mul, add_zero]
  have worst : Scalar.lesser (Exact.number (rssi : K)) (.number rssi) = .number (rssi : K) := by
    rw [Exact.lesser_number, min_self]
  have distance : Exact.number (rssi : K) - .number (level : K) +
      Scalar.ofInt scorer.settings.transitionScore =
        .number ((rssi - level + scorer.settings.transitionScore : ℤ) : K) := by
    simp
  dsimp only [rawScore]
  rw [ahead, rests.value, worst, Exact.whole_number, Exact.wholePart_intCast, atLevel, distance,
    Exact.toInt32_clamp_intCast proper.maxScore_nonneg proper.maxScore_fits]
  rfl

/-- A shift is of at most one decibel in whole numbers, and is taken only less than two decibels
above the exit level. -/
theorem Memory.RestsAt.rises_shift (rests : memory.RestsAt rssi last) (proper : scorer.IsProper) :
    scorer.Rises memory (scorer.shift memory) := by
  obtain ⟨shift, isNumber⟩ := rests.shiftDb
  rcases shift_cases scorer memory with same | ⟨may, shifted⟩
  · rw [same]
    exact ⟨le_rfl, le_max_left _ _, fun _ => rfl⟩
  · obtain ⟨near, working⟩ := of_mayShift may
    have atLevel := exitLevel_number scorer isNumber
    have atLater : scorer.exitLevel (scorer.shift memory) =
        .number (((scorer.levels memory).exitDbm + ⌊shift - 1 / 2 + 1 / 2⌋ : ℤ) : K) := by
      rw [shifted]
      refine exitLevel_number scorer ?_
      rw [isNumber, proper.shiftStepDb, Exact.number_sub]
    -- Half a decibel moves the nearest whole number by at most one.
    have falls : ⌊shift - 1 / 2 + 1 / 2⌋ ≤ ⌊shift + 1 / 2⌋ := Int.floor_le_floor (by linarith)
    have fallsByOne : ⌊shift + 1 / 2⌋ ≤ ⌊shift - 1 / 2 + 1 / 2⌋ + 1 := by
      rw [← Int.floor_add_one]
      exact Int.floor_le_floor (by linarith)
    have weak : rssi < (scorer.levels memory).exitDbm + ⌊shift + 1 / 2⌋ + 2 := by
      have two : (2 : Exact K) = .number 2 := Exact.ofNat_eq 2
      rw [atLevel, rests.filter.value, two, Exact.number_add, Exact.number_le_number] at near
      exact_mod_cast not_le.mp near
    have score := rawScore_of_restsAt proper rests.filter atLevel
    have laterScore := rawScore_of_restsAt proper (rests.shift proper).filter atLater
    constructor
    · rw [score, laterScore]
      exact nearestScore_mono (by omega)
    · rw [laterScore]
      exact le_max_of_le_right (nearestScore_mono (by omega))
    · intro idle
      rw [shifted] at idle
      exact absurd (idle.symm.trans working) Bool.false_ne_true

end Level

/-- A link that shows no successes in a direction does not work, if working takes any. -/
theorem isWorking_eq_false_of_isIdle {direction : Trend.Direction}
    (idle : memory.meter.rates.IsIdle direction) (takesAny : 0 < scorer.settings.minSuccessRate) :
    scorer.isWorking memory = false := by
  rcases idle with none | lost
  · -- The rate is below the least one that is asked for.
    cases direction with
    | tx =>
      change memory.meter.rates.txSuccess = _ at none
      rw [Exact.zero_eq, ← none] at takesAny
      simp [isWorking, takesAny]
    | rx =>
      change memory.meter.rates.rxSuccess = _ at none
      rw [Exact.zero_eq, ← none] at takesAny
      simp [isWorking, takesAny]
  · -- Without a rate of successes there is no share of them.
    have noShare : memory.meter.rates.successProbability? = none := by
      rw [Trend.Rates.successProbability?, lost, Exact.undefined_add, Exact.undefined_add]
      exact if_neg fun positive => nomatch positive
    simp [isWorking, noShare]

/-! ### Readings of the same strength -/

variable [Exponential (Exact K)]

/-- The verdict on a sample after which a memory rests: its score is that of the memory, which is
that of what was observed. -/
theorem Memory.RestsAt.verdict (rests : (scorer.observe memory sample).RestsAt rssi sample) :
    let result := scorer.verdict memory sample nowMs isPrimary
    result.1.RestsAt rssi sample ∧ result.2.score = scorer.rawScore result.1 ∧
      ∀ earlier, scorer.Rises earlier (scorer.observe memory sample) →
        scorer.Rises earlier result.1 := by
  intro result
  obtain ⟨boundary, score, remembered, scored⟩ :=
    verdict_of_hasStarted nowMs isPrimary rests.filter.hasStarted
  rw [scored, remembered]
  exact ⟨⟨rests.filter, rests.lastReadingMs, rests.accessPoint?, rests.shiftDb⟩, rfl,
    fun earlier rises => ⟨rises.rawScore_le, rises.le_max, rises.eq_of_idle⟩⟩

variable [IsStrictOrderedRing K]

/-- The first reading of a connection is where the filter rests. -/
theorem restsAt_read_start (proper : scorer.IsProper) :
    (scorer.read scorer.start sample rssi).RestsAt rssi sample := by
  have attended : attend scorer.start sample.accessPoint =
      { scorer.start with accessPoint? := some sample.accessPoint } := if_neg nofun
  rw [read, count, attended]
  exact ⟨Trend.Filter.restsAt_start proper.noise, rfl, rfl, 0, Exact.zero_eq⟩

/-- A reading of the same strength on the same link leaves a memory at rest, and its score as it
was. -/
theorem Memory.RestsAt.read (rests : memory.RestsAt rssi last) (proper : scorer.IsProper)
    (sameLink : last.accessPoint = sample.accessPoint)
    (inOrder : last.timestampMs ≤ sample.timestampMs) :
    (scorer.read memory sample rssi).RestsAt rssi sample ∧
      scorer.rawScore (scorer.read memory sample rssi) = scorer.rawScore memory := by
  obtain ⟨shift, isNumber⟩ := rests.shiftDb
  have attended : attend memory sample.accessPoint = memory :=
    if_pos (rests.accessPoint?.trans (congrArg some sameLink))
  have elapsed : (Scalar.ofNat (sample.timestampMs - last.timestampMs) / 1000 : Exact K) =
      .number (((sample.timestampMs - last.timestampMs : ℕ) : K) / 1000) := by
    have divisor : (1000 : K) ≠ 0 := by norm_num
    rw [Exact.scalarOfNat_eq, Exact.ofNat_eq 1000, Exact.number_div divisor]
  -- The filter goes on, since it has started and time does not run backwards.
  have filter : (scorer.filterAfter memory rssi sample.timestampMs).RestsAt (rssi : K) := by
    unfold filterAfter
    rw [rests.lastReadingMs]
    dsimp only
    rw [if_pos ⟨rests.filter.hasStarted, inOrder⟩, elapsed]
    exact rests.filter.update proper.noise (by positivity)
  have later : (scorer.read memory sample rssi).RestsAt rssi sample := by
    rw [TrendScorer.read, count, attended]
    exact ⟨filter, rfl, rests.accessPoint?.trans (congrArg some sameLink), shift, isNumber⟩
  refine ⟨later, ?_⟩
  -- The exit level comes from the link and the shift, and a reading changes neither.
  have sameLevel : scorer.exitLevel (scorer.read memory sample rssi) = scorer.exitLevel memory := by
    rw [TrendScorer.read, count, attended]
    rfl
  rw [exitLevel_number scorer isNumber] at sameLevel
  rw [rawScore_of_restsAt proper later.filter sameLevel,
    rawScore_of_restsAt proper rests.filter (exitLevel_number scorer isNumber)]

/-- With the filter at rest, a reading of the same strength on the same link only raises the score,
by a shift. -/
theorem Memory.RestsAt.observe (rests : memory.RestsAt rssi last) (proper : scorer.IsProper)
    (sameLink : last.accessPoint = sample.accessPoint) (reading : sample.rssi? = some rssi)
    (inOrder : last.timestampMs ≤ sample.timestampMs) :
    (scorer.observe memory sample).RestsAt rssi sample ∧
      scorer.Rises memory (scorer.observe memory sample) := by
  obtain ⟨atRest, sameScore⟩ := rests.read proper sameLink inOrder
  have rises := atRest.rises_shift proper
  rw [observe_of_reading reading]
  refine ⟨atRest.shift proper, ?_, ?_, ?_⟩
  · exact sameScore ▸ rises.rawScore_le
  · exact sameScore ▸ rises.le_max
  · exact sameScore ▸ rises.eq_of_idle

end TrendScorer

end LinkQuality
