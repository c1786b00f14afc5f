import LinkQuality.Proofs.Binary64.Whole
import LinkQuality.Proofs.Trend.Hold

/-!
# Scores by trend stay in range

A raw score is clamped between zero and the highest score. What is settled on is that score, the
score before it, or one above the transition; the last only if the score before was above the
transition as well. So no settled score leaves the range of the raw ones, whatever the transitions
of primary and secondary links are and however often they change, and one above the transition is
never more than the highest score. In particular it still is a 32-bit integer.

Before the first reading there is nothing to score by. The first reading starts the filter, and
nothing but a reset stops it: on a handover it only starts over with the next reading.

Clamping is exact in floating point, so all of this holds of the numbers the program runs on.

## Main definitions

* `Call.isReading`, `hasReading`: whether a signal strength was read since the last reset
* `TrendScorer.ClampsScores`: whether clamped numbers have integer parts in the range of scores
* `TrendScorer.Memory.IsInRange`: what holds of a memory after calls
* `TrendScorer.ComputesSafely`: whether a call neither overflows nor clamps between crossed bounds
* `TrendScorer.IsInRange`: whether a verdict is one that may be given

## Main results

* `Trend.Boundary.settle_bounds`: what is settled on
* `TrendScorer.Memory.IsInRange.step`, `TrendScorer.isInRange_stateAfter`: one call and a run
* `TrendScorer.verdicts_in_range`: every verdict with accepted settings
-/

namespace LinkQuality

/-! ### Readings since the last reset -/

/-- Whether a call hands over a signal strength. -/
def Call.isReading : Call → Bool
  | .score sample _ _ => sample.rssi?.isSome
  | .reset => false

/-- Whether a signal strength was handed over since the last reset, if there was one. -/
def hasReading (calls : List Call) : Bool :=
  (calls.reverse.takeWhile fun call => decide (call ≠ .reset)).any Call.isReading

theorem hasReading_append_singleton (calls : List Call) (call : Call) :
    hasReading (calls ++ [call]) =
      match call with
      | .score sample _ _ => sample.rssi?.isSome || hasReading calls
      | .reset => false := by
  cases call <;> simp [hasReading, Call.isReading]

namespace Trend

variable {α : Type} [Scalar α]

/-- What is settled on: the score, the one before, or one above a transition that the score before
lay above. -/
theorem Boundary.settle_cases (rules : Settings.Trend α) (boundary : Boundary) (signs : Signs α)
    (nowMs : ℕ) (transition score : ℤ) :
    let settled := boundary.settle rules signs nowMs transition score
    settled = score ∨ settled = signs.previous ∨
      (transition < signs.previous ∧ score ≤ transition ∧ settled = transition + 1) := by
  dsimp only [settle]
  split_ifs with spared held
  · exact .inr (.inr ⟨spared.1, spared.2.1, rfl⟩)
  · exact .inr (.inl rfl)
  · exact .inl rfl

/-- What is settled on lies where the score and the one before lie. -/
theorem Boundary.settle_bounds (rules : Settings.Trend α) (boundary : Boundary) (signs : Signs α)
    (nowMs : ℕ) (transition : ℤ) {lower upper score : ℤ}
    (score_bounds : lower ≤ score ∧ score ≤ upper)
    (previous_bounds : lower ≤ signs.previous ∧ signs.previous ≤ upper) :
    lower ≤ boundary.settle rules signs nowMs transition score ∧
      boundary.settle rules signs nowMs transition score ≤ upper := by
  rcases settle_cases rules boundary signs nowMs transition score with taken | kept |
    ⟨above, reaches, lifted⟩
  · rw [taken]
    exact score_bounds
  · rw [kept]
    exact previous_bounds
  · -- One above the transition is above the score, and not above the score before.
    rw [lifted]
    omega

end Trend

namespace TrendScorer

section Steps

variable {α : Type} [Scalar α] {scorer : TrendScorer α} {memory : Memory α} {sample : Sample}
  {nowMs : ℕ} {isPrimary : Bool}

/-! ### Single calls -/

/-- Whether the integer parts of clamped numbers are scores. -/
def ClampsScores (scorer : TrendScorer α) : Prop :=
  ∀ x : α, 0 ≤ Scalar.toInt32 (Scalar.clamp 0 (Scalar.ofInt scorer.settings.maxScore) x) ∧
    Scalar.toInt32 (Scalar.clamp 0 (Scalar.ofInt scorer.settings.maxScore) x) ≤
      scorer.settings.maxScore

/-- What holds of a memory after calls, given whether they had a reading. -/
structure Memory.IsInRange (scorer : TrendScorer α) (hasReading : Bool) (memory : Memory α) :
    Prop where
  hasStarted : memory.filter.hasStarted = hasReading
  score : 0 ≤ memory.score ∧ memory.score ≤ scorer.settings.maxScore

/-- Whether no 32-bit integer overflows in a call and no number is clamped between bounds that are
crossed. Only one sum of integers is taken, one above the transition, and it is taken only where the
score before lay above the transition. -/
structure ComputesSafely (scorer : TrendScorer α) (memory : Memory α) (isPrimary : Bool) :
    Prop where
  sum : scorer.transition isPrimary < memory.score →
    -0x80000000 ≤ scorer.transition isPrimary + 1 ∧ scorer.transition isPrimary + 1 ≤ 0x7FFFFFFF
  clamp : (0 : α) ≤ Scalar.ofInt scorer.settings.maxScore

/-- Whether a verdict is one that may be given on a link, depending on whether there was a
reading. -/
structure IsInRange (scorer : TrendScorer α) (isPrimary hasReading : Bool) (verdict : Verdict) :
    Prop where
  score_eq_iff : verdict.score = -1 ↔ hasReading = false
  score : hasReading = true → 0 ≤ verdict.score ∧ verdict.score ≤ scorer.settings.maxScore
  adjustedScore : 0 ≤ verdict.adjustedScore ∧ verdict.adjustedScore ≤ scorer.settings.maxScore
  isUsable_iff : verdict.isUsable = true ↔ scorer.transition isPrimary ≤ verdict.adjustedScore
  wantsBlock : verdict.wantsBlock = false

variable {hasReading : Bool}

theorem isInRange_start (nonneg : 0 ≤ scorer.settings.maxScore) :
    scorer.start.IsInRange scorer false :=
  ⟨rfl, nonneg, le_rfl⟩

/-- A call in range overflows nowhere: where the score before lay above the transition, one above
the transition is not more than the highest score. -/
theorem Memory.IsInRange.computesSafely (inRange : memory.IsInRange scorer hasReading)
    (fits : scorer.settings.maxScore ≤ 0x7FFFFFFF)
    (transition_fits : -0x80000000 ≤ scorer.transition isPrimary)
    (bounds : (0 : α) ≤ Scalar.ofInt scorer.settings.maxScore) :
    scorer.ComputesSafely memory isPrimary := by
  refine ⟨fun above => ⟨by omega, ?_⟩, bounds⟩
  have highest := inRange.score.2
  omega

variable [Exponential α]

/-- A call in range gives a verdict in range and stays in range, and its sample may be the first
reading. -/
theorem Memory.IsInRange.verdict (clamps : scorer.ClampsScores)
    (inRange : memory.IsInRange scorer hasReading) :
    let result := scorer.verdict memory sample nowMs isPrimary
    result.1.IsInRange scorer (sample.rssi?.isSome || hasReading) ∧
      scorer.IsInRange isPrimary (sample.rssi?.isSome || hasReading) result.2 := by
  intro result
  let observed := scorer.observe memory sample
  have started : observed.filter.hasStarted = (sample.rssi?.isSome || hasReading) := by
    rw [hasStarted_observe, inRange.hasStarted]
  have previous : 0 ≤ observed.score ∧ observed.score ≤ scorer.settings.maxScore := by
    rw [(score_observe scorer memory sample).1]
    exact inRange.score
  have raw : 0 ≤ scorer.rawScore observed ∧
      scorer.rawScore observed ≤ scorer.settings.maxScore := clamps _
  rw [← started]
  dsimp only [result, TrendScorer.verdict]
  split_ifs with isStarted
  · -- The score before, which was clamped as well, is what keeps the lifted one below the highest.
    have settled := Trend.Boundary.settle_bounds scorer.settings observed.boundary
      (scorer.signs observed sample) nowMs (scorer.transition isPrimary) raw previous
    have classified : scorer.rawScore observed = -1 ↔ observed.filter.hasStarted = false :=
      iff_of_false (by omega) fun stopped => Bool.false_ne_true (stopped.symm.trans isStarted)
    exact ⟨⟨rfl, settled⟩, ⟨classified, fun _ => raw, settled, decide_eq_true_iff, rfl⟩⟩
  · have notClassified : (-1 : ℤ) = -1 ↔ observed.filter.hasStarted = false :=
      iff_of_true rfl (Bool.eq_false_of_not_eq_true isStarted)
    exact ⟨⟨rfl, previous⟩,
      ⟨notClassified, fun has => absurd has isStarted, previous, decide_eq_true_iff, rfl⟩⟩

/-! ### Runs -/

theorem Memory.IsInRange.step (clamps : scorer.ClampsScores)
    (nonneg : 0 ≤ scorer.settings.maxScore) {calls : List Call}
    (inRange : memory.IsInRange scorer (LinkQuality.hasReading calls)) (call : Call) :
    (scorer.step memory call).1.IsInRange scorer (LinkQuality.hasReading (calls ++ [call])) := by
  rw [hasReading_append_singleton]
  cases call with
  | score sample nowMs isPrimary => exact (inRange.verdict clamps).1
  | reset => exact ⟨rfl, nonneg, le_rfl⟩

/-- After any calls the memory is in range. -/
theorem isInRange_stateAfter (clamps : scorer.ClampsScores)
    (nonneg : 0 ≤ scorer.settings.maxScore) (calls : List Call) :
    (stateAfter scorer.step scorer.start calls).IsInRange scorer
      (LinkQuality.hasReading calls) := by
  induction calls using List.reverseRecOn with
  | nil => exact isInRange_start nonneg
  | append_singleton calls call ih =>
    rw [stateAfter_append]
    exact ih.step clamps nonneg call

end Steps

/-! ### Accepted settings -/

/-- In floating point, clamping between zero and a highest score gives scores. -/
theorem clampsScores_float {scorer : TrendScorer Float} (nonneg : 0 ≤ scorer.settings.maxScore)
    (fits : scorer.settings.maxScore ≤ 0x7FFFFFFF) : scorer.ClampsScores :=
  Binary64.toInt32_clamp_range nonneg (by omega)

/-- With accepted settings, whose scores are 32-bit integers, and after any calls, on primary and
secondary links and with resets in between, a call on a sample computes safely and gives a verdict
in range. -/
theorem verdicts_in_range {overrides : Settings.Overrides Float} {settings : Settings Float}
    (accepted : overrides.resolve = .ok settings)
    (maxScore_fits : settings.trend.maxScore ≤ 0x7FFFFFFF)
    (transition_fits : -0x80000000 ≤ settings.trend.transitionScore)
    (secondary_fits : -0x80000000 ≤ settings.trend.secondaryTransitionScore)
    {calls : List Call} {n : ℕ} {sample : Sample} {nowMs : ℕ} {isPrimary : Bool}
    (here : calls[n]? = some (.score sample nowMs isPrimary)) :
    let scorer : TrendScorer Float := ⟨settings.trend⟩
    scorer.ComputesSafely (stateAfter scorer.step scorer.start (calls.take n)) isPrimary ∧
      ∃ verdict, (answers scorer.step scorer.start calls)[n]? = some (some verdict) ∧
        scorer.IsInRange isPrimary (hasReading (calls.take (n + 1))) verdict := by
  intro scorer
  obtain ⟨horizon, -, passes⟩ := Settings.Overrides.resolve_eq_ok_iff.mp accepted
  have nonneg : 0 ≤ scorer.settings.maxScore := passes.trendMaxScore_nonneg
  have fits : scorer.settings.maxScore ≤ 0x7FFFFFFF := maxScore_fits
  have clamps : scorer.ClampsScores := clampsScores_float nonneg fits
  have before := isInRange_stateAfter clamps nonneg (calls.take n)
  constructor
  · refine before.computesSafely fits ?_ ?_
    · cases isPrimary with
      | true => exact transition_fits
      | false => exact secondary_fits
    · exact Binary64.zero_le_ofInt nonneg (by omega)
  · -- What the call is told of readings includes the one of its own sample.
    refine ⟨_, by rw [getElem?_answers, here]; rfl, ?_⟩
    rw [List.take_add_one, here, Option.toList_some, hasReading_append_singleton]
    exact (before.verdict clamps).2

/-- A secondary link without a signal is not classified, and it is once it has had one. A reset
makes no difference to the ranges. -/
theorem verdicts_in_range_secondary :
    let settings : Settings Float := .defaults
    let scorer : TrendScorer Float := ⟨settings.trend⟩
    let calls : List Call := [.score { rssiDbm := -60 } 0 true, .reset, .score {} 3000 false,
      .score { rssiDbm := -90 } 6000 false]
    scorer.ComputesSafely (stateAfter scorer.step scorer.start (calls.take 3)) false ∧
      ∃ verdict, (answers scorer.step scorer.start calls)[3]? = some (some verdict) ∧
        scorer.IsInRange false (hasReading (calls.take 4)) verdict := by
  intro settings scorer calls
  have accepted : ({} : Settings.Overrides Float).resolve = .ok settings :=
    Settings.Overrides.resolve_eq_ok_iff.mpr ⟨.ofSeconds 15, rfl, by constructor <;> decide +kernel⟩
  exact verdicts_in_range accepted (by decide) (by decide) (by decide) (n := 3) rfl

end TrendScorer

end LinkQuality
