import LinkQuality.Proofs.Forest.Handover

/-!
# The two scores of a call

Each call has a raw score and an adjusted one, which the verdict reports without their fractions. A
call that is not classified has the mark of an unclassified sample in place of both. All other
scores lie in their ranges: the raw score between zero and a hundred, the adjusted score between
zero and one more than the highest score, for it may be kept off the transition score after it was
cut.

A bad link is given the score below the threshold, so the bounds of the threshold are those of the
raw scores, one higher.

## Main definitions

* `ForestScorer.rawScore`, `ForestScorer.adjustedScore`: the scores of a call
* `ForestScorer.isClassified`, `ForestScorer.standingAfter`: whether there are any, and the standing
  that they lead to
* `ForestScorer.AreInRange`, `Verdict.IsInRange`: the ranges of scores, and of what is reported

## Main results

* `ForestScorer.verdict_eq`: a call in terms of its scores
* `ForestScorer.scores_in_range`: the scores along a run
-/

namespace LinkQuality

namespace ForestScorer

section Calls

variable {α : Type} [Scalar α] [Undefined α] [SquareRoot α]

/-- The raw score of a call. There is none for a secondary link. -/
def rawScore (scorer : ForestScorer α) (memory : Memory α) (sample : Sample) (isPrimary : Bool) :
    α :=
  if isPrimary then (scorer.score memory.history sample (memory.isFollowedBy sample)).2
  else unclassified

/-- Whether a call has a score. -/
def isClassified (scorer : ForestScorer α) (memory : Memory α) (sample : Sample)
    (isPrimary : Bool) : Bool :=
  !(scorer.rawScore memory sample isPrimary == unclassified)

/-- The standing after a call. It is moved by the raw score, if there is one. -/
def standingAfter (scorer : ForestScorer α) (memory : Memory α) (sample : Sample) (nowMs : ℕ)
    (isPrimary : Bool) : Standing α :=
  if scorer.isClassified memory sample isPrimary then
    scorer.adjust memory.standing (scorer.rawScore memory sample isPrimary)
      (memory.isFollowedBy sample) sample.rssi? nowMs
  else memory.standing

/-- The adjusted score of a call. -/
def adjustedScore (scorer : ForestScorer α) (memory : Memory α) (sample : Sample) (nowMs : ℕ)
    (isPrimary : Bool) : α :=
  if scorer.isClassified memory sample isPrimary then
    (scorer.standingAfter memory sample nowMs isPrimary).score
  else unclassified

variable {scorer : ForestScorer α} {memory : Memory α} {sample : Sample} {nowMs : ℕ}
  {isPrimary : Bool}

/-- A call that is not classified leaves the standing as it was. -/
theorem standingAfter_of_not_classified
    (unclassified : scorer.isClassified memory sample isPrimary = false) :
    scorer.standingAfter memory sample nowMs isPrimary = memory.standing := by
  rw [standingAfter, unclassified, if_neg Bool.false_ne_true]

theorem standingAfter_of_classified
    (classified : scorer.isClassified memory sample isPrimary = true) :
    scorer.standingAfter memory sample nowMs isPrimary =
      scorer.adjust memory.standing (scorer.rawScore memory sample isPrimary)
        (memory.isFollowedBy sample) sample.rssi? nowMs := by
  rw [standingAfter, classified, if_pos rfl]

theorem adjustedScore_of_classified
    (classified : scorer.isClassified memory sample isPrimary = true) :
    scorer.adjustedScore memory sample nowMs isPrimary =
      (scorer.standingAfter memory sample nowMs isPrimary).score := by
  rw [adjustedScore, classified, if_pos rfl]

theorem isClassified_secondary (marked : ((unclassified : α) == unclassified) = true) :
    scorer.isClassified memory sample false = false := by
  simp [isClassified, rawScore, marked]

/-- A verdict reports the two scores and what the standing after them recommends. -/
theorem verdict_eq (scorer : ForestScorer α) (memory : Memory α) (sample : Sample) (nowMs : ℕ)
    (isPrimary : Bool) :
    (scorer.verdict memory sample nowMs isPrimary).1.standing =
        scorer.standingAfter memory sample nowMs isPrimary ∧
      ∃ wantsProbe, (scorer.verdict memory sample nowMs isPrimary).2 =
        verdictOf (scorer.standingAfter memory sample nowMs isPrimary)
          (scorer.rawScore memory sample isPrimary)
          (scorer.adjustedScore memory sample nowMs isPrimary) wantsProbe := by
  unfold adjustedScore standingAfter isClassified rawScore verdict Memory.isFollowedBy
  cases isPrimary with
  | true =>
    simp only [if_true]
    by_cases marked : ((scorer.score memory.history sample
        (memory.accessPoint?.all fun point => point == sample.accessPoint)).2 ==
          unclassified) = true
    · simp [marked]
    · simp [marked]
  | false =>
    -- Both cases are needed, for a scalar need not equal itself.
    by_cases marked : ((unclassified : α) == unclassified) = true
    · simp [marked]
    · simp [marked]

/-- A scoring call leads to the standing that its score leads to. -/
theorem standing_step_score (scorer : ForestScorer α) (memory : Memory α) (sample : Sample)
    (nowMs : ℕ) (isPrimary : Bool) :
    (scorer.step memory (.score sample nowMs isPrimary)).1.standing =
      scorer.standingAfter memory sample nowMs isPrimary :=
  (verdict_eq scorer memory sample nowMs isPrimary).1

end Calls

/-! ### Ranges -/

variable {K : Type} [Field K] [LinearOrder K] [FloorRing K]

/-- The ranges of a raw score and of the adjusted score that belongs to it. -/
structure AreInRange (rules : Settings.Hysteresis (Exact K)) (raw adjusted : Exact K) : Prop where
  raw_range : raw = unclassified ∨ 0 ≤ raw ∧ raw ≤ 100
  adjusted_range : adjusted = unclassified ∨ 0 ≤ adjusted ∧ adjusted ≤ rules.maxScore + 1
  unclassified_iff : raw = unclassified ↔ adjusted = unclassified
  whole_ne : Scalar.whole .towardZero adjusted ≠ Scalar.whole .towardZero rules.transitionScore

end ForestScorer

/-- The ranges of the scores that a verdict reports. -/
structure Verdict.IsInRange {K : Type} [Field K] [LinearOrder K] [FloorRing K]
    (rules : Settings.Hysteresis (Exact K)) (verdict : Verdict) : Prop where
  score_range : verdict.score = -1 ∨ 0 ≤ verdict.score ∧ verdict.score ≤ 100
  adjusted_range : verdict.adjustedScore = -1 ∨
    0 ≤ verdict.adjustedScore ∧ Scalar.ofInt verdict.adjustedScore ≤ rules.maxScore + 1
  unclassified_iff : verdict.score = -1 ↔ verdict.adjustedScore = -1

namespace ForestScorer

variable {K : Type} [Field K] [LinearOrder K] [FloorRing K] [IsStrictOrderedRing K]
  {rules : Settings.Hysteresis (Exact K)}

/-- A number that is not negative is no mark. -/
theorem number_ne_unclassified {x : K} (nonneg : 0 ≤ x) :
    (.number x : Exact K) ≠ unclassified := by
  rw [unclassified_eq]
  intro equal
  have : x = -1 := Exact.number.inj equal
  linarith

theorem wholePart_mark : Exact.wholePart (-1 : K) .towardZero = -1 := by
  rw [Exact.wholePart, if_neg (by linarith), Int.ceil_neg, Int.floor_one]

/-- Two marks are in range. Their whole part is negative, unlike that of the transition score. -/
theorem areInRange_unclassified (proper : rules.IsProper) :
    AreInRange rules unclassified unclassified where
  raw_range := .inl rfl
  adjusted_range := .inl rfl
  unclassified_iff := Iff.rfl
  whole_ne := by
    obtain ⟨t, -, transition, -, one_le, -⟩ := proper.exists_numbers
    have t_nonneg : 0 ≤ t := zero_le_one.trans one_le
    have floor_nonneg : 0 ≤ ⌊t⌋ := Int.floor_nonneg.mpr t_nonneg
    rw [unclassified_eq, transition, Exact.whole_number, Exact.whole_number, wholePart_mark,
      Exact.wholePart_towardZero t_nonneg]
    intro equal
    have : (-1 : ℤ) = ⌊t⌋ := by exact_mod_cast Exact.number.inj equal
    omega

/-- A raw score within its range leads to an adjusted one within its own. -/
theorem areInRange_adjust {reading : Standing.Reading (Exact K)}
    (standing : Standing (Exact K)) (proper : rules.IsProper) (properReading : reading.IsProper)
    (atMost : reading.raw ≤ 100) :
    AreInRange rules reading.raw (standing.adjust rules reading).score := by
  have adjusted := Standing.isAdjusted_adjust standing proper properReading
  obtain ⟨x, raw, x_nonneg⟩ := Exact.nonneg_iff.mp properReading.raw_nonneg
  obtain ⟨y, score, y_nonneg⟩ := Exact.nonneg_iff.mp adjusted.nonneg
  exact {
    raw_range := .inr ⟨properReading.raw_nonneg, atMost⟩
    adjusted_range :=
      .inr ⟨adjusted.nonneg, Standing.score_adjust_le standing proper properReading⟩
    unclassified_iff := by
      rw [raw, score]
      exact iff_of_false (number_ne_unclassified x_nonneg) (number_ne_unclassified y_nonneg)
    whole_ne := adjusted.whole_ne }

/-! ### Reported scores -/

theorem toInt32_unclassified : Scalar.toInt32 (unclassified : Exact K) = -1 := by
  rw [unclassified_eq, Scalar.toInt32, Exact.toInt_number, wholePart_mark]
  decide

/-- A number that is not negative is reported as one that is not negative and no larger. -/
theorem toInt32_bounds {x : K} (nonneg : 0 ≤ x) :
    0 ≤ Scalar.toInt32 (.number x : Exact K) ∧
      (Scalar.toInt32 (.number x : Exact K) : K) ≤ x := by
  have floor_nonneg : 0 ≤ ⌊x⌋ := Int.floor_nonneg.mpr nonneg
  have cut : Scalar.toInt32 (.number x : Exact K) = min 0x7FFFFFFF ⌊x⌋ := by
    rw [Scalar.toInt32, Exact.toInt_number, Exact.wholePart_towardZero nonneg]
    omega
  have cut_le : (min 0x7FFFFFFF ⌊x⌋ : ℤ) ≤ ⌊x⌋ := min_le_right _ _
  rw [cut]
  exact ⟨le_min (by decide) floor_nonneg, (Int.cast_le.mpr cut_le).trans (Int.floor_le x)⟩

/-- Scores are reported by the mark exactly if they are the mark, and else within their bounds. -/
theorem toInt32_of_range {x : Exact K} (range : x = unclassified ∨ 0 ≤ x) :
    x = unclassified ∧ Scalar.toInt32 x = -1 ∨
      x ≠ unclassified ∧ 0 ≤ Scalar.toInt32 x ∧ Scalar.ofInt (Scalar.toInt32 x) ≤ x := by
  rcases range with rfl | nonneg
  · exact .inl ⟨rfl, toInt32_unclassified⟩
  · obtain ⟨y, rfl, y_nonneg⟩ := Exact.nonneg_iff.mp nonneg
    obtain ⟨reported_nonneg, reported_le⟩ := toInt32_bounds y_nonneg
    exact .inr ⟨number_ne_unclassified y_nonneg, reported_nonneg, reported_le⟩

/-- What is reported of scores in range is in range. -/
theorem AreInRange.isInRange {raw adjusted : Exact K} (inRange : AreInRange rules raw adjusted)
    {verdict : Verdict} (score : verdict.score = Scalar.toInt32 raw)
    (adjustedScore : verdict.adjustedScore = Scalar.toInt32 adjusted) :
    verdict.IsInRange rules := by
  have rawRange := toInt32_of_range (inRange.raw_range.imp_right And.left)
  have adjustedRange := toInt32_of_range (inRange.adjusted_range.imp_right And.left)
  rw [← score] at rawRange
  rw [← adjustedScore] at adjustedRange
  constructor
  · rcases rawRange with ⟨-, mark⟩ | ⟨classified, nonneg, atMost⟩
    · exact .inl mark
    · -- Both are integers, so the bound in the field is one of integers.
      have bound := Exact.le_trans atMost (inRange.raw_range.resolve_left classified).2
      rw [Exact.ofInt_eq, Exact.ofNat_eq, Exact.number_le_number] at bound
      have bound' : (verdict.score : K) ≤ (100 : ℤ) := by simpa using bound
      exact .inr ⟨nonneg, Int.cast_le.mp bound'⟩
  · rcases adjustedRange with ⟨-, mark⟩ | ⟨classified, nonneg, atMost⟩
    · exact .inl mark
    · have bound := (inRange.adjusted_range.resolve_left classified).2
      exact .inr ⟨nonneg, Exact.le_trans atMost bound⟩
  · have same := inRange.unclassified_iff
    rcases rawRange with ⟨isMark, mark⟩ | ⟨classified, nonneg, -⟩
    · rcases adjustedRange with ⟨-, mark'⟩ | ⟨classified', -⟩
      · exact iff_of_true mark mark'
      · exact absurd (same.mp isMark) classified'
    · rcases adjustedRange with ⟨isMark', -⟩ | ⟨-, nonneg', -⟩
      · exact absurd (same.mpr isMark') classified
      · omega

/-! ### Calls and runs -/

variable [SquareRoot (Exact K)] {scorer : ForestScorer (Exact K)} {memory : Memory (Exact K)}
  {sample : Sample} {isPrimary : Bool}

/-- The raw score of a classified call is a number between zero and a hundred. -/
theorem rawScore_bounds (one_le : 1 ≤ scorer.settings.hysteresis.threshold)
    (threshold_le : scorer.settings.hysteresis.threshold ≤ 101)
    (classified : scorer.isClassified memory sample isPrimary = true) :
    0 ≤ scorer.rawScore memory sample isPrimary ∧
      scorer.rawScore memory sample isPrimary ≤ 100 := by
  obtain ⟨θ, threshold, one_le_θ⟩ := Exact.one_le_iff.mp one_le
  rw [threshold, Exact.ofNat_eq, Exact.number_le_number] at threshold_le
  cases isPrimary with
  | false => simp [isClassified_secondary unclassified_beq] at classified
  | true =>
    cases can : scorer.canScore with
    | false =>
      simp [isClassified, rawScore, score_of_not_canScore can, unclassified_beq] at classified
    | true =>
      obtain ⟨x, raw, range⟩ := exists_score_of_canScore threshold can memory.history sample
        (memory.isFollowedBy sample)
      have bounds : 0 ≤ x ∧ x ≤ 100 := by
        -- The score of the forest has these bounds anyway, that of a bad link by the threshold.
        rcases range with bounds | rfl
        · exact bounds
        · constructor <;> linarith
      rw [rawScore, if_pos rfl, raw, Exact.zero_eq, Exact.ofNat_eq]
      exact bounds

/-- With something to score with, every call for a primary link is classified. -/
theorem isClassified_of_canScore (threshold_pos : 0 < scorer.settings.hysteresis.threshold)
    (can : scorer.canScore = true) : scorer.isClassified memory sample true = true := by
  rw [isClassified, rawScore, if_pos rfl, score_ne_unclassified threshold_pos can]
  rfl

/-- The scores of a call are in range, whatever is remembered. -/
theorem areInRange_call (proper : scorer.settings.hysteresis.IsProper)
    (one_le : 1 ≤ scorer.settings.hysteresis.threshold)
    (threshold_le : scorer.settings.hysteresis.threshold ≤ 101)
    (margin_nonneg : 0 ≤ scorer.settings.hysteresis.margin) (nowMs : ℕ) :
    AreInRange scorer.settings.hysteresis (scorer.rawScore memory sample isPrimary)
      (scorer.adjustedScore memory sample nowMs isPrimary) := by
  cases classified : scorer.isClassified memory sample isPrimary with
  | false =>
    have mark : scorer.rawScore memory sample isPrimary = unclassified := by
      -- Equal as scalars, and of exact numbers only the mark itself equals the mark.
      rw [isClassified, Bool.not_eq_false', unclassified_eq, Exact.beq_number_iff] at classified
      rw [classified, unclassified_eq]
    rw [adjustedScore, classified, if_neg Bool.false_ne_true, mark]
    exact areInRange_unclassified proper
  | true =>
    obtain ⟨nonneg, atMost⟩ := rawScore_bounds one_le threshold_le classified
    have threshold_pos := Exact.pos_of_one_le one_le
    let reading : Standing.Reading (Exact K) :=
      { raw := scorer.rawScore memory sample isPrimary
        isSameLink := memory.isFollowedBy sample
        rssi? := sample.rssi?
        threshold := scorer.settings.hysteresis.threshold
        margin := scorer.settings.hysteresis.margin
        nowMs }
    have properReading : reading.IsProper := ⟨nonneg, threshold_pos, margin_nonneg⟩
    rw [adjustedScore_of_classified classified, standingAfter_of_classified classified]
    exact areInRange_adjust memory.standing proper properReading atMost

/-- **The range of scores.** Along every run the raw score of a call is the mark of an unclassified
sample or lies between zero and a hundred, and the adjusted score is the mark at the same calls and
else lies between zero and one more than the highest score. Its whole part is never that of the
transition score. The verdict reports both, within the same bounds. With something to score with all
calls for a primary link are classified. -/
theorem scores_in_range (scorer : ForestScorer (Exact K))
    (proper : scorer.settings.hysteresis.IsProper)
    (one_le : 1 ≤ scorer.settings.hysteresis.threshold)
    (threshold_le : scorer.settings.hysteresis.threshold ≤ 101)
    (margin_nonneg : 0 ≤ scorer.settings.hysteresis.margin) {calls : List Call} {n : ℕ}
    {sample : Sample} {nowMs : ℕ} {isPrimary : Bool}
    (here : calls[n]? = some (.score sample nowMs isPrimary)) :
    let memory := stateAfter scorer.step scorer.start (calls.take n)
    let raw := scorer.rawScore memory sample isPrimary
    let adjusted := scorer.adjustedScore memory sample nowMs isPrimary
    AreInRange scorer.settings.hysteresis raw adjusted ∧
      (scorer.canScore = true → isPrimary = true → raw ≠ unclassified) ∧
      ∃ verdict, (answers scorer.step scorer.start calls)[n]? = some (some verdict) ∧
        verdict.score = Scalar.toInt32 raw ∧ verdict.adjustedScore = Scalar.toInt32 adjusted ∧
        verdict.IsInRange scorer.settings.hysteresis := by
  intro memory raw adjusted
  have inRange : AreInRange scorer.settings.hysteresis raw adjusted :=
    areInRange_call proper one_le threshold_le margin_nonneg nowMs
  obtain ⟨-, wantsProbe, reported⟩ := verdict_eq scorer memory sample nowMs isPrimary
  refine ⟨inRange, ?_, (scorer.verdict memory sample nowMs isPrimary).2, ?_, ?_⟩
  · rintro can rfl mark
    have classified : scorer.isClassified memory sample true = true :=
      isClassified_of_canScore (Exact.pos_of_one_le one_le) can
    rw [isClassified, show scorer.rawScore memory sample true = unclassified from mark,
      unclassified_beq] at classified
    exact absurd classified (by decide)
  · rw [getElem?_answers, here]
    rfl
  · rw [reported]
    exact ⟨rfl, rfl, inRange.isInRange rfl rfl⟩

/-- The bound of the adjusted score is reached where the highest score has the whole part of the
transition score. The call for a secondary link before has the mark in place of both scores. -/
theorem scores_in_range_above_highest :
    let _ : SquareRoot (Exact ℚ) :=
      ⟨fun x => x.casesOn (fun number => .number (Rat.sqrt number)) .undefined⟩
    let scorer : ForestScorer (Exact ℚ) :=
      { settings := { Settings.defaults with
          hysteresis := { Settings.Hysteresis.defaults with maxScore := 50.5 } }
        model? := some
          { forest := { trees := [⟨#[.leaf 0.05], by decide +kernel⟩], vote := .mean }
            normalization := .identity } }
    let sample : Sample := { accessPoint := ⟨.zero, 2412⟩, rssiDbm := -60 }
    let calls : List Call := [.score sample 0 false, .score sample 3000 true]
    let memory := stateAfter scorer.step scorer.start (calls.take 1)
    let raw := scorer.rawScore memory sample true
    let adjusted := scorer.adjustedScore memory sample 3000 true
    raw ≠ unclassified ∧ adjusted = scorer.settings.hysteresis.maxScore + 1 ∧
      AreInRange scorer.settings.hysteresis raw adjusted ∧
      ∃ verdict, (answers scorer.step scorer.start calls)[1]? = some (some verdict) ∧
        verdict.score = 95 ∧ verdict.adjustedScore = 51 ∧
        verdict.IsInRange scorer.settings.hysteresis := by
  intro _ scorer sample calls memory raw adjusted
  obtain ⟨inRange, classified, verdict, answered, score, adjustedScore, verdictInRange⟩ :=
    scores_in_range scorer (by decide +kernel) (by decide +kernel) (by decide +kernel)
      (by decide +kernel) (rfl : calls[1]? = some (.score sample 3000 true))
  have highest : adjusted = scorer.settings.hysteresis.maxScore + 1 := by decide +kernel
  have reportedScore : Scalar.toInt32 raw = 95 := by decide +kernel
  have reportedAdjusted : Scalar.toInt32 adjusted = 51 := by decide +kernel
  exact ⟨classified (by decide) rfl, highest, inRange, verdict, answered,
    score.trans reportedScore, adjustedScore.trans reportedAdjusted, verdictInRange⟩

end ForestScorer

end LinkQuality
