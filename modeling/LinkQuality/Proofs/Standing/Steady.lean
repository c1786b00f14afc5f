import LinkQuality.Proofs.Standing.Run

/-!
# A steady raw score does not make a link flap

The score before a reading takes part in the adjusted score twice: below the transition score it
raises the threshold, and it decides to which side a score is kept off the transition score. Both
work towards the side on which the score already is. So one raw score, read again and again, leaves
the adjusted score on the side to which the first reading has brought it.

That holds of every standing, also of one whose score is the transition score itself, is the mark of
an unclassified sample or is no number. What it was shows in the first score and nowhere else.

## Main definitions

* `Standing.repeated`: readings of one raw score
* `Standing.scores`: the scores after readings

## Main results

* `Standing.transition_lt_adjustedScore_again`, `Standing.adjustedScore_lt_transition_again`: a raw
  score that led to one side leads there again
* `Standing.repeated_scores_keep_side`: the scores after readings of one raw score
-/

namespace LinkQuality

namespace Standing

open Settings (Hysteresis)

section Readings

variable {α : Type} [Scalar α]

/-- Readings of one raw score of a link, at given signal strengths and times. -/
def repeated (raw threshold margin : α) (moments : List (Option Int × ℕ)) : List (Reading α) :=
  moments.map fun (rssi?, nowMs) => { raw, isSameLink := true, rssi?, threshold, margin, nowMs }

/-- The score after each of the readings that a standing is moved by. -/
def scores (rules : Hysteresis α) (standing : Standing α) (readings : List (Reading α)) : List α :=
  answers (fun standing reading =>
    (standing.adjust rules reading, (standing.adjust rules reading).score)) standing readings

/-- The first score is the adjusted raw score, and the others follow from its standing. -/
theorem scores_repeated_cons (rules : Hysteresis α) (standing : Standing α)
    (raw threshold margin : α) (rssi? : Option Int) (nowMs : ℕ)
    (moments : List (Option Int × ℕ)) :
    scores rules standing (repeated raw threshold margin ((rssi?, nowMs) :: moments)) =
      adjustedScore rules standing.score raw threshold margin ::
        scores rules (standing.adjust rules ⟨raw, true, rssi?, threshold, margin, nowMs⟩)
          (repeated raw threshold margin moments) :=
  rfl

end Readings

variable {K : Type} [Field K] [LinearOrder K] [FloorRing K] [IsStrictOrderedRing K]
  {rules : Hysteresis (Exact K)} {previous later raw threshold margin : Exact K}

/-! ### One raw score after different scores -/

/-- After a score above the transition score no higher threshold holds than after any other. -/
theorem thresholdAfter_le_of_transition_lt (previous : Exact K) (threshold_pos : 0 < threshold)
    (margin_nonneg : 0 ≤ margin) (isAbove : rules.transitionScore < later) :
    thresholdAfter rules later threshold margin ≤
      thresholdAfter rules previous threshold margin := by
  obtain ⟨θ, rfl, -⟩ := Exact.pos_iff.mp threshold_pos
  obtain ⟨μ, rfl, μ_nonneg⟩ := Exact.nonneg_iff.mp margin_nonneg
  have notBelow : ¬ later < rules.transitionScore := Scalar.not_lt_of_lt isAbove
  simp only [thresholdAfter, notBelow, decide_false, Bool.and_false, Bool.false_eq_true, if_false]
  split_ifs
  · simpa using μ_nonneg
  · simp

/-- After a score below the transition score, if it is not negative, no lower threshold holds than
after any other. -/
theorem le_thresholdAfter_of_lt_transition (previous : Exact K) (threshold_pos : 0 < threshold)
    (margin_nonneg : 0 ≤ margin) (nonneg : 0 ≤ later) (isBelow : later < rules.transitionScore) :
    thresholdAfter rules previous threshold margin ≤
      thresholdAfter rules later threshold margin := by
  obtain ⟨θ, rfl, -⟩ := Exact.pos_iff.mp threshold_pos
  obtain ⟨μ, rfl, μ_nonneg⟩ := Exact.nonneg_iff.mp margin_nonneg
  obtain ⟨x, rfl, x_nonneg⟩ := Exact.nonneg_iff.mp nonneg
  have raised : thresholdAfter rules (.number x) (.number θ) (.number μ) = .number (θ + μ) := by
    -- A score that is not negative is not taken for the mark of an unclassified sample.
    have classified : x ≠ -1 := by linarith
    simp [thresholdAfter, unclassified, isBelow, classified]
  rw [raised, thresholdAfter]
  split_ifs
  · simp
  · simpa using μ_nonneg

/-- A raw score that leads above the transition score also does so after another score, if the
threshold that holds then is no higher and the other score is above wherever the first one is. -/
theorem transition_lt_adjustedScore_mono (proper : rules.IsProper) (raw_nonneg : 0 ≤ raw)
    (threshold_pos : 0 < threshold) (margin_nonneg : 0 ≤ margin)
    (noHigher : thresholdAfter rules later threshold margin ≤
      thresholdAfter rules previous threshold margin)
    (keepsAbove : rules.transitionScore < previous → rules.transitionScore < later)
    (above : rules.transitionScore < adjustedScore rules previous raw threshold margin) :
    rules.transitionScore < adjustedScore rules later raw threshold margin := by
  obtain ⟨t, m, transition, max, one_le, t_le_m⟩ := proper.exists_numbers
  obtain ⟨r, rfl, r_nonneg⟩ := Exact.nonneg_iff.mp raw_nonneg
  obtain ⟨θ, holds, θ_pos, score⟩ :=
    exists_adjustedScore_eq transition max threshold_pos margin_nonneg previous
  obtain ⟨θ', holds', θ'_pos, score'⟩ :=
    exists_adjustedScore_eq transition max threshold_pos margin_nonneg later
  rw [holds, holds', Exact.number_le_number] at noHigher
  have t_nonneg : 0 ≤ t := zero_le_one.trans one_le
  -- The lower the threshold, the higher the score on the scale, also where it is cut.
  have noLess : ⌊min (t / θ * r) m⌋ ≤ ⌊min (t / θ' * r) m⌋ := by
    apply Int.floor_le_floor
    apply min_le_min_right
    apply mul_le_mul_of_nonneg_right _ r_nonneg
    exact div_le_div_of_nonneg_left t_nonneg θ'_pos noHigher
  rw [transition] at keepsAbove
  rw [score, transition,
    transition_lt_keepOff_iff one_le (scaled_nonneg one_le t_le_m θ_pos r_nonneg)] at above
  rw [score', transition,
    transition_lt_keepOff_iff one_le (scaled_nonneg one_le t_le_m θ'_pos r_nonneg)]
  rcases above with below | ⟨same, isAbove⟩
  · exact .inl (below.trans_le noLess)
  · rw [same] at noLess
    rcases noLess.lt_or_eq with below | same'
    · exact .inl below
    · -- Both scores have to be kept off the transition score, and go where the one before was.
      exact .inr ⟨same'.symm, keepsAbove isAbove⟩

/-- A raw score that has led above the transition score leads there again after any score above. -/
theorem transition_lt_adjustedScore_again (proper : rules.IsProper) (raw_nonneg : 0 ≤ raw)
    (threshold_pos : 0 < threshold) (margin_nonneg : 0 ≤ margin)
    (above : rules.transitionScore < adjustedScore rules previous raw threshold margin)
    (isAbove : rules.transitionScore < later) :
    rules.transitionScore < adjustedScore rules later raw threshold margin := by
  have noHigher :=
    thresholdAfter_le_of_transition_lt previous threshold_pos margin_nonneg isAbove
  exact transition_lt_adjustedScore_mono proper raw_nonneg threshold_pos margin_nonneg noHigher
    (fun _ => isAbove) above

/-- A raw score that has led below the transition score leads there again after any score below. -/
theorem adjustedScore_lt_transition_again (proper : rules.IsProper) (raw_nonneg : 0 ≤ raw)
    (threshold_pos : 0 < threshold) (margin_nonneg : 0 ≤ margin)
    (below : adjustedScore rules previous raw threshold margin < rules.transitionScore)
    (nonneg : 0 ≤ later) (isBelow : later < rules.transitionScore) :
    adjustedScore rules later raw threshold margin < rules.transitionScore := by
  have adjusted : IsAdjusted rules (adjustedScore rules later raw threshold margin) :=
    isAdjusted_adjustedScore proper raw_nonneg threshold_pos margin_nonneg
  rcases adjusted.lt_or_transition_lt proper with isLower | above
  · exact isLower
  · -- Led above from below, it would lead above from anywhere.
    have noLower :=
      le_thresholdAfter_of_lt_transition previous threshold_pos margin_nonneg nonneg isBelow
    have ledAbove := transition_lt_adjustedScore_mono proper raw_nonneg threshold_pos
      margin_nonneg noLower (fun isAbove => absurd isBelow (Scalar.not_lt_of_lt isAbove)) above
    exact absurd below (Scalar.not_lt_of_lt ledAbove)

/-! ### One raw score again and again -/

/-- Once the raw score has led above the transition score, all scores stay there. -/
theorem transition_lt_of_mem_scores (proper : rules.IsProper) (raw_nonneg : 0 ≤ raw)
    (threshold_pos : 0 < threshold) (margin_nonneg : 0 ≤ margin)
    (above : rules.transitionScore < adjustedScore rules previous raw threshold margin)
    {standing : Standing (Exact K)} (isAbove : rules.transitionScore < standing.score)
    (moments : List (Option Int × ℕ)) :
    ∀ score ∈ scores rules standing (repeated raw threshold margin moments),
      rules.transitionScore < score := by
  induction moments generalizing standing with
  | nil => exact fun _ mem => absurd mem List.not_mem_nil
  | cons moment moments ih =>
    have again := transition_lt_adjustedScore_again proper raw_nonneg threshold_pos margin_nonneg
      above isAbove
    rw [scores_repeated_cons]
    exact List.forall_mem_cons.mpr ⟨again, ih (by rwa [score_adjust rfl])⟩

/-- Once the raw score has led below the transition score, all scores stay there. -/
theorem lt_transition_of_mem_scores (proper : rules.IsProper) (raw_nonneg : 0 ≤ raw)
    (threshold_pos : 0 < threshold) (margin_nonneg : 0 ≤ margin)
    (below : adjustedScore rules previous raw threshold margin < rules.transitionScore)
    {standing : Standing (Exact K)} (nonneg : 0 ≤ standing.score)
    (isBelow : standing.score < rules.transitionScore) (moments : List (Option Int × ℕ)) :
    ∀ score ∈ scores rules standing (repeated raw threshold margin moments),
      score < rules.transitionScore := by
  induction moments generalizing standing with
  | nil => exact fun _ mem => absurd mem List.not_mem_nil
  | cons moment moments ih =>
    have again := adjustedScore_lt_transition_again proper raw_nonneg threshold_pos margin_nonneg
      below nonneg isBelow
    have adjusted : IsAdjusted rules (adjustedScore rules standing.score raw threshold margin) :=
      isAdjusted_adjustedScore proper raw_nonneg threshold_pos margin_nonneg
    rw [scores_repeated_cons]
    exact List.forall_mem_cons.mpr ⟨again, ih adjusted.nonneg again⟩

/-- **A steady raw score keeps its side.** Whatever the standing is, the scores after readings of
one raw score, at any signal strengths and times, are all above the transition score or all below
it. -/
theorem repeated_scores_keep_side (proper : rules.IsProper) (raw_nonneg : 0 ≤ raw)
    (threshold_pos : 0 < threshold) (margin_nonneg : 0 ≤ margin) (standing : Standing (Exact K))
    (moments : List (Option Int × ℕ)) :
    (∀ score ∈ scores rules standing (repeated raw threshold margin moments),
        rules.transitionScore < score) ∨
      ∀ score ∈ scores rules standing (repeated raw threshold margin moments),
        score < rules.transitionScore := by
  cases moments with
  | nil => exact .inl fun _ mem => absurd mem List.not_mem_nil
  | cons moment moments =>
    have first : IsAdjusted rules (adjustedScore rules standing.score raw threshold margin) :=
      isAdjusted_adjustedScore proper raw_nonneg threshold_pos margin_nonneg
    rw [scores_repeated_cons]
    rcases first.lt_or_transition_lt proper with below | above
    · exact .inr (List.forall_mem_cons.mpr ⟨below, lt_transition_of_mem_scores proper raw_nonneg
        threshold_pos margin_nonneg below first.nonneg below moments⟩)
    · exact .inl (List.forall_mem_cons.mpr ⟨above, transition_lt_of_mem_scores proper raw_nonneg
        threshold_pos margin_nonneg above above moments⟩)

/-- A score that is the transition score itself, and a raw score at the threshold: the first reading
leads below, and there the scores stay. -/
theorem repeated_scores_keep_side_from_transition :
    let rules : Hysteresis (Exact ℚ) := .defaults
    let standing : Standing (Exact ℚ) := { fresh rules with score := rules.transitionScore }
    let readings := repeated 10 10 70 [(none, 9000), (some (-70), 5000), (some (-60), 7000)]
    (scores rules standing readings).head? = some 49 ∧
      ((∀ score ∈ scores rules standing readings, rules.transitionScore < score) ∨
        ∀ score ∈ scores rules standing readings, score < rules.transitionScore) := by
  intro rules standing readings
  have first : (scores rules standing readings).head? = some 49 := by decide +kernel
  exact ⟨first, repeated_scores_keep_side (by decide +kernel) (by decide +kernel)
    (by decide +kernel) (by decide +kernel) standing _⟩

end Standing

end LinkQuality
