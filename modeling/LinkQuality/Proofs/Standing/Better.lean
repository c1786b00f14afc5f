import LinkQuality.Proofs.Standing.Run

/-!
# Better readings

A reading is better than another one at the same moment if its raw score and its signal are no
lower. A better reading may lead to a lower adjusted score: of two scores above the transition score
the one that is too near to it is raised past the other. But it raises no score to another whole
part, so the whole parts keep the order, and with them the sides of the transition score.

The decisions keep it as well, from any standing. They read the breach on record, which the two
readings may leave different: one of them crosses the transition score and the other does not. That
never matters. A link is given up or blocked by the better reading only if both readings are below
at a weak signal, and taken back by the worse one only if both are above, and in both cases the two
leave the same record.

## Main definitions

* `Standing.Reading.IsNoBetter`, `Standing.IsNoBetter`: whether one reading, or the standing that it
  leads to, is no better than another

## Main results

* `Standing.whole_adjustedScore_mono`: the whole parts of adjusted scores
* `Standing.lastBreachMs_of_above`, `Standing.lastBreachMs_of_weak_below`: what is on record after a
  reading, in terms of the score before it
* `Standing.decisions_mono`: the decisions
-/

namespace LinkQuality

namespace Standing

open Settings (Hysteresis)

section Records

variable {K : Type} [Field K] [LinearOrder K] [FloorRing K] {rules : Hysteresis (Exact K)}
  {standing : Standing (Exact K)} {reading : Reading (Exact K)}

/-- Above the transition score the reading is a breach if the score was below it. -/
theorem lastBreachMs_of_above (same : reading.isSameLink = true)
    (above : rules.transitionScore < (standing.adjust rules reading).score) :
    (standing.adjust rules reading).lastBreachMs =
      if Scalar.belowLimit rules.transitionScore standing.score then some reading.nowMs
      else standing.lastBreachMs := by
  have notBelow := Scalar.not_lt_of_lt above
  rw [lastBreachMs_adjust same, Reading.breaches]
  simp [breachesUp, breachesDown, Scalar.belowLimit, Scalar.le_of_lt above, notBelow]

/-- Below the transition score and at a weak signal, the reading is a breach if the score was not
below. -/
theorem lastBreachMs_of_weak_below (same : reading.isSameLink = true)
    (weak : reading.isWeak rules = true) (nonneg : 0 ≤ (standing.adjust rules reading).score)
    (below : (standing.adjust rules reading).score < rules.transitionScore) :
    (standing.adjust rules reading).lastBreachMs =
      if rules.transitionScore ≤ standing.score then some reading.nowMs
      else standing.lastBreachMs := by
  have notAbove := Scalar.not_le_of_lt below
  rw [lastBreachMs_adjust same, Reading.breaches]
  simp only [breachesUp, breachesDown, Scalar.belowLimit, weak, nonneg, below, notAbove,
    decide_true, decide_false, Bool.and_false, Bool.false_or, Bool.true_and, decide_eq_true_eq]

/-- Below the transition score and at a weak signal, the mark of a slide is set anew if the score
was not below. -/
theorem isSliding_of_weak_below (same : reading.isSameLink = true)
    (weak : reading.isWeak rules = true) (nonneg : 0 ≤ (standing.adjust rules reading).score)
    (below : (standing.adjust rules reading).score < rules.transitionScore) :
    (standing.adjust rules reading).isSliding =
      if rules.transitionScore ≤ standing.score then
        decide (standing.score < rules.maxHealthScore)
      else standing.isSliding := by
  rw [isSliding_adjust same]
  simp only [breachesDown, Scalar.belowLimit, weak, nonneg, below, decide_true, Bool.true_and,
    decide_eq_true_eq]

end Records

variable {K : Type} [Field K] [LinearOrder K] [FloorRing K]

/-- Whether one reading is no better than another one of the same moment. Both have a signal. -/
structure Reading.IsNoBetter (worse better : Reading (Exact K)) : Prop where
  raw_le : worse.raw ≤ better.raw
  rssi_le : ∃ low high, worse.rssi? = some low ∧ better.rssi? = some high ∧ low ≤ high
  isSameLink_eq : worse.isSameLink = better.isSameLink
  threshold_eq : worse.threshold = better.threshold
  margin_eq : worse.margin = better.margin
  nowMs_eq : worse.nowMs = better.nowMs

/-- Whether one standing is no better than another: the whole part of its score is no higher, it is
recommended only where the other one is, and blocked wherever the other one is. -/
structure IsNoBetter (worse better : Standing (Exact K)) : Prop where
  whole_le : Scalar.whole .towardZero worse.score ≤ Scalar.whole .towardZero better.score
  isRecommended : worse.isRecommended = true → better.isRecommended = true
  isBlocked : better.isBlocked = true → worse.isBlocked = true

variable [IsStrictOrderedRing K] {rules : Hysteresis (Exact K)} {worse better : Reading (Exact K)}

/-! ### Scores -/

/-- The whole part of the adjusted score grows with the raw score. -/
theorem whole_adjustedScore_mono {previous low high threshold margin : Exact K}
    (proper : rules.IsProper) (low_nonneg : 0 ≤ low) (low_le : low ≤ high)
    (threshold_pos : 0 < threshold) (margin_nonneg : 0 ≤ margin) :
    Scalar.whole .towardZero (adjustedScore rules previous low threshold margin) ≤
      Scalar.whole .towardZero (adjustedScore rules previous high threshold margin) := by
  obtain ⟨t, m, transition, max, one_le, t_le_m⟩ := proper.exists_numbers
  obtain ⟨r, r', rfl, rfl, r_le⟩ := Exact.le_iff.mp low_le
  have r_nonneg : 0 ≤ r := by simpa using low_nonneg
  have t_nonneg : 0 ≤ t := zero_le_one.trans one_le
  obtain ⟨θ, holds, θ_pos, score⟩ :=
    exists_adjustedScore_eq (r := r) transition max threshold_pos margin_nonneg previous
  obtain ⟨θ', holds', -, score'⟩ :=
    exists_adjustedScore_eq (r := r') transition max threshold_pos margin_nonneg previous
  obtain rfl : θ = θ' := Exact.number.inj (holds.symm.trans holds')
  have scaled_le : min (t / θ * r) m ≤ min (t / θ * r') m :=
    min_le_min_right _ (mul_le_mul_of_nonneg_left r_le (div_nonneg t_nonneg θ_pos.le))
  have floor_le := Int.floor_le_floor scaled_le
  have nonneg := scaled_nonneg one_le t_le_m θ_pos r_nonneg
  obtain ⟨x, isX, x_nonneg, floor⟩ := exists_keepOff_eq one_le nonneg previous
  obtain ⟨y, isY, y_nonneg, floor'⟩ :=
    exists_keepOff_eq one_le (nonneg.trans scaled_le) previous
  rw [score, score', isX, isY, Exact.whole_number, Exact.whole_number,
    Exact.wholePart_towardZero x_nonneg, Exact.wholePart_towardZero y_nonneg,
    Exact.number_le_number, Int.cast_le, floor, floor']
  -- The one whole part that is moved goes to a neighbour, which no other whole part lies beyond.
  split_ifs <;> omega

/-- Adjusted scores lie on the sides on which their whole parts are. -/
theorem IsAdjusted.transition_lt_of_whole_le {x y : Exact K} (proper : rules.IsProper)
    (first : IsAdjusted rules x) (second : IsAdjusted rules y)
    (whole_le : Scalar.whole .towardZero x ≤ Scalar.whole .towardZero y)
    (above : rules.transitionScore < x) : rules.transitionScore < y := by
  obtain ⟨t, -, transition, -, one_le, -⟩ := proper.exists_numbers
  obtain ⟨a, rfl, a_nonneg⟩ := Exact.nonneg_iff.mp first.nonneg
  obtain ⟨b, rfl, b_nonneg⟩ := Exact.nonneg_iff.mp second.nonneg
  rw [Exact.whole_number, Exact.whole_number, Exact.wholePart_towardZero a_nonneg,
    Exact.wholePart_towardZero b_nonneg, Exact.number_le_number] at whole_le
  rw [transition, Exact.number_lt_number] at above ⊢
  calc t < ⌊a⌋ := first.transition_lt_floor transition (zero_le_one.trans one_le) above
    _ ≤ ⌊b⌋ := whole_le
    _ ≤ b := Int.floor_le b

/-! ### Decisions -/

namespace Reading.IsNoBetter

omit [IsStrictOrderedRing K] in
theorem isProper (noBetter : worse.IsNoBetter better) (properWorse : worse.IsProper) :
    better.IsProper where
  raw_nonneg := Exact.le_trans properWorse.raw_nonneg noBetter.raw_le
  threshold_pos := noBetter.threshold_eq ▸ properWorse.threshold_pos
  margin_nonneg := noBetter.margin_eq ▸ properWorse.margin_nonneg

omit [IsStrictOrderedRing K] in
theorem isWeak (noBetter : worse.IsNoBetter better) (weak : better.isWeak rules = true) :
    worse.isWeak rules = true := by
  obtain ⟨low, high, isLow, isHigh, low_le⟩ := noBetter.rssi_le
  obtain ⟨rssi, signal, isBelow⟩ := Reading.isWeak_iff.mp weak
  obtain rfl : high = rssi := Option.some.inj (isHigh.symm.trans signal)
  exact Reading.isWeak_iff.mpr ⟨low, isLow, low_le.trans_lt isBelow⟩

variable (proper : rules.IsProper) (properWorse : worse.IsProper)
  (noBetter : worse.IsNoBetter better) (same : worse.isSameLink = true)
  (standing : Standing (Exact K))

include proper properWorse noBetter same

/-- The whole parts of the two scores are in order. -/
theorem whole_score_le :
    Scalar.whole .towardZero (standing.adjust rules worse).score ≤
      Scalar.whole .towardZero (standing.adjust rules better).score := by
  rw [score_adjust same, score_adjust (noBetter.isSameLink_eq ▸ same), ← noBetter.threshold_eq,
    ← noBetter.margin_eq]
  exact whole_adjustedScore_mono proper properWorse.raw_nonneg noBetter.raw_le
    properWorse.threshold_pos properWorse.margin_nonneg

/-- If the worse reading leads above the transition score, so does the better one. -/
theorem transition_lt_score (above : rules.transitionScore < (standing.adjust rules worse).score) :
    rules.transitionScore < (standing.adjust rules better).score :=
  (isAdjusted_adjust standing proper properWorse).transition_lt_of_whole_le proper
    (isAdjusted_adjust standing proper (noBetter.isProper properWorse))
    (whole_score_le proper properWorse noBetter same standing) above

/-- If the better reading leads below the transition score, so does the worse one. -/
theorem score_lt_transition
    (below : (standing.adjust rules better).score < rules.transitionScore) :
    (standing.adjust rules worse).score < rules.transitionScore := by
  have adjusted := isAdjusted_adjust standing proper properWorse
  refine (adjusted.lt_or_transition_lt proper).resolve_right fun above => ?_
  exact Scalar.not_lt_of_lt below
    (transition_lt_score proper properWorse noBetter same standing above)

/-- If both readings lead above the transition score, they leave the same record. -/
theorem lastBreachMs_eq_of_above
    (above : rules.transitionScore < (standing.adjust rules worse).score) :
    (standing.adjust rules better).lastBreachMs = (standing.adjust rules worse).lastBreachMs := by
  have above' := transition_lt_score proper properWorse noBetter same standing above
  rw [lastBreachMs_of_above same above,
    lastBreachMs_of_above (noBetter.isSameLink_eq ▸ same) above', noBetter.nowMs_eq]

/-- If both readings lead below the transition score at a weak signal, they leave the same record
and the same mark of a slide. -/
theorem record_eq_of_weak_below (weak : better.isWeak rules = true)
    (below : (standing.adjust rules better).score < rules.transitionScore) :
    (standing.adjust rules better).lastBreachMs = (standing.adjust rules worse).lastBreachMs ∧
      (standing.adjust rules better).isSliding = (standing.adjust rules worse).isSliding := by
  have same' : better.isSameLink = true := noBetter.isSameLink_eq ▸ same
  have weak' := noBetter.isWeak weak
  have below' := score_lt_transition proper properWorse noBetter same standing below
  have nonneg := (isAdjusted_adjust standing proper (noBetter.isProper properWorse)).nonneg
  have nonneg' := (isAdjusted_adjust standing proper properWorse).nonneg
  constructor
  · rw [lastBreachMs_of_weak_below same' weak nonneg below,
      lastBreachMs_of_weak_below same weak' nonneg' below', noBetter.nowMs_eq]
  · rw [isSliding_of_weak_below same' weak nonneg below,
      isSliding_of_weak_below same weak' nonneg' below']

/-- A link that is recommended after the worse reading is recommended after the better one. -/
theorem isRecommended_of_worse
    (recommended : (standing.adjust rules worse).isRecommended = true) :
    (standing.adjust rules better).isRecommended = true := by
  have same' : better.isSameLink = true := noBetter.isSameLink_eq ▸ same
  obtain ⟨low, high, isLow, isHigh, low_le⟩ := noBetter.rssi_le
  cases before : standing.isRecommended with
  | false =>
    -- The worse reading has led above, so the better one does, and both have waited as long.
    obtain ⟨breachMs, record, waited, above⟩ := exists_breach_of_recovery same before recommended
    rw [← lastBreachMs_eq_of_above proper properWorse noBetter same standing above] at record
    rw [noBetter.nowMs_eq] at waited
    exact isRecommended_of_recovered same' isHigh record waited
      (transition_lt_score proper properWorse noBetter same standing above)
  | true =>
    by_contra givenUp
    rw [Bool.not_eq_true, given_up_adjust_iff same' before isHigh] at givenUp
    obtain ⟨isWeak, below, breachMs, record, noWait⟩ := givenUp
    -- What the better reading does not wait for, the worse one does not wait for either.
    have weak : better.isWeak rules = true := Reading.isWeak_iff.mpr ⟨high, isHigh, isWeak⟩
    obtain ⟨sameRecord, sameSlide⟩ :=
      record_eq_of_weak_below proper properWorse noBetter same standing weak below
    rw [sameRecord] at record
    rw [sameSlide, ← noBetter.nowMs_eq] at noWait
    have noWait' := noWait.imp_right (Or.imp_right low_le.trans)
    have givenUp := (given_up_adjust_iff same before isLow).mpr
      ⟨low_le.trans_lt isWeak,
        score_lt_transition proper properWorse noBetter same standing below, breachMs, record,
        noWait'⟩
    exact Bool.false_ne_true (givenUp.symm.trans recommended)

/-- An access point that is blocked after the better reading is blocked after the worse one. -/
theorem isBlocked_of_better (blocked : (standing.adjust rules better).isBlocked = true) :
    (standing.adjust rules worse).isBlocked = true := by
  have same' : better.isSameLink = true := noBetter.isSameLink_eq ▸ same
  obtain ⟨weak, below, breachMs, record, waited⟩ := (isBlocked_adjust_iff same').mp blocked
  rw [(record_eq_of_weak_below proper properWorse noBetter same standing weak below).1] at record
  rw [← noBetter.nowMs_eq] at waited
  exact (isBlocked_adjust_iff same).mpr
    ⟨noBetter.isWeak weak, score_lt_transition proper properWorse noBetter same standing below,
      breachMs, record, waited⟩

/-- Two readings of the link that the standing is of lead to standings in their order. -/
theorem adjust :
    (standing.adjust rules worse).IsNoBetter (standing.adjust rules better) where
  whole_le := whole_score_le proper properWorse noBetter same standing
  isRecommended := isRecommended_of_worse proper properWorse noBetter same standing
  isBlocked := isBlocked_of_better proper properWorse noBetter same standing

end Reading.IsNoBetter

/-- **Better readings never lead to worse decisions.** Whatever the standing is, the whole part of
the score is no lower after the better one of two readings, the link is recommended if it is after
the worse one, and blocked only if it is after the worse one. -/
theorem decisions_mono (proper : rules.IsProper) (properWorse : worse.IsProper)
    (noBetter : worse.IsNoBetter better) (standing : Standing (Exact K)) :
    (standing.adjust rules worse).IsNoBetter (standing.adjust rules better) := by
  cases same : worse.isSameLink with
  | true => exact noBetter.adjust proper properWorse same standing
  | false =>
    -- A new standing begins, and both readings have the best raw score.
    have same' : better.isSameLink = false := noBetter.isSameLink_eq ▸ same
    have best : rules.maxScore ≤ rules.maxScore := by
      obtain ⟨-, m, -, max, -⟩ := proper.exists_numbers
      rw [max, Exact.number_le_number]
    have properFirst : Reading.IsProper { worse with isSameLink := true, raw := rules.maxScore } :=
      ⟨proper.maxScore_nonneg, properWorse.threshold_pos, properWorse.margin_nonneg⟩
    have noBetterFirst : Reading.IsNoBetter
        { worse with isSameLink := true, raw := rules.maxScore }
        { better with isSameLink := true, raw := rules.maxScore } :=
      ⟨best, noBetter.rssi_le, rfl, noBetter.threshold_eq, noBetter.margin_eq, noBetter.nowMs_eq⟩
    rw [adjust_of_not_same same, adjust_of_not_same same']
    exact noBetterFirst.adjust proper properFirst rfl (fresh rules)

/-- The worse reading has the higher score, for it is raised past that of the better one. Their
whole parts are equal, and the decisions are in order. -/
theorem decisions_mono_kept_off :
    let rules : Hysteresis (Exact ℚ) := .defaults
    let standing : Standing (Exact ℚ) := { fresh rules with score := 60 }
    let worse : Reading (Exact ℚ) := ⟨50.5, true, some (-70), 50, 0, 1000⟩
    let better : Reading (Exact ℚ) := ⟨51.2, true, some (-60), 50, 0, 1000⟩
    worse.IsNoBetter better ∧
      (standing.adjust rules better).score < (standing.adjust rules worse).score ∧
      (standing.adjust rules worse).IsNoBetter (standing.adjust rules better) := by
  intro rules standing worse better
  have noBetter : worse.IsNoBetter better :=
    ⟨by decide +kernel, ⟨-70, -60, rfl, rfl, by decide⟩, rfl, rfl, rfl, rfl⟩
  have higher : (standing.adjust rules better).score < (standing.adjust rules worse).score := by
    decide +kernel
  exact ⟨noBetter, higher,
    decisions_mono (by decide +kernel) (by decide +kernel) noBetter standing⟩

end Standing

end LinkQuality
