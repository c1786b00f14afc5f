import LinkQuality.Proofs.Ordered
import LinkQuality.Standing

/-!
# Adjusted scores

What holds of every adjusted score, whatever came before it. It is not negative, not even if it was
rounded. That needs a transition score of at least one: only then does the step down from the whole
part of the transition score end above zero.

In exact arithmetic it is a number, and its whole part is never that of the transition score. So it
lies on one side of the transition score or on the other.

## Main definitions

* `Settings.Hysteresis.IsProper`, `Standing.Reading.IsProper`: numbers that scores can be made of
* `Standing.IsAdjusted`: what is known of an adjusted score in exact arithmetic

## Main results

* `Standing.adjustedScore_nonneg`: no adjusted score is negative
* `Standing.isAdjusted_adjustedScore`, `Standing.adjustedScore_le`: adjusted scores in exact
  arithmetic
-/

namespace LinkQuality

section Scores

variable {α : Type} [Scalar α]

/-- Whether the transition score is at least one and within the scores that can be reached. -/
structure Settings.Hysteresis.IsProper (rules : Settings.Hysteresis α) : Prop where
  one_le_transition : 1 ≤ rules.transitionScore
  transition_le_max : rules.transitionScore ≤ rules.maxScore

instance (rules : Settings.Hysteresis α) : Decidable rules.IsProper :=
  decidable_of_iff (1 ≤ rules.transitionScore ∧ rules.transitionScore ≤ rules.maxScore)
    ⟨fun h => ⟨h.1, h.2⟩, fun h => ⟨h.1, h.2⟩⟩

/-- Whether the numbers of a reading are such as scorers hand over. -/
structure Standing.Reading.IsProper (reading : Reading α) : Prop where
  raw_nonneg : 0 ≤ reading.raw
  threshold_pos : 0 < reading.threshold
  margin_nonneg : 0 ≤ reading.margin

instance (reading : Standing.Reading α) : Decidable reading.IsProper :=
  decidable_of_iff (0 ≤ reading.raw ∧ 0 < reading.threshold ∧ 0 ≤ reading.margin)
    ⟨fun h => ⟨h.1, h.2.1, h.2.2⟩, fun h => ⟨h.1, h.2, h.3⟩⟩

variable [Scalar.KeepsSigns α] {rules : Settings.Hysteresis α}

namespace Settings.Hysteresis.IsProper

theorem transition_nonneg (proper : rules.IsProper) : 0 ≤ rules.transitionScore :=
  Scalar.IsOrdered.le_trans Scalar.KeepsSigns.zero_le_one proper.one_le_transition

theorem maxScore_nonneg (proper : rules.IsProper) : 0 ≤ rules.maxScore :=
  Scalar.IsOrdered.le_trans proper.transition_nonneg proper.transition_le_max

end Settings.Hysteresis.IsProper

namespace Standing

variable {previous raw threshold margin score : α}

/-- The threshold that holds is positive, raised or not. -/
theorem thresholdAfter_pos (threshold_pos : 0 < threshold) (margin_nonneg : 0 ≤ margin) :
    0 < thresholdAfter rules previous threshold margin := by
  unfold thresholdAfter
  split
  · exact Scalar.lt_of_lt_of_le threshold_pos
      (Scalar.KeepsSigns.le_add_right (Scalar.le_of_lt threshold_pos) margin_nonneg)
  · exact threshold_pos

/-- A scaled score is not negative, even where the scale is so large that it is infinite. -/
theorem scale_nonneg (proper : rules.IsProper) (raw_nonneg : 0 ≤ raw)
    (threshold_pos : 0 < threshold) : 0 ≤ scale rules threshold raw := by
  have factor : ¬ rules.transitionScore / threshold < 0 :=
    Scalar.KeepsSigns.not_div_lt_zero (Scalar.not_lt_of_le proper.transition_nonneg) threshold_pos
  exact Scalar.lesser_nonneg
    (Scalar.KeepsSigns.not_mul_lt_zero factor (Scalar.not_lt_of_le raw_nonneg))
    proper.maxScore_nonneg

/-- Keeping a score off the transition score does not make it negative: one is subtracted only from
the whole part of the transition score, which is at least one. -/
theorem keepOff_nonneg (proper : rules.IsProper) (nonneg : 0 ≤ score) :
    0 ≤ keepOff rules.transitionScore previous score := by
  unfold keepOff
  split_ifs with same above
  · exact Scalar.IsOrdered.le_trans nonneg
      (Scalar.KeepsSigns.le_add_right nonneg Scalar.KeepsSigns.zero_le_one)
  · exact Scalar.KeepsSigns.sub_one_nonneg
      (Scalar.KeepsSigns.one_le_of_whole_beq nonneg proper.one_le_transition same)
  · exact nonneg

/-- Whatever the score before it, no adjusted score is negative. -/
theorem adjustedScore_nonneg (proper : rules.IsProper) (raw_nonneg : 0 ≤ raw)
    (threshold_pos : 0 < threshold) (margin_nonneg : 0 ≤ margin) :
    0 ≤ adjustedScore rules previous raw threshold margin :=
  keepOff_nonneg proper
    (scale_nonneg proper raw_nonneg (thresholdAfter_pos threshold_pos margin_nonneg))

end Standing

end Scores

/-! ### Exact scores -/

variable {K : Type} [Field K] [LinearOrder K] [FloorRing K]

theorem Settings.Hysteresis.IsProper.exists_numbers {rules : Settings.Hysteresis (Exact K)}
    (proper : rules.IsProper) :
    ∃ t m, rules.transitionScore = .number t ∧ rules.maxScore = .number m ∧ 1 ≤ t ∧ t ≤ m := by
  obtain ⟨t, transition, one_le⟩ := Exact.one_le_iff.mp proper.one_le_transition
  obtain ⟨t', m, transition', max, t_le_m⟩ := Exact.le_iff.mp proper.transition_le_max
  obtain rfl : t = t' := Exact.number.inj (transition.symm.trans transition')
  exact ⟨t, m, transition, max, one_le, t_le_m⟩

namespace Standing

open Settings (Hysteresis)

/-- What is known of a score that hysteresis has adjusted. -/
structure IsAdjusted (rules : Hysteresis (Exact K)) (score : Exact K) : Prop where
  nonneg : 0 ≤ score
  whole_ne : Scalar.whole .towardZero score ≠ Scalar.whole .towardZero rules.transitionScore

variable {rules : Hysteresis (Exact K)} {previous raw threshold margin : Exact K}

/-- An adjusted score is not the transition score itself. -/
theorem IsAdjusted.ne_transition {score : Exact K} (adjusted : IsAdjusted rules score) :
    score ≠ rules.transitionScore := by
  rintro rfl
  exact adjusted.whole_ne rfl

/-- An adjusted score that is not below the transition score is above it. -/
theorem IsAdjusted.transition_lt {score : Exact K} (adjusted : IsAdjusted rules score)
    (atLeast : rules.transitionScore ≤ score) : rules.transitionScore < score := by
  obtain ⟨a, b, transition, rfl, a_le_b⟩ := Exact.le_iff.mp atLeast
  have apart := adjusted.ne_transition
  rw [transition] at apart ⊢
  exact lt_of_le_of_ne a_le_b fun equal => apart (congrArg Exact.number equal.symm)

/-- Scaling a number: the product, cut at the highest score. -/
theorem scale_number {t m θ r : K} (transition : rules.transitionScore = .number t)
    (max : rules.maxScore = .number m) (θ_pos : 0 < θ) :
    scale rules (.number θ) (.number r) = .number (min (t / θ * r) m) := by
  have quotient : (Exact.number t / .number θ) = .number (t / θ) := Exact.number_div θ_pos.ne'
  rw [scale, transition, max, quotient, Exact.number_mul, Exact.lesser_number]

/-- A score that is kept off the transition score: itself or, where its whole part is that of the
transition score, one more or one less. -/
theorem keepOff_number {t s : K} (one_le : 1 ≤ t) (nonneg : 0 ≤ s) (previous : Exact K) :
    keepOff (.number t) previous (.number s) =
      .number (if ⌊s⌋ = ⌊t⌋ then if .number t < previous then s + 1 else s - 1 else s) := by
  have t_nonneg : 0 ≤ t := zero_le_one.trans one_le
  simp only [keepOff, Exact.whole_number, Exact.wholePart_towardZero nonneg,
    Exact.wholePart_towardZero t_nonneg, Exact.number_beq, Int.cast_inj, decide_eq_true_eq,
    Exact.one_eq, Exact.number_add, Exact.number_sub]
  split_ifs <;> rfl

/-- Keeping a score off the transition score raises it by one at most. -/
theorem keepOff_le [IsStrictOrderedRing K] {t s : K} (one_le : 1 ≤ t) (nonneg : 0 ≤ s)
    (previous : Exact K) :
    keepOff (.number t) previous (.number s) ≤ .number (s + 1) := by
  rw [keepOff_number one_le nonneg, Exact.number_le_number]
  split_ifs <;> linarith

/-- A score is kept above the transition score if its whole part is above that of the transition
score, and also if it is the same and the score before was above. -/
theorem transition_lt_keepOff_iff [IsStrictOrderedRing K] {t s : K} (one_le : 1 ≤ t)
    (nonneg : 0 ≤ s) (previous : Exact K) :
    .number t < keepOff (.number t) previous (.number s) ↔
      ⌊t⌋ < ⌊s⌋ ∨ ⌊s⌋ = ⌊t⌋ ∧ .number t < previous := by
  have t_lt := Int.lt_floor_add_one t
  have floor_le := Int.floor_le t
  have s_lt := Int.lt_floor_add_one s
  have floor_le' := Int.floor_le s
  rw [keepOff_number one_le nonneg, Exact.number_lt_number]
  -- Only a score with the whole part of the transition score is moved.
  by_cases same : ⌊s⌋ = ⌊t⌋
  · rw [if_pos same]
    rw [same] at s_lt floor_le'
    by_cases above : Exact.number t < previous
    · simp only [above, if_true, same, lt_irrefl, false_or, true_and, iff_true]
      linarith
    · simp only [above, if_false, same, lt_irrefl, false_or, and_false, iff_false]
      linarith
  · rw [if_neg same]
    constructor
    · intro below
      exact .inl (lt_of_le_of_ne (Int.floor_le_floor below.le) (Ne.symm same))
    · rintro (below | ⟨equal, -⟩)
      · have next : (⌊t⌋ : K) + 1 ≤ ⌊s⌋ := by exact_mod_cast below
        linarith
      · exact absurd equal same

variable [IsStrictOrderedRing K]

/-- Keeping a score off the transition score moves its whole part to the next one, up or down. -/
theorem exists_keepOff_eq {t s : K} (one_le : 1 ≤ t) (nonneg : 0 ≤ s) (previous : Exact K) :
    ∃ x, keepOff (.number t) previous (.number s) = .number x ∧ 0 ≤ x ∧
      ⌊x⌋ = if ⌊s⌋ = ⌊t⌋ then if .number t < previous then ⌊t⌋ + 1 else ⌊t⌋ - 1 else ⌊s⌋ := by
  have floor_pos : 1 ≤ ⌊t⌋ := Int.le_floor.mpr (by simpa using one_le)
  have floor_nonneg : 0 ≤ ⌊s⌋ := Int.floor_nonneg.mpr nonneg
  obtain ⟨x, kept, floor⟩ : ∃ x, keepOff (.number t) previous (.number s) = .number x ∧
      ⌊x⌋ = if ⌊s⌋ = ⌊t⌋ then if .number t < previous then ⌊t⌋ + 1 else ⌊t⌋ - 1 else ⌊s⌋ := by
    refine ⟨_, keepOff_number one_le nonneg previous, ?_⟩
    split_ifs with same above
    · rw [Int.floor_add_one, same]
    · rw [Int.floor_sub_one, same]
    · rfl
  refine ⟨x, kept, Int.floor_nonneg.mp ?_, floor⟩
  rw [floor]
  split_ifs <;> omega

/-- A score that is not negative is an adjusted one after it was kept off the transition score. -/
theorem isAdjusted_keepOff {t s : K} (transition : rules.transitionScore = .number t)
    (one_le : 1 ≤ t) (nonneg : 0 ≤ s) (previous : Exact K) :
    IsAdjusted rules (keepOff rules.transitionScore previous (.number s)) := by
  obtain ⟨x, kept, x_nonneg, floor⟩ := exists_keepOff_eq one_le nonneg previous
  have apart : ⌊x⌋ ≠ ⌊t⌋ := by
    rw [floor]
    split_ifs <;> omega
  rw [transition, kept]
  refine ⟨by simpa using x_nonneg, ?_⟩
  rw [transition, Exact.whole_number, Exact.whole_number, Exact.wholePart_towardZero x_nonneg,
    Exact.wholePart_towardZero (zero_le_one.trans one_le)]
  simpa using apart

/-- A score that is at least the transition score, and came from above it, is kept above it. -/
theorem transition_lt_keepOff {t s : K} (transition : rules.transitionScore = .number t)
    (one_le : 1 ≤ t) (atLeast : t ≤ s) (above : rules.transitionScore < previous) :
    rules.transitionScore < keepOff rules.transitionScore previous (.number s) := by
  have nonneg : 0 ≤ s := zero_le_one.trans (one_le.trans atLeast)
  rw [transition] at above ⊢
  rw [transition_lt_keepOff_iff one_le nonneg]
  rcases (Int.floor_le_floor atLeast).lt_or_eq with below | same
  · exact .inl below
  · exact .inr ⟨same.symm, above⟩

/-- An adjusted score lies on one side of the transition score. -/
theorem IsAdjusted.lt_or_transition_lt {score : Exact K} (adjusted : IsAdjusted rules score)
    (proper : rules.IsProper) :
    score < rules.transitionScore ∨ rules.transitionScore < score :=
  (Scalar.lt_or_le adjusted.nonneg proper.transition_nonneg).imp_right adjusted.transition_lt

/-- An adjusted score above the transition score has a whole part above it, since its whole part is
another one. -/
theorem IsAdjusted.transition_lt_floor {t x : K} (transition : rules.transitionScore = .number t)
    (adjusted : IsAdjusted rules (.number x)) (t_nonneg : 0 ≤ t) (t_lt_x : t < x) : t < ⌊x⌋ := by
  have apart := adjusted.whole_ne
  rw [transition, Exact.whole_number, Exact.whole_number,
    Exact.wholePart_towardZero (t_nonneg.trans t_lt_x.le), Exact.wholePart_towardZero t_nonneg]
    at apart
  have floor_lt : ⌊t⌋ < ⌊x⌋ :=
    lt_of_le_of_ne (Int.floor_le_floor t_lt_x.le) fun equal => apart (by rw [equal])
  exact (Int.lt_floor_add_one t).trans_le (by exact_mod_cast floor_lt)

/-- An adjusted score is the scaled one, kept off the transition score. -/
theorem exists_adjustedScore_eq {t m r : K} (transition : rules.transitionScore = .number t)
    (max : rules.maxScore = .number m) (threshold_pos : 0 < threshold)
    (margin_nonneg : 0 ≤ margin) (previous : Exact K) :
    ∃ θ, thresholdAfter rules previous threshold margin = .number θ ∧ 0 < θ ∧
      adjustedScore rules previous (.number r) threshold margin =
        keepOff (.number t) previous (.number (min (t / θ * r) m)) := by
  have positive : 0 < thresholdAfter rules previous threshold margin :=
    thresholdAfter_pos threshold_pos margin_nonneg
  obtain ⟨θ, holds, θ_pos⟩ := Exact.pos_iff.mp positive
  refine ⟨θ, holds, θ_pos, ?_⟩
  rw [adjustedScore, holds, scale_number transition max θ_pos, transition]

theorem scaled_nonneg {t m θ r : K} (one_le : 1 ≤ t) (t_le_m : t ≤ m) (θ_pos : 0 < θ)
    (r_nonneg : 0 ≤ r) : 0 ≤ min (t / θ * r) m := by
  have t_nonneg : 0 ≤ t := zero_le_one.trans one_le
  exact le_min (by positivity) (t_nonneg.trans t_le_m)

/-- Whatever the score before it, an adjusted score is not negative and keeps off the transition
score. -/
theorem isAdjusted_adjustedScore (proper : rules.IsProper) (raw_nonneg : 0 ≤ raw)
    (threshold_pos : 0 < threshold) (margin_nonneg : 0 ≤ margin) :
    IsAdjusted rules (adjustedScore rules previous raw threshold margin) := by
  obtain ⟨t, m, transition, max, one_le, t_le_m⟩ := proper.exists_numbers
  obtain ⟨r, rfl, r_nonneg⟩ := Exact.nonneg_iff.mp raw_nonneg
  obtain ⟨θ, -, θ_pos, score⟩ :=
    exists_adjustedScore_eq transition max threshold_pos margin_nonneg previous
  rw [score, ← transition]
  exact isAdjusted_keepOff transition one_le (scaled_nonneg one_le t_le_m θ_pos r_nonneg) previous

/-- An adjusted score exceeds the highest score by one at most. -/
theorem adjustedScore_le (proper : rules.IsProper) (raw_nonneg : 0 ≤ raw)
    (threshold_pos : 0 < threshold) (margin_nonneg : 0 ≤ margin) :
    adjustedScore rules previous raw threshold margin ≤ rules.maxScore + 1 := by
  obtain ⟨t, m, transition, max, one_le, t_le_m⟩ := proper.exists_numbers
  obtain ⟨r, rfl, r_nonneg⟩ := Exact.nonneg_iff.mp raw_nonneg
  obtain ⟨θ, -, θ_pos, score⟩ :=
    exists_adjustedScore_eq transition max threshold_pos margin_nonneg previous
  have nonneg : 0 ≤ min (t / θ * r) m := scaled_nonneg one_le t_le_m θ_pos r_nonneg
  have cut : min (t / θ * r) m + 1 ≤ m + 1 := by linarith [min_le_right (t / θ * r) m]
  rw [score, max, Exact.one_eq, Exact.number_add]
  exact Exact.le_trans (keepOff_le one_le nonneg previous) (Exact.number_le_number.mpr cut)

end Standing

end LinkQuality
