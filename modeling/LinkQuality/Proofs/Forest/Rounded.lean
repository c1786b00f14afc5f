import LinkQuality.Proofs.Binary64.Undefined
import LinkQuality.Proofs.Forest.Probability

/-!
# Forests in floating point

In double precision a forest of at least one tree answers with a probability as well, though each
sum is rounded. Rounding keeps the order, so no sum of numbers up to one becomes larger than their
number or than `2 ^ 53`: from there on, adding one is rounded away. The number of trees is converted
to something at least as large, and an average is not above one.

Only where more trees agree than double precision has numbers for is the share of them undefined,
and so is the score. No score compares below zero.

## Main definitions

* `Binary64.IsProbability`: whether a number has a value between zero and one

## Main results

* `Binary64.exists_total`: sums of probabilities
* `Vote.isProbability_or_undefined`: what forests answer
* `Forest.not_score_lt_zero`: the scores of a forest
-/

namespace LinkQuality

namespace Binary64

/-- Whether a number has a value between zero and one. -/
def IsProbability (x : Float) : Prop := ∃ p, HasValue x p ∧ 0 ≤ p ∧ p ≤ 1

theorem isProbability_of_within {x : Float} (within : Scalar.within 0 1 x = true) :
    IsProbability x := by
  rw [Scalar.within, Bool.and_eq_true, decide_eq_true_eq, decide_eq_true_eq] at within
  obtain ⟨p, hasValue⟩ := exists_hasValue_of_le hasValue_zero hasValue_one within.1 within.2
  exact ⟨p, hasValue, (hasValue_zero.le_iff hasValue).mp within.1,
    (hasValue.le_iff hasValue_one).mp within.2⟩

/-! ### Rounded sums -/

theorem rounded_two_pow_53 : rounded (2 ^ 53) = 2 ^ 53 := by
  simpa using rounded_eq_self (m := 1) (e := 53) (by decide) (by decide)

/-- One more than `2 ^ 53` lies half way to the next number, and the even one is below. -/
theorem rounded_two_pow_53_add_one : rounded (2 ^ 53 + 1) = 2 ^ 53 := by
  have log : Int.log 2 ((2 : ℚ) ^ 53 + 1) = 53 := by
    have whole : (2 : ℚ) ^ 53 + 1 = (2 ^ 53 + 1 : ℕ) := by norm_num
    rw [whole, Int.log_natCast]
    norm_num
  have place : lastPlace (2 ^ 53 + 1) = 1 := by
    rw [lastPlace, log]
    decide
  -- It lies half way between two numbers, of which the lower one is even.
  have half : ((2 : ℚ) ^ 53 + 1) / 2 ^ (1 : ℤ) = ((2 ^ 52 : ℤ) : ℚ) + 1 / 2 := by norm_num
  have nearest : Exact.nearestEven (((2 ^ 52 : ℤ) : ℚ) + 1 / 2) = 2 ^ 52 := by
    have floor : ⌊((2 ^ 52 : ℤ) : ℚ) + 1 / 2⌋ = 2 ^ 52 := by
      rw [Int.floor_intCast_add]
      norm_num
    have fract : Int.fract (((2 ^ 52 : ℤ) : ℚ) + 1 / 2) = 1 / 2 := by
      rw [Int.fract_intCast_add]
      norm_num [Int.fract]
    rw [Exact.nearestEven, floor, fract, if_neg (lt_irrefl _), if_neg (lt_irrefl _),
      if_pos (by decide)]
  rw [rounded, place, half, nearest]
  norm_num

/-- What is at most `2 ^ 53` does not become more by adding a probability. -/
theorem rounded_add_le {s p : ℚ} (s_nonneg : 0 ≤ s) (s_le : s ≤ 2 ^ 53) (p_nonneg : 0 ≤ p)
    (p_le : p ≤ 1) : rounded (s + p) ≤ 2 ^ 53 :=
  (rounded_mono (add_nonneg s_nonneg p_nonneg) (add_le_add s_le p_le)).trans
    rounded_two_pow_53_add_one.le

/-- A sum of probabilities is not more than their number, nor than `2 ^ 53`. -/
theorem exists_total {values : List Float} (bounds : ∀ x ∈ values, IsProbability x) :
    ∃ sum, HasValue (Scalar.total values) sum ∧ 0 ≤ sum ∧ sum ≤ values.length ∧
      sum ≤ 2 ^ 53 := by
  induction values using List.reverseRecOn with
  | nil => exact ⟨0, rfl, le_rfl, le_of_eq (by simp), by positivity⟩
  | append_singleton values x ih =>
    obtain ⟨sum, total, sum_nonneg, sum_le, sum_le'⟩ :=
      ih fun y mem => bounds y (List.mem_append_left _ mem)
    obtain ⟨p, isP, p_nonneg, p_le⟩ := bounds x (by simp)
    have nonneg : 0 ≤ sum + p := add_nonneg sum_nonneg p_nonneg
    have below := rounded_add_le sum_nonneg sum_le' p_nonneg p_le
    have fits : Fits (sum + p) := by
      rw [Fits, abs_of_nonneg nonneg]
      exact below.trans_lt (pow_lt_pow_right₀ one_lt_two (by decide))
    have hasValue := total.add isP fits
    rw [nearest_of_nonneg nonneg] at hasValue
    refine ⟨rounded (sum + p), ?_, rounded_nonneg nonneg, ?_, below⟩
    · rw [Scalar.total, List.foldl_append, List.foldl_cons, List.foldl_nil, ← Scalar.total]
      exact hasValue
    · rw [List.length_append, List.length_singleton]
      by_cases small : values.length + 1 < 2 ^ 53
      · -- The number of summands is rounded to itself.
        rw [← rounded_natCast small, Nat.cast_add_one]
        exact rounded_mono nonneg (add_le_add sum_le p_le)
      · exact below.trans (by exact_mod_cast Nat.le_of_not_lt small)

/-! ### Rounded shares -/

theorem isProbability_div {x y : Float} {part whole : ℚ} (isPart : HasValue x part)
    (isWhole : HasValue y whole) (positive : 0 < whole) (nonneg : 0 ≤ part)
    (atMost : part ≤ whole) : IsProbability (x / y) := by
  have share_nonneg : 0 ≤ part / whole := div_nonneg nonneg positive.le
  have share_le : part / whole ≤ 1 := (div_le_one positive).mpr atMost
  have fits : Fits (part / whole) := fits_of_abs_le_one (by rwa [abs_of_nonneg share_nonneg])
  refine ⟨_, isPart.div isWhole positive.ne' fits, ?_⟩
  rw [nearest_of_nonneg share_nonneg]
  exact ⟨rounded_nonneg share_nonneg, rounded_le_one share_nonneg share_le⟩

theorem IsProbability.one_sub {x : Float} (isProbability : IsProbability x) :
    IsProbability (1 - x) := by
  obtain ⟨p, hasValue, nonneg, atMost⟩ := isProbability
  have rest_nonneg : 0 ≤ 1 - p := sub_nonneg.mpr atMost
  have rest_le : 1 - p ≤ 1 := sub_le_self 1 nonneg
  have fits : Fits (1 - p) := fits_of_abs_le_one (by rwa [abs_of_nonneg rest_nonneg])
  refine ⟨_, hasValue_one.sub hasValue fits, ?_⟩
  rw [nearest_of_nonneg rest_nonneg]
  exact ⟨rounded_nonneg rest_nonneg, rounded_le_one rest_nonneg rest_le⟩

theorem one_le_rounded {n : ℕ} (nonzero : 0 < n) : 1 ≤ rounded n := by
  calc (1 : ℚ) = rounded (1 : ℕ) := by rw [rounded_natCast (by decide), Nat.cast_one]
    _ ≤ rounded n := rounded_mono (Nat.cast_nonneg 1) (Nat.cast_le.mpr nonzero)

/-- A sum that is not more than a number of summands, nor than `2 ^ 53`, is not more than what that
number is converted to. -/
theorem le_rounded_natCast {n : ℕ} {s : ℚ} (s_le : s ≤ n) (s_le' : s ≤ 2 ^ 53) :
    s ≤ rounded n := by
  by_cases small : n < 2 ^ 53
  · rwa [rounded_natCast small]
  · calc s ≤ rounded (2 ^ 53) := s_le'.trans rounded_two_pow_53.ge
      _ ≤ rounded n :=
        rounded_mono (by positivity) (by exact_mod_cast Nat.le_of_not_lt small)

/-- A share of a number of summands. The number may be out of range, and then the share is zero. -/
theorem isProbability_div_ofNat {x : Float} {part : ℚ} {n : ℕ} (isPart : HasValue x part)
    (nonzero : 0 < n) (nonneg : 0 ≤ part) (atMost : part ≤ rounded n) :
    IsProbability (x / Float.ofNat n) := by
  by_cases fits : rounded n < 2 ^ 1024
  · exact isProbability_div isPart (hasValue_ofNat fits)
      (zero_lt_one.trans_le (one_le_rounded nonzero)) nonneg atMost
  · exact ⟨0, isPart.div_infinity (unpack_ofNat_of_not_lt fits), le_rfl, zero_le_one⟩

end Binary64

open Binary64

/-! ### Trees and forests -/

/-- A tree answers every input with a probability. -/
theorem Tree.isProbability_rounded (tree : Tree Float) (input : List Float) :
    Binary64.IsProbability (tree.probability input) := by
  rw [Tree.probability]
  cases ends : descend? tree.nodes input tree.nodes.size 0 with
  | none => exact ⟨0, hasValue_zero, le_rfl, zero_le_one⟩
  | some probability => exact isProbability_of_within (tree.within_of_descend? input ends)

/-- An average is a probability. A share is one as well, unless it is one of more votes than double
precision has numbers for. -/
theorem Vote.isProbability_or_undefined (vote : Vote) {values : List Float}
    (nonempty : values ≠ []) (bounds : ∀ x ∈ values, Binary64.IsProbability x) :
    Binary64.IsProbability (vote.combine values) ∨ (vote.combine values).isNaN = true := by
  have positive : 0 < values.length := List.length_pos_iff.mpr nonempty
  cases vote with
  | mean =>
    obtain ⟨sum, total, nonneg, sum_le, sum_le'⟩ := exists_total bounds
    exact .inl (isProbability_div_ofNat total positive nonneg (le_rounded_natCast sum_le sum_le'))
  | majority =>
    let votes := values.countP fun p => decide ((0.5 : Float) < p)
    have votes_le : rounded votes ≤ rounded values.length :=
      rounded_mono (Nat.cast_nonneg _) (by exact_mod_cast List.countP_le_length)
    -- Only a count out of range gives no probability: infinities have no quotient.
    by_cases fits : rounded votes < 2 ^ 1024
    · exact .inl (isProbability_div_ofNat (hasValue_ofNat fits) positive
        (rounded_nonneg (Nat.cast_nonneg _)) votes_le)
    · have large : ¬ rounded values.length < 2 ^ 1024 := fun less =>
        fits (votes_le.trans_lt less)
      exact .inr (isNaN_div_of_infinity (unpack_ofNat_of_not_lt fits)
        (unpack_ofNat_of_not_lt large))

theorem Binary64.IsProbability.not_score_lt_zero {p : Float} (isProbability : IsProbability p) :
    ¬ 100 * (1 - p) < (0 : Float) := by
  obtain ⟨t, rest, nonneg, atMost⟩ := isProbability.one_sub
  have hundred : HasValue (100 : Float) (100 : ℕ) := hasValue_ofNat_of_lt (by decide)
  have score_nonneg : 0 ≤ ((100 : ℕ) : ℚ) * t := mul_nonneg (Nat.cast_nonneg _) nonneg
  have score := hundred.mul rest <| hundred.hasForm.fits.mono <| by
    rw [abs_of_nonneg score_nonneg, Nat.abs_cast]
    exact mul_le_of_le_one_right (Nat.cast_nonneg _) atMost
  rw [nearest_of_nonneg score_nonneg] at score
  rw [score.lt_iff hasValue_zero, not_lt]
  exact rounded_nonneg score_nonneg

/-- A forest of at least one tree gives every input a score, and no score is below zero. -/
theorem Forest.not_score_lt_zero (forest : Forest Float) (nonempty : forest.trees.isEmpty = false)
    (values : Vector Float 45) :
    ∃ score, forest.score? values = some score ∧ ¬ score < 0 := by
  have voters : forest.trees.map (fun tree => tree.probability values.toList) ≠ [] := by
    intro empty
    rw [List.map_eq_nil_iff] at empty
    simp [empty] at nonempty
  have bounds : ∀ x ∈ forest.trees.map (fun tree => tree.probability values.toList),
      Binary64.IsProbability x := by
    intro x mem
    obtain ⟨tree, -, rfl⟩ := List.mem_map.mp mem
    exact tree.isProbability_rounded values.toList
  let combined := forest.vote.combine (forest.trees.map fun tree => tree.probability values.toList)
  refine ⟨100 * (1 - combined), ?_, ?_⟩
  · rw [Forest.score?, Forest.probability?, nonempty, if_neg Bool.false_ne_true]
    rfl
  · rcases forest.vote.isProbability_or_undefined voters bounds with isProbability | undefined
    · exact isProbability.not_score_lt_zero
    · exact not_lt_of_isNaN (isNaN_mul_right _ (isNaN_sub_right _ undefined)) _

end LinkQuality
