import LinkQuality.Proofs.Trend.Rest

/-!
# Runs of the filter

A filter can be started, left to predict, updated and reset in any order, and time may pass in steps
of any length, including none. Whatever is done to it, in exact arithmetic its three numbers remain
the covariance of a value and its velocity.

So every reading is weighed against a prediction with a share that is at least nothing and less than
all. It leaves neither state less certain than the prediction did, and the value more certain than
the reading is alone.

## Main definitions

* `Trend.Filter.Operation`, `Trend.Filter.run`: what can be done to a filter, and the filter after
* `Trend.Filter.IsSound`: whether the numbers of a filter are a covariance
* `Trend.Filter.Learns`: what a reading does to a prediction

## Main results

* `Trend.Filter.hasSoundCovariance_run`: the invariant of a run
* `Trend.Filter.sound_run`: every run is sound, and so is each update after it
-/

namespace LinkQuality.Trend

/-! ### The gain of a covariance -/

namespace Covariance

variable {K : Type} [Field K] [LinearOrder K] [IsStrictOrderedRing K] {P : Covariance K}
  {reading : K}

theorem IsSound.gain_nonneg (sound : P.IsSound) (reading_pos : 0 < reading) :
    0 ≤ P.value / (P.value + reading) :=
  div_nonneg sound.value_nonneg (sound.total_pos reading_pos).le

/-- A reading is never taken for all there is to know. -/
theorem IsSound.gain_lt_one (sound : P.IsSound) (reading_pos : 0 < reading) :
    P.value / (P.value + reading) < 1 := by
  rw [div_lt_one (sound.total_pos reading_pos)]
  exact lt_add_of_pos_right _ reading_pos

theorem IsSound.value_correct_le (sound : P.IsSound) (reading_pos : 0 < reading) :
    (P.correct reading).value ≤ P.value :=
  sub_le_self _ (mul_nonneg (sound.gain_nonneg reading_pos) sound.value_nonneg)

theorem IsSound.velocity_correct_le (sound : P.IsSound) (reading_pos : 0 < reading) :
    (P.correct reading).velocity ≤ P.velocity := by
  have gain_nonneg := div_nonneg sound.cross_nonneg (sound.total_pos reading_pos).le
  exact sub_le_self _ (mul_nonneg gain_nonneg sound.cross_nonneg)

/-- After a reading the value is more certain than the reading is alone. -/
theorem IsSound.value_correct_lt (sound : P.IsSound) (reading_pos : 0 < reading) :
    (P.correct reading).value < reading := by
  have total_pos := sound.total_pos reading_pos
  calc (P.correct reading).value = P.value / (P.value + reading) * reading := by
        rw [value_correct total_pos.ne', mul_div_assoc', div_mul_eq_mul_div]
    _ < 1 * reading := mul_lt_mul_of_pos_right (sound.gain_lt_one reading_pos) reading_pos
    _ = reading := one_mul reading

end Covariance

theorem Noise.isProper_ofStds {K : Type} [Field K] [LinearOrder K] [FloorRing K]
    [IsStrictOrderedRing K] {readingStd : K} (positive : 0 < readingStd)
    (accelerationStd : K) :
    (Noise.ofStds (.number readingStd) (.number accelerationStd) : Noise (Exact K)).IsProper where
  reading := ⟨readingStd * readingStd, rfl, mul_pos positive positive⟩
  acceleration := ⟨accelerationStd * accelerationStd, rfl, mul_self_nonneg accelerationStd⟩

namespace Filter

/-! ### Runs -/

/-- What can be done to a filter. -/
inductive Operation (α : Type) where
  | start (reading : α)
  | predict (seconds : α)
  | update (reading seconds : α)
  | reset
  deriving Repr

section Run

variable {α : Type} [Scalar α]

def Operation.apply (noise : Noise α) (filter : Filter α) : Operation α → Filter α
  | start reading => Filter.start noise reading
  | predict seconds => filter.predict noise seconds
  | update reading seconds => filter.update noise reading seconds
  | reset => blank

/-- Whether time does not run backwards. -/
def Operation.IsForward : Operation α → Prop
  | start _ | reset => True
  | predict seconds | update _ seconds => 0 ≤ seconds

/-- The filter after some operations, from a blank one. -/
def run (noise : Noise α) (operations : List (Operation α)) : Filter α :=
  operations.foldl (Operation.apply noise) blank

/-- The variance of the difference between a reading and what is predicted for it. -/
def innovationVariance (noise : Noise α) (filter : Filter α) : α :=
  filter.valueVariance + noise.reading

/-- The share of that difference by which a reading moves the value. -/
def valueGain (noise : Noise α) (filter : Filter α) : α :=
  filter.valueVariance / filter.innovationVariance noise

theorem value_correct (noise : Noise α) (reading : α) (filter : Filter α) :
    (filter.correct noise reading).value =
      filter.value + filter.valueGain noise * (reading - filter.value) := rfl

end Run

variable {K : Type} [Field K] [LinearOrder K] [FloorRing K]

/-- Whether the numbers of a filter are the covariance of a value and its velocity. -/
structure IsSound (filter : Filter (Exact K)) : Prop where
  valueVariance_nonneg : 0 ≤ filter.valueVariance
  covariance_nonneg : 0 ≤ filter.covariance
  velocityVariance_nonneg : 0 ≤ filter.velocityVariance
  sq_covariance_le :
    filter.covariance * filter.covariance ≤ filter.valueVariance * filter.velocityVariance

/-- What a reading does to a prediction: it is weighed with a share of less than all, leaves no
state less certain than it was predicted, and the value more certain than the reading is alone. -/
structure Learns (noise : Noise (Exact K)) (reading : Exact K)
    (predicted updated : Filter (Exact K)) : Prop where
  innovationVariance_pos : 0 < predicted.innovationVariance noise
  valueGain_nonneg : 0 ≤ predicted.valueGain noise
  valueGain_lt_one : predicted.valueGain noise < 1
  value_eq : updated.value =
    predicted.value + predicted.valueGain noise * (reading - predicted.value)
  valueVariance_le : updated.valueVariance ≤ predicted.valueVariance
  velocityVariance_le : updated.velocityVariance ≤ predicted.velocityVariance
  valueVariance_lt : updated.valueVariance < noise.reading

/-- Whether the numbers of a filter are numbers, and those of a covariance. -/
def HasSoundCovariance (filter : Filter (Exact K)) : Prop :=
  ∃ P : Covariance K, filter.HasCovariance P ∧ P.IsSound

theorem hasSoundCovariance_blank : (blank : Filter (Exact K)).HasSoundCovariance :=
  ⟨⟨0, 0, 0⟩, ⟨Exact.zero_eq, Exact.zero_eq, Exact.zero_eq⟩, Covariance.isSound_of_value le_rfl⟩

variable [IsStrictOrderedRing K] {noise : Noise (Exact K)} {filter : Filter (Exact K)}

theorem HasSoundCovariance.isSound (has : filter.HasSoundCovariance) : filter.IsSound := by
  obtain ⟨P, ⟨value, cross, velocity⟩, sound⟩ := has
  constructor
  · simpa [value] using sound.value_nonneg
  · simpa [cross] using sound.cross_nonneg
  · simpa [velocity] using sound.velocity_nonneg
  · have determinant_nonneg := sound.determinant_nonneg
    rw [Covariance.determinant, sub_nonneg] at determinant_nonneg
    simpa [value, cross, velocity] using determinant_nonneg

theorem hasSoundCovariance_start (proper : noise.IsProper) (reading : Exact K) :
    (start noise reading).HasSoundCovariance := by
  obtain ⟨r, isNumber, r_pos⟩ := proper.reading
  refine ⟨⟨9 * r, 0, 0⟩, ⟨?_, Exact.zero_eq, Exact.zero_eq⟩,
    Covariance.isSound_of_value (by positivity)⟩
  rw [start, isNumber, Exact.ofNat_eq 9, Exact.number_mul]

theorem HasSoundCovariance.predict (has : filter.HasSoundCovariance) (proper : noise.IsProper)
    {seconds : Exact K} (nonneg : 0 ≤ seconds) :
    (filter.predict noise seconds).HasSoundCovariance := by
  obtain ⟨P, has, sound⟩ := has
  obtain ⟨q, isNumber, q_nonneg⟩ := proper.acceleration
  obtain ⟨s, rfl, s_nonneg⟩ := Exact.nonneg_iff.mp nonneg
  exact ⟨P.predict q s, has.predict isNumber s, sound.predict q_nonneg s_nonneg⟩

theorem HasSoundCovariance.correct (has : filter.HasSoundCovariance) (proper : noise.IsProper)
    (reading : Exact K) : (filter.correct noise reading).HasSoundCovariance := by
  obtain ⟨P, has, sound⟩ := has
  obtain ⟨r, isNumber, r_pos⟩ := proper.reading
  exact ⟨P.correct r, has.correct isNumber (sound.total_pos r_pos).ne' reading,
    sound.correct r_pos⟩

theorem HasSoundCovariance.apply (has : filter.HasSoundCovariance) (proper : noise.IsProper)
    {operation : Operation (Exact K)} (forward : operation.IsForward) :
    (operation.apply noise filter).HasSoundCovariance := by
  cases operation with
  | start reading => exact hasSoundCovariance_start proper reading
  | predict seconds => exact has.predict proper forward
  | update reading seconds =>
    rw [Operation.apply, Filter.update]
    split_ifs with started
    · exact (has.predict proper forward).correct proper reading
    · exact hasSoundCovariance_start proper reading
  | reset => exact hasSoundCovariance_blank

theorem HasSoundCovariance.foldl (has : filter.HasSoundCovariance) (proper : noise.IsProper)
    {operations : List (Operation (Exact K))}
    (forward : ∀ operation ∈ operations, operation.IsForward) :
    (operations.foldl (Operation.apply noise) filter).HasSoundCovariance := by
  induction operations generalizing filter with
  | nil => exact has
  | cons operation operations ih =>
    obtain ⟨first, rest⟩ := List.forall_mem_cons.mp forward
    exact ih (has.apply proper first) rest

/-- Whatever is done to a filter, it keeps numbers of a covariance. -/
theorem hasSoundCovariance_run (proper : noise.IsProper) {operations : List (Operation (Exact K))}
    (forward : ∀ operation ∈ operations, operation.IsForward) :
    (run noise operations).HasSoundCovariance :=
  hasSoundCovariance_blank.foldl proper forward

/-- A reading is weighed against a prediction whose numbers are those of a covariance. -/
theorem HasSoundCovariance.learns (has : filter.HasSoundCovariance) (proper : noise.IsProper)
    (reading : Exact K) : Learns noise reading filter (filter.correct noise reading) := by
  obtain ⟨P, has, sound⟩ := has
  obtain ⟨r, isNumber, r_pos⟩ := proper.reading
  have total_pos := sound.total_pos r_pos
  have corrected := has.correct isNumber total_pos.ne' reading
  have gain : filter.valueGain noise = .number (P.value / (P.value + r)) := by
    rw [valueGain, innovationVariance, has.value, isNumber, Exact.number_add,
      Exact.number_div total_pos.ne']
  -- Each clause is one of the inequalities between the variances, read off the filter.
  constructor
  · simpa [innovationVariance, has.value, isNumber] using total_pos
  · simpa [gain] using sound.gain_nonneg r_pos
  · simpa [gain] using sound.gain_lt_one r_pos
  · exact value_correct noise reading filter
  · simpa [corrected.value, has.value] using sound.value_correct_le r_pos
  · simpa [corrected.velocity, has.velocity] using sound.velocity_correct_le r_pos
  · simpa [corrected.value, isNumber] using sound.value_correct_lt r_pos

/-- Whatever is done to a filter of inexact readings, its numbers remain a covariance, and each
further reading is weighed against the prediction for it and makes it more certain. -/
theorem sound_run {readingStd : K} (positive : 0 < readingStd) (accelerationStd : K)
    {operations : List (Operation (Exact K))}
    (forward : ∀ operation ∈ operations, operation.IsForward) :
    let noise := Noise.ofStds (.number readingStd) (.number accelerationStd)
    let filter := run noise operations
    filter.IsSound ∧
      ∀ reading seconds : Exact K, 0 ≤ seconds → filter.hasStarted = true →
        Learns noise reading (filter.predict noise seconds)
          (filter.update noise reading seconds) := by
  intro noise filter
  have proper : noise.IsProper := Noise.isProper_ofStds positive accelerationStd
  have has : filter.HasSoundCovariance := hasSoundCovariance_run proper forward
  refine ⟨has.isSound, ?_⟩
  intro reading seconds nonneg started
  rw [Filter.update, if_pos started]
  exact (has.predict proper nonneg).learns proper reading

/-- A filter that is reset, left to predict without a value, and started again. -/
theorem sound_run_restarted :
    let noise : Noise (Exact ℚ) := Noise.ofStds (.number 2) (.number (1 / 50))
    let filter := run noise [.update (.number (-70)) (.number 0), .reset, .predict (.number 4),
      .start (.number (-80)), .predict (.number 0)]
    filter.IsSound ∧ Learns noise (.number (-85)) (filter.predict noise (.number 3))
      (filter.update noise (.number (-85)) (.number 3)) := by
  have forward : ∀ operation ∈ ([.update (.number (-70)) (.number 0), .reset, .predict (.number 4),
      .start (.number (-80)), .predict (.number 0)] : List (Operation (Exact ℚ))),
      operation.IsForward := by
    simp [Operation.IsForward]
  obtain ⟨sound, learns⟩ := sound_run two_pos (1 / 50) forward
  exact ⟨sound, learns _ _ (by simp) rfl⟩

end Filter

end LinkQuality.Trend
