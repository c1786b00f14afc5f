import LinkQuality.Proofs.Forest.Rounded
import LinkQuality.Proofs.Forest.Scores
import LinkQuality.Proofs.Scorer
import LinkQuality.Proofs.Settings.Accepted
import LinkQuality.Proofs.Trend.Observe

/-!
# What is classified

Whatever scorer the settings lead to, a primary sample with a reading gets a score. The trend has
something to score by from its first reading on. A forest gives every summary a score that is not
below zero, and the score of a bad link is above minus one, unless the threshold is so small that
rounding takes it down to the mark of an unclassified sample.

The exception is a bundle without trees. It is a model like any other, so it is not replaced by the
trend, but a forest of no trees says nothing.

## Main definitions

* `Scorer.isSilent`: whether a scorer is a forest that says nothing

## Main results

* `ForestScorer.toInt32_score_nonneg`, `TrendScorer.score_verdict_nonneg`: the scores of a call
* `Scorer.isSilent_ofSettings`: which settings and bundles lead to a silent scorer
* `Scorer.unclassified_iff_no_trees`: what is classified along a run
-/

namespace LinkQuality

namespace Binary64

open Float.Model

variable {x : Float} {s : ℚ}

theorem hasValue_unclassified : HasValue (unclassified : Float) (-1) := hasValue_one.neg

/-- One less than a positive number is rounded to minus one or to something above. -/
theorem neg_one_le_nearest_sub_one (positive : 0 < s) : -1 ≤ nearest (s - 1) := by
  rcases le_or_gt 1 s with one_le | less
  · have nonneg : 0 ≤ s - 1 := sub_nonneg.mpr one_le
    rw [nearest_of_nonneg nonneg]
    linarith [rounded_nonneg nonneg]
  · have rest_pos : 0 < 1 - s := sub_pos.mpr less
    rw [← neg_sub, nearest_neg_of_pos rest_pos, neg_le_neg_iff]
    exact rounded_le_one rest_pos.le (sub_le_self 1 positive.le)

/-- One less than a positive number has an integer part that is not negative, unless it is rounded
to the mark of an unclassified sample. -/
theorem HasValue.toInt32_sub_one_nonneg (hasValue : HasValue x s) (positive : 0 < s)
    (apart : (x - 1 == (unclassified : Float)) = false) : 0 ≤ Scalar.toInt32 (x - 1) := by
  have difference := hasValue.sub hasValue_one (hasValue.fits_sub_one positive)
  refine difference.toInt32_nonneg (lt_of_le_of_ne (neg_one_le_nearest_sub_one positive) ?_)
  intro isMark
  rw [← isMark] at difference
  rw [difference.beq_of_eq hasValue_unclassified] at apart
  exact Bool.noConfusion apart

/-- One less than a positive number, finite or not, has an integer part that is not negative, unless
it is the mark of an unclassified sample. -/
theorem toInt32_sub_one_nonneg (positive : 0 < x)
    (apart : (x - 1 == (unclassified : Float)) = false) : 0 ≤ Scalar.toInt32 (x - 1) := by
  have ofValue {s : ℚ} (hasValue : HasValue x s) : 0 ≤ Scalar.toInt32 (x - 1) :=
    hasValue.toInt32_sub_one_nonneg ((hasValue_zero.lt_iff hasValue).mp positive) apart
  cases form : x.toModel.unpack with
  | zero sign => exact ofValue (congrArg value? form)
  | finite sign m e nonzero => exact ofValue (congrArg value? form)
  | notANumber =>
    rw [lt_iff, compare_eq_none_iff.mpr (.inr (congrArg UnpackedFloat.isNaN form))] at positive
    cases positive
  | infinity sign =>
    -- The sign stays that of a positive number.
    refine toInt32_nonneg ?_
    have notGreater := lt_asymm positive
    change ¬ x < Float.ofNat 0 at notGreater
    rw [lt_iff, form] at notGreater
    rwa [lt_iff, hasValue_one.infinity_sub form]

end Binary64

/-! ### Forests -/

namespace ForestScorer

variable {scorer : ForestScorer Float}

/-- Where there is something to score with, the integer part of a score is not negative. -/
theorem toInt32_score_nonneg (positive : 0 < scorer.settings.hysteresis.threshold)
    (apart : (scorer.badScore == unclassified) = false) (can : scorer.canScore = true)
    (history : History Float) (sample : Sample) (isSameLink : Bool) :
    0 ≤ Scalar.toInt32 (scorer.score history sample isSameLink).2 := by
  obtain ⟨model, loaded, hasTrees⟩ := (Option.any_eq_true _ _).mp can
  obtain ⟨summary, isBad, raw⟩ := exists_summary_of_model scorer history sample isSameLink loaded
  obtain ⟨score, scored, notBelow⟩ :=
    model.forest.not_score_lt_zero (by simpa using hasTrees) summary.toVector
  rw [raw, scored]
  cases isBad with
  | false => exact Binary64.toInt32_nonneg notBelow
  | true => exact Binary64.toInt32_sub_one_nonneg positive apart

/-- A primary call is not classified exactly if there is nothing to score with. -/
theorem score_verdict_eq_neg_one_iff (scorer : ForestScorer Float)
    (positive : 0 < scorer.settings.hysteresis.threshold)
    (apart : (scorer.badScore == unclassified) = false) (memory : Memory Float) (sample : Sample)
    (nowMs : ℕ) :
    (scorer.verdict memory sample nowMs true).2.score = -1 ↔ scorer.canScore = false := by
  obtain ⟨-, wantsProbe, reported⟩ := verdict_eq scorer memory sample nowMs true
  have score : (scorer.verdict memory sample nowMs true).2.score =
      Scalar.toInt32 (scorer.score memory.history sample (memory.isFollowedBy sample)).2 := by
    rw [reported]
    rfl
  rw [score]
  cases can : scorer.canScore with
  | false =>
    rw [score_of_not_canScore can]
    -- The mark is reported as minus one.
    exact iff_of_true (by decide +kernel) rfl
  | true =>
    have nonneg := toInt32_score_nonneg positive apart can memory.history sample
      (memory.isFollowedBy sample)
    exact iff_of_false (by omega) (by decide)

end ForestScorer

/-! ### Trends -/

/-- A call with a reading is classified, whatever is remembered. -/
theorem TrendScorer.score_verdict_nonneg {scorer : TrendScorer Float}
    (nonneg : 0 ≤ scorer.settings.maxScore) (memory : Memory Float) {sample : Sample}
    (reading : sample.rssi?.isSome = true) (nowMs : ℕ) (isPrimary : Bool) :
    0 ≤ (scorer.verdict memory sample nowMs isPrimary).2.score := by
  have started : (scorer.observe memory sample).filter.hasStarted = true := by
    rw [hasStarted_observe, reading, Bool.true_or]
  dsimp only [TrendScorer.verdict]
  rw [if_pos started]
  exact Binary64.toInt32_clamp_nonneg nonneg _

/-! ### Bundles -/

section Bundles

variable {α : Type} [Scalar α]

theorem Bundle.length_of_treesOfRecords {index : ℕ} {records : List (List (NodeRecord α))}
    {trees : List (Tree α)} (made : treesOfRecords index records = .ok trees) :
    trees.length = records.length := by
  induction records generalizing index trees with
  | nil =>
    cases made
    rfl
  | cons first rest ih =>
    rw [treesOfRecords] at made
    split at made
    · cases made
    · -- A list of trees is made of all the others as well, or there is no list.
      cases others : treesOfRecords (index + 1) rest with
      | error fault =>
        rw [others] at made
        cases made
      | ok trees =>
        rw [others] at made
        cases made
        rw [List.length_cons, List.length_cons, ih others]

theorem Model.length_trees_of_load? {id : ℕ} {bundle : Bundle α} {model : Model α}
    (loaded : Model.load? id bundle = some model) :
    model.forest.trees.length = bundle.trees.length := by
  unfold Model.load? at loaded
  split at loaded
  · unfold Bundle.build at loaded
    split at loaded
    · cases loaded
    · cases made : Bundle.treesOfRecords 0 bundle.trees with
      | error fault =>
        rw [made] at loaded
        cases loaded
      | ok trees =>
        rw [made] at loaded
        cases loaded
        exact Bundle.length_of_treesOfRecords made
  · cases loaded
  · cases loaded

namespace Scorer

/-- Whether a scorer is a forest that says nothing. -/
def isSilent : Scorer α → Bool
  | .forest scorer => !scorer.canScore
  | .trend _ => false

/-- A scorer is silent exactly if a forest is asked for and the bundle is a model without trees. -/
theorem isSilent_ofSettings {settings : Settings α} {bundle? : Option (Bundle α)} :
    (ofSettings settings bundle?).isSilent = true ↔
      settings.method = .forest ∧ ∃ bundle, bundle? = some bundle ∧
        (Model.load? settings.modelId bundle).isSome = true ∧ bundle.trees = [] := by
  unfold ofSettings
  cases settings.method with
  | trend => simp [isSilent]
  | forest =>
    cases bundle? with
    | none => simp [isSilent]
    | some bundle =>
      cases loaded : Model.load? settings.modelId bundle with
      | none => simp [isSilent, loaded]
      | some model =>
        have sameLength := Model.length_trees_of_load? loaded
        simp [isSilent, ForestScorer.canScore, loaded, ← List.length_eq_zero_iff, sameLength]

/-! ### Runs -/

variable [Undefined α] [SquareRoot α] [Exponential α]

theorem getElem?_verdicts (scorer : Scorer α) {calls : List Call} {n : ℕ} {sample : Sample}
    {nowMs : ℕ} {isPrimary : Bool} (here : calls[n]? = some (.score sample nowMs isPrimary)) :
    (scorer.verdicts calls)[n]? =
      some (some (scorer.verdict (scorer.memoryAfter (calls.take n)) sample nowMs isPrimary).2) := by
  rw [verdicts, getElem?_answers, here]
  cases scorer <;> rfl

end Scorer

end Bundles

namespace Scorer

/-- **What is classified.** With accepted settings whose score of a bad link is not taken for the
mark, and with any bundle or none, a primary sample with a reading is left unclassified exactly if
its scorer is the forest of a bundle without trees. -/
theorem unclassified_iff_no_trees {overrides : Settings.Overrides Float} {settings : Settings Float}
    (accepted : overrides.resolve = .ok settings)
    (apart : settings.method = .forest →
      (settings.hysteresis.threshold - 1 == (unclassified : Float)) = false)
    (bundle? : Option (Bundle Float)) {calls : List Call} {n : ℕ} {sample : Sample} {nowMs : ℕ}
    (here : calls[n]? = some (.score sample nowMs true)) (reading : sample.rssi?.isSome = true) :
    ∃ verdict, ((ofSettings settings bundle?).verdicts calls)[n]? = some (some verdict) ∧
      (verdict.score = -1 ↔ settings.method = .forest ∧ ∃ bundle, bundle? = some bundle ∧
        (Model.load? settings.modelId bundle).isSome = true ∧ bundle.trees = []) := by
  refine ⟨_, getElem?_verdicts _ here, ?_⟩
  rw [← isSilent_ofSettings]
  obtain ⟨horizon, -, passes⟩ := Settings.Overrides.resolve_eq_ok_iff.mp accepted
  have ofTrend (memory : TrendScorer.Memory Float) :
      (TrendScorer.verdict ⟨settings.trend⟩ memory sample nowMs true).2.score = -1 ↔
        false = true := by
    have nonneg : 0 ≤ (TrendScorer.verdict ⟨settings.trend⟩ memory sample nowMs true).2.score :=
      TrendScorer.score_verdict_nonneg passes.trendMaxScore_nonneg memory reading nowMs true
    exact iff_of_false (by omega) (by decide)
  -- What was called before does not matter, so any memory will do.
  generalize (ofSettings settings bundle?).memoryAfter (calls.take n) = memory
  revert memory
  unfold ofSettings
  cases asked : settings.method with
  | trend => exact ofTrend
  | forest =>
    cases bundle?.bind (Model.load? settings.modelId) with
    | none => exact ofTrend
    | some model =>
      intro memory
      rw [isSilent, Bool.not_eq_true']
      exact ForestScorer.score_verdict_eq_neg_one_iff ⟨settings, some model⟩ passes.threshold
        (apart asked) memory sample nowMs

/-- A forest of one tree scores a hopeless link, though after a call on a secondary one. -/
theorem unclassified_iff_no_trees_single_leaf :
    let bundle : Bundle Float :=
      { trees := [[{ probability := 0.3 }]], means := .replicate 45 0, stds := .replicate 45 1 }
    let calls : List Call := [.score { rssiDbm := -60 } 0 false, .score { rssiDbm := -95 } 3000 true]
    ∃ verdict, ((ofSettings .defaults (some bundle)).verdicts calls)[1]? = some (some verdict) ∧
      verdict.score ≠ -1 := by
  intro bundle calls
  obtain ⟨verdict, answered, unclassified⟩ :=
    unclassified_iff_no_trees Settings.Overrides.resolve_empty (fun _ => by decide +kernel)
      (some bundle) (rfl : calls[1]? = some (.score _ 3000 true)) rfl
  refine ⟨verdict, answered, fun mark => ?_⟩
  obtain ⟨-, treeless, same, -, noTrees⟩ := unclassified.mp mark
  obtain rfl := Option.some.inj same
  cases noTrees

/-- With a bundle without trees no sample is classified. -/
theorem not_forall_classified :
    ¬ ∀ (overrides : Settings.Overrides Float) (settings : Settings Float),
      overrides.resolve = .ok settings →
      ∀ (bundle? : Option (Bundle Float)) (calls : List Call) (n : ℕ) (sample : Sample) (nowMs : ℕ),
        calls[n]? = some (.score sample nowMs true) → sample.rssi?.isSome = true →
        ∃ verdict, ((ofSettings settings bundle?).verdicts calls)[n]? = some (some verdict) ∧
          verdict.score ≠ -1 := by
  intro classified
  let bundle : Bundle Float := { trees := [], means := .replicate 45 0, stds := .replicate 45 1 }
  let sample : Sample := { rssiDbm := -60 }
  obtain ⟨verdict, answered, scored⟩ := classified {} .defaults Settings.Overrides.resolve_empty
    (some bundle) [.score sample 0 true] 0 sample 0 rfl rfl
  have marked : ((ofSettings .defaults (some bundle)).verdicts [.score sample 0 true])[0]?.map
      (·.map Verdict.score) = some (some (-1)) := by decide +kernel
  rw [answered] at marked
  exact scored (Option.some.inj (Option.some.inj marked))

end Scorer

end LinkQuality
