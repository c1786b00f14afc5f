import LinkQuality.Proofs.Forest.Recall
import LinkQuality.Proofs.Forest.Rounded
import LinkQuality.Proofs.Forest.Secondary
import LinkQuality.Proofs.Settings.Sound

/-!
# Scores that are overridden

Where the last interval proves that a link is bad, the score that the forest predicts for the
history is set aside for a fixed one, the score below the threshold. The fixed score does not bound
the predicted one. A forest that finds the link worse still is overridden as well, and the link that
is proved to be bad gets the higher of the two scores.

No prediction is below zero, and one of zero can always be overridden: the signal has to be
hopeless, and a first sample is enough. So there are forests and samples whose score is lifted
exactly if the fixed score is above zero.

## Main definitions

* `ForestScorer.predicted?`: the score that the forest gives the history after a sample
* `ForestScorer.overrides`: whether this score is set aside

## Main results

* `ForestScorer.score_of_predicted`: the score of a sample, in terms of the two
* `ForestScorer.predicted_lt_score_iff`: which scores are lifted
* `ForestScorer.exists_lifted_iff`: for which settings there are such scores
-/

namespace LinkQuality

namespace ForestScorer

section Calls

variable {α : Type} [Scalar α] [Undefined α] [SquareRoot α]

/-- The score that the forest gives the history after a sample. -/
def predicted? (scorer : ForestScorer α) (history : History α) (sample : Sample)
    (isSameLink : Bool) : Option α :=
  scorer.forestScore? (scorer.score history sample isSameLink).1

/-- Whether this score is set aside because the link is proved to be bad. -/
def overrides (scorer : ForestScorer α) (history : History α) (sample : Sample)
    (isSameLink : Bool) : Bool :=
  let before := historyBefore history sample isSameLink
  scorer.canScore && history.continuity sample != .stale &&
    sample.rssi?.any (scorer.provesBad (scorer.intervalAfter before sample))

variable {scorer : ForestScorer α} {history : History α} {sample : Sample} {isSameLink : Bool}
  {predicted : α}

/-- There is a prediction for every sample where there is something to score with. -/
theorem isSome_predicted? (scorer : ForestScorer α) (history : History α) (sample : Sample)
    (isSameLink : Bool) :
    (scorer.predicted? history sample isSameLink).isSome = scorer.canScore := by
  cases can : scorer.canScore with
  | false => rw [predicted?, forestScore?_of_not_canScore can, Option.isSome_none]
  | true =>
    obtain ⟨model, loaded, hasTrees⟩ := (Option.any_eq_true _ _).mp can
    obtain ⟨last, ends, -⟩ := exists_last?_score scorer history sample isSameLink
    have voters : model.forest.trees ≠ [] := by simpa using hasTrees
    simp [predicted?, forestScore?, loaded, History.summary?, ends, Forest.score?,
      Forest.probability?, voters]

/-- A sample gets the predicted score, unless this is set aside for that of a bad link. -/
theorem score_of_predicted
    (predicts : scorer.predicted? history sample isSameLink = some predicted) :
    (scorer.score history sample isSameLink).2 =
      if scorer.overrides history sample isSameLink then scorer.badScore else predicted := by
  have can : scorer.canScore = true := by
    rw [← isSome_predicted? scorer history sample isSameLink, predicts, Option.isSome_some]
  rw [predicted?, history_score] at predicts
  simp only [overrides, can, score_eq, predicts, Bool.true_and]

theorem predicted?_of_constant {model : Model α} (loaded : scorer.model? = some model)
    (constant : ∀ values, model.forest.score? values = some predicted) :
    scorer.predicted? history sample isSameLink = some predicted := by
  obtain ⟨last, ends, -⟩ := exists_last?_score scorer history sample isSameLink
  simp [predicted?, forestScore?, loaded, History.summary?, ends, constant]

/-- A score is lifted above the predicted one exactly if that is set aside and below the score of a
bad link. -/
theorem predicted_lt_score_iff [Scalar.IsOrdered α]
    (predicts : scorer.predicted? history sample isSameLink = some predicted) :
    predicted < (scorer.score history sample isSameLink).2 ↔
      scorer.overrides history sample isSameLink = true ∧ predicted < scorer.badScore := by
  rw [score_of_predicted predicts]
  cases scorer.overrides history sample isSameLink with
  | false =>
    have irrefl : ¬ predicted < predicted := fun below => Scalar.not_lt_of_lt below below
    simpa using irrefl
  | true => simp

end Calls

/-! ### Which scores can be lifted -/

theorem not_predicted_lt_zero {scorer : ForestScorer Float} {history : History Float}
    {sample : Sample} {isSameLink : Bool} {predicted : Float}
    (predicts : scorer.predicted? history sample isSameLink = some predicted) :
    ¬ predicted < 0 := by
  obtain ⟨model, -, summarized⟩ := Option.bind_eq_some_iff.mp predicts
  obtain ⟨summary, -, scored⟩ := Option.bind_eq_some_iff.mp summarized
  have hasTrees : model.forest.trees.isEmpty = false := by
    cases treeless : model.forest.trees.isEmpty with
    | false => rfl
    | true => simp [Forest.score?, Forest.probability?, treeless] at scored
  obtain ⟨score, isScore, notBelow⟩ := model.forest.not_score_lt_zero hasTrees summary.toVector
  obtain rfl : score = predicted := Option.some.inj (isScore.symm.trans scored)
  exact notBelow

/-- Whatever the settings, some signal is hopeless. -/
theorem exists_hopeless (limit : ℤ) :
    ∃ sample : Sample, ∃ rssi, sample.rssi? = some rssi ∧ rssi ≤ limit := by
  by_cases none : limit = noSignalDbm
  · refine ⟨{ rssiDbm := -128 }, -128, rfl, ?_⟩
    simp [none, noSignalDbm]
  · exact ⟨{ rssiDbm := limit }, limit, if_neg none, le_rfl⟩

/-- With a hopeless signal the first sample of a link is scored above the worst prediction, if the
score of a bad link is. -/
theorem lifted_of_hopeless {settings : Settings Float} {sample : Sample} {rssi : ℤ}
    (measured : sample.rssi? = some rssi) (hopeless : rssi ≤ settings.evidence.hopelessRssiDbm)
    (positive : 0 < settings.hysteresis.threshold - 1) :
    let scorer : ForestScorer Float := ⟨settings, some Pessimist.model⟩
    0 < (scorer.score (.empty settings.polling.maxGapMs) sample true).2 := by
  refine (predicted_lt_score_iff (predicted?_of_constant rfl Pessimist.score?_eq)).mpr
    ⟨?_, positive⟩
  -- The first sample of all follows no pause.
  have noPause : (History.empty settings.polling.maxGapMs : History Float).continuity sample !=
      .stale := rfl
  simp [overrides, noPause, canScore, Pessimist.model, measured, provesBad, hopeless]

/-- The score of a sample is above the predicted one exactly if that is set aside and below the
score of a bad link. Some model and some sample show this exactly if the score of a bad link is
above zero. -/
theorem exists_lifted_iff (settings : Settings Float) :
    (∀ model operations sample isSameLink predicted,
      let scorer : ForestScorer Float := ⟨settings, some model⟩
      let history := (scorer.memoryAfter operations).history
      scorer.predicted? history sample isSameLink = some predicted →
        (predicted < (scorer.score history sample isSameLink).2 ↔
          scorer.overrides history sample isSameLink = true ∧ predicted < scorer.badScore)) ∧
      ((∃ model operations sample isSameLink predicted,
        let scorer : ForestScorer Float := ⟨settings, some model⟩
        let history := (scorer.memoryAfter operations).history
        scorer.predicted? history sample isSameLink = some predicted ∧
          predicted < (scorer.score history sample isSameLink).2) ↔
        0 < settings.hysteresis.threshold - 1) := by
  refine ⟨?_, ?_, ?_⟩
  · intro model operations sample isSameLink predicted scorer history predicts
    exact predicted_lt_score_iff predicts
  · rintro ⟨model, operations, sample, isSameLink, predicted, predicts, lifted⟩
    obtain ⟨-, below⟩ := (predicted_lt_score_iff predicts).mp lifted
    exact Scalar.pos_of_lt (not_predicted_lt_zero predicts) below
  · intro positive
    obtain ⟨sample, rssi, measured, hopeless⟩ :=
      exists_hopeless settings.evidence.hopelessRssiDbm
    exact ⟨Pessimist.model, [], sample, true, 0, predicted?_of_constant rfl Pessimist.score?_eq,
      lifted_of_hopeless measured hopeless positive⟩

/-- The settings of an empty document are enough: a link that is proved to be bad gets a better
score than the one predicted for it. -/
theorem not_forall_score_le_predicted :
    ¬ ∀ text settings model operations sample isSameLink predicted,
      Settings.ofText text = .ok settings →
        let scorer : ForestScorer Float := ⟨settings, some model⟩
        let history := (scorer.memoryAfter operations).history
        scorer.predicted? history sample isSameLink = some predicted →
          (scorer.score history sample isSameLink).2 ≤ predicted := by
  intro allLower
  have evaluated : (Settings.ofText "").toOption.any (fun settings =>
      decide (-90 ≤ settings.evidence.hopelessRssiDbm) &&
        decide ((0 : Float) < settings.hysteresis.threshold - 1)) = true := by
    decide +kernel
  obtain ⟨settings, accepted, conditions⟩ := Settings.exists_ok_of_any evaluated
  obtain ⟨hopeless, positive⟩ := Bool.and_eq_true_iff.mp conditions
  have lower := allLower "" settings Pessimist.model [] { rssiDbm := -90 } true 0 accepted
    (predicted?_of_constant rfl Pessimist.score?_eq)
  exact Scalar.not_lt_of_le lower
    (lifted_of_hopeless rfl (of_decide_eq_true hopeless) (of_decide_eq_true positive))

end ForestScorer

end LinkQuality
