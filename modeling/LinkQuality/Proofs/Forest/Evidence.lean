import LinkQuality.Proofs.Forest.Override
import LinkQuality.Proofs.Interval.Restarts

/-!
# The evidence against a link

A score is set aside because the signal is hopeless, or because it is weak and failed transmissions
came in a burst. Between two samples the burst is measured: both counters went forward, the failures
went far enough, and they outweigh the successes. A counter that went backwards makes its increase
undefined, and nothing is compared with that.

The first sample of a link has no increases. Its features are those of an average interval, and the
average number of failures is taken for a burst if it is high enough. The successes count as zero
there. So a weak first sample is condemned by the training data, whatever its own counters are.

## Main definitions

* `Settings.Evidence.ShowsBurst`: a burst between two samples
* `Settings.Evidence.AssumesBurst`: training data whose average interval passes for a burst
* `ForestScorer.IsMeasured`, `ForestScorer.IsAssumed`: the two grounds on which scores are set aside

## Main results

* `ForestScorer.provesBad_between_iff`, `ForestScorer.provesBad_first_iff`: what an interval proves
* `ForestScorer.overrides_iff`: scores are set aside on these grounds and no others
* `ForestScorer.all_measured_iff`: when the first ground is the only one
-/

namespace LinkQuality

/-! ### Bursts -/

namespace Settings.Evidence

variable {α : Type} [Scalar α]

/-- Whether counters show a burst of failed transmissions since earlier ones, and it outweighs the
successful transmissions. -/
structure ShowsBurst (evidence : Evidence α) (earlier later : Counters) : Prop where
  txBad_le : earlier.txBad ≤ later.txBad
  txSuccess_le : earlier.txSuccess ≤ later.txSuccess
  isBurst : evidence.txBadBurst ≤ Scalar.ofNat (later.txBad - earlier.txBad)
  outweighs : (Scalar.ofNat (later.txSuccess - earlier.txSuccess) : α) ≤
    Scalar.ofNat (later.txBad - earlier.txBad) * evidence.txBadWeight

/-- Whether the average number of failures passes for a burst by itself. -/
@[mk_iff]
structure AssumesBurst (evidence : Evidence α) (norm : Normalization α) : Prop where
  isBurst : evidence.txBadBurst ≤ norm.featureMean .txBad
  outweighs : 0 ≤ norm.featureMean .txBad * evidence.txBadWeight

end Settings.Evidence

/-! ### Samples -/

/-- The strength of a signal is not what is reported for none. -/
theorem Sample.ne_noSignalDbm {sample : Sample} {rssi : ℤ} (signal : sample.rssi? = some rssi) :
    rssi ≠ noSignalDbm := by
  unfold Sample.rssi? at signal
  split_ifs at signal with noSignal
  exact Option.some.inj signal ▸ noSignal

namespace ForestScorer

/-- What is left of a history before a sample ends with a sample of the same link. -/
theorem accessPoint_of_last? {α : Type} {history : History α} {sample : Sample} {isSameLink : Bool}
    {last : Interval α} (ends : (historyBefore history sample isSameLink).last? = some last) :
    last.sample.accessPoint = sample.accessPoint := by
  unfold historyBefore at ends
  split_ifs at ends with goesOn
  · rw [Bool.and_eq_true, beq_iff_eq] at goesOn
    exact ((History.continuity_eq_continuous_iff ends).mp goesOn.2).1
  · exact absurd ends.symm (Option.some_ne_none _)

/-! ### What an interval proves -/

section Grounds

variable {α : Type} [Scalar α]

/-- Whether a link is bad by what was measured: the signal is hopeless, or it is weak and the
counters show a burst since the last sample of the history, which is one of the same link. -/
def IsMeasured (scorer : ForestScorer α) (before : History α) (sample : Sample) : Prop :=
  ∃ rssi, sample.rssi? = some rssi ∧
    (rssi ≤ scorer.settings.evidence.hopelessRssiDbm ∨
      rssi ≤ scorer.settings.hysteresis.breachRssiDbm ∧
        ∃ last, before.last? = some last ∧ last.sample.accessPoint = sample.accessPoint ∧
          scorer.settings.evidence.ShowsBurst last.sample.counters sample.counters)

/-- Whether a signal is weak and not hopeless. -/
def IsDoubtful (scorer : ForestScorer α) (rssi : ℤ) : Prop :=
  scorer.settings.evidence.hopelessRssiDbm < rssi ∧ rssi ≤ scorer.settings.hysteresis.breachRssiDbm

/-- Whether a link is bad by what was assumed: there is no earlier sample, and the average interval
that takes its place passes for a burst. -/
structure IsAssumed (scorer : ForestScorer α) (before : History α) (sample : Sample) : Prop where
  isFirst : before.last? = none
  isDoubtful : ∃ rssi, sample.rssi? = some rssi ∧ scorer.IsDoubtful rssi
  assumesBurst : scorer.settings.evidence.AssumesBurst scorer.normalization

variable {scorer : ForestScorer α} {sample : Sample} {rssi : ℤ}

/-- An interval proves that a link is bad if the signal is hopeless, or if it is weak and there are
many failures and not many more successes. -/
theorem provesBad_iff {interval : Interval α} :
    scorer.provesBad interval rssi = true ↔
      rssi ≤ scorer.settings.evidence.hopelessRssiDbm ∨
        rssi ≤ scorer.settings.hysteresis.breachRssiDbm ∧
          scorer.settings.evidence.txBadBurst ≤ interval.txBad ∧
          interval.txSuccess ≤ interval.txBad * scorer.settings.evidence.txBadWeight := by
  simp only [provesBad, Bool.or_eq_true, Bool.and_eq_true, decide_eq_true_eq]
  constructor
  · rintro (hopeless | ⟨⟨outweighs, weak⟩, isBurst⟩)
    · exact .inl hopeless
    · exact .inr ⟨weak, isBurst, outweighs⟩
  · rintro (hopeless | ⟨weak, isBurst, outweighs⟩)
    · exact .inl hopeless
    · exact .inr ⟨⟨outweighs, weak⟩, isBurst⟩

/-- An average interval proves what the averages pass for. -/
theorem provesBad_first_iff {norm : Normalization α} :
    scorer.provesBad (.first sample norm) rssi = true ↔
      rssi ≤ scorer.settings.evidence.hopelessRssiDbm ∨
        rssi ≤ scorer.settings.hysteresis.breachRssiDbm ∧
          scorer.settings.evidence.AssumesBurst norm := by
  rw [provesBad_iff, Settings.Evidence.assumesBurst_iff]
  exact Iff.rfl

end Grounds

variable {scorer : ForestScorer Float} {history : History Float} {sample : Sample}
  {isSameLink : Bool}

/-- The interval between two samples proves what the counters show. -/
theorem provesBad_between_iff {earlier later : Sample} {norm : Normalization Float}
    {gates : Settings.Gates Float} {rssi : ℤ} :
    scorer.provesBad (.between earlier later norm gates) rssi = true ↔
      rssi ≤ scorer.settings.evidence.hopelessRssiDbm ∨
        rssi ≤ scorer.settings.hysteresis.breachRssiDbm ∧
          scorer.settings.evidence.ShowsBurst earlier.counters later.counters := by
  rw [provesBad_iff]
  refine or_congr_right (and_congr_right fun _ => ?_)
  change _ ≤ Increases.ofCounter _ _ ∧
    Increases.ofCounter _ _ ≤ Increases.ofCounter _ _ * _ ↔ _
  rw [Increases.le_ofCounter_iff, Increases.ofCounter_le_iff]
  constructor
  · rintro ⟨⟨txBad_le, isBurst⟩, txSuccess_le, outweighs⟩
    rw [Increases.ofCounter, if_pos txBad_le] at outweighs
    exact ⟨txBad_le, txSuccess_le, isBurst, outweighs⟩
  · rintro ⟨txBad_le, txSuccess_le, isBurst, outweighs⟩
    rw [Increases.ofCounter, if_pos txBad_le]
    exact ⟨⟨txBad_le, isBurst⟩, txSuccess_le, outweighs⟩

/-! ### The grounds on which scores are set aside -/

/-- A link is proved to be bad by what was measured or by what was assumed. -/
theorem any_provesBad_iff :
    sample.rssi?.any (scorer.provesBad
        (scorer.intervalAfter (historyBefore history sample isSameLink) sample)) = true ↔
      scorer.IsMeasured (historyBefore history sample isSameLink) sample ∨
        scorer.IsAssumed (historyBefore history sample isSameLink) sample := by
  rw [Option.any_eq_true]
  cases ends : (historyBefore history sample isSameLink).last? with
  | some last =>
    simp only [intervalAfter, ends, provesBad_between_iff]
    constructor
    · rintro ⟨rssi, signal, hopeless | ⟨weak, shows⟩⟩
      · exact .inl ⟨rssi, signal, .inl hopeless⟩
      · exact .inl ⟨rssi, signal, .inr ⟨weak, last, ends, accessPoint_of_last? ends, shows⟩⟩
    · rintro (⟨rssi, signal, hopeless | ⟨weak, last', ends', -, shows⟩⟩ | assumed)
      · exact ⟨rssi, signal, .inl hopeless⟩
      · obtain rfl : last = last' := Option.some.inj (ends.symm.trans ends')
        exact ⟨rssi, signal, .inr ⟨weak, shows⟩⟩
      · exact absurd (ends.symm.trans assumed.isFirst) (Option.some_ne_none _)
  | none =>
    simp only [intervalAfter, ends, provesBad_first_iff]
    constructor
    · rintro ⟨rssi, signal, hopeless | ⟨weak, assumes⟩⟩
      · exact .inl ⟨rssi, signal, .inl hopeless⟩
      · -- A signal that is hopeless as well is a ground of its own.
        rcases le_or_gt rssi scorer.settings.evidence.hopelessRssiDbm with hopeless | notHopeless
        · exact .inl ⟨rssi, signal, .inl hopeless⟩
        · exact .inr ⟨ends, ⟨rssi, signal, notHopeless, weak⟩, assumes⟩
    · rintro (⟨rssi, signal, hopeless | ⟨-, last, ends', -⟩⟩ |
        ⟨-, ⟨rssi, signal, -, weak⟩, assumes⟩)
      · exact ⟨rssi, signal, .inl hopeless⟩
      · exact absurd (ends'.symm.trans ends) (Option.some_ne_none _)
      · exact ⟨rssi, signal, .inr ⟨weak, assumes⟩⟩

/-- A score is set aside on the grounds of what was measured or assumed and on no others, and not
after a pause. -/
theorem overrides_iff :
    scorer.overrides history sample isSameLink = true ↔
      scorer.canScore = true ∧ history.continuity sample ≠ .stale ∧
        (scorer.IsMeasured (historyBefore history sample isSameLink) sample ∨
          scorer.IsAssumed (historyBefore history sample isSameLink) sample) := by
  rw [overrides, Bool.and_eq_true, Bool.and_eq_true, bne_iff_ne, any_provesBad_iff, and_assoc]

/-- Where the average interval passes for a burst, the score of a first sample with a weak signal is
set aside although nothing was measured. -/
theorem overrides_unmeasured (scorer : ForestScorer Float) (sample : Sample) {rssi : ℤ}
    (can : scorer.canScore = true)
    (assumes : scorer.settings.evidence.AssumesBurst scorer.normalization)
    (signal : sample.rssi? = some rssi) (doubtful : scorer.IsDoubtful rssi) :
    let history : History Float := .empty scorer.settings.polling.maxGapMs
    scorer.overrides history sample true = true ∧
      ¬ scorer.IsMeasured (historyBefore history sample true) sample := by
  intro history
  have isFirst : (historyBefore history sample true).last? = none := rfl
  constructor
  · have noPause : (.continuous : Continuity) ≠ .stale := by decide
    exact overrides_iff.mpr ⟨can, noPause, .inr ⟨isFirst, ⟨rssi, signal, doubtful⟩, assumes⟩⟩
  · rintro ⟨rssi', signal', hopeless | ⟨-, last, ends, -⟩⟩
    · obtain rfl : rssi = rssi' := Option.some.inj (signal.symm.trans signal')
      exact absurd hopeless (not_le_of_gt doubtful.1)
    · exact absurd (ends.symm.trans isFirst) (Option.some_ne_none _)

/-- After any operations, a score is either the predicted one or set aside for what was measured or
assumed. Nothing is ever set aside without a measurement exactly if the scorer gives no scores, the
average interval does not pass for a burst, or no signal is weak and not hopeless. -/
theorem all_measured_iff (scorer : ForestScorer Float) :
    (∀ operations sample isSameLink,
      let history := (scorer.memoryAfter operations).history
      let before := historyBefore history sample isSameLink
      (∀ predicted, scorer.predicted? history sample isSameLink = some predicted →
        (scorer.score history sample isSameLink).2 =
          if scorer.overrides history sample isSameLink then scorer.badScore else predicted) ∧
      (scorer.overrides history sample isSameLink = true →
        scorer.IsMeasured before sample ∨ scorer.IsAssumed before sample)) ∧
    ((∀ operations sample isSameLink,
      let history := (scorer.memoryAfter operations).history
      scorer.overrides history sample isSameLink = true →
        scorer.IsMeasured (historyBefore history sample isSameLink) sample) ↔
      ¬ (scorer.canScore = true ∧
        scorer.settings.evidence.AssumesBurst scorer.normalization ∧
        ∃ rssi, rssi ≠ noSignalDbm ∧ scorer.IsDoubtful rssi)) := by
  refine ⟨?_, ?_, ?_⟩
  · intro operations sample isSameLink history before
    exact ⟨fun _ predicts => score_of_predicted predicts, fun set => (overrides_iff.mp set).2.2⟩
  · rintro allMeasured ⟨can, assumes, rssi, isSignal, doubtful⟩
    obtain ⟨set, unmeasured⟩ :=
      overrides_unmeasured scorer { rssiDbm := rssi } can assumes (if_neg isSignal) doubtful
    exact unmeasured (allMeasured [] _ _ set)
  · intro notAssumed operations sample isSameLink history set
    obtain ⟨can, -, measured | assumed⟩ := overrides_iff.mp set
    · exact measured
    · obtain ⟨-, ⟨rssi, signal, doubtful⟩, assumes⟩ := assumed
      exact absurd ⟨can, assumes, rssi, Sample.ne_noSignalDbm signal, doubtful⟩ notAssumed

/-- A forest that finds no link failing. -/
def Optimist.forest : Forest Float where
  trees := [⟨#[.leaf 0], by decide +kernel⟩]
  vote := .mean

theorem Optimist.score?_eq (values : Vector Float 45) :
    Optimist.forest.score? values = some 100 := by
  have working : (100 * (1 - Vote.mean.combine [0]) : Float) = 100 := by decide +kernel
  exact congrArg some working

/-- The settings of an empty document and training data with many failures are enough: the best
score is set aside for the first sample of a link. -/
theorem not_forall_measured :
    ¬ ∀ text settings means stds normalization forest operations sample isSameLink predicted,
      Settings.ofText text = .ok settings →
      Normalization.ofLists means stds = .ok normalization →
        let scorer : ForestScorer Float := ⟨settings, some ⟨forest, normalization⟩⟩
        let history := (scorer.memoryAfter operations).history
        scorer.predicted? history sample isSameLink = some predicted →
          (scorer.score history sample isSameLink).2 ≠ predicted →
            scorer.IsMeasured (historyBefore history sample isSameLink) sample := by
  intro allMeasured
  let means : List Float := (List.replicate 45 0).set 12 1000
  let stds : List Float := List.replicate 45 1
  have evaluated : (Settings.ofText "").toOption.any (fun settings =>
      (Normalization.ofLists means stds).toOption.any fun normalization =>
        decide (settings.evidence.txBadBurst ≤ normalization.featureMean .txBad) &&
        decide (0 ≤ normalization.featureMean .txBad * settings.evidence.txBadWeight) &&
        decide (settings.evidence.hopelessRssiDbm < -70) &&
        decide (-70 ≤ settings.hysteresis.breachRssiDbm) &&
        decide (settings.hysteresis.threshold - 1 ≠ 100)) = true := by
    decide +kernel
  obtain ⟨settings, accepted, evaluated⟩ := Settings.exists_ok_of_any evaluated
  obtain ⟨normalization, usable, conditions⟩ := Settings.exists_ok_of_any evaluated
  simp only [Bool.and_eq_true, decide_eq_true_eq] at conditions
  obtain ⟨⟨⟨⟨isBurst, outweighs⟩, notHopeless⟩, weak⟩, different⟩ := conditions
  let scorer : ForestScorer Float := ⟨settings, some ⟨Optimist.forest, normalization⟩⟩
  let sample : Sample := { rssiDbm := -70 }
  -- The means of the statistics alone prove the first sample of a link bad.
  obtain ⟨set, unmeasured⟩ :=
    overrides_unmeasured scorer sample rfl ⟨isBurst, outweighs⟩ rfl ⟨notHopeless, weak⟩
  have predicts (history : History Float) : scorer.predicted? history sample true = some 100 :=
    predicted?_of_constant rfl Optimist.score?_eq
  have overridden : (scorer.score (scorer.memoryAfter []).history sample true).2 =
      scorer.badScore := (score_of_predicted (predicts _)).trans (if_pos set)
  exact unmeasured (allMeasured "" settings means stds normalization Optimist.forest [] sample
    true 100 accepted usable (predicts _) (overridden.trans_ne different))

end ForestScorer

end LinkQuality
