import LinkQuality.Forest.Bundle
import LinkQuality.Standing
import LinkQuality.Summary

/-!
# Scoring by forest

A sample of a primary link is added to the history of its link, the history is summed up, and the
forest turns the summary into a raw score, unless the last interval alone proves that the link is
bad. The raw score then moves the standing of the link, from which the recommendations follow.

A secondary link is not scored. Its call leaves history and standing alone, but it is remembered
which access point it was on.

## Main definitions

* `ForestScorer`: settings and, if there is one, a model
* `ForestScorer.Memory`: what is remembered of a connection
* `ForestScorer.score`, `ForestScorer.verdict`: the raw score of a sample, and the verdict on it
* `ForestScorer.forget`: what is left of a memory after a reset
* `ForestScorer.step`: the answer to a call
-/

namespace LinkQuality

/-- What is needed to score by forest. Without a model every sample is unclassified. -/
structure ForestScorer (α : Type) [Scalar α] where
  settings : Settings α
  model? : Option (Model α)

namespace ForestScorer

/-- What is remembered of a connection. -/
structure Memory (α : Type) where
  history : History α
  standing : Standing α
  /-- The access point of the last call. -/
  accessPoint? : Option AccessPoint

variable {α : Type} [Scalar α]

/-- The memory of a connection that nothing is known of. -/
def start (scorer : ForestScorer α) : Memory α where
  history := .empty scorer.settings.polling.maxGapMs
  standing := .fresh scorer.settings.hysteresis
  accessPoint? := none

/-- The statistics that summaries are normalized with. -/
def normalization (scorer : ForestScorer α) : Normalization α :=
  match scorer.model? with
  | some model => model.normalization
  | none => .identity

/-- The part of a history that a sample continues. -/
def historyBefore (history : History α) (sample : Sample) (isSameLink : Bool) : History α :=
  if isSameLink && history.continuity sample == .continuous then history else history.clear

/-- The interval that leads to a sample from the last one of a history. -/
def intervalAfter [Undefined α] (scorer : ForestScorer α) (history : History α)
    (sample : Sample) : Interval α :=
  match history.last? with
  | some last => .between last.sample sample scorer.normalization scorer.settings.gates
  | none => .first sample scorer.normalization

/-- Whether an interval alone proves that a link of a given signal strength is bad: the signal is
hopeless, or it is weak and failed transmissions come in a burst that outweighs the successes. -/
def provesBad (scorer : ForestScorer α) (interval : Interval α) (rssi : Int) : Bool :=
  let evidence := scorer.settings.evidence
  decide (rssi ≤ evidence.hopelessRssiDbm) ||
    (decide (interval.txSuccess ≤ interval.txBad * evidence.txBadWeight) &&
      decide (rssi ≤ scorer.settings.hysteresis.breachRssiDbm) &&
      decide (evidence.txBadBurst ≤ interval.txBad))

/-- The raw score of a link that is proved to be bad. -/
def badScore (scorer : ForestScorer α) : α := scorer.settings.hysteresis.threshold - 1

/-- The score that the forest gives a history. -/
def forestScore? [SquareRoot α] (scorer : ForestScorer α) (history : History α) : Option α :=
  scorer.model?.bind fun model =>
    (history.summary? model.normalization).bind fun summary =>
      model.forest.score? summary.toVector

/-- The history with a sample added to it, and the raw score of the sample. After a pause nothing
is taken for proved. -/
def score [Undefined α] [SquareRoot α] (scorer : ForestScorer α) (history : History α)
    (sample : Sample) (isSameLink : Bool) : History α × α :=
  let before := historyBefore history sample isSameLink
  let interval := scorer.intervalAfter before sample
  let after := before.push interval
  -- Whether there was a pause is asked of the whole history, which may have been cleared since.
  let isBad := history.continuity sample != .stale && sample.rssi?.any (scorer.provesBad interval)
  if !after.isReady then (after, unclassified)
  else match scorer.forestScore? after with
    | none => (after, unclassified)
    | some raw => (after, if isBad then scorer.badScore else raw)

/-- The interval of a sample is enough for it to be scored. -/
theorem score_eq [Undefined α] [SquareRoot α] (scorer : ForestScorer α) (history : History α)
    (sample : Sample) (isSameLink : Bool) :
    scorer.score history sample isSameLink =
      let before := historyBefore history sample isSameLink
      let interval := scorer.intervalAfter before sample
      let after := before.push interval
      let isBad :=
        history.continuity sample != .stale && sample.rssi?.any (scorer.provesBad interval)
      match scorer.forestScore? after with
      | none => (after, unclassified)
      | some raw => (after, if isBad then scorer.badScore else raw) := by
  simp only [score, History.isReady_push, Bool.not_true, Bool.false_eq_true, if_false]

/-- The standing after a raw score. -/
def adjust (scorer : ForestScorer α) (standing : Standing α) (raw : α) (isSameLink : Bool)
    (rssi? : Option Int) (nowMs : Nat) : Standing α :=
  let rules := scorer.settings.hysteresis
  standing.adjust rules
    { raw, isSameLink, rssi?, threshold := rules.threshold, margin := rules.margin, nowMs }

/-- Whether a link speed is known and at most a limit. -/
def isSlow (limitMbps speedMbps : Int) : Bool :=
  decide (0 < speedMbps) && decide (speedMbps ≤ limitMbps)

/-- Whether a sample shows a weak signal together with a slow link. -/
def isWeakAndSlow (scorer : ForestScorer α) (sample : Sample) : Bool :=
  match sample.rssi? with
  | none => false
  | some rssi =>
    let speeds := [sample.txSpeedMbps, sample.rxSpeedMbps]
    let rules := scorer.settings.hysteresis
    let evidence := scorer.settings.evidence
    (decide (rssi ≤ rules.urgentRssiDbm) && speeds.any (isSlow evidence.slowMbps)) ||
      (decide (rssi < rules.breachRssiDbm) && speeds.any (isSlow evidence.verySlowMbps))

/-- The verdict that a standing leads to. -/
def verdictOf (standing : Standing α) (raw adjusted : α) (wantsProbe : Bool) : Verdict where
  score := Scalar.toInt32 raw
  adjustedScore := Scalar.toInt32 adjusted
  isUsable := standing.isRecommended
  wantsScan := standing.fellToScan
  wantsProbe
  wantsBlock := standing.isBlocked

/-- The verdict on a sample, and the memory after it. -/
def verdict [Undefined α] [SquareRoot α] (scorer : ForestScorer α) (memory : Memory α)
    (sample : Sample) (nowMs : Nat) (isPrimary : Bool) : Memory α × Verdict :=
  let isSameLink := memory.accessPoint?.all fun point => point == sample.accessPoint
  let (history, raw) :=
    if isPrimary then scorer.score memory.history sample isSameLink
    else (memory.history, unclassified)
  if raw == unclassified then
    -- The flags are those of the last sample that was classified.
    ({ memory with history, accessPoint? := some sample.accessPoint },
      verdictOf memory.standing raw unclassified false)
  else
    let standing := scorer.adjust memory.standing raw isSameLink sample.rssi? nowMs
    let wantsProbe :=
      decide (raw < scorer.settings.hysteresis.transitionScore) || scorer.isWeakAndSlow sample
    ({ history, standing, accessPoint? := some sample.accessPoint },
      verdictOf standing raw standing.score wantsProbe)

/-- Forgets a connection. Its history is emptied, and still allows the gaps that it did. -/
def forget (scorer : ForestScorer α) (memory : Memory α) : Memory α where
  history := memory.history.clear
  standing := .fresh scorer.settings.hysteresis
  accessPoint? := none

/-- The answer to a call. -/
def step [Undefined α] [SquareRoot α] (scorer : ForestScorer α) (memory : Memory α) :
    Call → Memory α × Option Verdict
  | .reset => (scorer.forget memory, none)
  | .score sample nowMs isPrimary =>
    let (memory, verdict) := scorer.verdict memory sample nowMs isPrimary
    (memory, some verdict)

end ForestScorer

end LinkQuality
