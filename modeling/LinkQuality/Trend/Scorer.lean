import LinkQuality.Trend.Boundary
import LinkQuality.Trend.Filter
import LinkQuality.Trend.Rates
import LinkQuality.Verdict

/-!
# Scoring by trend

The signal strength is filtered, and the score of a link is how far the worse of its filtered value
and the value its trend leads to lies above the level at which links of its band are left. While a
weak link still moves traffic, that level shifts downwards bit by bit.

## Main definitions

* `TrendScorer`: the settings
* `TrendScorer.Memory`: what is remembered of a connection
* `TrendScorer.observe`: taking in a sample
* `TrendScorer.forget`: what is left of a memory after a reset
* `TrendScorer.verdict`, `TrendScorer.step`: the verdict on a sample, and the answer to a call
-/

namespace LinkQuality

open Trend (Boundary Meter Noise Signs)

/-- What is needed to score by trend. -/
structure TrendScorer (α : Type) where
  settings : Settings.Trend α

namespace TrendScorer

/-- What is remembered of a connection. -/
structure Memory (α : Type) where
  filter : Trend.Filter α
  meter : Meter α
  boundary : Boundary
  /-- When the last reading of the present link was taken. -/
  lastReadingMs : Option Nat
  accessPoint? : Option AccessPoint
  /-- How far the exit level has shifted, in decibels. -/
  shiftDb : α
  /-- The last score that was settled. -/
  score : Int

variable {α : Type} [Scalar α]

/-- The memory of a connection that nothing is known of. -/
def start (scorer : TrendScorer α) : Memory α where
  filter := .blank
  meter := .blank
  boundary := .blank
  lastReadingMs := none
  accessPoint? := none
  shiftDb := 0
  score := scorer.settings.maxScore

/-- The variances that the filter assumes. -/
def noise (scorer : TrendScorer α) : Noise α :=
  .ofStds scorer.settings.readingStd scorer.settings.accelerationStd

/-- The time constant of the packet rates, in milliseconds. -/
def timeConstantMs (scorer : TrendScorer α) : α :=
  Scalar.ofNat scorer.settings.rateTimeConstant.millis

/-- The levels of the band of the present link. -/
def levels (scorer : TrendScorer α) (memory : Memory α) : Settings.Levels :=
  scorer.settings.levels.ofBand (memory.accessPoint?.bind AccessPoint.band)

/-- The whole number nearest to a number, and the larger one of two equally near. -/
def roundHalfUp (x : α) : α := Scalar.whole .down (x + 0.5)

/-- The exit level with its shift, in whole decibels. -/
def exitLevel (scorer : TrendScorer α) (memory : Memory α) : α :=
  Scalar.ofInt (scorer.levels memory).exitDbm + roundHalfUp memory.shiftDb

/-- Whether transmissions succeed often enough, and enough of both directions do. -/
def isWorking (scorer : TrendScorer α) (memory : Memory α) : Bool :=
  let rates := memory.meter.rates
  !decide (rates.txSuccess < scorer.settings.minSuccessRate) &&
    !decide (rates.rxSuccess < scorer.settings.minSuccessRate) &&
    rates.successProbability?.any fun p => decide ((0.2 : α) < p)

/-- Whether the exit level may shift: it has not shifted too far yet, and the signal is near it or
below and steady, and the link works. -/
def mayShift (scorer : TrendScorer α) (memory : Memory α) : Bool :=
  -- The limit is asked for before the step, which may still lead past it.
  !decide (memory.shiftDb < -scorer.settings.maxShiftDb) &&
    !decide (scorer.exitLevel memory + 2 ≤ memory.filter.value) &&
    !decide ((0.2 : α) ≤ Scalar.magnitude memory.filter.velocity) &&
    scorer.isWorking memory

/-- Shifts the exit level by a step, if it may. -/
def shift (scorer : TrendScorer α) (memory : Memory α) : Memory α :=
  if scorer.mayShift memory then
    { memory with shiftDb := memory.shiftDb - scorer.settings.shiftStepDb }
  else memory

/-- Makes an access point the present one. On a handover the filter is to start over. -/
def attend (memory : Memory α) (point : AccessPoint) : Memory α :=
  if memory.accessPoint? = some point then memory
  -- The filter stays until the next reading, which has no time to go on from.
  else { memory with accessPoint? := some point, lastReadingMs := none }

/-- The filter after a reading. It starts over without a reading before it on the same link, and if
time went backwards. -/
def filterAfter (scorer : TrendScorer α) (memory : Memory α) (rssi : Int) (timestampMs : Nat) :
    Trend.Filter α :=
  match memory.lastReadingMs with
  | none => .start scorer.noise (Scalar.ofInt rssi)
  | some lastMs =>
    if memory.filter.hasStarted ∧ lastMs ≤ timestampMs then
      memory.filter.update scorer.noise (Scalar.ofInt rssi)
        (Scalar.ofNat (timestampMs - lastMs) / 1000)
    else .start scorer.noise (Scalar.ofInt rssi)

/-- The memory after a sample has been taken in, before it is scored. -/
def observe [Exponential α] (scorer : TrendScorer α) (memory : Memory α) (sample : Sample) :
    Memory α :=
  let memory := attend memory sample.accessPoint
  let memory := { memory with meter := memory.meter.update scorer.timeConstantMs sample }
  match sample.rssi? with
  | none => memory
  | some rssi =>
    scorer.shift { memory with
      filter := scorer.filterAfter memory rssi sample.timestampMs
      lastReadingMs := some sample.timestampMs }

/-- The score of the present link on its own. -/
def rawScore (scorer : TrendScorer α) (memory : Memory α) : Int :=
  let ahead := memory.filter.ahead scorer.settings.horizon.seconds
  let worst := Scalar.lesser ahead memory.filter.value
  let distance := Scalar.whole .halfAway worst - scorer.exitLevel memory
  Scalar.toInt32 (Scalar.clamp 0 (Scalar.ofInt scorer.settings.maxScore)
    (distance + Scalar.ofInt scorer.settings.transitionScore))

/-- The transition of a primary or a secondary link. -/
def transition (scorer : TrendScorer α) (isPrimary : Bool) : Int :=
  if isPrimary then scorer.settings.transitionScore else scorer.settings.secondaryTransitionScore

/-- What was seen of the present link. -/
def signs (scorer : TrendScorer α) (memory : Memory α) (sample : Sample) : Signs α where
  previous := memory.score
  txRate := memory.meter.rates.txSuccess
  rxRate := memory.meter.rates.rxSuccess
  filteredRssi := memory.filter.value
  rssi? := sample.rssi?
  entryDbm := (scorer.levels memory).entryDbm

/-- The verdict that two scores lead to. -/
def verdictOf (scorer : TrendScorer α) (transition score adjustedScore : Int)
    (wantsProbe : Bool) : Verdict where
  score
  adjustedScore
  isUsable := decide (transition ≤ adjustedScore)
  wantsScan := decide (adjustedScore < scorer.settings.scanBelow)
  wantsProbe
  wantsBlock := false

/-- The verdict on a sample, and the memory after it. Before the first reading there is nothing to
score by. -/
def verdict [Exponential α] (scorer : TrendScorer α) (memory : Memory α) (sample : Sample)
    (nowMs : Nat) (isPrimary : Bool) : Memory α × Verdict :=
  let memory := scorer.observe memory sample
  let transition := scorer.transition isPrimary
  if memory.filter.hasStarted then
    let score := scorer.rawScore memory
    let settled :=
      memory.boundary.settle scorer.settings (scorer.signs memory sample) nowMs transition score
    let boundary := memory.boundary.recordFall memory.score settled transition nowMs
    let wantsProbe := boundary.wantsProbe scorer.settings nowMs transition settled
    let boundary := boundary.probe scorer.settings nowMs transition settled
    ({ memory with boundary, score := settled },
      scorer.verdictOf transition score settled wantsProbe)
  else (memory, scorer.verdictOf transition (-1) memory.score false)

/-- Forgets a connection, part by part. -/
def forget (scorer : TrendScorer α) (memory : Memory α) : Memory α :=
  { memory with
    filter := .blank
    meter := .blank
    boundary := .blank
    lastReadingMs := none
    accessPoint? := none
    shiftDb := 0
    score := scorer.settings.maxScore }

/-- The answer to a call. -/
def step [Exponential α] (scorer : TrendScorer α) (memory : Memory α) :
    Call → Memory α × Option Verdict
  | .reset => (scorer.forget memory, none)
  | .score sample nowMs isPrimary =>
    let (memory, verdict) := scorer.verdict memory sample nowMs isPrimary
    (memory, some verdict)

end TrendScorer

end LinkQuality
