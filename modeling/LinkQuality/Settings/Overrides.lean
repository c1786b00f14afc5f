import LinkQuality.Binary64.Shortest
import LinkQuality.Settings.Basic

/-!
# Settings over defaults

A document of settings says what differs from the defaults. What it says is completed with the
defaults and then checked, in a fixed order, so that of several faults the first one is reported.

Comparisons are those of the numbers at hand. An undefined number is neither below nor above
another, so a check that refuses what is below a bound lets it pass, while a check that demands what
is above a bound refuses it.

## Main definitions

* `Settings.Overrides`: what a document says
* `Settings.Fault`: why settings are refused
* `Settings.Overrides.resolve`: the settings that a document leads to
-/

namespace LinkQuality.Settings

/-- What a document says about polling. -/
structure PollingOverrides where
  intervalMs : Option UInt64 := none
  delayMs : Option UInt64 := none

/-- What a document says about traffic gates. -/
structure GatesOverrides (α : Type) where
  fewTxAttempts : Option α := none
  fewRxSuccesses : Option α := none
  manySuccesses : Option α := none
  littleChannelMs : Option α := none
  assumeMeanBusyRatio : Option Bool := none
  excludeOwnReception : Option Bool := none

/-- What a document says about evidence. -/
structure EvidenceOverrides (α : Type) where
  hopelessRssiDbm : Option Int := none
  txBadBurst : Option α := none
  txBadWeight : Option α := none
  slowMbps : Option Int := none
  verySlowMbps : Option Int := none

/-- What a document says about hysteresis. -/
structure HysteresisOverrides (α : Type) where
  transitionScore : Option α := none
  maxHealthScore : Option α := none
  maxScore : Option α := none
  threshold : Option α := none
  margin : Option α := none
  scanThreshold : Option α := none
  breachRssiDbm : Option Int := none
  urgentRssiDbm : Option Int := none
  debounceMs : Option UInt64 := none
  blockWaitMs : Option UInt64 := none

/-- What a document says about the levels of a band. -/
structure LevelsOverrides where
  exitDbm : Option Int := none
  entryDbm : Option Int := none

/-- What a document says about scoring by trend. The steps and the limit of the shifting exit level
and the time constant of the probe bar cannot be set. -/
structure TrendOverrides (α : Type) where
  twoGhz : LevelsOverrides := {}
  fiveGhz : LevelsOverrides := {}
  sixGhz : LevelsOverrides := {}
  transitionScore : Option Int := none
  secondaryTransitionScore : Option Int := none
  maxScore : Option Int := none
  horizonSeconds : Option α := none
  readingStd : Option α := none
  accelerationStd : Option α := none
  rateTimeConstantMs : Option UInt64 := none
  minSuccessRate : Option α := none
  busyRate : Option α := none
  holdBelowMs : Option UInt64 := none
  probeKnob : Option Nat := none
  scanBelow : Option Int := none

/-- What a document says. A version of zero stands for the current one. -/
structure Overrides (α : Type) where
  version : Nat := 0
  method : Option Method := none
  modelId : Option Nat := none
  polling : PollingOverrides := {}
  gates : GatesOverrides α := {}
  evidence : EvidenceOverrides α := {}
  hysteresis : HysteresisOverrides α := {}
  trend : TrendOverrides α := {}

/-- A setting that is checked. -/
inductive Setting where
  | pollingInterval
  | threshold
  | margin
  | maxScore
  | horizon
  | probeKnob
  | trendMaxScore
  | readingStd
  | rateTimeConstant
  deriving DecidableEq, Repr

/-- The name of a setting in a document. -/
def Setting.name : Setting → String
  | .pollingInterval => "window.polling_interval_ms"
  | .threshold => "hysteresis.threshold"
  | .margin => "hysteresis.threshold_hysteresis"
  | .maxScore => "hysteresis.max_score"
  | .horizon => "velocity.horizon_secs"
  | .probeKnob => "velocity.nud_knob"
  | .trendMaxScore => "velocity.max_score"
  | .readingStd => "velocity.rssi_std_db"
  | .rateTimeConstant => "velocity.rate_time_constant_ms"

/-- What is wrong with a setting. -/
inductive Reason (α : Type) where
  | notPositive
  | negative
  | belowTransition
  | belowTransitions
  | notANonNegativeNumber (given : α)
  | offTheKnob (given : Nat)
  deriving DecidableEq, Repr

/-- The text of a reason in messages. -/
def Reason.message : Reason Float → String
  | .notPositive => "must be positive"
  | .negative => "must not be negative"
  | .belowTransition => "must be at least transition_score"
  | .belowTransitions => "must be at least transition_score and secondary_transition_score"
  | .notANonNegativeNumber given => s!"{Binary64.text given} is not a non-negative number"
  | .offTheKnob given => s!"{given} is outside 0..=10"

/-- Why settings are refused. -/
inductive Fault (α : Type) where
  /-- The text is no document of settings. -/
  | unreadable
  | unsupportedVersion (version : Nat)
  | invalid (setting : Setting) (reason : Reason α)
  /-- The horizon is longer than any duration. This fault is not reported: it stops the program. -/
  | horizonOverflow
  deriving DecidableEq, Repr

/-- The text of a fault that is reported with one. -/
def Fault.message? : Fault Float → Option String
  | .unreadable | .horizonOverflow => none
  | .unsupportedVersion version => some s!"unsupported config version {version}"
  | .invalid setting reason => some s!"invalid value for `{setting.name}`: {reason.message}"

variable {α : Type} [Scalar α]

/-- Polling, completed with the defaults. -/
def PollingOverrides.complete (o : PollingOverrides) : Polling where
  interval := (o.intervalMs.map .ofCount).getD Polling.defaults.interval
  delay := (o.delayMs.map .ofCount).getD Polling.defaults.delay

/-- Traffic gates, completed with the defaults. -/
def GatesOverrides.complete (o : GatesOverrides α) : Gates α :=
  let standard : Gates α := .defaults
  { fewTxAttempts := o.fewTxAttempts.getD standard.fewTxAttempts
    fewRxSuccesses := o.fewRxSuccesses.getD standard.fewRxSuccesses
    manySuccesses := o.manySuccesses.getD standard.manySuccesses
    littleChannelMs := o.littleChannelMs.getD standard.littleChannelMs
    assumeMeanBusyRatio := o.assumeMeanBusyRatio.getD standard.assumeMeanBusyRatio
    excludeOwnReception := o.excludeOwnReception.getD standard.excludeOwnReception }

/-- Evidence, completed with the defaults. -/
def EvidenceOverrides.complete (o : EvidenceOverrides α) : Evidence α :=
  let standard : Evidence α := .defaults
  { hopelessRssiDbm := o.hopelessRssiDbm.getD standard.hopelessRssiDbm
    txBadBurst := o.txBadBurst.getD standard.txBadBurst
    txBadWeight := o.txBadWeight.getD standard.txBadWeight
    slowMbps := o.slowMbps.getD standard.slowMbps
    verySlowMbps := o.verySlowMbps.getD standard.verySlowMbps }

/-- Hysteresis, completed with the defaults. -/
def HysteresisOverrides.complete (o : HysteresisOverrides α) : Hysteresis α :=
  let standard : Hysteresis α := .defaults
  { transitionScore := o.transitionScore.getD standard.transitionScore
    maxHealthScore := o.maxHealthScore.getD standard.maxHealthScore
    maxScore := o.maxScore.getD standard.maxScore
    threshold := o.threshold.getD standard.threshold
    margin := o.margin.getD standard.margin
    scanThreshold := o.scanThreshold.getD standard.scanThreshold
    breachRssiDbm := o.breachRssiDbm.getD standard.breachRssiDbm
    urgentRssiDbm := o.urgentRssiDbm.getD standard.urgentRssiDbm
    debounce := (o.debounceMs.map .ofCount).getD standard.debounce
    blockWait := (o.blockWaitMs.map .ofCount).getD standard.blockWait }

/-- The levels of a band, completed with given ones. -/
def LevelsOverrides.complete (o : LevelsOverrides) (standard : Levels) : Levels where
  exitDbm := o.exitDbm.getD standard.exitDbm
  entryDbm := o.entryDbm.getD standard.entryDbm

/-- Scoring by trend with a given horizon, completed with the defaults. -/
def TrendOverrides.complete (o : TrendOverrides α) (horizon : Duration) : Trend α :=
  let standard : Trend α := .defaults
  { levels :=
      { twoGhz := o.twoGhz.complete standard.levels.twoGhz
        fiveGhz := o.fiveGhz.complete standard.levels.fiveGhz
        sixGhz := o.sixGhz.complete standard.levels.sixGhz }
    transitionScore := o.transitionScore.getD standard.transitionScore
    secondaryTransitionScore :=
      o.secondaryTransitionScore.getD standard.secondaryTransitionScore
    maxScore := o.maxScore.getD standard.maxScore
    horizon
    readingStd := o.readingStd.getD standard.readingStd
    accelerationStd := o.accelerationStd.getD standard.accelerationStd
    rateTimeConstant := (o.rateTimeConstantMs.map .ofCount).getD standard.rateTimeConstant
    minSuccessRate := o.minSuccessRate.getD standard.minSuccessRate
    shiftStepDb := standard.shiftStepDb
    maxShiftDb := standard.maxShiftDb
    busyRate := o.busyRate.getD standard.busyRate
    holdBelow := (o.holdBelowMs.map .ofCount).getD standard.holdBelow
    probeKnob := o.probeKnob.getD standard.probeKnob
    probeTimeConstant := standard.probeTimeConstant
    scanBelow := o.scanBelow.getD standard.scanBelow }

/-- Refuses settings unless a condition holds. -/
def require (condition : Bool) (setting : Setting) (reason : Reason α) : Except (Fault α) Unit :=
  if condition then .ok () else .error (.invalid setting reason)

/-- The horizon for a number of seconds, to the nearest nanosecond. -/
def horizonOf : Option α → Except (Fault α) Duration
  | none => .ok (Trend.defaults : Trend α).horizon
  | some seconds =>
    if Scalar.isFinite seconds ∧ 0 ≤ seconds then
      if seconds < 18446744073709551616 then
        .ok ⟨(Scalar.nearestMultiple 1000000000 seconds).toNat⟩
      else .error .horizonOverflow
    else .error (.invalid .horizon (.notANonNegativeNumber seconds))

/-- Completes what a document says and checks it. -/
def Overrides.resolve (o : Overrides α) : Except (Fault α) (Settings α) := do
  if o.version ≠ 0 ∧ o.version ≠ Settings.version then .error (.unsupportedVersion o.version)
  -- Of several faults the first one in this order is reported.
  let polling := o.polling.complete
  require (polling.interval.nanoseconds != 0) .pollingInterval .notPositive
  let hysteresis := o.hysteresis.complete
  require (0 < hysteresis.threshold) .threshold .notPositive
  -- What is undefined is neither below zero nor below another number, and is not refused here.
  require (!decide (hysteresis.margin < 0)) .margin .negative
  require (!decide (hysteresis.maxScore < hysteresis.transitionScore)) .maxScore .belowTransition
  let horizon ← horizonOf o.trend.horizonSeconds
  let trend := o.trend.complete horizon
  require (trend.probeKnob ≤ 10) .probeKnob (.offTheKnob trend.probeKnob)
  require (0 ≤ trend.maxScore) .trendMaxScore .negative
  require (trend.transitionScore ≤ trend.maxScore &&
    trend.secondaryTransitionScore ≤ trend.maxScore) .trendMaxScore .belowTransitions
  require (0 < trend.readingStd) .readingStd .notPositive
  require (trend.rateTimeConstant.nanoseconds != 0) .rateTimeConstant .notPositive
  return {
    method := o.method.getD (defaults : Settings α).method
    modelId := o.modelId.getD (defaults : Settings α).modelId
    polling
    gates := o.gates.complete
    evidence := o.evidence.complete
    hysteresis
    trend }

end LinkQuality.Settings
