import LinkQuality.Duration
import LinkQuality.Telemetry.AccessPoint

/-!
# Settings

Every threshold of the program, grouped by the part that uses it, and the values that hold where a
document of settings says nothing.

## Main definitions

* `Settings`: all settings
* `Settings.Polling`, `Settings.Gates`, `Settings.Evidence`, `Settings.Hysteresis`,
  `Settings.Trend`: the groups
* `defaults` of each
-/

namespace LinkQuality

/-- How a connection is scored. -/
inductive Method where
  /-- By a trained forest of decision trees. -/
  | forest
  /-- By the trend of the signal strength. -/
  | trend
  deriving DecidableEq, Repr

namespace Settings

/-- How often telemetry arrives. -/
structure Polling where
  /-- The time between two polls. -/
  interval : Duration
  /-- The time between a poll and its answer. -/
  delay : Duration
  deriving DecidableEq, Repr

namespace Polling

def defaults : Polling := ⟨.ofMillis 3000, .ofMillis 3000⟩

/-- The longest time between two samples that follow each other. -/
def maxGapMs (polling : Polling) : Nat := (polling.interval + polling.delay).clockMillis

end Polling

/-- How much traffic an interval needs before rates are computed from it. -/
structure Gates (α : Type) where
  /-- So few transmissions, all of them failed, tell nothing. -/
  fewTxAttempts : α
  /-- So few receptions leave the receive speed undefined. -/
  fewRxSuccesses : α
  /-- So many successes in either direction saturate the ratios per attempt. -/
  manySuccesses : α
  /-- So little time on the channel leaves its busy ratio undefined. -/
  littleChannelMs : α
  /-- Whether the busy ratio is assumed to be the average one instead of being measured. -/
  assumeMeanBusyRatio : Bool
  /-- Whether the station's own reception is taken out of the busy time. -/
  excludeOwnReception : Bool

def Gates.defaults {α : Type} [Scalar α] : Gates α where
  fewTxAttempts := 3
  fewRxSuccesses := 3
  manySuccesses := 45
  littleChannelMs := 50
  assumeMeanBusyRatio := true
  excludeOwnReception := false

/-- What counts as evidence that a link is bad, and what speed is slow. -/
structure Evidence (α : Type) where
  /-- At or below this signal strength a link is bad whatever its traffic. -/
  hopelessRssiDbm : Int
  /-- So many failed transmissions in an interval are a burst. -/
  txBadBurst : α
  /-- A burst weighs so many times as much as a success. -/
  txBadWeight : α
  slowMbps : Int
  verySlowMbps : Int

def Evidence.defaults {α : Type} [Scalar α] : Evidence α where
  hopelessRssiDbm := -86
  txBadBurst := 1000
  txBadWeight := 6
  slowMbps := 18
  verySlowMbps := 6

/-- When a scored link is given up, taken back and blocked. -/
structure Hysteresis (α : Type) where
  /-- The score between usable and unusable. -/
  transitionScore : α
  /-- The upper end of the scores that are healthy but sliding. -/
  maxHealthScore : α
  /-- The highest score. -/
  maxScore : α
  /-- The raw score that becomes the transition score. -/
  threshold : α
  /-- What is added to the threshold while the link is below the transition. -/
  margin : α
  /-- A scan is asked for when the raw score falls below this. -/
  scanThreshold : α
  /-- Below this signal strength a fall of the score counts. -/
  breachRssiDbm : Int
  /-- At or below this signal strength nothing is waited for. -/
  urgentRssiDbm : Int
  /-- The wait before the recommendation changes. -/
  debounce : Duration
  /-- The wait before the access point is blocked. -/
  blockWait : Duration

def Hysteresis.defaults {α : Type} [Scalar α] : Hysteresis α where
  transitionScore := 50
  maxHealthScore := 60
  maxScore := 100
  threshold := 10
  margin := 70
  scanThreshold := 10
  breachRssiDbm := -67
  urgentRssiDbm := -81
  debounce := .ofMillis 5000
  blockWait := .ofMillis 29000

/-- The signal strengths at which a link is left and entered. -/
structure Levels where
  exitDbm : Int
  entryDbm : Int
  deriving DecidableEq, Repr

/-- The levels of each band. -/
structure BandLevels where
  twoGhz : Levels
  fiveGhz : Levels
  sixGhz : Levels
  deriving DecidableEq, Repr

namespace BandLevels

def defaults : BandLevels := ⟨⟨-83, -80⟩, ⟨-80, -77⟩, ⟨-77, -74⟩⟩

/-- The levels of a band; an unknown band has those of the middle one. -/
def ofBand (levels : BandLevels) : Option Band → Levels
  | some .twoGhz => levels.twoGhz
  | some .fiveGhz | none => levels.fiveGhz
  | some .sixGhz => levels.sixGhz

end BandLevels

/-- How a link is scored by the trend of its signal strength. -/
structure Trend (α : Type) where
  levels : BandLevels
  /-- The score at the exit level of a primary link. -/
  transitionScore : Int
  /-- The transition of a secondary link. -/
  secondaryTransitionScore : Int
  /-- The highest score. -/
  maxScore : Int
  /-- How far ahead the trend is followed. -/
  horizon : Duration
  /-- The standard deviation of one reading, in decibels. -/
  readingStd : α
  /-- The standard deviation of the acceleration of the signal strength. -/
  accelerationStd : α
  /-- The time constant of the packet rates. -/
  rateTimeConstant : Duration
  /-- The rates in both directions from which on the exit level may shift. -/
  minSuccessRate : α
  /-- How far the exit level shifts at a time, in decibels. -/
  shiftStepDb : α
  /-- How far the exit level shifts at most, in decibels. -/
  maxShiftDb : α
  /-- The rates in both directions that show that a busy link still works. -/
  busyRate : α
  /-- How long the score stays below the transition after it fell. -/
  holdBelow : Duration
  /-- How eagerly reachability is probed, from zero for never to ten. -/
  probeKnob : Nat
  /-- The time constant of the bar after a probe. -/
  probeTimeConstant : Duration
  /-- A scan is asked for below this score. -/
  scanBelow : Int

def Trend.defaults {α : Type} [Scalar α] : Trend α where
  levels := .defaults
  transitionScore := 50
  secondaryTransitionScore := 55
  maxScore := 60
  horizon := .ofSeconds 15
  readingStd := 2
  accelerationStd := 0.02
  rateTimeConstant := .ofMillis 3000
  minSuccessRate := 2
  shiftStepDb := 0.5
  maxShiftDb := 7
  busyRate := 2
  holdBelow := .ofMillis 9000
  probeKnob := 8
  probeTimeConstant := .ofMillis 30000
  scanBelow := 55

end Settings

/-- All settings. -/
structure Settings (α : Type) where
  method : Method
  /-- The number of the model that a bundle is to hold. -/
  modelId : Nat
  polling : Settings.Polling
  gates : Settings.Gates α
  evidence : Settings.Evidence α
  hysteresis : Settings.Hysteresis α
  trend : Settings.Trend α

namespace Settings

/-- The version of the settings that the program understands. -/
def version : Nat := 1

def defaults {α : Type} [Scalar α] : Settings α where
  method := .forest
  modelId := 7
  polling := .defaults
  gates := .defaults
  evidence := .defaults
  hysteresis := .defaults
  trend := .defaults

end Settings

end LinkQuality
