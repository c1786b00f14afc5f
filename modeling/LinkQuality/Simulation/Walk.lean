import LinkQuality.Simulation.Chance
import LinkQuality.Simulation.Scenario

/-!
# Random walks

A trace in which signal strength, traffic and failures each wander by random steps within bounds,
and now and then the signal strength is missing. A walk whose bounds are crossed has no trace.

## Main definitions

* `Simulation.Walk`: bounds and step sizes
* `Simulation.RandomTrace`, `RandomTrace.samples?`: a walk with a seed, and its trace
-/

namespace LinkQuality.Simulation

/-- Bounds and step sizes of a walk. -/
structure Walk (α : Type) where
  minRssiDbm : α
  maxRssiDbm : α
  rssiStepDb : α
  maxRate : α
  rateStep : α
  maxFailureRatio : α
  failureStep : α
  /-- How likely the signal strength is missing. -/
  missingProbability : α

/-- Where a walk is. -/
structure Place (α : Type) where
  rssiDbm : α
  rate : α
  failureRatio : α

namespace Walk

variable {α : Type} [Scalar α]

def defaults : Walk α where
  minRssiDbm := -92
  maxRssiDbm := -45
  rssiStepDb := 3
  maxRate := 50
  rateStep := 5
  maxFailureRatio := 0.5
  failureStep := 0.05
  missingProbability := 0.02

/-- Whether no bounds are crossed. -/
def isBounded (walk : Walk α) : Bool :=
  decide (walk.minRssiDbm ≤ walk.maxRssiDbm) && decide (0 ≤ walk.maxRate) &&
    decide (0 ≤ walk.maxFailureRatio)

/-- Draws where the walk begins. -/
def start (walk : Walk α) : Draw (Place α) := do
  let rssi ← Chance.uniform
  let rate ← Chance.uniform
  let failure ← Chance.uniform
  pure
    { rssiDbm := walk.minRssiDbm + rssi * (walk.maxRssiDbm - walk.minRssiDbm)
      rate := rate * walk.maxRate
      failureRatio := failure * walk.maxFailureRatio * 0.2 }

/-- The place after moves in each direction, kept within the bounds. -/
def move (walk : Walk α) (place : Place α) (rssi rate failure : α) : Place α where
  rssiDbm := Scalar.clamp walk.minRssiDbm walk.maxRssiDbm (place.rssiDbm + rssi)
  rate := Scalar.clamp 0 walk.maxRate (place.rate + rate)
  failureRatio := Scalar.clamp 0 walk.maxFailureRatio (place.failureRatio + failure)

/-- The speed that a link settles on at a signal strength. -/
def speedAt (rssiDbm : α) : Int :=
  if -60 ≤ rssiDbm then 433
  else if -70 ≤ rssiDbm then 144
  else if -78 ≤ rssiDbm then 54
  else if -84 ≤ rssiDbm then 12
  else 6

/-- The conditions at a place. -/
def conditions (place : Place α) (isMissing : Bool) : Conditions α where
  rssiDbm := if isMissing then noSignalDbm
    else Scalar.toInt32 (Scalar.whole .halfAway place.rssiDbm)
  txRate := place.rate
  rxRate := place.rate * 1.2
  failureRatio := place.failureRatio
  retryRatio := place.failureRatio * 2
  speedMbps := speedAt place.rssiDbm
  busyRatio := 0.1 + place.failureRatio

/-- Draws the conditions of a number of steps. -/
def wander (walk : Walk α) : (count : Nat) → Place α → Draw (List (Conditions α))
  | 0, _ => pure []
  | count + 1, place => do
    -- The order of the draws is part of the walk: the same seed has to lead to the same places.
    let rssi ← Chance.signed walk.rssiStepDb
    let rate ← Chance.signed walk.rateStep
    let failure ← Chance.signed walk.failureStep
    let missing ← Chance.uniform
    let place := walk.move place rssi rate failure
    let rest ← walk.wander count place
    pure (conditions place (decide (missing < walk.missingProbability)) :: rest)

end Walk

/-- A random walk with a seed. -/
structure RandomTrace (α : Type) where
  seed : Nat
  duration : Duration
  step : Duration
  accessPoint : AccessPoint
  walk : Walk α

namespace RandomTrace

variable {α : Type} [Scalar α]

def defaults : RandomTrace α where
  seed := 42
  duration := .ofSeconds 120
  step := usualStep
  accessPoint := usualAccessPoint
  walk := .defaults

/-- Draws the conditions at the start and at each step. -/
def conditions (trace : RandomTrace α) : Draw (List (Conditions α)) := do
  let place ← trace.walk.start
  trace.walk.wander (stepsIn α trace.duration trace.step + 1) place

/-- The trace, unless bounds are crossed. -/
def samples? (trace : RandomTrace α) : Option (List Sample) :=
  if trace.walk.isBounded then
    let (conditions, _) := trace.conditions.run (.ofSeed trace.seed)
    some ((Station.start trace.step trace.accessPoint).samples (conditions.map .poll))
  else none

end RandomTrace

end LinkQuality.Simulation
