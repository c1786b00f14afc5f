import LinkQuality.Simulation.Station

/-!
# Scripted traces

The situations that a scorer must get right: a strong and steady link, a signal that fades while
its user walks away, a weak link with and without traffic, and a handover from a weak access point
to a strong one.

## Main definitions

* `Simulation.Stable`, `Simulation.WalkAway`, `Simulation.Weak`, `Simulation.Roam`: the situations
* `events` of each: what happens to the station
* `samples` of each: the trace
-/

namespace LinkQuality.Simulation

/-- The number of steps that cover a duration. -/
def stepsIn (α : Type) [Scalar α] (duration step : Duration) : Nat :=
  Scalar.toCount (Scalar.whole .up (duration.seconds / step.seconds : α))

/-- A step of three seconds. -/
def usualStep : Duration := .ofSeconds 3

/-- The usual access point, in the middle band. -/
def usualAccessPoint : AccessPoint := ⟨.ofLastOctet 1, 5180⟩

/-- The usual access point, in the lower band. -/
def lowBandAccessPoint : AccessPoint := ⟨.ofLastOctet 1, 2412⟩

/-- A link that does not change. -/
structure Stable (α : Type) where
  duration : Duration
  step : Duration
  accessPoint : AccessPoint
  conditions : Conditions α

namespace Stable

variable {α : Type} [Scalar α]

def defaults : Stable α where
  duration := .ofSeconds 60
  step := usualStep
  accessPoint := usualAccessPoint
  conditions := .ordinary (-55)

/-- What happens to the station. -/
def events (scenario : Stable α) : List (Event α) :=
  List.replicate (stepsIn α scenario.duration scenario.step) (.poll scenario.conditions)

/-- The trace. -/
def samples (scenario : Stable α) : List Sample :=
  (Station.start scenario.step scenario.accessPoint).samples scenario.events

end Stable

/-- A signal that holds for a time, fades along a line, and stays faded. -/
structure WalkAway where
  step : Duration
  accessPoint : AccessPoint
  /-- The time before the fade. -/
  hold : Duration
  fade : Duration
  /-- The time after the fade. -/
  tail : Duration
  startDbm : Int
  endDbm : Int

namespace WalkAway

def defaults : WalkAway where
  step := usualStep
  accessPoint := usualAccessPoint
  hold := .ofSeconds 15
  fade := .ofSeconds 30
  tail := .ofSeconds 45
  startDbm := -55
  endDbm := -82

variable (α : Type) [Scalar α]

/-- The steps before the fade. -/
def holdSteps (scenario : WalkAway) : Nat := stepsIn α scenario.hold scenario.step

/-- The steps of the fade. There is at least one. -/
def fadeSteps (scenario : WalkAway) : Nat := max 1 (stepsIn α scenario.fade scenario.step)

/-- The steps after the fade. -/
def tailSteps (scenario : WalkAway) : Nat := stepsIn α scenario.tail scenario.step

/-- How far the fade has gone at a step, from zero to one. -/
def progress (scenario : WalkAway) (index : Nat) : α :=
  Scalar.lesser
    (Scalar.ofNat (index - scenario.holdSteps α) / Scalar.ofNat (scenario.fadeSteps α)) 1

variable {α}

/-- The signal strength when the fade has gone so far. -/
def rssiAt (scenario : WalkAway) (progress : α) : Int :=
  let span := Scalar.ofInt (scenario.endDbm - scenario.startDbm)
  Scalar.toInt32 (Scalar.whole .halfAway (Scalar.ofInt scenario.startDbm + span * progress))

/-- The conditions when the fade has gone so far: the signal and the traffic thin out, failures and
retries grow. -/
def conditions (scenario : WalkAway) (progress : α) : Conditions α where
  rssiDbm := scenario.rssiAt progress
  txRate := 20 * (1 - 0.9 * progress)
  rxRate := 25 * (1 - 0.9 * progress)
  failureRatio := 0.01 + 0.4 * progress
  retryRatio := 0.05 + 0.9 * progress
  speedMbps := if progress < 0.5 then 433 else 12
  busyRatio := 0.2 + 0.3 * progress

variable (α)

/-- What happens to the station. The number of all steps is one that 64 bits hold, or there is no
trace to speak of. -/
def events (scenario : WalkAway) : List (Event α) :=
  let steps := scenario.holdSteps α + scenario.fadeSteps α + scenario.tailSteps α
  (List.range steps).map fun index => .poll (scenario.conditions (scenario.progress α index))

/-- The trace. -/
def samples (scenario : WalkAway) : List Sample :=
  (Station.start scenario.step scenario.accessPoint).samples (scenario.events α)

end WalkAway

/-- A weak link. -/
structure Weak where
  count : Nat
  step : Duration
  accessPoint : AccessPoint
  rssiDbm : Int

namespace Weak

def defaults : Weak where
  count := 10
  step := usualStep
  accessPoint := lowBandAccessPoint
  rssiDbm := -85

variable {α : Type} [Scalar α]

/-- The trace, in conditions that depend on the signal strength. -/
def samples (scenario : Weak) (conditions : Int → Conditions α) : List Sample :=
  (Station.start scenario.step scenario.accessPoint).samples
    (List.replicate scenario.count (.poll (conditions scenario.rssiDbm)))

end Weak

/-- A handover from a weak link to a strong one. -/
structure Roam where
  step : Duration
  source : AccessPoint
  target : AccessPoint
  weakCount : Nat
  strongCount : Nat
  weakDbm : Int
  strongDbm : Int

namespace Roam

def defaults : Roam where
  step := usualStep
  source := usualAccessPoint
  target := ⟨.ofLastOctet 2, 5745⟩
  weakCount := 8
  strongCount := 8
  weakDbm := -80
  strongDbm := -52

/-- The index of the first sample after the handover. -/
def index (scenario : Roam) : Nat := scenario.weakCount

variable (α : Type) [Scalar α]

/-- The conditions before the handover. -/
def weakConditions (scenario : Roam) : Conditions α :=
  { Conditions.idle scenario.weakDbm with
    failureRatio := 0.3
    retryRatio := 0.8
    speedMbps := 12 }

/-- What happens to the station. -/
def events (scenario : Roam) : List (Event α) :=
  List.replicate scenario.weakCount (.poll (scenario.weakConditions α)) ++
    .roam scenario.target ::
      List.replicate scenario.strongCount (.poll (.ordinary scenario.strongDbm))

/-- The trace. -/
def samples (scenario : Roam) : List Sample :=
  (Station.start scenario.step scenario.source).samples (scenario.events α)

end Roam

end LinkQuality.Simulation
