import LinkQuality.Duration
import LinkQuality.Telemetry.Sample
import LinkQuality.Verdict

/-!
# A simulated station

A station is polled at a fixed rate. Between two polls its link is in given conditions, and its
totals grow by what such a link carries in that time. The totals keep fractions, so that low rates
add up as they should; the counters of a sample are their whole parts.

The station may move to another access point, where its counters keep running, and its poller may
stall.

## Main definitions

* `Simulation.Conditions`: what a link is like between two polls
* `Simulation.Station`: a station, `Station.poll`: polling it
* `Simulation.Event`, `Station.samples`: the samples of a course of events
-/

namespace LinkQuality.Simulation

/-- What a link is like between two polls. -/
structure Conditions (α : Type) where
  rssiDbm : Int
  /-- Successful transmissions per second. -/
  txRate : α
  /-- Successful receptions per second. -/
  rxRate : α
  /-- Failed transmissions as a share of the attempts. -/
  failureRatio : α
  /-- Retries per successful transmission. -/
  retryRatio : α
  speedMbps : Int
  /-- The share of the time on the channel in which it is busy. -/
  busyRatio : α
  deriving Repr

namespace Conditions

variable {α : Type} [Scalar α]

/-- A link in ordinary use. -/
def ordinary (rssiDbm : Int) : Conditions α where
  rssiDbm
  txRate := 20
  rxRate := 25
  failureRatio := 0.01
  retryRatio := 0.05
  speedMbps := 433
  busyRatio := 0.2

/-- A weak link that carries next to nothing. -/
def idle (rssiDbm : Int) : Conditions α :=
  { ordinary rssiDbm with
    txRate := 0.1
    rxRate := 0.1
    speedMbps := 6 }

/-- A weak link that keeps carrying traffic. -/
def busy (rssiDbm : Int) : Conditions α :=
  { ordinary rssiDbm with
    txRate := 12
    rxRate := 15
    failureRatio := 0.05
    retryRatio := 0.3
    speedMbps := 24 }

/-- The time on air of a frame of 1500 bytes, in milliseconds. Without a link speed it is none. -/
def airtimeMs (conditions : Conditions α) : α :=
  if 0 < conditions.speedMbps then 12000 / (Scalar.ofInt conditions.speedMbps * 1000) else 0

end Conditions

/-- Counters with fractions. -/
structure Totals (α : Type) where
  txSuccess : α
  txRetries : α
  txBad : α
  rxSuccess : α
  beaconRx : α
  radioOnMs : α
  radioTxMs : α
  radioRxMs : α
  busyMs : α
  deriving Repr

namespace Totals

variable {α : Type} [Scalar α]

/-- The totals before anything happened. -/
def zero : Totals α := ⟨0, 0, 0, 0, 0, 0, 0, 0, 0⟩

/-- The time between two beacons, in milliseconds. -/
def beaconIntervalMs : α := 102.4

/-- The totals after a time in given conditions. Negative rates count as zero, and ratios are kept
within bounds. -/
def grow (step : Duration) (conditions : Conditions α) (totals : Totals α) : Totals α :=
  let stepMs : α := Scalar.ofNat step.millis
  let sent := Scalar.greater conditions.txRate 0 * step.seconds
  let failure := Scalar.clamp 0 0.99 conditions.failureRatio
  -- As many more attempts as make the failed ones this share of all.
  let failed := sent * failure / (1 - failure)
  let retried := sent * Scalar.greater conditions.retryRatio 0
  let received := Scalar.greater conditions.rxRate 0 * step.seconds
  let radioOn := stepMs * 0.95
  { txSuccess := totals.txSuccess + sent
    txRetries := totals.txRetries + retried
    txBad := totals.txBad + failed
    rxSuccess := totals.rxSuccess + received
    beaconRx := totals.beaconRx + stepMs / beaconIntervalMs
    radioOnMs := totals.radioOnMs + radioOn
    radioTxMs := totals.radioTxMs + (sent + failed + retried) * conditions.airtimeMs
    radioRxMs := totals.radioRxMs + received * conditions.airtimeMs
    busyMs := totals.busyMs + radioOn * Scalar.clamp 0 1 conditions.busyRatio }

/-- The counters that show the totals. The radio is never off the channel and never scans. -/
def counters (totals : Totals α) : Counters where
  txSuccess := Scalar.toCount totals.txSuccess
  txRetries := Scalar.toCount totals.txRetries
  txBad := Scalar.toCount totals.txBad
  rxSuccess := Scalar.toCount totals.rxSuccess
  beaconRx := Scalar.toCount totals.beaconRx
  radioOnMs := Scalar.toCount totals.radioOnMs
  radioTxMs := Scalar.toCount totals.radioTxMs
  radioRxMs := Scalar.toCount totals.radioRxMs
  scanMs := 0
  roamScanMs := 0
  radioOnChannelMs := Scalar.toCount totals.radioOnMs
  busyOnChannelMs := Scalar.toCount totals.busyMs

end Totals

/-- A station that is polled once a step. -/
structure Station (α : Type) where
  step : Duration
  accessPoint : AccessPoint
  /-- The time on its clock. A clock has 64 bits, and what comes when they run out is not told. -/
  nowMs : Nat
  totals : Totals α
  deriving Repr

/-- What can happen to a station. -/
inductive Event (α : Type) where
  /-- A step passes in given conditions, and the station is polled. -/
  | poll (conditions : Conditions α)
  /-- The station moves to an access point. -/
  | roam (accessPoint : AccessPoint)
  /-- Time passes without a poll. -/
  | stall (gap : Duration)
  deriving Repr

namespace Station

variable {α : Type} [Scalar α]

/-- A station that comes up. -/
def start (step : Duration) (accessPoint : AccessPoint) : Station α where
  step
  accessPoint
  nowMs := 0
  totals := .zero

/-- The sample that a poll returns now. -/
def sample (station : Station α) (conditions : Conditions α) : Sample where
  timestampMs := station.nowMs
  accessPoint := station.accessPoint
  rssiDbm := conditions.rssiDbm
  txSpeedMbps := conditions.speedMbps
  rxSpeedMbps := conditions.speedMbps
  counters := station.totals.counters

/-- The station after a step in given conditions. Its clock shows whole milliseconds. -/
def advance (conditions : Conditions α) (station : Station α) : Station α :=
  { station with
    nowMs := station.nowMs + Scalar.toCount (Scalar.ofNat station.step.millis : α)
    totals := station.totals.grow station.step conditions }

/-- The station after an event, and the sample if it was polled. -/
def occur (station : Station α) : Event α → Station α × Option Sample
  | .poll conditions =>
    let station := station.advance conditions
    (station, some (station.sample conditions))
  | .roam accessPoint => ({ station with accessPoint }, none)
  | .stall gap => ({ station with nowMs := station.nowMs + gap.clockMillis }, none)

/-- The samples of a course of events. -/
def samples (station : Station α) (events : List (Event α)) : List Sample :=
  (answers occur station events).filterMap id

end Station

end LinkQuality.Simulation
