import LinkQuality.Normalization
import LinkQuality.Settings.Basic
import LinkQuality.Telemetry.Sample

/-!
# Intervals

What happened between two samples of one link: the increases of the counters and the rates that
follow from them. A rate is undefined where the interval says nothing about it: a counter went
backwards, there was too little traffic to tell, or so much that a ratio no longer tells anything.

The first sample of a link has no sample before it. Its features are those of an average interval.

## Main definitions

* `Increases`: how far each counter went
* `Increases.txAttempts`, `Increases.successPerAttempt`, …: the rates
* `Interval`: a sample with what led up to it
* `Interval.between`, `Interval.first`: the interval after another sample, and the first one
-/

namespace LinkQuality

/-- How far each counter went during an interval. -/
structure Increases (α : Type) where
  txSuccess : α
  txRetries : α
  txBad : α
  rxSuccess : α
  beaconRx : α
  radioOn : α
  radioTx : α
  radioRx : α
  scan : α
  roamScan : α
  radioOnChannel : α
  busyOnChannel : α

namespace Increases

variable {α : Type} [Scalar α] [Undefined α]

/-- The increase of one counter, undefined if it went backwards. -/
def ofCounter (earlier later : Nat) : α :=
  if earlier ≤ later then Scalar.ofNat (later - earlier) else undefined

/-- The increases from earlier counters to later ones. -/
def between (earlier later : Counters) : Increases α where
  txSuccess := ofCounter earlier.txSuccess later.txSuccess
  txRetries := ofCounter earlier.txRetries later.txRetries
  txBad := ofCounter earlier.txBad later.txBad
  rxSuccess := ofCounter earlier.rxSuccess later.rxSuccess
  beaconRx := ofCounter earlier.beaconRx later.beaconRx
  radioOn := ofCounter earlier.radioOnMs later.radioOnMs
  radioTx := ofCounter earlier.radioTxMs later.radioTxMs
  radioRx := ofCounter earlier.radioRxMs later.radioRxMs
  scan := ofCounter earlier.scanMs later.scanMs
  roamScan := ofCounter earlier.roamScanMs later.roamScanMs
  radioOnChannel := ofCounter earlier.radioOnChannelMs later.radioOnChannelMs
  busyOnChannel := ofCounter earlier.busyOnChannelMs later.busyOnChannelMs

/-- Whether one direction had so many successes that ratios per attempt tell nothing. -/
def isSaturated (d : Increases α) (gates : Settings.Gates α) : Bool :=
  decide (gates.manySuccesses ≤ d.txSuccess) || decide (gates.manySuccesses ≤ d.rxSuccess)

/-- The number of attempts to transmit. -/
def txAttempts (d : Increases α) : α := d.txSuccess + d.txRetries

/-- Whether there were too few attempts to tell anything from them. -/
def hasFewAttempts (d : Increases α) (gates : Settings.Gates α) : Bool :=
  d.txAttempts == 0 || (decide (d.txAttempts ≤ gates.fewTxAttempts) && d.txSuccess == 0)

/-- Whether ratios per attempt tell something. -/
def attemptsTell (d : Increases α) (gates : Settings.Gates α) : Bool :=
  !(Scalar.isUndefined d.txAttempts || d.hasFewAttempts gates || d.isSaturated gates)

/-- The share of attempts that succeeded. -/
def successPerAttempt (d : Increases α) (gates : Settings.Gates α) : α :=
  if d.attemptsTell gates then d.txSuccess / d.txAttempts else undefined

/-- The share of attempts that were retries. -/
def retriesPerAttempt (d : Increases α) (gates : Settings.Gates α) : α :=
  if d.attemptsTell gates then d.txRetries / d.txAttempts else undefined

/-- The transmission time of an attempt; zero, and not undefined, where attempts tell nothing. -/
def txTimePerAttempt (d : Increases α) (gates : Settings.Gates α) : α :=
  if d.attemptsTell gates then d.radioTx / d.txAttempts else 0

/-- The reception time of a success, undefined if either is zero. -/
def rxTimePerSuccess (d : Increases α) : α :=
  if Scalar.isUndefined d.radioRx || Scalar.isUndefined d.rxSuccess || d.radioRx == 0
      || d.rxSuccess == 0 then undefined
  else d.radioRx / d.rxSuccess

/-- The radio time, scans left out, of a packet in either direction. -/
def radioOnPerAttempt (d : Increases α) : α :=
  let attempts := d.txSuccess + d.rxSuccess + d.txRetries
  if attempts == 0 then undefined else (d.radioOn - d.scan) / attempts

/-- The speed of transmissions, if it is known and there were enough of them, but not too many. -/
def txSpeed (d : Increases α) (gates : Settings.Gates α) (speedMbps : Int) : α :=
  -- An unknown number of attempts is not at most any number, and does not hide the speed.
  if speedMbps < 0 ∨ d.txAttempts ≤ gates.fewTxAttempts ∨ d.isSaturated gates then undefined
  else Scalar.ofInt speedMbps

/-- The speed of receptions, if it is known and there were enough of them, but not too many. -/
def rxSpeed (d : Increases α) (gates : Settings.Gates α) (speedMbps : Int) : α :=
  if speedMbps < 0 ∨ d.rxSuccess ≤ gates.fewRxSuccesses ∨ d.isSaturated gates then undefined
  else Scalar.ofInt speedMbps

/-- The share of the time on the channel in which it was busy, if it was measured. -/
def measuredBusyRatio (d : Increases α) (gates : Settings.Gates α) : α :=
  if Scalar.isUndefined d.busyOnChannel || Scalar.isUndefined d.radioOnChannel
      || Scalar.isUndefined d.radioRx || decide (d.radioOnChannel ≤ gates.littleChannelMs) then
    undefined
  else
    -- Less the receptions it may be negative, and is out of bounds then.
    let busy := if gates.excludeOwnReception then d.busyOnChannel - d.radioRx else d.busyOnChannel
    let ratio := busy / d.radioOnChannel
    if Scalar.within 0 1 ratio then ratio else undefined

/-- The busy ratio: the average one or the measured one. -/
def busyRatio (d : Increases α) (gates : Settings.Gates α) (norm : Normalization α) : α :=
  if gates.assumeMeanBusyRatio then norm.featureMean .busyRatio else d.measuredBusyRatio gates

end Increases

/-- A sample with what led up to it. -/
structure Interval (α : Type) extends Increases α where
  sample : Sample
  txAttempts : α
  successPerAttempt : α
  retriesPerAttempt : α
  txTimePerAttempt : α
  rxTimePerSuccess : α
  radioOnPerAttempt : α
  busyRatio : α
  linkSpeed : α
  rxSpeed : α
  rssi : α
  txThroughput : α
  rxThroughput : α

namespace Interval

variable {α : Type} [Scalar α]

/-- The interval that leads from an earlier sample to a later one. -/
def between [Undefined α] (earlier later : Sample) (norm : Normalization α)
    (gates : Settings.Gates α) : Interval α :=
  let d : Increases α := .between earlier.counters later.counters
  let busyRatio := d.busyRatio gates norm
  let linkSpeed := d.txSpeed gates later.txSpeedMbps
  let rxSpeed := d.rxSpeed gates later.rxSpeedMbps
  let retriesPerAttempt := d.retriesPerAttempt gates
  { d with
    sample := later
    txAttempts := d.txAttempts
    successPerAttempt := d.successPerAttempt gates
    retriesPerAttempt
    txTimePerAttempt := d.txTimePerAttempt gates
    rxTimePerSuccess := d.rxTimePerSuccess
    radioOnPerAttempt := d.radioOnPerAttempt
    busyRatio
    linkSpeed
    rxSpeed
    rssi := Scalar.ofInt later.rssiDbm
    txThroughput := linkSpeed * (1 - retriesPerAttempt) * (1 - busyRatio)
    rxThroughput := rxSpeed * (1 - busyRatio) }

/-- An interval with given features, in which nothing else happened. -/
def ofFeatures (sample : Sample) (value : Feature → α) : Interval α where
  sample
  txSuccess := 0
  txRetries := 0
  txBad := value .txBad
  rxSuccess := value .rxSuccess
  beaconRx := 0
  radioOn := 0
  radioTx := 0
  radioRx := 0
  scan := value .scan
  roamScan := value .roamScan
  radioOnChannel := value .radioOnChannel
  busyOnChannel := 0
  txAttempts := value .txAttempts
  successPerAttempt := value .successPerAttempt
  retriesPerAttempt := value .retriesPerAttempt
  txTimePerAttempt := value .txTimePerAttempt
  rxTimePerSuccess := value .rxTimePerSuccess
  radioOnPerAttempt := value .radioOnPerAttempt
  busyRatio := value .busyRatio
  linkSpeed := value .linkSpeed
  rxSpeed := 0
  rssi := value .rssi
  txThroughput := value .txThroughput
  rxThroughput := 0

/-- The interval of the first sample of a link: an average one. -/
def first (sample : Sample) (norm : Normalization α) : Interval α :=
  ofFeatures sample norm.featureMean

/-- A feature of an interval. -/
def feature (interval : Interval α) : Feature → α
  | .txThroughput => interval.txThroughput
  | .linkSpeed => interval.linkSpeed
  | .rssi => interval.rssi
  | .busyRatio => interval.busyRatio
  | .radioOnChannel => interval.radioOnChannel
  | .radioOnPerAttempt => interval.radioOnPerAttempt
  | .rxTimePerSuccess => interval.rxTimePerSuccess
  | .txTimePerAttempt => interval.txTimePerAttempt
  | .roamScan => interval.roamScan
  | .rxSuccess => interval.rxSuccess
  | .scan => interval.scan
  | .txAttempts => interval.txAttempts
  | .txBad => interval.txBad
  | .retriesPerAttempt => interval.retriesPerAttempt
  | .successPerAttempt => interval.successPerAttempt

/-- The features of an interval, in order. -/
def features (interval : Interval α) : Vector α 15 := Feature.all.map interval.feature

@[simp] theorem feature_ofFeatures (sample : Sample) (value : Feature → α) (f : Feature) :
    (ofFeatures sample value).feature f = value f := by
  cases f <;> rfl

end Interval

end LinkQuality
