import LinkQuality.Verdict

/-!
# Offsets

Clocks and counters start from somewhere. Nothing is measured by where they stand, only by how far
they go between two samples, so a connection is scored the same if all its timestamps, the times of
all its calls and each of its counters start from a later value.

An offset moves whatever holds a time or a counter. Each part of a scorer is shown elsewhere to
commute with it.

## Main definitions

* `Offset`: how much later two clocks and each counter start
* `Offset.onSample`, `Offset.onCall`: samples and calls that are read off them

## Main results

* `Offset.gapSince?_onSample`: the time between two samples stays the same
-/

namespace LinkQuality

/-- How much later the clock of the samples, the clock of the calls and each counter start. -/
structure Offset where
  timestampMs : Nat
  nowMs : Nat
  counters : Counters

namespace Offset

variable (offset : Offset)

/-- Counters that start from later values. -/
def onCounters (counters : Counters) : Counters where
  txSuccess := counters.txSuccess + offset.counters.txSuccess
  txRetries := counters.txRetries + offset.counters.txRetries
  txBad := counters.txBad + offset.counters.txBad
  rxSuccess := counters.rxSuccess + offset.counters.rxSuccess
  beaconRx := counters.beaconRx + offset.counters.beaconRx
  radioOnMs := counters.radioOnMs + offset.counters.radioOnMs
  radioTxMs := counters.radioTxMs + offset.counters.radioTxMs
  radioRxMs := counters.radioRxMs + offset.counters.radioRxMs
  scanMs := counters.scanMs + offset.counters.scanMs
  roamScanMs := counters.roamScanMs + offset.counters.roamScanMs
  radioOnChannelMs := counters.radioOnChannelMs + offset.counters.radioOnChannelMs
  busyOnChannelMs := counters.busyOnChannelMs + offset.counters.busyOnChannelMs

/-- A sample that is taken by a later clock, with later counters. -/
def onSample (sample : Sample) : Sample :=
  { sample with
    timestampMs := sample.timestampMs + offset.timestampMs
    counters := offset.onCounters sample.counters }

/-- A call by a later clock. -/
def onCall : Call → Call
  | .score sample nowMs isPrimary =>
    .score (offset.onSample sample) (nowMs + offset.nowMs) isPrimary
  | .reset => .reset

/-- A remembered time of a call, by a later clock. -/
def onTime (timeMs : Option Nat) : Option Nat := timeMs.map (· + offset.nowMs)

@[simp] theorem accessPoint_onSample (sample : Sample) :
    (offset.onSample sample).accessPoint = sample.accessPoint := rfl

@[simp] theorem rssi?_onSample (sample : Sample) :
    (offset.onSample sample).rssi? = sample.rssi? := rfl

@[simp] theorem gapSince?_onSample (sample earlier : Sample) :
    (offset.onSample sample).gapSince? (offset.onSample earlier) = sample.gapSince? earlier := by
  simp only [Sample.gapSince?, onSample, Nat.add_le_add_iff_right, Nat.add_sub_add_right]

end Offset

end LinkQuality
