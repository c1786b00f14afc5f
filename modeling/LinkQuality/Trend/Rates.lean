import LinkQuality.Scalar
import LinkQuality.Telemetry.Sample

/-!
# Packet rates

Packets per second, read off the counters of successive samples and smoothed: a rate keeps a part
of its old value that decays exponentially with the time between two samples. A sample that does
not continue the one before it starts the rates over from zero.

## Main definitions

* `Trend.Rates`: packets per second
* `Trend.Meter`: the rates and the sample they were read off last
* `Meter.update`: taking in a sample
-/

namespace LinkQuality.Trend

/-- Packets per second. -/
structure Rates (α : Type) where
  txSuccess : α
  txRetries : α
  txBad : α
  rxSuccess : α
  deriving Repr

/-- How many packets there were in an interval. -/
structure PacketCounts where
  txSuccess : Nat
  txRetries : Nat
  txBad : Nat
  rxSuccess : Nat
  deriving DecidableEq, Repr

/-- The packets between earlier counters and later ones, unless a counter went backwards. -/
def PacketCounts.between? (earlier later : Counters) : Option PacketCounts :=
  if earlier.txSuccess ≤ later.txSuccess ∧ earlier.txRetries ≤ later.txRetries ∧
      earlier.txBad ≤ later.txBad ∧ earlier.rxSuccess ≤ later.rxSuccess then
    some
      { txSuccess := later.txSuccess - earlier.txSuccess
        txRetries := later.txRetries - earlier.txRetries
        txBad := later.txBad - earlier.txBad
        rxSuccess := later.rxSuccess - earlier.rxSuccess }
  else none

/-- The rates, and time and counters of the last sample. -/
structure Meter (α : Type) where
  rates : Rates α
  last? : Option (Nat × Counters)
  deriving Repr

namespace Rates

variable {α : Type} [Scalar α]

/-- No packets. -/
def zero : Rates α := ⟨0, 0, 0, 0⟩

/-- The share of attempts to transmit that succeed, if there are any attempts. -/
def successProbability? (rates : Rates α) : Option α :=
  let attempts := rates.txSuccess + rates.txBad + rates.txRetries
  if 0 < attempts then some (rates.txSuccess / attempts) else none

/-- A rate after an interval with some packets: a part of the old rate is kept, the rest is the
rate of the interval. -/
def blend (kept elapsedMs rate : α) (count : Nat) : α :=
  rate * kept + (1 - kept) * Scalar.ofNat count * 1000 / elapsedMs

/-- The rates after an interval. -/
def decay (rates : Rates α) (kept elapsedMs : α) (counts : PacketCounts) : Rates α where
  txSuccess := blend kept elapsedMs rates.txSuccess counts.txSuccess
  txRetries := blend kept elapsedMs rates.txRetries counts.txRetries
  txBad := blend kept elapsedMs rates.txBad counts.txBad
  rxSuccess := blend kept elapsedMs rates.rxSuccess counts.rxSuccess

end Rates

namespace Meter

variable {α : Type} [Scalar α]

/-- The meter before any sample. -/
def blank : Meter α := ⟨.zero, none⟩

/-- The part of a rate that is kept over an interval. -/
def kept [Exponential α] (timeConstantMs elapsedMs : α) : α :=
  Exponential.exp (-elapsedMs / timeConstantMs)

/-- The time and the packets between the last sample and another one that continues it. -/
def interval? (meter : Meter α) (sample : Sample) : Option (Nat × PacketCounts) :=
  meter.last?.bind fun (thenMs, earlier) =>
    -- At the same time there is no interval to divide by.
    if thenMs < sample.timestampMs then
      (PacketCounts.between? earlier sample.counters).map (sample.timestampMs - thenMs, ·)
    else none

/-- Takes in a sample. -/
def update [Exponential α] (timeConstantMs : α) (meter : Meter α) (sample : Sample) : Meter α where
  rates := match meter.interval? sample with
    | none => .zero
    | some (elapsedMs, counts) =>
      let elapsedMs := Scalar.ofNat elapsedMs
      meter.rates.decay (kept timeConstantMs elapsedMs) elapsedMs counts
  last? := some (sample.timestampMs, sample.counters)

end Meter

end LinkQuality.Trend
