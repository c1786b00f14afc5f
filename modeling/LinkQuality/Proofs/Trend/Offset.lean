import LinkQuality.Proofs.Offset
import LinkQuality.Proofs.Trend.Observe

/-!
# Offsets and the trend

Scoring by trend remembers the time and counters of the last sample, the time of the last reading,
and when the score fell and when was probed last. An offset moves those and nothing else: the filter
is only told how many seconds have passed, and the packet rates are read off differences. So a call
that is moved gives the same verdict, and leads to the moved memory.

## Main definitions

* `Offset.onMeter`, `Offset.onBoundary`, `Offset.onTrendMemory`: what is remembered after moved
  calls

## Main results

* `Offset.update_onMeter`: the packet rates
* `Offset.observe_onTrendMemory`: taking in a sample
* `Offset.bar_onProbe`: the bar for the next probe
* `Offset.verdict_onTrendMemory`, `Offset.step_onTrendMemory`: the verdict on a sample, and the
  answer to a call
-/

namespace LinkQuality

open Trend (Boundary Meter PacketCounts Probe Signs)

namespace Offset

variable {α : Type} (offset : Offset)

/-- A meter whose last sample was moved. -/
def onMeter (meter : Meter α) : Meter α :=
  { meter with
    last? := meter.last?.map fun (timestampMs, counters) =>
      (timestampMs + offset.timestampMs, offset.onCounters counters) }

/-- A probe by a later clock. -/
def onProbe (probe : Probe) : Probe := { probe with timeMs := probe.timeMs + offset.nowMs }

/-- What the rules at the transition remember by a later clock. -/
def onBoundary (boundary : Boundary) : Boundary where
  lastFallMs := offset.onTime boundary.lastFallMs
  lastProbe := boundary.lastProbe.map offset.onProbe

/-- What is remembered after moved calls. -/
def onTrendMemory (memory : TrendScorer.Memory α) : TrendScorer.Memory α :=
  { memory with
    meter := offset.onMeter memory.meter
    boundary := offset.onBoundary memory.boundary
    lastReadingMs := memory.lastReadingMs.map (· + offset.timestampMs) }

section Fields

variable (memory : TrendScorer.Memory α)

@[simp] theorem filter_onTrendMemory : (offset.onTrendMemory memory).filter = memory.filter := rfl

@[simp] theorem boundary_onTrendMemory :
    (offset.onTrendMemory memory).boundary = offset.onBoundary memory.boundary := rfl

@[simp] theorem score_onTrendMemory : (offset.onTrendMemory memory).score = memory.score := rfl

end Fields

/-! ### Packet rates -/

@[simp] theorem between?_onCounters (earlier later : Counters) :
    PacketCounts.between? (offset.onCounters earlier) (offset.onCounters later) =
      PacketCounts.between? earlier later := by
  simp only [PacketCounts.between?, onCounters, Nat.add_le_add_iff_right, Nat.add_sub_add_right]

/-- The time and the packets since the last sample are differences. -/
theorem interval?_onMeter (meter : Meter α) (sample : Sample) :
    (offset.onMeter meter).interval? (offset.onSample sample) = meter.interval? sample := by
  unfold Meter.interval? onMeter
  cases meter.last? with
  | none => rfl
  | some last =>
    simp only [Option.map_some, Option.bind_some, onSample, between?_onCounters,
      Nat.add_lt_add_iff_right, Nat.add_sub_add_right]

theorem update_onMeter [Scalar α] [Exponential α] (timeConstantMs : α) (meter : Meter α)
    (sample : Sample) :
    (offset.onMeter meter).update timeConstantMs (offset.onSample sample) =
      offset.onMeter (meter.update timeConstantMs sample) := by
  unfold Meter.update
  rw [interval?_onMeter]
  rfl

/-! ### Rules at the transition -/

section Boundary

variable (rules : Settings.Trend α) (boundary : Boundary) (nowMs : Nat)

theorem isHeld_onBoundary :
    (offset.onBoundary boundary).isHeld rules (nowMs + offset.nowMs) =
      boundary.isHeld rules nowMs := by
  simp only [Boundary.isHeld, onBoundary, onTime, Option.any_map, Nat.add_sub_add_right]

theorem settle_onBoundary [Scalar α] (signs : Signs α) (transition score : Int) :
    (offset.onBoundary boundary).settle rules signs (nowMs + offset.nowMs) transition score =
      boundary.settle rules signs nowMs transition score := by
  simp only [Boundary.settle, isHeld_onBoundary]

theorem recordFall_onBoundary (previous settled transition : Int) :
    (offset.onBoundary boundary).recordFall previous settled transition (nowMs + offset.nowMs) =
      offset.onBoundary (boundary.recordFall previous settled transition nowMs) := by
  unfold Boundary.recordFall
  rw [apply_ite offset.onBoundary]
  rfl

variable [Scalar α] [Exponential α]

theorem bar_onProbe (lastProbe : Option Probe) (transition : Int) :
    Boundary.bar rules (lastProbe.map offset.onProbe) (nowMs + offset.nowMs) transition =
      Boundary.bar rules lastProbe nowMs transition := by
  cases lastProbe with
  | none => rfl
  | some probe => simp only [Boundary.bar, Option.map_some, onProbe, Nat.add_sub_add_right]

theorem wantsProbe_onBoundary (transition score : Int) :
    (offset.onBoundary boundary).wantsProbe rules (nowMs + offset.nowMs) transition score =
      boundary.wantsProbe rules nowMs transition score := by
  simp only [Boundary.wantsProbe, onBoundary, bar_onProbe]

theorem probe_onBoundary (transition score : Int) :
    (offset.onBoundary boundary).probe rules (nowMs + offset.nowMs) transition score =
      offset.onBoundary (boundary.probe rules nowMs transition score) := by
  unfold Boundary.probe
  rw [wantsProbe_onBoundary, apply_ite offset.onBoundary]
  rfl

end Boundary

/-! ### Taking in a sample -/

theorem attend_onTrendMemory (memory : TrendScorer.Memory α) (point : AccessPoint) :
    TrendScorer.attend (offset.onTrendMemory memory) point =
      offset.onTrendMemory (TrendScorer.attend memory point) := by
  unfold TrendScorer.attend
  rw [apply_ite offset.onTrendMemory]
  rfl

variable [Scalar α] (scorer : TrendScorer α)

/-- The filter is told only how long ago the last reading was taken. -/
theorem filterAfter_onTrendMemory (memory : TrendScorer.Memory α) (rssi : Int)
    (timestampMs : Nat) :
    scorer.filterAfter (offset.onTrendMemory memory) rssi (timestampMs + offset.timestampMs) =
      scorer.filterAfter memory rssi timestampMs := by
  unfold TrendScorer.filterAfter onTrendMemory
  cases memory.lastReadingMs with
  | none => rfl
  | some lastMs =>
    simp only [Option.map_some, Nat.add_le_add_iff_right, Nat.add_sub_add_right]

/-- The exit level shifts by signal and rates, which no offset moves. -/
theorem shift_onTrendMemory (memory : TrendScorer.Memory α) :
    scorer.shift (offset.onTrendMemory memory) = offset.onTrendMemory (scorer.shift memory) := by
  unfold TrendScorer.shift
  rw [apply_ite offset.onTrendMemory]
  rfl

variable [Exponential α]

theorem count_onTrendMemory (memory : TrendScorer.Memory α) (sample : Sample) :
    scorer.count (offset.onTrendMemory memory) (offset.onSample sample) =
      offset.onTrendMemory (scorer.count memory sample) := by
  unfold TrendScorer.count
  rw [accessPoint_onSample, attend_onTrendMemory]
  simp only [onTrendMemory, update_onMeter]

theorem read_onTrendMemory (memory : TrendScorer.Memory α) (sample : Sample) (rssi : Int) :
    scorer.read (offset.onTrendMemory memory) (offset.onSample sample) rssi =
      offset.onTrendMemory (scorer.read memory sample rssi) := by
  have sameFilter :=
    offset.filterAfter_onTrendMemory scorer (scorer.count memory sample) rssi sample.timestampMs
  unfold TrendScorer.read
  rw [count_onTrendMemory, ← sameFilter]
  rfl

/-- A moved sample is taken in by a moved memory as the sample is by the memory. -/
theorem observe_onTrendMemory (memory : TrendScorer.Memory α) (sample : Sample) :
    scorer.observe (offset.onTrendMemory memory) (offset.onSample sample) =
      offset.onTrendMemory (scorer.observe memory sample) := by
  cases reading : sample.rssi? with
  | none =>
    rw [TrendScorer.observe_of_no_reading reading, TrendScorer.observe_of_no_reading,
      count_onTrendMemory]
    exact reading
  | some rssi =>
    rw [TrendScorer.observe_of_reading reading, TrendScorer.observe_of_reading,
      read_onTrendMemory, shift_onTrendMemory]
    exact reading

/-! ### Calls -/

theorem verdict_onTrendMemory (memory : TrendScorer.Memory α) (sample : Sample) (nowMs : Nat)
    (isPrimary : Bool) :
    scorer.verdict (offset.onTrendMemory memory) (offset.onSample sample) (nowMs + offset.nowMs)
        isPrimary =
      (offset.onTrendMemory (scorer.verdict memory sample nowMs isPrimary).1,
        (scorer.verdict memory sample nowMs isPrimary).2) := by
  simp only [TrendScorer.verdict, observe_onTrendMemory]
  generalize scorer.observe memory sample = observed
  -- A score and what is seen of a link come from the filter, the rates and the score before.
  have sameRawScore :
      scorer.rawScore (offset.onTrendMemory observed) = scorer.rawScore observed := rfl
  have sameSigns : scorer.signs (offset.onTrendMemory observed) (offset.onSample sample) =
      scorer.signs observed sample := rfl
  simp only [sameRawScore, sameSigns, filter_onTrendMemory, boundary_onTrendMemory,
    score_onTrendMemory, settle_onBoundary, recordFall_onBoundary, wantsProbe_onBoundary,
    probe_onBoundary]
  split <;> rfl

theorem step_onTrendMemory (memory : TrendScorer.Memory α) (call : Call) :
    scorer.step (offset.onTrendMemory memory) (offset.onCall call) =
      (offset.onTrendMemory (scorer.step memory call).1, (scorer.step memory call).2) := by
  cases call with
  | score sample nowMs isPrimary =>
    simp only [TrendScorer.step, onCall, verdict_onTrendMemory]
  | reset => rfl

end Offset

end LinkQuality
