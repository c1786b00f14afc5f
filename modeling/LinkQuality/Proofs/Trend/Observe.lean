import Mathlib.Data.Int.Notation
import Mathlib.Data.Nat.Notation
import Mathlib.Tactic.SplitIfs
import LinkQuality.Trend.Scorer

/-!
# Taking in a sample

A sample is taken in by one part of the memory after the other: its access point becomes the present
one, the packet rates are read off, a reading goes through the filter, and then the exit level may
shift. This module says once what each part does and what it leaves alone.

## Main definitions

* `TrendScorer.read`: the memory after a reading, before the exit level may shift

## Main results

* `TrendScorer.observe_of_reading`, `TrendScorer.observe_of_no_reading`: the two ways to take in a
  sample
* `TrendScorer.score_observe`, `TrendScorer.meter_observe`, `TrendScorer.hasStarted_observe`: what a
  sample does to the parts of a memory
* `TrendScorer.verdict_of_hasStarted`: the verdict once the filter has started
-/

namespace LinkQuality

variable {α : Type}

theorem Trend.Filter.hasStarted_update [Scalar α] (noise : Trend.Noise α) (reading seconds : α)
    (filter : Trend.Filter α) : (filter.update noise reading seconds).hasStarted = true := by
  unfold update
  split_ifs with started
  · exact started
  · rfl

namespace TrendScorer

variable {memory : Memory α}

/-! ### Parts that are left alone -/

section Attend

variable {point : AccessPoint}

@[simp] theorem filter_attend : (attend memory point).filter = memory.filter := by
  unfold attend
  split_ifs <;> rfl

@[simp] theorem meter_attend : (attend memory point).meter = memory.meter := by
  unfold attend
  split_ifs <;> rfl

@[simp] theorem boundary_attend : (attend memory point).boundary = memory.boundary := by
  unfold attend
  split_ifs <;> rfl

@[simp] theorem shiftDb_attend : (attend memory point).shiftDb = memory.shiftDb := by
  unfold attend
  split_ifs <;> rfl

@[simp] theorem score_attend : (attend memory point).score = memory.score := by
  unfold attend
  split_ifs <;> rfl

end Attend

variable [Scalar α] {scorer : TrendScorer α} {sample : Sample} {nowMs : ℕ} {isPrimary : Bool}

/-- The exit level stays, or it may shift and does so by a step. -/
theorem shift_cases (scorer : TrendScorer α) (memory : Memory α) :
    scorer.shift memory = memory ∨ scorer.mayShift memory = true ∧
      scorer.shift memory =
        { memory with shiftDb := memory.shiftDb - scorer.settings.shiftStepDb } := by
  unfold shift
  split_ifs with may
  · exact .inr ⟨may, rfl⟩
  · exact .inl rfl

/-- The exit level shifts only less than two decibels below the signal, and only while the link
works. -/
theorem of_mayShift (may : scorer.mayShift memory = true) :
    ¬ scorer.exitLevel memory + 2 ≤ memory.filter.value ∧ scorer.isWorking memory = true := by
  simp only [mayShift, Bool.and_eq_true, Bool.not_eq_true', decide_eq_false_iff_not] at may
  exact ⟨may.1.1.2, may.2⟩

@[simp] theorem filter_shift : (scorer.shift memory).filter = memory.filter := by
  unfold shift
  split_ifs <;> rfl

@[simp] theorem meter_shift : (scorer.shift memory).meter = memory.meter := by
  unfold shift
  split_ifs <;> rfl

@[simp] theorem boundary_shift : (scorer.shift memory).boundary = memory.boundary := by
  unfold shift
  split_ifs <;> rfl

@[simp] theorem score_shift : (scorer.shift memory).score = memory.score := by
  unfold shift
  split_ifs <;> rfl

/-! ### Samples with and without a reading -/

variable [Exponential α]

/-- The memory after the packets of a sample have been counted. -/
def count (scorer : TrendScorer α) (memory : Memory α) (sample : Sample) : Memory α :=
  { attend memory sample.accessPoint with
    meter := (attend memory sample.accessPoint).meter.update scorer.timeConstantMs sample }

/-- The memory after a reading, before the exit level may shift. -/
def read (scorer : TrendScorer α) (memory : Memory α) (sample : Sample) (rssi : ℤ) : Memory α :=
  { scorer.count memory sample with
    filter := scorer.filterAfter (scorer.count memory sample) rssi sample.timestampMs
    lastReadingMs := some sample.timestampMs }

theorem observe_of_no_reading (noReading : sample.rssi? = none) :
    scorer.observe memory sample = scorer.count memory sample := by
  unfold observe
  rw [noReading]
  rfl

theorem observe_of_reading {rssi : ℤ} (reading : sample.rssi? = some rssi) :
    scorer.observe memory sample = scorer.shift (scorer.read memory sample rssi) := by
  unfold observe
  rw [reading]
  rfl

/-- Taking in a sample changes neither the settled score nor what the rules at the transition
remember. -/
theorem score_observe (scorer : TrendScorer α) (memory : Memory α) (sample : Sample) :
    (scorer.observe memory sample).score = memory.score ∧
      (scorer.observe memory sample).boundary = memory.boundary := by
  cases reading : sample.rssi? with
  | none => simp [observe_of_no_reading reading, count]
  | some rssi => simp [observe_of_reading reading, read, count]

/-- The packets of a sample are counted whether it has a reading or not. -/
theorem meter_observe (scorer : TrendScorer α) (memory : Memory α) (sample : Sample) :
    (scorer.observe memory sample).meter = memory.meter.update scorer.timeConstantMs sample := by
  cases reading : sample.rssi? with
  | none => simp [observe_of_no_reading reading, count]
  | some rssi => simp [observe_of_reading reading, read, count]

omit [Exponential α] in
theorem hasStarted_filterAfter (rssi : ℤ) (timestampMs : ℕ) :
    (scorer.filterAfter memory rssi timestampMs).hasStarted = true := by
  unfold filterAfter
  cases memory.lastReadingMs with
  | none => rfl
  | some lastMs =>
    dsimp only
    split_ifs
    · exact Trend.Filter.hasStarted_update _ _ _ _
    · rfl

/-- The filter has started after a sample if it had before or if the sample has a reading. -/
theorem hasStarted_observe (scorer : TrendScorer α) (memory : Memory α) (sample : Sample) :
    (scorer.observe memory sample).filter.hasStarted =
      (sample.rssi?.isSome || memory.filter.hasStarted) := by
  cases reading : sample.rssi? with
  | none => simp [observe_of_no_reading reading, count]
  | some rssi => simp [observe_of_reading reading, read, hasStarted_filterAfter]

/-! ### Verdicts -/

theorem meter_verdict :
    (scorer.verdict memory sample nowMs isPrimary).1.meter =
      memory.meter.update scorer.timeConstantMs sample := by
  rw [← meter_observe]
  dsimp only [verdict]
  split_ifs <;> rfl

/-- Once the filter has started, a verdict scores what was observed, and remembers it. -/
theorem verdict_of_hasStarted (nowMs : ℕ) (isPrimary : Bool)
    (started : (scorer.observe memory sample).filter.hasStarted = true) :
    ∃ boundary score,
      (scorer.verdict memory sample nowMs isPrimary).1 =
        { scorer.observe memory sample with boundary, score } ∧
      (scorer.verdict memory sample nowMs isPrimary).2.score =
        scorer.rawScore (scorer.observe memory sample) := by
  dsimp only [verdict]
  rw [if_pos started]
  exact ⟨_, _, rfl, rfl⟩

end TrendScorer

end LinkQuality
