import LinkQuality.Interval
import LinkQuality.Proofs.Exact
import LinkQuality.Simulation.Station

/-!
# Totals of a simulated station

Each total of a station grows by an amount of its own with every step: by what a link in the given
conditions carries in that time. Whatever the conditions are, the amount is not negative, as rates
and ratios are brought within bounds first. And the channel is busy for a part of the time only for
which the radio is on it.

A counter shows the whole part of its total, or the largest count if there is more. So it goes where
its total goes, and never backwards.

## Main definitions

* `Tally`: the twelve counters
* `Conditions.exact`: conditions that are given by numbers
* `Tally.total`, `Tally.growth`: the total behind a counter, and what a step adds to it
* `Tally.shown`: the counter that shows a total

## Main results

* `Tally.total_grow`: a step adds the growth to each total
* `Tally.growth_nonneg`, `Tally.growth_busy_le`: totals do not shrink, and one is bounded by another
* `Tally.count_counters`, `Tally.shown_mono`: what counters show
-/

namespace LinkQuality

/-! ### Counters -/

/-- The name of a counter. -/
inductive Tally where
  | txSuccess
  | txRetries
  | txBad
  | rxSuccess
  | beaconRx
  | radioOn
  | radioTx
  | radioRx
  | scan
  | roamScan
  | radioOnChannel
  | busyOnChannel
  deriving DecidableEq, Repr

namespace Tally

/-- The counter with a name. -/
def count : Tally → Counters → ℕ
  | txSuccess, counters => counters.txSuccess
  | txRetries, counters => counters.txRetries
  | txBad, counters => counters.txBad
  | rxSuccess, counters => counters.rxSuccess
  | beaconRx, counters => counters.beaconRx
  | radioOn, counters => counters.radioOnMs
  | radioTx, counters => counters.radioTxMs
  | radioRx, counters => counters.radioRxMs
  | scan, counters => counters.scanMs
  | roamScan, counters => counters.roamScanMs
  | radioOnChannel, counters => counters.radioOnChannelMs
  | busyOnChannel, counters => counters.busyOnChannelMs

/-- The increase of the counter with a name. -/
def increase {α : Type} : Tally → Increases α → α
  | txSuccess, increases => increases.txSuccess
  | txRetries, increases => increases.txRetries
  | txBad, increases => increases.txBad
  | rxSuccess, increases => increases.rxSuccess
  | beaconRx, increases => increases.beaconRx
  | radioOn, increases => increases.radioOn
  | radioTx, increases => increases.radioTx
  | radioRx, increases => increases.radioRx
  | scan, increases => increases.scan
  | roamScan, increases => increases.roamScan
  | radioOnChannel, increases => increases.radioOnChannel
  | busyOnChannel, increases => increases.busyOnChannel

theorem increase_between {α : Type} [Scalar α] [Undefined α] (tally : Tally)
    (earlier later : Counters) :
    tally.increase (Increases.between earlier later : Increases α) =
      Increases.ofCounter (tally.count earlier) (tally.count later) := by
  cases tally <;> rfl

end Tally

/-! ### Growth -/

variable {K : Type} [Field K]

namespace Simulation.Conditions

/-- Conditions that are given by numbers. -/
def exact (conditions : Conditions K) : Conditions (Exact K) where
  rssiDbm := conditions.rssiDbm
  txRate := .number conditions.txRate
  rxRate := .number conditions.rxRate
  failureRatio := .number conditions.failureRatio
  retryRatio := .number conditions.retryRatio
  speedMbps := conditions.speedMbps
  busyRatio := .number conditions.busyRatio

/-- The time on air of a frame of twelve thousand bits, in milliseconds. -/
def frameMs (conditions : Conditions K) : K :=
  if 0 < conditions.speedMbps then 12 / conditions.speedMbps else 0

variable [LinearOrder K]

/-- The successful transmissions of a step. -/
def sent (step : Duration) (conditions : Conditions K) : K :=
  max conditions.txRate 0 * step.inSeconds

/-- The successful receptions of a step. -/
def received (step : Duration) (conditions : Conditions K) : K :=
  max conditions.rxRate 0 * step.inSeconds

/-- The share of attempts that fail. -/
def failure (conditions : Conditions K) : K := max 0 (min 0.99 conditions.failureRatio)

/-- The failed transmissions of a step. -/
def failed (step : Duration) (conditions : Conditions K) : K :=
  conditions.sent step * conditions.failure / (1 - conditions.failure)

/-- The retries of a step. -/
def retried (step : Duration) (conditions : Conditions K) : K :=
  conditions.sent step * max conditions.retryRatio 0

/-- The share of the time on the channel in which it is busy. -/
def busyShare (conditions : Conditions K) : K := max 0 (min 1 conditions.busyRatio)

theorem failure_nonneg (conditions : Conditions K) : 0 ≤ conditions.failure := le_max_left _ _

variable [FloorRing K] (conditions : Conditions K) (step : Duration)

theorem sent_exact :
    Scalar.greater conditions.exact.txRate 0 * step.seconds = .number (conditions.sent step) := by
  rw [exact, Exact.greater_zero, Exact.seconds_eq, Exact.number_mul, sent]

theorem received_exact :
    Scalar.greater conditions.exact.rxRate 0 * step.seconds =
      .number (conditions.received step) := by
  rw [exact, Exact.greater_zero, Exact.seconds_eq, Exact.number_mul, received]

theorem retried_exact :
    Exact.number (conditions.sent step) * Scalar.greater conditions.exact.retryRatio 0 =
      .number (conditions.retried step) := by
  rw [exact, Exact.greater_zero, Exact.number_mul, retried]

theorem busyShare_exact :
    Scalar.clamp 0 1 conditions.exact.busyRatio = .number conditions.busyShare := by
  rw [exact, Exact.zero_eq, Exact.one_eq, Exact.clamp_number zero_le_one, busyShare]

/-- Without a link speed no time on air is computed, so there is nothing to divide by. -/
theorem airtimeMs_exact : conditions.exact.airtimeMs = .number conditions.frameMs := by
  rw [airtimeMs, frameMs, exact]
  split_ifs with known
  · have speed : (conditions.speedMbps : K) ≠ 0 := Int.cast_ne_zero.mpr known.ne'
    have divisor : (conditions.speedMbps : K) * 1000 ≠ 0 := mul_ne_zero speed (by norm_num)
    have thousands : (12000 : K) / (conditions.speedMbps * 1000) = 12 / conditions.speedMbps := by
      field_simp
      norm_num
    rw [Exact.ofNat_eq 12000, Exact.ofNat_eq 1000, Exact.ofInt_eq, Exact.number_mul,
      Exact.number_div divisor, thousands]
  · exact Exact.zero_eq

variable [IsStrictOrderedRing K]

theorem failure_exact :
    Scalar.clamp 0 0.99 conditions.exact.failureRatio = .number conditions.failure := by
  rw [exact, Exact.zero_eq, Exact.ofScientific_eq, Exact.clamp_number (by norm_num), failure]

omit [FloorRing K] in
/-- Some attempts succeed in any conditions. -/
theorem failure_lt_one : conditions.failure < 1 := by
  have below : (0.99 : K) < 1 := by norm_num
  exact max_lt zero_lt_one ((min_le_left _ _).trans_lt below)

theorem failed_exact :
    Exact.number (conditions.sent step) * .number conditions.failure /
        (1 - .number conditions.failure) = .number (conditions.failed step) := by
  have successes : 1 - conditions.failure ≠ 0 := (sub_pos.mpr conditions.failure_lt_one).ne'
  rw [Exact.one_eq, Exact.number_mul, Exact.number_sub, Exact.number_div successes, failed]

end Simulation.Conditions

namespace Tally

open Simulation

/-- The total behind a counter. -/
def total {α : Type} [Scalar α] : Tally → Totals α → α
  | txSuccess, totals => totals.txSuccess
  | txRetries, totals => totals.txRetries
  | txBad, totals => totals.txBad
  | rxSuccess, totals => totals.rxSuccess
  | beaconRx, totals => totals.beaconRx
  | radioOn, totals => totals.radioOnMs
  | radioTx, totals => totals.radioTxMs
  | radioRx, totals => totals.radioRxMs
  | scan, _ => 0
  | roamScan, _ => 0
  | radioOnChannel, totals => totals.radioOnMs
  | busyOnChannel, totals => totals.busyMs

variable [LinearOrder K]

/-- What a step in given conditions adds to the total behind a counter. -/
def growth (step : Duration) (conditions : Conditions K) : Tally → K
  | txSuccess => conditions.sent step
  | txRetries => conditions.retried step
  | txBad => conditions.failed step
  | rxSuccess => conditions.received step
  | beaconRx => step.millis / 102.4
  | radioOn => step.millis * 0.95
  | radioTx =>
    (conditions.sent step + conditions.failed step + conditions.retried step) * conditions.frameMs
  | radioRx => conditions.received step * conditions.frameMs
  | scan => 0
  | roamScan => 0
  | radioOnChannel => step.millis * 0.95
  | busyOnChannel => step.millis * 0.95 * conditions.busyShare

/-- The counter that shows a total: its whole part, unless there is no counter for that many. -/
def shown [FloorRing K] (total : K) : ℕ := min ⌊total⌋₊ (2 ^ 64 - 1)

end Tally

/-- What each total of a station is after a step. -/
theorem Simulation.Totals.grow_exact [LinearOrder K] [FloorRing K] [IsStrictOrderedRing K]
    (step : Duration) (conditions : Simulation.Conditions K)
    (totals : Simulation.Totals (Exact K)) :
    totals.grow step conditions.exact =
      { txSuccess := totals.txSuccess + .number (Tally.txSuccess.growth step conditions)
        txRetries := totals.txRetries + .number (Tally.txRetries.growth step conditions)
        txBad := totals.txBad + .number (Tally.txBad.growth step conditions)
        rxSuccess := totals.rxSuccess + .number (Tally.rxSuccess.growth step conditions)
        beaconRx := totals.beaconRx + .number (Tally.beaconRx.growth step conditions)
        radioOnMs := totals.radioOnMs + .number (Tally.radioOn.growth step conditions)
        radioTxMs := totals.radioTxMs + .number (Tally.radioTx.growth step conditions)
        radioRxMs := totals.radioRxMs + .number (Tally.radioRx.growth step conditions)
        busyMs := totals.busyMs + .number (Tally.busyOnChannel.growth step conditions) } := by
  have interval : (102.4 : K) ≠ 0 := by norm_num
  dsimp only [Totals.grow, Totals.beaconIntervalMs]
  rw [conditions.sent_exact, conditions.received_exact, conditions.failure_exact,
    conditions.failed_exact, conditions.retried_exact, conditions.airtimeMs_exact,
    conditions.busyShare_exact]
  simp only [Exact.scalarOfNat_eq, Exact.ofScientific_eq, Exact.number_div interval,
    Exact.number_mul, Exact.number_add]
  rfl

namespace Tally

open Simulation

variable [LinearOrder K] (step : Duration) (conditions : Conditions K) (tally : Tally)

/-- A step adds the growth to the total behind each counter. -/
theorem total_grow [FloorRing K] [IsStrictOrderedRing K] (totals : Totals (Exact K)) :
    tally.total (totals.grow step conditions.exact) =
      tally.total totals + .number (tally.growth step conditions) := by
  rw [Totals.grow_exact]
  cases tally with
  | scan => simp [total, growth]
  | roamScan => simp [total, growth]
  | _ => rfl

variable [IsStrictOrderedRing K]

theorem growth_nonneg : 0 ≤ tally.growth step conditions := by
  have seconds : (0 : K) ≤ step.inSeconds := by
    unfold Duration.inSeconds
    positivity
  have sent : 0 ≤ conditions.sent step := mul_nonneg (le_max_right _ _) seconds
  have received : 0 ≤ conditions.received step := mul_nonneg (le_max_right _ _) seconds
  have failed : 0 ≤ conditions.failed step :=
    div_nonneg (mul_nonneg sent conditions.failure_nonneg)
      (sub_pos.mpr conditions.failure_lt_one).le
  have retried : 0 ≤ conditions.retried step := mul_nonneg sent (le_max_right _ _)
  -- Without a link speed a frame takes no time.
  have frame : 0 ≤ conditions.frameMs := by
    unfold Conditions.frameMs
    split_ifs with known
    · have speed : (0 : K) < conditions.speedMbps := Int.cast_pos.mpr known
      positivity
    · exact le_rfl
  have busy : 0 ≤ conditions.busyShare := le_max_left _ _
  cases tally <;> dsimp only [growth] <;> positivity

/-- The channel is not busy for longer than the radio is on it. -/
theorem growth_busy_le :
    busyOnChannel.growth step conditions ≤ radioOnChannel.growth step conditions := by
  have share : conditions.busyShare ≤ 1 := max_le zero_le_one (min_le_left _ _)
  exact mul_le_of_le_one_right (by positivity) share

/-! ### What counters show -/

variable [FloorRing K]

theorem shown_mono {earlier later : K} (le : earlier ≤ later) :
    shown earlier ≤ shown later :=
  min_le_min_right _ (Nat.floor_mono le)

theorem count_counters {totals : Totals (Exact K)} {x : K}
    (isNumber : tally.total totals = .number x) (nonneg : 0 ≤ x) :
    tally.count totals.counters = shown x := by
  have noScan : Scalar.toCount (0 : Exact K) = 0 := Exact.toCount_ofNat 0
  have same : tally.count totals.counters = Scalar.toCount (tally.total totals) := by
    cases tally with
    | scan => exact noScan.symm
    | roamScan => exact noScan.symm
    | _ => rfl
  rw [same, isNumber, Exact.toCount_number nonneg, shown]

end Tally

end LinkQuality
