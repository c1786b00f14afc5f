import LinkQuality.Proofs.Trend.Averages
import Mathlib.Tactic.LinearCombination

/-!
# Rates and how often a link is polled

A link is polled when its poller gets to it, and a rate should tell of the link and not of the
poller. On a link at a steady pace it does: samples in between, however many and however spread,
leave the same rates as the last sample would have left alone.

Two things make it so. An interval moves each rate towards the speed of the interval, and on such a
link all speeds are the same, also those of intervals that are put together. And what is kept of a
rate over two intervals is the product of what is kept over each, if decay has no memory. Neither is
asked of the rates themselves, nor of the time constant.

## Main definitions

* `Trend.Paced`: whether a sample continues another one at a given pace

## Main results

* `Trend.Paced.trans`: intervals of a pace put together
* `Trend.Meter.kept_add`: what is kept over two intervals
* `Trend.Meter.update_update`: one sample in between
* `Trend.Meter.foldl_update_eq_update`: any samples in between
-/

namespace LinkQuality.Trend

/-! ### Intervals of a pace -/

section Pace

variable {K : Type} [Field K]

/-- Whether a sample continues an earlier one, and the packets of each kind have been counted at a
given speed since. -/
structure Paced (pace : Kind → K) (earlier later : Sample) : Prop extends
    Continues earlier later where
  speed_eq : ∀ kind : Kind, kind.speed earlier later = pace kind

variable [CharZero K] {pace : Kind → K} {earlier between later : Sample}

/-- How many packets a speed makes of the time between two samples. -/
theorem Kind.speed_eq_iff (kind : Kind) (continues : Continues earlier later) {speed : K} :
    kind.speed earlier later = speed ↔
      ((kind.counter later.counters : K) - kind.counter earlier.counters) * 1000 =
        speed * ((later.timestampMs : K) - earlier.timestampMs) := by
  have elapsed : (later.timestampMs : K) - earlier.timestampMs ≠ 0 :=
    sub_ne_zero.mpr (Nat.cast_injective.ne continues.timestampMs_lt.ne')
  rw [Kind.speed, Nat.cast_sub (continues.counter_le kind),
    Nat.cast_sub continues.timestampMs_lt.le, div_eq_iff elapsed]

theorem Continues.trans (first : Continues earlier between) (second : Continues between later) :
    Continues earlier later where
  timestampMs_lt := first.timestampMs_lt.trans second.timestampMs_lt
  counter_le kind := (first.counter_le kind).trans (second.counter_le kind)

/-- Two intervals of a pace make one. -/
theorem Paced.trans (first : Paced pace earlier between) (second : Paced pace between later) :
    Paced pace earlier later := by
  have continues := first.toContinues.trans second.toContinues
  refine ⟨continues, fun kind => ?_⟩
  have firstCount := (kind.speed_eq_iff first.toContinues).mp (first.speed_eq kind)
  have secondCount := (kind.speed_eq_iff second.toContinues).mp (second.speed_eq kind)
  rw [kind.speed_eq_iff continues]
  linear_combination firstCount + secondCount

instance (pace : Kind → K) : IsTrans Sample (Paced pace) := ⟨fun _ _ _ => Paced.trans⟩

/-- Samples of a pace lead from the first of them to the last at that pace. -/
theorem Paced.of_isChain {samples : List Sample}
    (paced : (earlier :: samples ++ [later]).IsChain (Paced pace)) : Paced pace earlier later := by
  have pairwise := List.isChain_iff_pairwise.mp paced
  exact (List.pairwise_cons.mp pairwise).1 later (by simp)

end Pace

/-! ### Two intervals and one -/

variable {K : Type} [Field K] [LinearOrder K] [FloorRing K]

/-- Whatever is kept of whatever a rate was, it is mixed with the speed of the interval. -/
theorem Rates.blend_eq {elapsedMs : K} (elapsed : elapsedMs ≠ 0) (kept rate : Exact K) (count : ℕ) :
    blend kept (.number elapsedMs) rate count =
      rate * kept + (1 - kept) * .number (count * 1000 / elapsedMs) := by
  cases kept with
  | undefined => simp [blend]
  | number kept =>
    cases rate with
    | undefined => simp [blend]
    | number rate => simpa using blend_number elapsed count

/-- A rate that is moved towards one speed twice is moved there as far as once, if as much is kept
of it as is kept of what has been kept. -/
theorem mix_mix (rate first second : Exact K) (speed : K) :
    (rate * first + (1 - first) * .number speed) * second + (1 - second) * .number speed =
      rate * (first * second) + (1 - first * second) * .number speed := by
  cases rate with
  | undefined => simp
  | number rate =>
    cases first with
    | undefined => simp
    | number first =>
      cases second with
      | undefined => simp
      | number second =>
        simp only [Exact.one_eq, Exact.number_sub, Exact.number_mul, Exact.number_add,
          Exact.number.injEq]
        ring

theorem Rates.ext_kind {α : Type} {first second : Rates α}
    (same : ∀ kind : Kind, kind.rate first = kind.rate second) : first = second := by
  obtain ⟨txSuccess, txRetries, txBad, rxSuccess⟩ := first
  rw [Rates.mk.injEq]
  exact ⟨same .txSuccess, same .txRetries, same .txBad, same .rxSuccess⟩

namespace Meter

variable [Exponential (Exact K)] {pace : Kind → K} {polled between later last : Sample}
  {rates : Rates (Exact K)} {samples : List Sample}

/-- What is kept over two intervals is kept of what is kept over the first. -/
theorem kept_add (memoryless : Exact.IsMemoryless K) (timeConstantMs : Exact K) (first second : ℕ) :
    kept timeConstantMs (Scalar.ofNat (first + second)) =
      kept timeConstantMs (Scalar.ofNat first) * kept timeConstantMs (Scalar.ofNat second) := by
  rw [kept, kept, kept, ← memoryless]
  simp only [Exact.scalarOfNat_eq, Exact.neg_number]
  rw [← Exact.number_add_div, Nat.cast_add, neg_add]

/-- A sample at the pace of a link moves each rate towards that pace. -/
theorem rate_update_of_paced (timeConstantMs : Exact K) (rates : Rates (Exact K))
    (paced : Paced pace polled later) (kind : Kind) :
    let meter : Meter (Exact K) := ⟨rates, some (polled.timestampMs, polled.counters)⟩
    let share := kept timeConstantMs (Scalar.ofNat (later.timestampMs - polled.timestampMs))
    kind.rate (meter.update timeConstantMs later).rates =
      kind.rate rates * share + (1 - share) * .number (pace kind) := by
  intro meter share
  have remembered : meter.last? = some (polled.timestampMs, polled.counters) := rfl
  obtain ⟨counts, interval, packets⟩ := interval?_of_continues remembered paced.toContinues
  have elapsed : ((later.timestampMs - polled.timestampMs : ℕ) : K) ≠ 0 :=
    Nat.cast_ne_zero.mpr (Nat.sub_ne_zero_of_lt paced.timestampMs_lt)
  dsimp only [update]
  rw [interval]
  dsimp only
  rw [kind.rate_decay, packets, Exact.scalarOfNat_eq, Rates.blend_eq elapsed, ← paced.speed_eq kind,
    ← Exact.scalarOfNat_eq]
  rfl

/-- A sample in between leaves no trace. -/
theorem update_update (memoryless : Exact.IsMemoryless K) (timeConstantMs : Exact K)
    (rates : Rates (Exact K)) (first : Paced pace polled between)
    (second : Paced pace between later) :
    let meter : Meter (Exact K) := ⟨rates, some (polled.timestampMs, polled.counters)⟩
    (meter.update timeConstantMs between).update timeConstantMs later =
      meter.update timeConstantMs later := by
  intro meter
  have elapsed : later.timestampMs - polled.timestampMs =
      (between.timestampMs - polled.timestampMs) + (later.timestampMs - between.timestampMs) := by
    have := first.timestampMs_lt
    have := second.timestampMs_lt
    omega
  have sameRates : ((meter.update timeConstantMs between).update timeConstantMs later).rates =
      (meter.update timeConstantMs later).rates := by
    refine Rates.ext_kind fun kind => ?_
    -- Both moves of a rate are towards the same pace, so they can be put together.
    have once := rate_update_of_paced timeConstantMs rates (first.trans second) kind
    have before := rate_update_of_paced timeConstantMs rates first kind
    have after := rate_update_of_paced timeConstantMs (meter.update timeConstantMs between).rates
      second kind
    dsimp only at once before after
    rw [once, elapsed, kept_add memoryless, ← mix_mix, ← before]
    exact after
  exact congrArg (Meter.mk · (some (later.timestampMs, later.counters))) sameRates

/-- Samples in between, however many, leave no trace. -/
theorem foldl_update (memoryless : Exact.IsMemoryless K) (timeConstantMs : Exact K)
    (rates : Rates (Exact K)) (paced : (polled :: samples ++ [last]).IsChain (Paced pace)) :
    let meter : Meter (Exact K) := ⟨rates, some (polled.timestampMs, polled.counters)⟩
    (samples ++ [last]).foldl (update timeConstantMs) meter = meter.update timeConstantMs last := by
  intro meter
  induction samples generalizing polled rates with
  | nil => rfl
  | cons between samples ih =>
    -- The samples after the first one lead on from the meter that it leaves.
    obtain ⟨first, rest⟩ := List.isChain_cons_cons.mp paced
    calc (between :: samples ++ [last]).foldl (update timeConstantMs) meter
        = (meter.update timeConstantMs between).update timeConstantMs last :=
          ih (meter.update timeConstantMs between).rates rest
      _ = meter.update timeConstantMs last :=
          update_update memoryless timeConstantMs rates first (Paced.of_isChain rest)

/-- On a link at a steady pace, any samples that are polled between two others leave no trace. The
meter is the one that the last sample leaves alone, and each of its rates is the old one moved
towards the pace, by what is not kept of it over the whole time. -/
theorem foldl_update_eq_update (memoryless : Exact.IsMemoryless K) (timeConstantMs : Exact K)
    (rates : Rates (Exact K)) (paced : (polled :: samples ++ [last]).IsChain (Paced pace)) :
    let meter : Meter (Exact K) := ⟨rates, some (polled.timestampMs, polled.counters)⟩
    let share := kept timeConstantMs (Scalar.ofNat (last.timestampMs - polled.timestampMs))
    (samples ++ [last]).foldl (update timeConstantMs) meter = meter.update timeConstantMs last ∧
      ∀ kind : Kind, kind.rate (meter.update timeConstantMs last).rates =
        kind.rate rates * share + (1 - share) * .number (pace kind) :=
  ⟨foldl_update memoryless timeConstantMs rates paced,
    rate_update_of_paced timeConstantMs rates (Paced.of_isChain paced)⟩

/-- A link with ten successes and four receptions a second is polled after one second, after half a
second more, and after three more. -/
theorem foldl_update_eq_update_irregular :
    let counted (timestampMs txSuccess rxSuccess : ℕ) : Sample :=
      { timestampMs, counters := { txSuccess, txRetries := 7, rxSuccess } }
    let pace : Kind → ℝ
      | .txSuccess => 10
      | .rxSuccess => 4
      | _ => 0
    let rates : Rates (Exact ℝ) := ⟨.number 3, .number 2, .number 1, .number 25⟩
    let meter : Meter (Exact ℝ) := ⟨rates, some (1000, (counted 1000 20 5).counters)⟩
    let share := kept (.number 3000 : Exact ℝ) (Scalar.ofNat (5500 - 1000))
    [counted 2000 30 9, counted 2500 35 11, counted 5500 65 23].foldl (update (.number 3000))
        meter = meter.update (.number 3000) (counted 5500 65 23) ∧
      ∀ kind : Kind, kind.rate (meter.update (.number 3000) (counted 5500 65 23)).rates =
        kind.rate rates * share + (1 - share) * .number (pace kind) := by
  intro counted pace rates meter share
  have paced : (counted 1000 20 5 :: [counted 2000 30 9, counted 2500 35 11] ++
      [counted 5500 65 23]).IsChain (Paced pace) := by
    simp only [List.cons_append, List.nil_append, List.isChain_cons_cons, List.isChain_singleton]
    refine ⟨⟨⟨by decide, ?_⟩, ?_⟩, ⟨⟨by decide, ?_⟩, ?_⟩, ⟨⟨by decide, ?_⟩, ?_⟩, trivial⟩ <;>
      rintro (_ | _ | _ | _) <;> norm_num [counted, pace, Kind.counter, Kind.speed]
  exact foldl_update_eq_update Exact.isMemoryless_real (.number 3000) rates paced

end Meter

end LinkQuality.Trend
