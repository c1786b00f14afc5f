import LinkQuality.Proofs.Trend.Covariance
import LinkQuality.Trend.Rates

/-!
# Filters at rest and idle rates

A filter that rests at a number stays there while time passes, and readings of that number tell it
nothing new: its innovation is zero, whatever weight the reading is given. What is needed is that
there is a weight, for which the variance of the prediction must not cancel that of the reading.

A rate of successes starts from zero, and an interval in which the counter of successes does not
advance leaves it there. Nothing is asked of the exponential function that rates decay with. Where
it gives no number all rates are lost, and then the rates do not show any successes either.

## Main definitions

* `Trend.Filter.RestsAt`: whether a filter rests at a number
* `Trend.Direction`: the two directions of traffic
* `Trend.Rates.IsIdle`: whether rates show no successes in a direction

## Main results

* `Trend.Filter.RestsAt.update`: a filter stays at rest
* `Trend.Rates.IsIdle.update`: rates stay idle
-/

namespace LinkQuality

variable {K : Type} [Field K] [LinearOrder K] [FloorRing K]

namespace Trend

/-! ### The filter at rest -/

/-- Whether variances are numbers that can be variances, and readings are not taken to be exact. -/
structure Noise.IsProper (noise : Noise (Exact K)) : Prop where
  reading : ∃ r, noise.reading = .number r ∧ 0 < r
  acceleration : ∃ q, noise.acceleration = .number q ∧ 0 ≤ q

namespace Filter

/-- Whether a filter rests at a number: that is its value, and its velocity is zero. -/
structure RestsAt (x : K) (filter : Filter (Exact K)) : Prop where
  hasStarted : filter.hasStarted = true
  value : filter.value = .number x
  velocity : filter.velocity = .number 0
  covariance : ∃ P, filter.HasCovariance P ∧ P.IsSound

variable [IsStrictOrderedRing K] {noise : Noise (Exact K)} {filter : Filter (Exact K)} {x : K}

theorem restsAt_start (proper : noise.IsProper) : (start noise (.number x)).RestsAt x := by
  obtain ⟨r, isNumber, r_pos⟩ := proper.reading
  refine ⟨rfl, rfl, Exact.zero_eq, ⟨9 * r, 0, 0⟩, ⟨?_, Exact.zero_eq, Exact.zero_eq⟩, ?_⟩
  · rw [start, isNumber, Exact.ofNat_eq 9, Exact.number_mul]
  · exact Covariance.isSound_of_value (by positivity)

/-- While no reading comes, a filter rests where it is. -/
theorem RestsAt.predict (rests : filter.RestsAt x) (proper : noise.IsProper) {seconds : K}
    (nonneg : 0 ≤ seconds) : (filter.predict noise (.number seconds)).RestsAt x := by
  obtain ⟨q, isNumber, q_nonneg⟩ := proper.acceleration
  obtain ⟨P, has, sound⟩ := rests.covariance
  refine ⟨rests.hasStarted, ?_, rests.velocity,
    P.predict q seconds, has.predict isNumber seconds, sound.predict q_nonneg nonneg⟩
  rw [Filter.predict, rests.value, rests.velocity, Exact.number_mul, Exact.number_add, zero_mul,
    add_zero]

/-- A reading of the value at which a filter rests tells it nothing new. -/
theorem RestsAt.correct (rests : filter.RestsAt x) (proper : noise.IsProper) :
    (filter.correct noise (.number x)).RestsAt x := by
  obtain ⟨r, isNumber, r_pos⟩ := proper.reading
  obtain ⟨P, has, sound⟩ := rests.covariance
  have total_pos := sound.total_pos r_pos
  refine ⟨rests.hasStarted, ?_, ?_,
    P.correct r, has.correct isNumber total_pos.ne' _, sound.correct r_pos⟩
  · simp [Filter.correct, rests.value, has.value, isNumber, Exact.number_div total_pos.ne']
  · simp [Filter.correct, rests.value, rests.velocity, has.value, has.cross, isNumber,
      Exact.number_div total_pos.ne']

/-- Readings of one value leave a filter that rests there at rest, whenever they come. -/
theorem RestsAt.update (rests : filter.RestsAt x) (proper : noise.IsProper) {seconds : K}
    (nonneg : 0 ≤ seconds) :
    (filter.update noise (.number x) (.number seconds)).RestsAt x := by
  rw [Filter.update, if_pos rests.hasStarted]
  exact (rests.predict proper nonneg).correct proper

end Filter

/-! ### Rates of a direction without traffic -/

/-- A direction of traffic. -/
inductive Direction where
  | tx
  | rx
  deriving DecidableEq, Repr

namespace Direction

/-- The counter of successes. -/
def counter : Direction → Counters → ℕ
  | .tx, counters => counters.txSuccess
  | .rx, counters => counters.rxSuccess

/-- The successes in an interval. -/
def packets : Direction → PacketCounts → ℕ
  | .tx, counts => counts.txSuccess
  | .rx, counts => counts.rxSuccess

/-- The successes per second. -/
def rate {α : Type} : Direction → Rates α → α
  | .tx, rates => rates.txSuccess
  | .rx, rates => rates.rxSuccess

variable (direction : Direction)

theorem rate_decay {α : Type} [Scalar α] (rates : Rates α) (kept elapsedMs : α)
    (counts : PacketCounts) :
    direction.rate (rates.decay kept elapsedMs counts) =
      Rates.blend kept elapsedMs (direction.rate rates) (direction.packets counts) := by
  cases direction <;> rfl

/-- No packets are counted where a counter does not advance. -/
theorem packets_between? {earlier later : Counters} {counts : PacketCounts}
    (counted : PacketCounts.between? earlier later = some counts)
    (noAdvance : direction.counter later ≤ direction.counter earlier) :
    direction.packets counts = 0 := by
  unfold PacketCounts.between? at counted
  split_ifs at counted
  obtain rfl := Option.some.inj counted
  cases direction <;> exact Nat.sub_eq_zero_of_le noAdvance

end Direction

/-- Whether rates show no successes in a direction, or show nothing at all since they have been lost
with an undefined decay. -/
def Rates.IsIdle (direction : Direction) (rates : Rates (Exact K)) : Prop :=
  direction.rate rates = .number 0 ∨ rates.txSuccess = .undefined

theorem Rates.isIdle_zero (direction : Direction) : (zero : Rates (Exact K)).IsIdle direction := by
  cases direction <;> exact .inl Exact.zero_eq

/-- An interval without successes leaves the rates idle. -/
theorem Rates.IsIdle.decay {direction : Direction} {rates : Rates (Exact K)}
    (idle : rates.IsIdle direction) {counts : PacketCounts}
    (noPackets : direction.packets counts = 0) (kept : Exact K) {elapsedMs : K}
    (elapsed : elapsedMs ≠ 0) : (rates.decay kept (.number elapsedMs) counts).IsIdle direction := by
  cases kept with
  | undefined =>
    refine .inr ?_
    rw [Rates.decay, Rates.blend, Exact.mul_undefined, Exact.undefined_add]
  | number kept =>
    rcases idle with none | lost
    · refine .inl ?_
      rw [Direction.rate_decay, none, noPackets, Rates.blend]
      simp [Exact.number_div elapsed, Exact.ofNat_eq]
    · refine .inr ?_
      rw [Rates.decay, Rates.blend, lost, Exact.undefined_mul, Exact.undefined_add]

/-- What the interval since the last sample says of it. -/
theorem Meter.interval?_eq_some {α : Type} {meter : Meter α} {sample : Sample} {elapsedMs : ℕ}
    {counts : PacketCounts} (interval : meter.interval? sample = some (elapsedMs, counts)) :
    ∃ timestampMs counters, meter.last? = some (timestampMs, counters) ∧
      timestampMs < sample.timestampMs ∧ elapsedMs = sample.timestampMs - timestampMs ∧
      PacketCounts.between? counters sample.counters = some counts := by
  obtain ⟨⟨timestampMs, counters⟩, last, rest⟩ := Option.bind_eq_some_iff.mp interval
  dsimp only at rest
  split_ifs at rest with later
  obtain ⟨counted, between, same⟩ := Option.map_eq_some_iff.mp rest
  obtain ⟨rfl, rfl⟩ := Prod.mk.inj same
  exact ⟨timestampMs, counters, last, later, rfl, between⟩

/-- A sample whose counter has not advanced leaves the rates idle. -/
theorem Rates.IsIdle.update [IsStrictOrderedRing K] [Exponential (Exact K)] {direction : Direction}
    {meter : Meter (Exact K)} (idle : meter.rates.IsIdle direction) (timeConstantMs : Exact K)
    {sample : Sample}
    (noAdvance : ∀ timestampMs counters, meter.last? = some (timestampMs, counters) →
      direction.counter sample.counters ≤ direction.counter counters) :
    (meter.update timeConstantMs sample).rates.IsIdle direction := by
  dsimp only [Meter.update]
  cases interval : meter.interval? sample with
  | none => exact isIdle_zero direction
  | some measured =>
    obtain ⟨timestampMs, counters, last, later, elapsed, counted⟩ :=
      Meter.interval?_eq_some interval
    have noPackets := direction.packets_between? counted (noAdvance _ _ last)
    have elapsed_ne_zero : (measured.1 : K) ≠ 0 := Nat.cast_ne_zero.mpr (by omega)
    dsimp only
    rw [Exact.scalarOfNat_eq]
    exact idle.decay noPackets _ elapsed_ne_zero

end Trend

end LinkQuality
