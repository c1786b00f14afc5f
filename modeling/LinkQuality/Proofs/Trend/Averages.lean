import LinkQuality.Proofs.Decay
import LinkQuality.Proofs.Trend.Rest
import Mathlib.Data.List.MinMax

/-!
# Rates are averages

A rate is moved towards the speed of each interval by the share that is not kept of it. So it lies
between zero, where it starts, and the largest speed since it started, whatever the shares are and
however long the intervals.

The rates start over with every sample that does not continue the one before it: if time has not
advanced, or if any of the four counters has gone backwards. Such a sample ends no interval, and is
the one from which the next interval is measured.

## Main definitions

* `Trend.Kind`: the kinds of packets that are counted
* `Trend.Meter.Operation`, `Trend.Meter.run`: what can be done to a meter, and the meter after
* `Trend.Continues`, `Trend.AreSinceRestart`: the samples since the latest restart
* `Trend.Kind.speeds`, `Trend.largest`: the speeds of the intervals between samples, and the largest

## Main results

* `Trend.Meter.interval?_of_continues`, `Trend.Meter.interval?_of_not_continues`: the interval that
  a sample ends
* `Trend.Meter.AreSinceRestart.unique`: the operations tell the samples since the latest restart
* `Trend.blend_bounds`: a rate after an interval
* `Trend.Meter.IsAverage.apply`, `Trend.Meter.exists_isAverage_run`: one operation, and a run
* `Trend.Meter.rates_average`: the rates and the share of successes after any operations
-/

namespace LinkQuality.Trend

/-! ### Kinds of packets -/

/-- A kind of packets that is counted. -/
inductive Kind where
  | txSuccess
  | txRetries
  | txBad
  | rxSuccess
  deriving DecidableEq, Repr

namespace Kind

/-- The counter of the packets of a kind. -/
def counter : Kind → Counters → ℕ
  | txSuccess, counters => counters.txSuccess
  | txRetries, counters => counters.txRetries
  | txBad, counters => counters.txBad
  | rxSuccess, counters => counters.rxSuccess

/-- The packets of a kind in an interval. -/
def packets : Kind → PacketCounts → ℕ
  | txSuccess, counts => counts.txSuccess
  | txRetries, counts => counts.txRetries
  | txBad, counts => counts.txBad
  | rxSuccess, counts => counts.rxSuccess

/-- The packets of a kind per second. -/
def rate {α : Type} : Kind → Rates α → α
  | txSuccess, rates => rates.txSuccess
  | txRetries, rates => rates.txRetries
  | txBad, rates => rates.txBad
  | rxSuccess, rates => rates.rxSuccess

variable {α : Type} [Scalar α]

theorem rate_zero (kind : Kind) : kind.rate (Rates.zero : Rates α) = 0 := by
  cases kind <;> rfl

theorem rate_decay (kind : Kind) (rates : Rates α) (kept elapsedMs : α) (counts : PacketCounts) :
    kind.rate (rates.decay kept elapsedMs counts) =
      Rates.blend kept elapsedMs (kind.rate rates) (kind.packets counts) := by
  cases kind <;> rfl

end Kind

/-! ### Samples since a restart -/

/-- Whether a sample continues an earlier one: time has advanced, and no counter of packets has gone
backwards. -/
structure Continues (earlier later : Sample) : Prop where
  timestampMs_lt : earlier.timestampMs < later.timestampMs
  counter_le : ∀ kind : Kind, kind.counter earlier.counters ≤ kind.counter later.counters

/-- What a meter is told of the packets between two samples that continue each other. -/
theorem exists_between?_of_continues {earlier later : Sample}
    (continues : Continues earlier later) :
    ∃ counts, PacketCounts.between? earlier.counters later.counters = some counts ∧
      ∀ kind : Kind, kind.packets counts =
        kind.counter later.counters - kind.counter earlier.counters := by
  have counter_le := continues.counter_le
  refine ⟨_, if_pos ⟨counter_le .txSuccess, counter_le .txRetries, counter_le .txBad,
    counter_le .rxSuccess⟩, ?_⟩
  rintro (_ | _ | _ | _) <;> rfl

namespace Meter

section Intervals

variable {α : Type} {meter : Meter α} {earlier sample : Sample}

/-- A sample that continues the last one ends an interval. -/
theorem interval?_of_continues
    (last : meter.last? = some (earlier.timestampMs, earlier.counters))
    (continues : Continues earlier sample) :
    ∃ counts, meter.interval? sample = some (sample.timestampMs - earlier.timestampMs, counts) ∧
      ∀ kind : Kind, kind.packets counts =
        kind.counter sample.counters - kind.counter earlier.counters := by
  obtain ⟨counts, counted, packets⟩ := exists_between?_of_continues continues
  refine ⟨counts, ?_, packets⟩
  simp [interval?, last, continues.timestampMs_lt, counted]

theorem interval?_of_not_continues
    (notContinued : ∀ earlier : Sample,
      meter.last? = some (earlier.timestampMs, earlier.counters) → ¬ Continues earlier sample) :
    meter.interval? sample = none := by
  cases interval : meter.interval? sample with
  | none => rfl
  | some measured =>
    obtain ⟨timestampMs, counters, last, later, -, counted⟩ := interval?_eq_some interval
    refine absurd ⟨later, ?_⟩ (notContinued { timestampMs, counters } last)
    unfold PacketCounts.between? at counted
    split_ifs at counted with counter_le
    obtain ⟨txSuccess, txRetries, txBad, rxSuccess⟩ := counter_le
    rintro (_ | _ | _ | _) <;> assumption

end Intervals

/-- What can be done to a meter. -/
inductive Operation where
  | count (sample : Sample)
  | reset
  deriving DecidableEq, Repr

section Run

variable {α : Type} [Scalar α] [Exponential α]

def Operation.apply (timeConstantMs : α) (meter : Meter α) : Operation → Meter α
  | count sample => meter.update timeConstantMs sample
  | reset => blank

/-- The meter after some operations, from a blank one. -/
def run (timeConstantMs : α) (operations : List Operation) : Meter α :=
  operations.foldl (Operation.apply timeConstantMs) blank

end Run

/-- Whether samples are those that were counted since the latest restart: the operations end with
counting them, each continues the one before it, and if a sample was counted before them, then there
is one among them and the first does not continue it. -/
structure AreSinceRestart (operations : List Operation) (samples : List Sample) : Prop where
  continued : samples.IsChain Continues
  exists_before : ∃ before, operations = before ++ samples.map .count ∧
    ∀ sample, before.getLast? = some (.count sample) →
      ∃ first, samples.head? = some first ∧ ¬ Continues sample first

variable {operations : List Operation} {samples : List Sample} {sample : Sample}

theorem areSinceRestart_nil : AreSinceRestart [] [] :=
  ⟨List.isChain_nil, [], rfl, nofun⟩

/-- After a reset no sample has been counted. -/
theorem areSinceRestart_reset (operations : List Operation) :
    AreSinceRestart (operations ++ [.reset]) [] := by
  refine ⟨List.isChain_nil, operations ++ [.reset], by simp, ?_⟩
  intro sample isLast
  simp at isLast

/-- A sample that was counted last is the last of those since the latest restart. -/
theorem AreSinceRestart.getLast?_eq (since : AreSinceRestart operations samples)
    (isLast : operations.getLast? = some (.count sample)) : samples.getLast? = some sample := by
  obtain ⟨before, rfl, starts⟩ := since.exists_before
  cases samples using List.reverseRecOn with
  | nil =>
    -- A sample that was counted before them is followed by one of them, but there is none.
    obtain ⟨first, isFirst, -⟩ := starts sample (by simpa using isLast)
    cases isFirst
  | append_singleton samples last =>
    have same : Operation.count last = .count sample := by simpa using isLast
    rw [List.getLast?_concat, Operation.count.inj same]

/-- A sample that continues the last one is one more since the latest restart. -/
theorem AreSinceRestart.count_of_continues {last : Sample}
    (since : AreSinceRestart operations (samples ++ [last])) (continues : Continues last sample) :
    AreSinceRestart (operations ++ [.count sample]) (samples ++ [last] ++ [sample]) := by
  obtain ⟨before, rfl, starts⟩ := since.exists_before
  refine ⟨List.isChain_append.mpr ⟨since.continued, List.isChain_singleton _, ?_⟩, before,
    by simp, ?_⟩
  · intro last' isLast next isNext
    obtain rfl : last = last' := by simpa using isLast
    obtain rfl : sample = next := by simpa using isNext
    exact continues
  · intro counted isLast
    obtain ⟨first, isFirst, notContinued⟩ := starts counted isLast
    refine ⟨first, ?_, notContinued⟩
    rw [List.head?_append, isFirst]
    rfl

/-- A sample that does not continue the last one is the only one since it restarts. -/
theorem AreSinceRestart.count_of_not_continues (since : AreSinceRestart operations samples)
    (notContinued : ∀ last, samples.getLast? = some last → ¬ Continues last sample) :
    AreSinceRestart (operations ++ [.count sample]) [sample] :=
  ⟨List.isChain_singleton _, operations, rfl, fun _ isLast =>
    ⟨sample, rfl, notContinued _ (since.getLast?_eq isLast)⟩⟩

/-- Samples that continue each other do not go on over the start of others. -/
theorem eq_nil_of_continued {later : List Sample} {before between : List Operation}
    (continued : samples.IsChain Continues)
    (split : samples.map .count = between ++ later.map .count)
    (starts : ∀ sample, (before ++ between).getLast? = some (.count sample) →
      ∃ first, later.head? = some first ∧ ¬ Continues sample first) : between = [] := by
  obtain ⟨earlier, later', rfl, rfl, same⟩ := List.map_eq_append_iff.mp split
  obtain rfl : later' = later :=
    List.map_injective_iff.mpr (fun _ _ => Operation.count.inj) same
  cases earlier using List.reverseRecOn with
  | nil => rfl
  | append_singleton earlier last =>
    -- The last sample that is too early is continued by the first of the others.
    obtain ⟨first, isFirst, notContinued⟩ := starts last (by simp)
    have follows := (List.isChain_append.mp continued).2.2
    exact absurd (follows last (by simp) first isFirst) notContinued

/-- The samples since the latest restart are told by the operations. -/
theorem AreSinceRestart.unique {others : List Sample} (since : AreSinceRestart operations samples)
    (alsoSince : AreSinceRestart operations others) : samples = others := by
  have count_injective : Function.Injective (List.map Operation.count) :=
    List.map_injective_iff.mpr fun _ _ => Operation.count.inj
  obtain ⟨before, rfl, starts⟩ := since.exists_before
  obtain ⟨before', same, starts'⟩ := alsoSince.exists_before
  -- If one of the two starts earlier, it goes on over the start of the other.
  rcases List.append_eq_append_iff.mp same with ⟨between, rfl, split⟩ | ⟨between, rfl, split⟩
  · rw [eq_nil_of_continued since.continued split starts'] at split
    exact count_injective split
  · rw [eq_nil_of_continued alsoSince.continued split starts] at split
    exact count_injective split.symm

end Meter

/-! ### Speeds -/

section Speeds

variable {K : Type} [Field K]

/-- The packets of a kind per second, between two samples. -/
def Kind.speed (kind : Kind) (earlier later : Sample) : K :=
  ((kind.counter later.counters - kind.counter earlier.counters : ℕ) : K) * 1000 /
    ((later.timestampMs - earlier.timestampMs : ℕ) : K)

/-- The speeds of the intervals between samples. -/
def Kind.speeds (kind : Kind) : List Sample → List K
  | earlier :: later :: samples => kind.speed earlier later :: kind.speeds (later :: samples)
  | _ => []

theorem Kind.speeds_append (kind : Kind) (samples : List Sample) (last sample : Sample) :
    kind.speeds (samples ++ [last] ++ [sample]) =
      (kind.speeds (samples ++ [last]) ++ [kind.speed last sample] : List K) := by
  induction samples with
  | nil => rfl
  | cons first samples ih =>
    -- A further sample comes next, be it the last one or not.
    cases samples with
    | nil => rfl
    | cons next samples => exact congrArg (kind.speed first next :: ·) ih

variable [LinearOrder K]

/-- The largest of some speeds, and zero if there are none. -/
def largest (speeds : List K) : K := speeds.maximum.unbotD 0

theorem largest_append_singleton {speeds : List K} {speed : K} (nonneg : 0 ≤ speed) :
    largest (speeds ++ [speed]) = max (largest speeds) speed := by
  unfold largest
  rw [List.maximum_concat]
  cases speeds.maximum with
  | bot => simp [nonneg]
  | coe speed' => rfl

variable [IsStrictOrderedRing K]

theorem Kind.speed_nonneg (kind : Kind) (earlier later : Sample) :
    0 ≤ (kind.speed earlier later : K) := by
  unfold Kind.speed
  positivity

/-- A rate after an interval lies between the rate before and the speed of the interval. -/
theorem blend_bounds {share rate speed upper : K} (isShare : 0 ≤ share ∧ share ≤ 1)
    (rate_bounds : 0 ≤ rate ∧ rate ≤ upper) (speed_bounds : 0 ≤ speed ∧ speed ≤ upper) :
    0 ≤ rate * share + (1 - share) * speed ∧ rate * share + (1 - share) * speed ≤ upper := by
  have rest_nonneg : 0 ≤ 1 - share := sub_nonneg.mpr isShare.2
  constructor
  · exact add_nonneg (mul_nonneg rate_bounds.1 isShare.1) (mul_nonneg rest_nonneg speed_bounds.1)
  · calc rate * share + (1 - share) * speed
        ≤ upper * share + (1 - share) * upper :=
          add_le_add (mul_le_mul_of_nonneg_right rate_bounds.2 isShare.1)
            (mul_le_mul_of_nonneg_left speed_bounds.2 rest_nonneg)
      _ = upper := by ring

end Speeds

/-! ### Averages -/

variable {K : Type} [Field K] [LinearOrder K] [FloorRing K]

/-- On numbers, a rate after an interval is mixed of the rate before and the speed of the
interval. -/
theorem Rates.blend_number {share elapsedMs rate : K} (elapsed : elapsedMs ≠ 0) (count : ℕ) :
    blend (.number share) (.number elapsedMs) (.number rate) count =
      Exact.number (rate * share + (1 - share) * (count * 1000 / elapsedMs)) := by
  simp [blend, Exact.ofNat_eq, Exact.number_div elapsed, mul_assoc, mul_div_assoc]

namespace Meter

/-- Whether the rates of a meter are averages over the intervals between samples, of which it
remembers the last one. -/
structure IsAverage (samples : List Sample) (meter : Meter (Exact K)) : Prop where
  last? : meter.last? = samples.getLast?.map fun last => (last.timestampMs, last.counters)
  rate : ∀ kind : Kind, 0 ≤ kind.rate meter.rates ∧
    kind.rate meter.rates ≤ .number (largest (kind.speeds samples))

variable {meter : Meter (Exact K)} {samples : List Sample} {last sample : Sample}
  {timeConstantMs : Exact K}

/-- Without an interval there are no rates. -/
theorem rate_zero_bounds {speeds : List K} (none : speeds = []) (kind : Kind) :
    0 ≤ kind.rate (Rates.zero : Rates (Exact K)) ∧
      kind.rate (Rates.zero : Rates (Exact K)) ≤ .number (largest speeds) := by
  rw [kind.rate_zero, none]
  simp [largest]

theorem isAverage_blank : (blank : Meter (Exact K)).IsAverage [] :=
  ⟨rfl, rate_zero_bounds rfl⟩

variable [Exponential (Exact K)]

/-- A sample that does not continue the last one starts over. -/
theorem IsAverage.update_of_not_continues (average : meter.IsAverage samples)
    (notContinued : ∀ last, samples.getLast? = some last → ¬ Continues last sample) :
    (meter.update timeConstantMs sample).IsAverage [sample] := by
  have noInterval : meter.interval? sample = none := by
    refine interval?_of_not_continues fun earlier remembered continues => ?_
    rw [average.last?] at remembered
    obtain ⟨last, isLast, same⟩ := Option.map_eq_some_iff.mp remembered
    -- Whether a sample is continued depends on nothing of it that is not remembered.
    obtain ⟨sameTime, sameCounters⟩ := Prod.mk.inj same
    exact notContinued last isLast
      ⟨sameTime ▸ continues.timestampMs_lt, sameCounters ▸ continues.counter_le⟩
  refine ⟨rfl, fun kind => ?_⟩
  dsimp only [update]
  rw [noInterval]
  exact rate_zero_bounds rfl kind

variable [IsStrictOrderedRing K]

/-- What is kept of a rate is a share of it. -/
theorem exists_kept (keeps : Exact.KeepsShares K) (positive : 0 < timeConstantMs) (elapsedMs : ℕ) :
    ∃ share, kept timeConstantMs (Scalar.ofNat elapsedMs) = .number share ∧
      0 ≤ share ∧ share ≤ 1 := by
  obtain ⟨t, rfl, t_pos⟩ := Exact.pos_iff.mp positive
  have past : -Scalar.ofNat elapsedMs / Exact.number t ≤ 0 := by
    rw [Exact.scalarOfNat_eq, Exact.neg_number, Exact.number_div t_pos.ne', Exact.zero_eq,
      Exact.number_le_number]
    exact div_nonpos_of_nonpos_of_nonneg (by simp) t_pos.le
  obtain ⟨nonneg, le_one⟩ := keeps _ past
  obtain ⟨share, isShare, share_nonneg⟩ := Exact.nonneg_iff.mp nonneg
  rw [isShare] at le_one
  exact ⟨share, isShare, share_nonneg, by simpa using le_one⟩

/-- A sample that continues the last one adds an interval. -/
theorem IsAverage.update_of_continues (average : meter.IsAverage (samples ++ [last]))
    (keeps : Exact.KeepsShares K) (positive : 0 < timeConstantMs)
    (continues : Continues last sample) :
    (meter.update timeConstantMs sample).IsAverage (samples ++ [last] ++ [sample]) := by
  have remembered : meter.last? = some (last.timestampMs, last.counters) := by
    rw [average.last?, List.getLast?_concat, Option.map_some]
  obtain ⟨counts, interval, packets⟩ := interval?_of_continues remembered continues
  have elapsed : ((sample.timestampMs - last.timestampMs : ℕ) : K) ≠ 0 := by
    have later := continues.timestampMs_lt
    exact Nat.cast_ne_zero.mpr (by omega)
  obtain ⟨share, isKept, isShare⟩ :=
    exists_kept keeps positive (sample.timestampMs - last.timestampMs)
  constructor
  · rw [List.getLast?_concat]
    rfl
  · intro kind
    obtain ⟨nonneg, le_largest⟩ := average.rate kind
    obtain ⟨rate, isRate, rate_nonneg⟩ := Exact.nonneg_iff.mp nonneg
    rw [isRate, Exact.number_le_number] at le_largest
    -- What is mixed is at most the larger one of the old bound and the new speed.
    have speed_nonneg := kind.speed_nonneg (K := K) last sample
    have bounds := blend_bounds isShare ⟨rate_nonneg, le_largest.trans (le_max_left _ _)⟩
      ⟨speed_nonneg, le_max_right _ _⟩
    dsimp only [update]
    rw [interval]
    dsimp only
    rw [kind.rate_decay, isRate, isKept, packets, Exact.scalarOfNat_eq,
      Rates.blend_number elapsed, kind.speeds_append, largest_append_singleton speed_nonneg,
      Exact.zero_eq]
    exact bounds

/-- If the rates are averages since the latest restart, then they are after one more operation. -/
theorem IsAverage.apply (average : meter.IsAverage samples) (keeps : Exact.KeepsShares K)
    (positive : 0 < timeConstantMs) {operations : List Operation}
    (since : AreSinceRestart operations samples) (operation : Operation) :
    ∃ later, AreSinceRestart (operations ++ [operation]) later ∧
      (operation.apply timeConstantMs meter).IsAverage later := by
  cases operation with
  | reset => exact ⟨[], areSinceRestart_reset operations, isAverage_blank⟩
  | count sample =>
    by_cases continued : ∃ last, samples.getLast? = some last ∧ Continues last sample
    · obtain ⟨last, isLast, continues⟩ := continued
      obtain ⟨samples, rfl⟩ := List.getLast?_eq_some_iff.mp isLast
      exact ⟨_, since.count_of_continues continues,
        average.update_of_continues keeps positive continues⟩
    · have notContinued (last : Sample) (isLast : samples.getLast? = some last) :
          ¬ Continues last sample := fun continues => continued ⟨last, isLast, continues⟩
      exact ⟨_, since.count_of_not_continues notContinued,
        average.update_of_not_continues notContinued⟩

/-- After any operations the rates are averages since the latest restart. -/
theorem exists_isAverage_run (keeps : Exact.KeepsShares K) (positive : 0 < timeConstantMs)
    (operations : List Operation) : ∃ samples, AreSinceRestart operations samples ∧
      (run timeConstantMs operations).IsAverage samples := by
  induction operations using List.reverseRecOn with
  | nil => exact ⟨[], areSinceRestart_nil, isAverage_blank⟩
  | append_singleton operations operation ih =>
    obtain ⟨samples, since, average⟩ := ih
    rw [run, List.foldl_append]
    exact average.apply keeps positive since operation

end Meter

/-! ### The share of successes -/

/-- Of rates that are not negative, successes are a share of the attempts to transmit, and there are
attempts if any of the rates of transmissions is positive. -/
theorem Rates.successProbability?_spec [IsStrictOrderedRing K] {rates : Rates (Exact K)}
    (nonneg : ∀ kind : Kind, 0 ≤ kind.rate rates) :
    (∀ p, rates.successProbability? = some p → 0 ≤ p ∧ p ≤ 1) ∧
      (rates.successProbability?.isSome = true ↔
        0 < rates.txSuccess ∨ 0 < rates.txRetries ∨ 0 < rates.txBad) := by
  obtain ⟨success, isSuccess, success_nonneg⟩ := Exact.nonneg_iff.mp (nonneg .txSuccess)
  obtain ⟨retries, isRetries, retries_nonneg⟩ := Exact.nonneg_iff.mp (nonneg .txRetries)
  obtain ⟨bad, isBad, bad_nonneg⟩ := Exact.nonneg_iff.mp (nonneg .txBad)
  change rates.txSuccess = _ at isSuccess
  change rates.txRetries = _ at isRetries
  change rates.txBad = _ at isBad
  -- In exact arithmetic no rate is negative, so the sum is positive if one of them is.
  rw [successProbability?, isSuccess, isRetries, isBad, Exact.number_add, Exact.number_add,
    Exact.zero_eq]
  simp only [Exact.number_lt_number]
  split_ifs with attempts
  · rw [Exact.number_div attempts.ne']
    constructor
    · rintro p ⟨⟩
      rw [Exact.one_eq, Exact.number_le_number, Exact.number_le_number]
      exact ⟨div_nonneg success_nonneg attempts.le,
        div_le_one_of_le₀ (by linarith) attempts.le⟩
    · refine iff_of_true rfl ?_
      by_contra! none
      linarith
  · constructor
    · intro p isShare
      cases isShare
    · refine iff_of_false Bool.false_ne_true ?_
      rintro (positive | positive | positive) <;> exact attempts (by linarith)

namespace Meter

/-- With any time constant, and a share kept of every rate over each interval: any operations tell
the samples since the latest restart, and after them no rate is negative or larger than the largest
speed between those. There is a share of successes exactly if a rate of transmissions is positive,
and it is a share. -/
theorem rates_average [IsStrictOrderedRing K] [Exponential (Exact K)]
    (keeps : Exact.KeepsShares K) {timeConstantMs : Exact K} (positive : 0 < timeConstantMs)
    (operations : List Operation) :
    let rates := (run timeConstantMs operations).rates
    (∃! samples, AreSinceRestart operations samples) ∧
      (∀ samples, AreSinceRestart operations samples → ∀ kind : Kind,
        0 ≤ kind.rate rates ∧ kind.rate rates ≤ .number (largest (kind.speeds samples))) ∧
      (∀ p, rates.successProbability? = some p → 0 ≤ p ∧ p ≤ 1) ∧
      (rates.successProbability?.isSome = true ↔
        0 < rates.txSuccess ∨ 0 < rates.txRetries ∨ 0 < rates.txBad) := by
  intro rates
  obtain ⟨samples, since, average⟩ := exists_isAverage_run keeps positive operations
  refine ⟨⟨samples, since, fun others alsoSince => alsoSince.unique since⟩, ?_,
    Rates.successProbability?_spec fun kind => (average.rate kind).1⟩
  intro others alsoSince
  obtain rfl := alsoSince.unique since
  exact average.rate

/-- A meter that starts over with a reset, and then with a counter of receptions that has gone
backwards, while the others have not. -/
theorem rates_average_rx_reset :
    let counted (timestampMs txSuccess rxSuccess : ℕ) : Operation :=
      .count { timestampMs, counters := { txSuccess, rxSuccess } }
    let operations := [counted 0 5 5, counted 1000 10 10, .reset, counted 2000 20 20,
      counted 3000 30 10, counted 4000 40 30]
    let rates := (run (.number 3000 : Exact ℝ) operations).rates
    (∃! samples, AreSinceRestart operations samples) ∧
      (∀ samples, AreSinceRestart operations samples → ∀ kind : Kind,
        0 ≤ kind.rate rates ∧ kind.rate rates ≤ .number (largest (kind.speeds samples))) ∧
      (∀ p, rates.successProbability? = some p → 0 ≤ p ∧ p ≤ 1) ∧
      (rates.successProbability?.isSome = true ↔
        0 < rates.txSuccess ∨ 0 < rates.txRetries ∨ 0 < rates.txBad) := by
  intro counted operations
  exact rates_average Exact.decays_real.keepsShares (by simp) operations

end Meter

end LinkQuality.Trend
