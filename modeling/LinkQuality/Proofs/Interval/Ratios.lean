import LinkQuality.Proofs.Interval.Restarts

/-!
# The ratios of an interval

Of the attempts to transmit some succeeded and the others were retries. The two shares are defined
if the counters say enough about the interval: both went forward, there was an attempt, it was not
just a few failures, and neither direction was so busy that a ratio tells nothing. They are shares
then: both lie between zero and one, and together they are the whole.

A throughput is a speed without the part of it that is lost: to retries and, if the channel is
measured, to the time in which it was busy. What is lost is a share, so a throughput is not negative
and at most the speed. It is defined if everything is that it is computed from. Where the busy ratio
is assumed to be the average one none of this is known, for the average may be any number.

Arithmetic is exact here.

## Main definitions

* `Settings.Gates.TellsAttempts`: whether two samples say enough about the attempts between them
* `Interval.SplitsAttempts`: the two shares of the attempts
* `Interval.BoundsThroughput`: the throughputs and what they are computed from

## Main results

* `Increases.attemptsTell_iff`: attempts tell something exactly if the counters say enough
* `Interval.ratios_between`: what is defined of an interval, and its bounds
-/

namespace LinkQuality

/-! ### Attempts that tell something -/

/-- How many attempts to transmit there were since earlier counters, if neither went backwards. -/
def Counters.txAttemptsSince (later earlier : Counters) : ℕ :=
  (later.txSuccess - earlier.txSuccess) + (later.txRetries - earlier.txRetries)

/-- Whether two samples say enough about the attempts between them: there was one, there were not
just a few without a success, and neither direction had too many successes. -/
structure Settings.Gates.TellsAttempts {α : Type} [Scalar α] (gates : Settings.Gates α)
    (earlier later : Counters) : Prop where
  txSuccess_le : earlier.txSuccess ≤ later.txSuccess
  txRetries_le : earlier.txRetries ≤ later.txRetries
  attempts_pos : 0 < later.txAttemptsSince earlier
  not_few : ¬ (later.txSuccess - earlier.txSuccess = 0 ∧
    Scalar.ofNat (later.txAttemptsSince earlier) ≤ gates.fewTxAttempts)
  not_saturated : ¬ gates.manySuccesses ≤ Scalar.ofNat (later.txSuccess - earlier.txSuccess)
  not_saturated_rx : earlier.rxSuccess ≤ later.rxSuccess →
    ¬ gates.manySuccesses ≤ Scalar.ofNat (later.rxSuccess - earlier.rxSuccess)

namespace Increases

variable {K : Type} [Field K] [LinearOrder K] [FloorRing K]
variable {earlier later : Counters} {gates : Settings.Gates (Exact K)}

/-- A direction is saturated if its counter went forward, and far. -/
theorem isSaturated_iff {α : Type} [Scalar α] [Undefined α] [Scalar.RemembersUndefined α]
    {gates : Settings.Gates α} :
    (between earlier later).isSaturated gates = true ↔
      (earlier.txSuccess ≤ later.txSuccess ∧
        gates.manySuccesses ≤ Scalar.ofNat (later.txSuccess - earlier.txSuccess)) ∨
      (earlier.rxSuccess ≤ later.rxSuccess ∧
        gates.manySuccesses ≤ Scalar.ofNat (later.rxSuccess - earlier.rxSuccess)) := by
  simp only [isSaturated, between, Bool.or_eq_true, decide_eq_true_eq, le_ofCounter_iff]

section Forward

variable (success : earlier.txSuccess ≤ later.txSuccess)
  (retries : earlier.txRetries ≤ later.txRetries)
include success retries

/-- The attempts are counted if both counters went forward. -/
theorem txAttempts_between : (between earlier later : Increases (Exact K)).txAttempts =
    .number (later.txAttemptsSince earlier : K) := by
  simp [txAttempts, between, ofCounter, success, retries, Counters.txAttemptsSince]

/-- Attempts are few if there were none, or no more than the gate allows and none succeeded. -/
theorem hasFewAttempts_iff :
    (between earlier later).hasFewAttempts gates = true ↔
      later.txAttemptsSince earlier = 0 ∨
        (later.txSuccess - earlier.txSuccess = 0 ∧
          Scalar.ofNat (later.txAttemptsSince earlier) ≤ gates.fewTxAttempts) := by
  have succeeded : (between earlier later : Increases (Exact K)).txSuccess =
      .number ((later.txSuccess - earlier.txSuccess : ℕ) : K) := by
    simp [between, ofCounter, success]
  rw [hasFewAttempts, txAttempts_between success retries, succeeded, Exact.zero_eq,
    Exact.scalarOfNat_eq]
  simp only [Exact.number_beq, Bool.or_eq_true, Bool.and_eq_true, decide_eq_true_eq,
    Nat.cast_eq_zero, and_comm]

end Forward

/-- Attempts tell something exactly if the counters say enough. -/
theorem attemptsTell_iff :
    (between earlier later).attemptsTell gates = true ↔ gates.TellsAttempts earlier later := by
  by_cases restarts : earlier.RestartsTx later
  · -- The number of attempts is unknown, so no other counter matters.
    rw [attemptsTell_of_restart restarts]
    apply iff_of_false Bool.false_ne_true
    intro tells
    exact restarts.elim (not_lt_of_ge tells.txSuccess_le) (not_lt_of_ge tells.txRetries_le)
  · obtain ⟨success, retries⟩ := not_or.mp restarts
    rw [not_lt] at success retries
    rw [attemptsTell, txAttempts_between success retries, Exact.isUndefined_number,
      Bool.false_or, Bool.not_eq_true', Bool.or_eq_false_iff, ← Bool.not_eq_true,
      ← Bool.not_eq_true, hasFewAttempts_iff success retries, isSaturated_iff]
    constructor
    · rintro ⟨enough, notSaturated⟩
      obtain ⟨some, notFew⟩ := not_or.mp enough
      obtain ⟨tx, rx⟩ := not_or.mp notSaturated
      exact ⟨success, retries, Nat.pos_of_ne_zero some, notFew, fun many => tx ⟨success, many⟩,
        fun forward many => rx ⟨forward, many⟩⟩
    · intro tells
      exact ⟨not_or.mpr ⟨tells.attempts_pos.ne', tells.not_few⟩,
        not_or.mpr ⟨fun tx => tells.not_saturated tx.2,
          fun rx => tells.not_saturated_rx rx.1 rx.2⟩⟩

/-! ### Shares of the attempts -/

/-- Where attempts tell something, some of them are a share of all. -/
theorem number_div_txAttempts (tells : gates.TellsAttempts earlier later) (n : ℕ) :
    Exact.number (n : K) / (between earlier later).txAttempts =
      Exact.number ((n : K) / (later.txAttemptsSince earlier : ℕ)) := by
  rw [txAttempts_between tells.txSuccess_le tells.txRetries_le]
  exact Exact.number_div (Nat.cast_ne_zero.mpr tells.attempts_pos.ne')

theorem successPerAttempt_eq (tells : gates.TellsAttempts earlier later) :
    (between earlier later).successPerAttempt gates =
      .number (((later.txSuccess - earlier.txSuccess : ℕ) : K) /
        (later.txAttemptsSince earlier : ℕ)) := by
  rw [successPerAttempt, if_pos (attemptsTell_iff.mpr tells), ← number_div_txAttempts tells]
  simp [between, ofCounter, tells.txSuccess_le]

theorem retriesPerAttempt_eq (tells : gates.TellsAttempts earlier later) :
    (between earlier later).retriesPerAttempt gates =
      .number (((later.txRetries - earlier.txRetries : ℕ) : K) /
        (later.txAttemptsSince earlier : ℕ)) := by
  rw [retriesPerAttempt, if_pos (attemptsTell_iff.mpr tells), ← number_div_txAttempts tells]
  simp [between, ofCounter, tells.txRetries_le]

/-- The shares of successes and of retries are defined exactly if the counters say enough. -/
theorem shares_ne_undefined_iff :
    ((between earlier later).successPerAttempt gates ≠ .undefined ↔
        gates.TellsAttempts earlier later) ∧
      ((between earlier later).retriesPerAttempt gates ≠ .undefined ↔
        gates.TellsAttempts earlier later) := by
  by_cases tells : gates.TellsAttempts earlier later
  · exact ⟨iff_of_true (Exact.ne_undefined_iff.mpr ⟨_, successPerAttempt_eq tells⟩) tells,
      iff_of_true (Exact.ne_undefined_iff.mpr ⟨_, retriesPerAttempt_eq tells⟩) tells⟩
  · have nothing := mt attemptsTell_iff.mp tells
    exact ⟨iff_of_false (not_not.mpr (if_neg nothing)) tells,
      iff_of_false (not_not.mpr (if_neg nothing)) tells⟩

/-! ### Speeds -/

/-- A speed is not negative where it is defined, for a negative one stands for none. -/
theorem nonneg_of_speed {isVague : Prop} [Decidable isVague] {speedMbps : ℤ}
    [IsStrictOrderedRing K]
    (defined : (if speedMbps < 0 ∨ isVague then undefined
      else Scalar.ofInt speedMbps : Exact K) ≠ .undefined) :
    0 ≤ (if speedMbps < 0 ∨ isVague then undefined else Scalar.ofInt speedMbps : Exact K) := by
  split_ifs at defined ⊢ with unknown
  · exact absurd rfl defined
  · have nonneg : 0 ≤ speedMbps := not_lt.mp fun negative => unknown (.inl negative)
    exact Exact.nonneg_iff.mpr ⟨speedMbps, rfl, Int.cast_nonneg nonneg⟩

/-! ### The busy ratio -/

/-- What is kept only between zero and one lies there or is undefined. -/
theorem undefined_or_mem_of_within (ratio : Exact K) :
    (if Scalar.within 0 1 ratio then ratio else undefined) = .undefined ∨
      (0 ≤ (if Scalar.within 0 1 ratio then ratio else undefined) ∧
        (if Scalar.within 0 1 ratio then ratio else undefined) ≤ 1) := by
  split_ifs with within
  · rw [Scalar.within, Bool.and_eq_true, decide_eq_true_eq, decide_eq_true_eq] at within
    exact .inr within
  · exact .inl rfl

/-- A busy ratio that was measured lies between zero and one. -/
theorem undefined_or_measuredBusyRatio_mem (d : Increases (Exact K)) :
    d.measuredBusyRatio gates = .undefined ∨
      (0 ≤ d.measuredBusyRatio gates ∧ d.measuredBusyRatio gates ≤ 1) := by
  unfold measuredBusyRatio
  split
  · exact .inl rfl
  · exact undefined_or_mem_of_within _

end Increases

namespace Interval

variable {K : Type} [Field K] [LinearOrder K] [FloorRing K]

/-- Whether the shares of successes and retries split the attempts. -/
structure SplitsAttempts (interval : Interval (Exact K)) : Prop where
  success_mem : 0 ≤ interval.successPerAttempt ∧ interval.successPerAttempt ≤ 1
  retries_mem : 0 ≤ interval.retriesPerAttempt ∧ interval.retriesPerAttempt ≤ 1
  sum_eq : interval.successPerAttempt + interval.retriesPerAttempt = 1

/-- Whether the throughputs are defined where everything is that they are computed from, and bounded
by the speeds. -/
structure BoundsThroughput (interval : Interval (Exact K)) : Prop where
  busyRatio_mem : interval.busyRatio ≠ .undefined →
    0 ≤ interval.busyRatio ∧ interval.busyRatio ≤ 1
  txThroughput_iff : interval.txThroughput ≠ .undefined ↔
    interval.linkSpeed ≠ .undefined ∧ interval.retriesPerAttempt ≠ .undefined ∧
      interval.busyRatio ≠ .undefined
  txThroughput_mem : interval.txThroughput ≠ .undefined →
    0 ≤ interval.txThroughput ∧ interval.txThroughput ≤ interval.linkSpeed
  rxThroughput_iff : interval.rxThroughput ≠ .undefined ↔
    interval.rxSpeed ≠ .undefined ∧ interval.busyRatio ≠ .undefined
  rxThroughput_mem : interval.rxThroughput ≠ .undefined →
    0 ≤ interval.rxThroughput ∧ interval.rxThroughput ≤ interval.rxSpeed

variable [IsStrictOrderedRing K] {earlier later : Sample} {gates : Settings.Gates (Exact K)}
  (norm : Normalization (Exact K))

/-- Where attempts tell something, their shares are parts of one whole. -/
theorem splitsAttempts_of_tells (tells : gates.TellsAttempts earlier.counters later.counters) :
    (between earlier later norm gates).SplitsAttempts := by
  -- Each of the two is a part of all attempts, and together they are all of them.
  have isShare (n : ℕ) (part : n ≤ later.counters.txAttemptsSince earlier.counters) :
      0 ≤ Exact.number ((n : K) / (later.counters.txAttemptsSince earlier.counters : ℕ)) ∧
        Exact.number ((n : K) / (later.counters.txAttemptsSince earlier.counters : ℕ)) ≤ 1 := by
    simp only [Exact.zero_eq, Exact.one_eq, Exact.number_le_number]
    exact ⟨by positivity, div_le_one_of_le₀ (Nat.cast_le.mpr part) (Nat.cast_nonneg _)⟩
  have success := Increases.successPerAttempt_eq tells
  have retries := Increases.retriesPerAttempt_eq tells
  refine ⟨?_, ?_, ?_⟩
  · change 0 ≤ Increases.successPerAttempt _ gates ∧ Increases.successPerAttempt _ gates ≤ 1
    rw [success]
    exact isShare _ (Nat.le_add_right _ _)
  · change 0 ≤ Increases.retriesPerAttempt _ gates ∧ Increases.retriesPerAttempt _ gates ≤ 1
    rw [retries]
    exact isShare _ (Nat.le_add_left _ _)
  · change Increases.successPerAttempt _ gates + Increases.retriesPerAttempt _ gates = 1
    rw [success, retries, Exact.number_add, ← add_div, ← Nat.cast_add, Exact.one_eq]
    exact congrArg _ (div_self (Nat.cast_ne_zero.mpr tells.attempts_pos.ne'))

/-- Where the busy ratio is measured, a throughput is what two shares leave of a speed. -/
theorem boundsThroughput_of_measured (measured : gates.assumeMeanBusyRatio = false) :
    (between earlier later norm gates).BoundsThroughput := by
  let d : Increases (Exact K) := .between earlier.counters later.counters
  let interval := between earlier later norm gates
  have busyRatio_eq : interval.busyRatio = d.measuredBusyRatio gates :=
    if_neg (Bool.eq_false_iff.mp measured)
  have busyRatio_mem (defined : interval.busyRatio ≠ .undefined) :
      0 ≤ interval.busyRatio ∧ interval.busyRatio ≤ 1 := by
    rw [busyRatio_eq] at defined ⊢
    exact (Increases.undefined_or_measuredBusyRatio_mem d).resolve_left defined
  have txThroughput_iff : interval.txThroughput ≠ .undefined ↔
      interval.linkSpeed ≠ .undefined ∧ interval.retriesPerAttempt ≠ .undefined ∧
        interval.busyRatio ≠ .undefined := by
    change interval.linkSpeed * (1 - interval.retriesPerAttempt) * (1 - interval.busyRatio) ≠ _ ↔ _
    simp only [Exact.mul_ne_undefined_iff, Exact.one_sub_ne_undefined_iff, and_assoc]
  have rxThroughput_iff : interval.rxThroughput ≠ .undefined ↔
      interval.rxSpeed ≠ .undefined ∧ interval.busyRatio ≠ .undefined := by
    change interval.rxSpeed * (1 - interval.busyRatio) ≠ _ ↔ _
    simp only [Exact.mul_ne_undefined_iff, Exact.one_sub_ne_undefined_iff]
  refine ⟨busyRatio_mem, txThroughput_iff, fun defined => ?_, rxThroughput_iff, fun defined => ?_⟩
  · -- Two shares are taken away one after the other, and the first of them is one only because
    -- it is defined.
    obtain ⟨speed, retries, busy⟩ := txThroughput_iff.mp defined
    have tells := Increases.shares_ne_undefined_iff.2.mp retries
    have shares := splitsAttempts_of_tells norm tells
    have kept := Exact.mul_one_sub_mem (Increases.nonneg_of_speed speed) shares.retries_mem
    have free := Exact.mul_one_sub_mem kept.1 (busyRatio_mem busy)
    exact ⟨free.1, Exact.le_trans free.2 kept.2⟩
  · obtain ⟨speed, busy⟩ := rxThroughput_iff.mp defined
    exact Exact.mul_one_sub_mem (Increases.nonneg_of_speed speed) (busyRatio_mem busy)

/-- The shares of the attempts are defined exactly if the counters say enough about them, and split
the attempts then. Where the busy ratio is measured, throughputs are bounded by the speeds. -/
theorem ratios_between (earlier later : Sample) (norm : Normalization (Exact K))
    (gates : Settings.Gates (Exact K)) :
    let interval := between earlier later norm gates
    let tells := gates.TellsAttempts earlier.counters later.counters
    (interval.successPerAttempt ≠ .undefined ↔ tells) ∧
      (interval.retriesPerAttempt ≠ .undefined ↔ tells) ∧
      (tells → interval.SplitsAttempts) ∧
      (gates.assumeMeanBusyRatio = false → interval.BoundsThroughput) := by
  intro interval tells
  have defined : (interval.successPerAttempt ≠ .undefined ↔ tells) ∧
      (interval.retriesPerAttempt ≠ .undefined ↔ tells) := Increases.shares_ne_undefined_iff
  exact ⟨defined.1, defined.2, splitsAttempts_of_tells norm, boundsThroughput_of_measured norm⟩

/-- One attempt of five is a retry, and half of the time the channel is busy. So of a speed of
72 Mbps four fifths and then a half are left. -/
theorem ratios_between_busy_channel :
    let counters (n : ℕ) : Counters :=
      { txSuccess := 20 * n, txRetries := 5 * n, rxSuccess := 30 * n,
        radioOnChannelMs := 800 * n, busyOnChannelMs := 400 * n }
    let gates : Settings.Gates (Exact ℚ) := { Settings.Gates.defaults with
      assumeMeanBusyRatio := false }
    let interval := between { counters := counters 1 }
      { txSpeedMbps := 72, rxSpeedMbps := 65, counters := counters 2 } .identity gates
    gates.TellsAttempts (counters 1) (counters 2) ∧ interval.SplitsAttempts ∧
      interval.BoundsThroughput ∧ interval.txThroughput = .number (72 * (4 / 5) * (1 / 2)) := by
  intro counters gates interval
  obtain ⟨-, retries, splits, bounds⟩ := ratios_between { counters := counters 1 }
    { txSpeedMbps := 72, rxSpeedMbps := 65, counters := counters 2 } .identity gates
  have tells := retries.mp (by decide +kernel)
  exact ⟨tells, splits tells, bounds rfl, by decide +kernel⟩

end Interval

end LinkQuality
