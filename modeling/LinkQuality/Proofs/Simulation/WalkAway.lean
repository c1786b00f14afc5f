import Mathlib.Algebra.Order.Floor.Div
import LinkQuality.Proofs.Simulation.Course
import LinkQuality.Simulation.Scenario

/-!
# Walking away

The trace of a station whose user walks away. The signal holds for as many steps as cover the time
before the fade, goes along a line for as many as cover the fade, and stays at the level it has come
to for as many as cover the time after it. Each of these times is rounded up to whole steps, and the
fade takes at least one.

The signal strength is a whole number, so it follows the line to within half a decibel. Rounding
keeps the order, so it never turns back on its way, and never leaves the levels it goes between,
whichever of them is the higher one.

Steps are counted in 64 bits, and the clock has as many. Of a walk it is assumed that both are
enough for it.

## Main definitions

* `Duration.stepCount`: the number of steps that cover a duration
* `WalkAway.stepCount`, `WalkAway.Fits`: the number of all steps, and whether it and the clock fit
* `WalkAway.fadeShare`, `WalkAway.faded`: how far the fade has gone, and the signal strength then
* `WalkAway.course`: the conditions of all steps
* `WalkAway.ShowsFade`: what a sample shows of the walk

## Main results

* `Station.exists_conditions_of_getElem?`: the sample of a step, if there is nothing but polls
* `stepsIn_exact`: the steps that are counted are those that cover the duration
* `WalkAway.faded_mono`, `WalkAway.faded_anti`: the signal does not turn back
* `WalkAway.samples_fade`: the trace of a walk
-/

namespace LinkQuality

/-- The least number of steps that cover a duration. -/
def Duration.stepCount (duration step : Duration) : ℕ := duration.nanoseconds ⌈/⌉ step.nanoseconds

namespace Simulation

variable {K : Type} [Field K]

/-! ### Courses of polls -/

section Polls

omit [Field K] in
@[simp] theorem polled_map_poll (conditions : List (Conditions K)) :
    polled (conditions.map .poll) = conditions := by
  simp [polled, List.filterMap_map, Function.comp_def, Event.conditions?]

omit [Field K] in
@[simp] theorem stalledMs_map_poll (conditions : List (Conditions K)) :
    stalledMs (conditions.map .poll) = 0 := by
  simp [stalledMs, Function.comp_def, Event.stalledMs]

omit [Field K] in
theorem elapsedMs_map_poll (step : Duration) (conditions : List (Conditions K)) :
    elapsedMs step (conditions.map .poll) =
      conditions.length * min step.millis (2 ^ 64 - 1) := by
  rw [elapsedMs, polled_map_poll, stalledMs_map_poll, Nat.add_zero]

namespace Station

variable [LinearOrder K] [FloorRing K] {course : List (Conditions K)} {sample : Sample} {n : ℕ}

/-- The sample of a step is taken in the conditions of that step, after all steps up to it. -/
theorem exists_conditions_of_getElem? {station : Station (Exact K)}
    (taken : (station.trace (course.map .poll))[n]? = some sample) :
    ∃ conditions, course[n]? = some conditions ∧
      sample = (station.after ((course.take (n + 1)).map .poll)).sample conditions.exact := by
  induction course generalizing station n with
  | nil => cases taken
  | cons conditions course ih =>
    cases n with
    | zero => exact ⟨conditions, rfl, (Option.some.inj taken).symm⟩
    | succ n => exact ih taken

variable [IsStrictOrderedRing K] {step : Duration} {accessPoint : AccessPoint}

/-- The clock shows the steps, if it can show all of them. -/
theorem timestampMs_of_getElem?
    (taken : ((start step accessPoint).trace (course.map .poll))[n]? = some sample)
    (fits : course.length * step.millis < 2 ^ 64) :
    sample.timestampMs = (n + 1) * step.millis := by
  obtain ⟨conditions, here, rfl⟩ := exists_conditions_of_getElem? taken
  have inRange : n + 1 ≤ course.length := (List.getElem?_eq_some_iff.mp here).1
  have upTo : (n + 1) * step.millis < 2 ^ 64 := (Nat.mul_le_mul_right _ inRange).trans_lt fits
  have one : step.millis ≤ (n + 1) * step.millis := Nat.le_mul_of_pos_left _ n.succ_pos
  have inSteps : step.millis ≤ 2 ^ 64 - 1 := Nat.le_sub_one_of_lt (one.trans_lt upTo)
  have elapsed : elapsedMs step ((course.take (n + 1)).map .poll) = (n + 1) * step.millis := by
    rw [elapsedMs_map_poll, List.length_take_of_le inRange, min_eq_left inSteps]
  have clock := nowMs_after step accessPoint (elapsed ▸ upTo)
  rw [elapsed] at clock
  exact clock

/-- No counter ever goes backwards. -/
theorem count_le_of_getElem? {earlier later : Sample} {m : ℕ} (n_le_m : n ≤ m)
    (taken : ((start step accessPoint).trace (course.map .poll))[n]? = some earlier)
    (takenLater : ((start step accessPoint).trace (course.map .poll))[m]? = some later)
    (tally : Tally) : tally.count earlier.counters ≤ tally.count later.counters := by
  obtain ⟨conditions, -, rfl⟩ := exists_conditions_of_getElem? taken
  obtain ⟨conditions', -, rfl⟩ := exists_conditions_of_getElem? takenLater
  -- The later sample shows the steps of the earlier one, and more.
  have more := List.take_append_drop (n + 1) (course.take (m + 1))
  rw [List.take_take, min_eq_left (Nat.add_le_add_right n_le_m 1)] at more
  rw [count_sample_after, count_sample_after, ← more, List.map_append]
  exact Tally.shown_mono (carried_le_append step tally _ _)

end Station

end Polls

/-! ### Steps -/

section Steps

variable [LinearOrder K] [FloorRing K] [IsStrictOrderedRing K]

/-- A quotient of natural numbers, rounded up. -/
theorem ceil_natCast_div (m : ℕ) {n : ℕ} (pos : 0 < n) : ⌈(m : K) / n⌉₊ = m ⌈/⌉ n := by
  refine eq_of_forall_ge_iff fun k => ?_
  rw [Nat.ceil_le, div_le_iff₀ (Nat.cast_pos.mpr pos), ceilDiv_le_iff_le_mul pos, mul_comm]
  exact_mod_cast Iff.rfl

/-- The steps that are counted are those that cover the duration, as far as there is a count for
them. -/
theorem stepsIn_exact {step : Duration} (pos : 0 < step.nanoseconds) (duration : Duration) :
    stepsIn (Exact K) duration step = min (duration.stepCount step) (2 ^ 64 - 1) := by
  have pos' : (0 : K) < step.nanoseconds := Nat.cast_pos.mpr pos
  have divisor : (step.inSeconds : K) ≠ 0 := (div_pos pos' (by norm_num)).ne'
  have quotient : (duration.inSeconds / step.inSeconds : K) =
      duration.nanoseconds / step.nanoseconds :=
    -- Both are divided by the same billion.
    div_div_div_cancel_right₀ (by norm_num) _ _
  rw [stepsIn, Exact.seconds_eq, Exact.seconds_eq, Exact.number_div divisor, quotient,
    Exact.toCount_whole_up (by positivity), ceil_natCast_div _ pos, Duration.stepCount]

end Steps

namespace WalkAway

/-- Whether steps take time, and the levels of the signal and the way from one to the other have 32
bits. -/
structure IsProper (scenario : WalkAway) : Prop where
  step_pos : 0 < scenario.step.nanoseconds
  start_fits : -0x80000000 ≤ scenario.startDbm ∧ scenario.startDbm ≤ 0x7FFFFFFF
  end_fits : -0x80000000 ≤ scenario.endDbm ∧ scenario.endDbm ≤ 0x7FFFFFFF
  way_fits : -0x80000000 ≤ scenario.endDbm - scenario.startDbm ∧
    scenario.endDbm - scenario.startDbm ≤ 0x7FFFFFFF

/-- The number of all steps of a walk. -/
def stepCount (scenario : WalkAway) : ℕ :=
  scenario.hold.stepCount scenario.step + max 1 (scenario.fade.stepCount scenario.step) +
    scenario.tail.stepCount scenario.step

/-- Whether 64 bits are enough for the number of all steps, and for the clock at the last one. -/
structure Fits (scenario : WalkAway) : Prop where
  stepCount_lt : scenario.stepCount < 2 ^ 64
  clock_lt : scenario.stepCount * scenario.step.millis < 2 ^ 64

variable [LinearOrder K]

/-! ### Progress -/

/-- How far a fade has gone at a step: a fade of so many steps, after as many in which the signal
holds. -/
def fadeShare (K : Type) [Field K] [LinearOrder K] (hold fade n : ℕ) : K :=
  min ((n - hold : ℕ) / fade) 1

section Share

variable [IsStrictOrderedRing K] {hold fade n m : ℕ}

theorem fadeShare_of_le (le : n ≤ hold) : fadeShare K hold fade n = 0 := by
  rw [fadeShare, Nat.sub_eq_zero_of_le le, Nat.cast_zero, zero_div, min_eq_left zero_le_one]

theorem fadeShare_of_ge (pos : 0 < fade) (le : hold + fade ≤ n) : fadeShare K hold fade n = 1 := by
  have pos' : (0 : K) < fade := Nat.cast_pos.mpr pos
  have past : (fade : K) ≤ (n - hold : ℕ) := Nat.cast_le.mpr (Nat.le_sub_of_add_le' le)
  exact min_eq_right ((one_le_div pos').mpr past)

/-- From the end of the hold to that of the fade, the share grows by the same amount with every
step. -/
theorem fadeShare_of_between (pos : 0 < fade) (le : n ≤ hold + fade) :
    fadeShare K hold fade n = (n - hold : ℕ) / fade := by
  have pos' : (0 : K) < fade := Nat.cast_pos.mpr pos
  have within : ((n - hold : ℕ) : K) ≤ fade := Nat.cast_le.mpr (Nat.sub_le_iff_le_add'.mpr le)
  exact min_eq_left ((div_le_one pos').mpr within)

theorem fadeShare_nonneg : 0 ≤ fadeShare K hold fade n := le_min (by positivity) zero_le_one

omit [IsStrictOrderedRing K] in
theorem fadeShare_le_one : fadeShare K hold fade n ≤ 1 := min_le_right _ _

theorem fadeShare_mono : Monotone (fadeShare K hold fade) := by
  intro n m n_le_m
  have steps : ((n - hold : ℕ) : K) ≤ (m - hold : ℕ) :=
    Nat.cast_le.mpr (Nat.sub_le_sub_right n_le_m hold)
  exact min_le_min_right 1 (div_le_div_of_nonneg_right steps (Nat.cast_nonneg _))

/-- The fade is less than half done in the first half of its steps. -/
theorem fadeShare_lt_half_iff (pos : 0 < fade) :
    fadeShare K hold fade n < 0.5 ↔ n < hold + (fade + 1) / 2 := by
  have pos' : (0 : K) < fade := Nat.cast_pos.mpr pos
  have half : (0.5 : K) = 1 / 2 := by norm_num
  have half_lt : (1 / 2 : K) < 1 := by norm_num
  -- At one the fade is more than half done, so only the quotient counts.
  have cleared : ((n - hold : ℕ) : K) / fade < 1 / 2 ↔ (n - hold) * 2 < fade := by
    rw [div_lt_div_iff₀ pos' two_pos, one_mul]
    exact_mod_cast Iff.rfl
  rw [fadeShare, half, min_lt_iff, or_iff_left half_lt.not_gt, cleared]
  omega

end Share

/-! ### The signal -/

variable (scenario : WalkAway)

/-- The level on the line when the fade has gone so far. -/
def level (share : K) : K :=
  scenario.startDbm + (scenario.endDbm - scenario.startDbm : ℤ) * share

variable [FloorRing K]

/-- The signal strength when the fade has gone so far. -/
def faded (share : K) : ℤ := Exact.wholePart (scenario.level share) .halfAway

variable [IsStrictOrderedRing K] {share later : K}

@[simp] theorem faded_zero : scenario.faded (0 : K) = scenario.startDbm := by
  rw [faded, level, mul_zero, add_zero, Exact.wholePart_intCast]

@[simp] theorem faded_one : scenario.faded (1 : K) = scenario.endDbm := by
  rw [faded, level, mul_one, ← Int.cast_add, add_sub_cancel, Exact.wholePart_intCast]

variable {scenario}

/-- A signal that fades upwards does not fall as its share of the fade grows. -/
theorem faded_mono (grows : scenario.startDbm ≤ scenario.endDbm) (le : share ≤ later) :
    scenario.faded share ≤ scenario.faded later := by
  have way : (0 : K) ≤ (scenario.endDbm - scenario.startDbm : ℤ) :=
    Int.cast_nonneg (sub_nonneg.mpr grows)
  exact Exact.wholePart_mono (add_le_add_right (mul_le_mul_of_nonneg_left le way) _) _

/-- A signal that fades downwards does not rise as its share of the fade grows. -/
theorem faded_anti (shrinks : scenario.endDbm ≤ scenario.startDbm) (le : share ≤ later) :
    scenario.faded later ≤ scenario.faded share := by
  have way : ((scenario.endDbm - scenario.startDbm : ℤ) : K) ≤ 0 :=
    Int.cast_nonpos.mpr (sub_nonpos.mpr shrinks)
  exact Exact.wholePart_mono (add_le_add_right (mul_le_mul_of_nonpos_left le way) _) _

/-- The signal stays between its first and its last level. -/
theorem faded_between (nonneg : 0 ≤ share) (le_one : share ≤ 1) :
    min scenario.startDbm scenario.endDbm ≤ scenario.faded share ∧
      scenario.faded share ≤ max scenario.startDbm scenario.endDbm := by
  rcases le_total scenario.startDbm scenario.endDbm with grows | shrinks
  · have atLeast := faded_mono grows nonneg
    have atMost := faded_mono grows le_one
    rw [faded_zero] at atLeast
    rw [faded_one] at atMost
    exact ⟨(min_le_left _ _).trans atLeast, atMost.trans (le_max_right _ _)⟩
  · have atMost := faded_anti shrinks nonneg
    have atLeast := faded_anti shrinks le_one
    rw [faded_zero] at atMost
    rw [faded_one] at atLeast
    exact ⟨(min_le_right _ _).trans atLeast, atMost.trans (le_max_left _ _)⟩

/-- The levels in between are told as they are. -/
theorem rssiAt_number (proper : scenario.IsProper) (nonneg : 0 ≤ share) (le_one : share ≤ 1) :
    scenario.rssiAt (Exact.number share) = scenario.faded share := by
  have between : min scenario.startDbm scenario.endDbm ≤ scenario.faded share ∧
      scenario.faded share ≤ max scenario.startDbm scenario.endDbm :=
    faded_between nonneg le_one
  have start_fits := proper.start_fits
  have end_fits := proper.end_fits
  -- What is between two numbers of 32 bits has 32 bits.
  have fits : -0x80000000 ≤ scenario.faded share ∧ scenario.faded share ≤ 0x7FFFFFFF := by omega
  exact Exact.toInt32_intCast fits

/-! ### The course -/

variable (scenario)

/-- The conditions when the fade has gone so far. -/
def fadedConditions (share : K) : Conditions K where
  rssiDbm := scenario.faded share
  txRate := 20 * (1 - 0.9 * share)
  rxRate := 25 * (1 - 0.9 * share)
  failureRatio := 0.01 + 0.4 * share
  retryRatio := 0.05 + 0.9 * share
  speedMbps := if share < 0.5 then 433 else 12
  busyRatio := 0.2 + 0.3 * share

/-- The conditions of all steps of a walk with given phases. -/
def course (K : Type) [Field K] [LinearOrder K] [FloorRing K] (hold fade tail : ℕ) :
    List (Conditions K) :=
  (List.range (hold + fade + tail)).map fun n =>
    scenario.fadedConditions (fadeShare K hold fade n)

omit [IsStrictOrderedRing K] in
theorem length_course (hold fade tail : ℕ) :
    (scenario.course K hold fade tail).length = hold + fade + tail := by
  rw [course, List.length_map, List.length_range]

/-- What a sample shows of a walk at a step, if the signal holds for some steps and fades for some
more: where the signal is, which link speed it has settled on, and how late it is. -/
structure ShowsFade (K : Type) [Field K] [LinearOrder K] (hold fade n : ℕ) (sample : Sample) :
    Prop where
  rssi_before : n ≤ hold → sample.rssiDbm = scenario.startDbm
  rssi_after : hold + fade ≤ n → sample.rssiDbm = scenario.endDbm
  rssi_between : min scenario.startDbm scenario.endDbm ≤ sample.rssiDbm ∧
    sample.rssiDbm ≤ max scenario.startDbm scenario.endDbm
  rssi_on_line : n ≤ hold + fade →
    |(sample.rssiDbm : K) - scenario.level ((n - hold : ℕ) / fade : K)| ≤ 1 / 2
  txSpeedMbps_eq : sample.txSpeedMbps = if n < hold + (fade + 1) / 2 then 433 else 12
  rxSpeedMbps_eq : sample.rxSpeedMbps = sample.txSpeedMbps
  timestampMs_eq : sample.timestampMs = (n + 1) * scenario.step.millis

variable {scenario} {hold fade tail n m : ℕ}

theorem conditions_number (proper : scenario.IsProper) (nonneg : 0 ≤ share) (le_one : share ≤ 1) :
    scenario.conditions (Exact.number share) = (scenario.fadedConditions share).exact := by
  rw [conditions, rssiAt_number proper nonneg le_one]
  simp only [Exact.number_lt_number, Exact.ofNat_eq, Exact.ofScientific_eq, Exact.one_eq,
    Exact.number_mul, Exact.number_sub, Exact.number_add]
  rfl

omit [IsStrictOrderedRing K] in
/-- How far the fade has gone is a number, as there is a step of it to divide by. -/
theorem progress_exact (n : ℕ) :
    scenario.progress (Exact K) n =
      .number (fadeShare K (scenario.holdSteps (Exact K)) (scenario.fadeSteps (Exact K)) n) := by
  have pos : 0 < scenario.fadeSteps (Exact K) := le_max_left 1 _
  have divisor : (scenario.fadeSteps (Exact K) : K) ≠ 0 := Nat.cast_ne_zero.mpr pos.ne'
  rw [progress, Exact.scalarOfNat_eq, Exact.scalarOfNat_eq, Exact.number_div divisor, Exact.one_eq,
    Exact.lesser_number, fadeShare]

/-- The samples are those of the course. -/
theorem samples_eq_trace (proper : scenario.IsProper) :
    scenario.samples (Exact K) =
      (Station.start scenario.step scenario.accessPoint).trace
        ((scenario.course K (scenario.holdSteps (Exact K)) (scenario.fadeSteps (Exact K))
          (scenario.tailSteps (Exact K))).map .poll) := by
  rw [samples, Station.trace]
  congr 1
  simp only [WalkAway.events, course, List.map_map]
  -- Either list has one poll for each step, in conditions that are numbers.
  refine List.map_congr_left fun n _ => ?_
  rw [progress_exact, conditions_number proper fadeShare_nonneg fadeShare_le_one]
  rfl

/-! ### Samples -/

section Samples

variable {sample later : Sample}
  (taken : ((Station.start scenario.step scenario.accessPoint).trace
    ((scenario.course K hold fade tail).map .poll))[n]? = some sample)

include taken

omit [IsStrictOrderedRing K] in
/-- A sample is taken in the conditions of its step. -/
theorem exists_station_of_getElem? :
    ∃ station : Station (Exact K),
      sample = station.sample (scenario.fadedConditions (fadeShare K hold fade n)).exact := by
  obtain ⟨conditions, here, isSample⟩ := Station.exists_conditions_of_getElem? taken
  rw [course, List.getElem?_map, Option.map_eq_some_iff] at here
  obtain ⟨index, inRange, rfl⟩ := here
  obtain ⟨_, rfl⟩ := List.getElem?_eq_some_iff.mp inRange
  rw [List.getElem_range] at isSample
  exact ⟨_, isSample⟩

omit [IsStrictOrderedRing K] in
/-- A sample shows the signal of its step. -/
theorem rssiDbm_of_getElem? :
    sample.rssiDbm = scenario.faded (fadeShare K hold fade n) := by
  obtain ⟨station, rfl⟩ := exists_station_of_getElem? taken
  rfl

/-- A sample shows the link speed of its step, which changes when half of the fade is done. -/
theorem speedMbps_of_getElem? (pos : 0 < fade) :
    sample.txSpeedMbps = (if n < hold + (fade + 1) / 2 then 433 else 12) ∧
      sample.rxSpeedMbps = sample.txSpeedMbps := by
  obtain ⟨station, rfl⟩ := exists_station_of_getElem? taken
  exact ⟨if_congr (fadeShare_lt_half_iff pos) rfl rfl, rfl⟩

/-- A sample shows how far the walk has come. -/
theorem showsFade_of_getElem? (pos : 0 < fade)
    (fits : (hold + fade + tail) * scenario.step.millis < 2 ^ 64) :
    scenario.ShowsFade K hold fade n sample := by
  have rssi := rssiDbm_of_getElem? taken
  obtain ⟨txSpeed, rxSpeed⟩ := speedMbps_of_getElem? taken pos
  refine
    { rssi_before := fun le => ?_
      rssi_after := fun le => ?_
      rssi_between := ?_
      rssi_on_line := fun le => ?_
      txSpeedMbps_eq := txSpeed
      rxSpeedMbps_eq := rxSpeed
      timestampMs_eq := Station.timestampMs_of_getElem? taken (by rwa [length_course]) }
  · rw [rssi, fadeShare_of_le le, faded_zero]
  · rw [rssi, fadeShare_of_ge pos le, faded_one]
  · rw [rssi]
    exact faded_between fadeShare_nonneg fadeShare_le_one
  · rw [rssi, ← fadeShare_of_between pos le]
    exact Exact.abs_wholePart_halfAway_sub_le _

/-- The signal of a later sample is as far on its way or farther. -/
theorem rssiDbm_le_of_getElem? (n_le_m : n ≤ m)
    (takenLater : ((Station.start scenario.step scenario.accessPoint).trace
      ((scenario.course K hold fade tail).map .poll))[m]? = some later) :
    (scenario.startDbm ≤ scenario.endDbm → sample.rssiDbm ≤ later.rssiDbm) ∧
      (scenario.endDbm ≤ scenario.startDbm → later.rssiDbm ≤ sample.rssiDbm) := by
  have further : fadeShare K hold fade n ≤ fadeShare K hold fade m := fadeShare_mono n_le_m
  rw [rssiDbm_of_getElem? taken, rssiDbm_of_getElem? takenLater]
  exact ⟨fun grows => faded_mono grows further, fun shrinks => faded_anti shrinks further⟩

end Samples

/-- The steps of each phase are counted in full, if all of them together fit. -/
theorem phases_of_fits (proper : scenario.IsProper) (fits : scenario.Fits) :
    scenario.holdSteps (Exact K) = scenario.hold.stepCount scenario.step ∧
      scenario.fadeSteps (Exact K) = max 1 (scenario.fade.stepCount scenario.step) ∧
      scenario.tailSteps (Exact K) = scenario.tail.stepCount scenario.step := by
  have total := fits.stepCount_lt
  rw [stepCount] at total
  rw [holdSteps, fadeSteps, tailSteps, stepsIn_exact proper.step_pos,
    stepsIn_exact proper.step_pos, stepsIn_exact proper.step_pos]
  omega

/-- The trace of a walk away, if 64 bits are enough for its steps and its time. There are as many
samples as steps that cover the time before the fade, the fade, which takes one at least, and the
time after it. Up to the beginning of the fade the signal is at its first level, from its end on it
is at its last one, and in between it goes along the line, to within half a decibel, without leaving
the two levels or turning back. The link speed changes once at most, when half of the fade is done.
The clock shows the steps, and no counter ever goes backwards. -/
theorem samples_fade (proper : scenario.IsProper) (fits : scenario.Fits) :
    let samples := scenario.samples (Exact K)
    let hold := scenario.hold.stepCount scenario.step
    let fade := max 1 (scenario.fade.stepCount scenario.step)
    let tail := scenario.tail.stepCount scenario.step
    samples.length = hold + fade + tail ∧
      (∀ n sample, samples[n]? = some sample → scenario.ShowsFade K hold fade n sample) ∧
      ∀ (n m : ℕ) (earlier later : Sample), n ≤ m → samples[n]? = some earlier →
        samples[m]? = some later →
        (scenario.startDbm ≤ scenario.endDbm → earlier.rssiDbm ≤ later.rssiDbm) ∧
        (scenario.endDbm ≤ scenario.startDbm → later.rssiDbm ≤ earlier.rssiDbm) ∧
        ∀ tally : Tally, tally.count earlier.counters ≤ tally.count later.counters := by
  intro samples hold fade tail
  have pos : 0 < fade := le_max_left 1 _
  have isTrace : samples = (Station.start scenario.step scenario.accessPoint).trace
      ((scenario.course K hold fade tail).map .poll) := by
    have isTrace := samples_eq_trace (K := K) proper
    obtain ⟨holdSteps, fadeSteps, tailSteps⟩ := phases_of_fits (K := K) proper fits
    rwa [holdSteps, fadeSteps, tailSteps] at isTrace
  rw [isTrace]
  refine ⟨?_, ?_, ?_⟩
  · rw [Station.length_trace, polled_map_poll, length_course]
  · intro n sample taken
    exact showsFade_of_getElem? taken pos fits.clock_lt
  · intro n m earlier later n_le_m taken takenLater
    obtain ⟨grows, shrinks⟩ := rssiDbm_le_of_getElem? taken n_le_m takenLater
    exact ⟨grows, shrinks, Station.count_le_of_getElem? n_le_m taken takenLater⟩

/-- A signal that comes back by an odd number of decibels, from a level below zero. The time before
it is shorter than a step, and no time is a multiple of one. -/
theorem samples_fade_coming_back :
    let scenario : WalkAway :=
      { step := .ofSeconds 3
        accessPoint := usualAccessPoint
        hold := .ofMillis 1
        fade := .ofSeconds 5
        tail := .ofSeconds 7
        startDbm := -81
        endDbm := -56 }
    let samples := scenario.samples (Exact ℚ)
    scenario.IsProper ∧ scenario.Fits ∧ samples.length = 6 ∧
      (∀ n sample, samples[n]? = some sample → scenario.ShowsFade ℚ 1 2 n sample) ∧
      ∀ (n m : ℕ) (earlier later : Sample), n ≤ m → samples[n]? = some earlier →
        samples[m]? = some later → earlier.rssiDbm ≤ later.rssiDbm ∧
          ∀ tally : Tally, tally.count earlier.counters ≤ tally.count later.counters := by
  intro scenario samples
  have proper : scenario.IsProper := ⟨by decide, by decide, by decide, by decide⟩
  have hold : scenario.hold.stepCount scenario.step = 1 := by decide
  have fade : max 1 (scenario.fade.stepCount scenario.step) = 2 := by decide
  have tail : scenario.tail.stepCount scenario.step = 3 := by decide
  have fits : scenario.Fits := ⟨by decide, by decide⟩
  obtain ⟨length, each, inOrder⟩ := samples_fade (K := ℚ) proper fits
  rw [hold, fade, tail] at length
  rw [hold, fade] at each
  refine ⟨proper, fits, length, each, ?_⟩
  intro n m earlier later n_le_m taken takenLater
  obtain ⟨grows, -, count_le⟩ := inOrder n m earlier later n_le_m taken takenLater
  exact ⟨grows (by decide), count_le⟩

end WalkAway

end Simulation

end LinkQuality
