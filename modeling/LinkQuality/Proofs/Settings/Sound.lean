import LinkQuality.Proofs.Binary64.Order
import LinkQuality.Proofs.Settings.Accepted
import LinkQuality.Settings.Document

/-!
# Sound settings

What scoring relies on is that the settings of a document are in order: times and deviations are
positive, every transition can be reached, and the longest gap between two samples is the time of a
poll and its answer.

The checks ensure this of all that can be compared. A check that demands something is not passed by
an undefined number, but one that refuses something is, and TOML can write undefined numbers. Two
checks are of that kind, so a document is accepted with a margin, a best score or a transition score
that is undefined. The longest gap is a 64-bit count, and the two times that make it up are not
bounded together, so it can be less than either of them.

## Main definitions

* `Settings.IsSound`: what scoring relies on

## Main results

* `Settings.isSound_iff`: which accepted settings are sound
-/

namespace LinkQuality.Settings

/-- What scoring relies on. -/
structure IsSound (settings : Settings Float) : Prop where
  interval_pos : 0 < settings.polling.interval.nanoseconds
  threshold_pos : 0 < settings.hysteresis.threshold
  margin_nonneg : 0 ≤ settings.hysteresis.margin
  transitionScore_le : settings.hysteresis.transitionScore ≤ settings.hysteresis.maxScore
  probeKnob_le : settings.trend.probeKnob ≤ 10
  trendMaxScore_nonneg : 0 ≤ settings.trend.maxScore
  trendTransitionScore_le : settings.trend.transitionScore ≤ settings.trend.maxScore
  secondaryTransitionScore_le : settings.trend.secondaryTransitionScore ≤ settings.trend.maxScore
  readingStd_pos : 0 < settings.trend.readingStd
  rateTimeConstant_pos : 0 < settings.trend.rateTimeConstant.nanoseconds
  maxGapMs_eq : settings.polling.maxGapMs =
    settings.polling.interval.millis + settings.polling.delay.millis

/-! ### The longest gap -/

namespace Polling

/-- Whether the times of polling are whole numbers of milliseconds. -/
def IsWhole (polling : Polling) : Prop :=
  ∃ intervalMs delayMs, polling = ⟨.ofMillis intervalMs, .ofMillis delayMs⟩

/-- The longest gap is the sum of both times as long as a 64-bit count holds it. -/
theorem IsWhole.maxGapMs_eq_iff {polling : Polling} (whole : polling.IsWhole) :
    polling.maxGapMs = polling.interval.millis + polling.delay.millis ↔
      polling.interval.millis + polling.delay.millis < 0x10000000000000000 := by
  obtain ⟨intervalMs, delayMs, rfl⟩ := whole
  have sum : ((.ofMillis intervalMs : Duration) + .ofMillis delayMs).millis =
      (Duration.ofMillis intervalMs).millis + (Duration.ofMillis delayMs).millis := by
    change (intervalMs * 1000000 + delayMs * 1000000) / 1000000 =
      intervalMs * 1000000 / 1000000 + delayMs * 1000000 / 1000000
    omega
  rw [maxGapMs, Duration.clockMillis, sum]
  exact Nat.mod_eq_iff_lt (by decide)

end Polling

/-- A document gives times in milliseconds, as do the defaults. -/
theorem PollingOverrides.isWhole_complete (o : PollingOverrides) : o.complete.IsWhole := by
  refine ⟨(o.intervalMs.map UInt64.toNat).getD 3000, (o.delayMs.map UInt64.toNat).getD 3000, ?_⟩
  rcases o with ⟨_ | intervalMs, _ | delayMs⟩ <;> rfl

/-! ### Accepted settings -/

/-- A document is accepted with the defaults or with the settings that it completes to. Either way
they pass all checks. -/
theorem exists_passes_of_ofText {text : String} {settings : Settings Float}
    (accepted : ofText text = .ok settings) :
    ∃ overrides horizon, Overrides.completed overrides horizon = settings ∧
      overrides.Passes settings := by
  unfold ofText ofChars at accepted
  split_ifs at accepted with blank
  · -- A blank document says nothing, and the defaults complete that.
    obtain rfl := Except.ok.inj accepted
    exact ⟨{}, Overrides.resolve_eq_ok_iff.mp rfl⟩
  · cases read : (Toml.readChars? text.toList).bind Overrides.ofEntries? with
    | none => simp [read] at accepted
    | some overrides =>
      rw [read] at accepted
      exact ⟨overrides, Overrides.resolve_eq_ok_iff.mp accepted⟩

/-- Accepted settings are sound exactly if the numbers that are only checked not to be too small are
defined, and the longest gap is one that can be counted. -/
theorem isSound_iff {text : String} {settings : Settings Float}
    (accepted : ofText text = .ok settings) :
    settings.IsSound ↔
      settings.hysteresis.margin.isNaN = false ∧
      settings.hysteresis.maxScore.isNaN = false ∧
      settings.hysteresis.transitionScore.isNaN = false ∧
      settings.polling.interval.millis + settings.polling.delay.millis < 0x10000000000000000 := by
  obtain ⟨overrides, horizon, rfl, passes⟩ := exists_passes_of_ofText accepted
  have whole : (overrides.completed horizon).polling.IsWhole := overrides.polling.isWhole_complete
  constructor
  · intro sound
    have margin := (Binary64.le_iff_not_lt.mp sound.margin_nonneg).2
    have scores := (Binary64.le_iff_not_lt.mp sound.transitionScore_le).2
    exact ⟨margin.1, scores.1, scores.2, whole.maxGapMs_eq_iff.mp sound.maxGapMs_eq⟩
  · -- All but these four conditions have been checked when the settings were accepted.
    rintro ⟨margin, maxScore, transitionScore, fits⟩
    constructor
    · exact Nat.pos_of_ne_zero passes.interval
    · exact passes.threshold
    · exact Binary64.le_iff_not_lt.mpr ⟨passes.margin, margin, rfl⟩
    · exact Binary64.le_iff_not_lt.mpr ⟨passes.maxScore, maxScore, transitionScore⟩
    · exact passes.probeKnob
    · exact passes.trendMaxScore_nonneg
    · exact passes.transitionScore
    · exact passes.secondaryTransitionScore
    · exact passes.readingStd
    · exact Nat.pos_of_ne_zero passes.rateTimeConstant
    · exact whole.maxGapMs_eq_iff.mpr fits

/-- What holds of the outcome of a computation holds of its result. -/
theorem exists_ok_of_any {ε β : Type} {outcome : Except ε β} {condition : β → Bool}
    (holds : outcome.toOption.any condition = true) :
    ∃ value, outcome = .ok value ∧ condition value = true := by
  cases outcome with
  | error fault => exact absurd holds Bool.false_ne_true
  | ok value => exact ⟨value, rfl, holds⟩

/-- A poll whose answer takes no time. -/
theorem isSound_iff_no_delay :
    ∃ settings, ofText "[window]\npolling_delay_ms = 0" = .ok settings ∧ settings.IsSound := by
  have evaluated : (ofText "[window]\npolling_delay_ms = 0").toOption.any (fun settings =>
      !settings.hysteresis.margin.isNaN && !settings.hysteresis.maxScore.isNaN &&
        !settings.hysteresis.transitionScore.isNaN && settings.polling.interval.millis +
          settings.polling.delay.millis < 0x10000000000000000) = true := by
    decide +kernel
  obtain ⟨settings, accepted, defined⟩ := exists_ok_of_any evaluated
  refine ⟨settings, accepted, (isSound_iff accepted).mpr ?_⟩
  simpa [and_assoc] using defined

/-- An undefined margin is accepted. -/
theorem not_isSound_undefined_margin :
    ¬ ∀ text settings, ofText text = .ok settings → settings.IsSound := by
  intro allSound
  have evaluated : (ofText "[hysteresis]\nthreshold_hysteresis = nan").toOption.any
      (fun settings => settings.hysteresis.margin.isNaN) = true := by
    decide +kernel
  obtain ⟨settings, accepted, undefined⟩ := exists_ok_of_any evaluated
  have nonneg := (allSound _ settings accepted).margin_nonneg
  have defined := (Binary64.le_iff_not_lt.mp nonneg).2.1
  rw [undefined] at defined
  exact Bool.noConfusion defined

end LinkQuality.Settings
