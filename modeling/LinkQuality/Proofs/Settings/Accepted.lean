import LinkQuality.Binary64.Arithmetic
import LinkQuality.Settings.Overrides
import Mathlib.Tactic.SplitIfs

/-!
# Accepted settings

A document is accepted if its settings pass every check, and then it leads to exactly the settings
that complete it. So whatever holds of accepted settings follows from the checks and from how the
document was completed, and nothing else has to be known of the order in which this was done.

Checks are comparisons of the numbers at hand. Where those may be undefined, to pass a check that
refuses what is below a bound is not to lie above it.

## Main definitions

* `Settings.Overrides.completed`: the settings that complete a document
* `Settings.Overrides.Passes`: the checks

## Main results

* `Settings.Overrides.resolve_eq_ok_iff`: what accepted settings are
* `Settings.Overrides.exists_holdBelow_eq`: the hold of accepted settings, for scoring by trend
* `Settings.Overrides.resolve_empty`: the standard settings are accepted
-/

namespace LinkQuality.Settings

section Guards

variable {ε β γ : Type}

theorem bind_eq_ok_iff {first : Except ε β} {second : β → Except ε γ} {result : γ} :
    (first >>= second) = .ok result ↔ ∃ value, first = .ok value ∧ second value = .ok result := by
  cases first with
  | error fault => simp [bind, Except.bind]
  | ok value => simp [bind, Except.bind]

theorem require_eq_ok_iff {α : Type} {condition : Bool} {setting : Setting} {reason : Reason α}
    {passed : Unit} : require condition setting reason = .ok passed ↔ condition = true := by
  unfold require
  split_ifs with holds
  · simp [holds]
  · simp [holds]

end Guards

variable {α : Type} [Scalar α]

namespace Overrides

/-- The settings that complete a document, with the horizon that it leads to. -/
def completed (o : Overrides α) (horizon : Duration) : Settings α where
  method := o.method.getD (defaults : Settings α).method
  modelId := o.modelId.getD (defaults : Settings α).modelId
  polling := o.polling.complete
  gates := o.gates.complete
  evidence := o.evidence.complete
  hysteresis := o.hysteresis.complete
  trend := o.trend.complete horizon

/-- Whether the settings that complete a document pass every check. -/
structure Passes (o : Overrides α) (settings : Settings α) : Prop where
  version : o.version = 0 ∨ o.version = Settings.version
  interval : settings.polling.interval.nanoseconds ≠ 0
  threshold : 0 < settings.hysteresis.threshold
  margin : ¬ settings.hysteresis.margin < 0
  maxScore : ¬ settings.hysteresis.maxScore < settings.hysteresis.transitionScore
  horizon : horizonOf o.trend.horizonSeconds = .ok settings.trend.horizon
  probeKnob : settings.trend.probeKnob ≤ 10
  trendMaxScore_nonneg : 0 ≤ settings.trend.maxScore
  transitionScore : settings.trend.transitionScore ≤ settings.trend.maxScore
  secondaryTransitionScore : settings.trend.secondaryTransitionScore ≤ settings.trend.maxScore
  readingStd : 0 < settings.trend.readingStd
  rateTimeConstant : settings.trend.rateTimeConstant.nanoseconds ≠ 0

/-- A document is accepted exactly if the settings that complete it pass every check, and it leads
to those. -/
theorem resolve_eq_ok_iff {o : Overrides α} {settings : Settings α} :
    o.resolve = .ok settings ↔
      ∃ horizon, o.completed horizon = settings ∧ o.Passes settings := by
  rw [resolve]
  -- The version is checked by a guard of its own. All other checks are a chain of computations that
  -- have to succeed, in the order in which `Passes` names them.
  split_ifs with outdated
  · simp only [bind_eq_ok_iff, reduceCtorEq, false_and, exists_false, false_iff]
    rintro ⟨horizon, -, passes⟩
    rcases passes.version with unset | current
    · exact outdated.1 unset
    · exact outdated.2 current
  · have version : o.version = 0 ∨ o.version = Settings.version := by omega
    simp only [bind_eq_ok_iff, require_eq_ok_iff, exists_const, pure, Except.pure,
      Except.ok.injEq, bne_iff_ne, decide_eq_true_eq, Bool.not_eq_true', decide_eq_false_iff_not,
      Bool.and_eq_true]
    constructor
    · rintro ⟨interval, threshold, margin, maxScore, horizon, given, probeKnob, nonneg,
        ⟨transition, secondary⟩, readingStd, rateTimeConstant, rfl⟩
      exact ⟨horizon, rfl, version, interval, threshold, margin, maxScore, given, probeKnob, nonneg,
        transition, secondary, readingStd, rateTimeConstant⟩
    · rintro ⟨horizon, rfl, passes⟩
      exact ⟨passes.interval, passes.threshold, passes.margin, passes.maxScore, horizon,
        passes.horizon, passes.probeKnob, passes.trendMaxScore_nonneg,
        ⟨passes.transitionScore, passes.secondaryTransitionScore⟩, passes.readingStd,
        passes.rateTimeConstant, rfl⟩

/-- The hold of accepted settings is a number of milliseconds that a clock can show. -/
theorem exists_holdBelow_eq {o : Overrides α} {settings : Settings α}
    (accepted : o.resolve = .ok settings) :
    ∃ holdMs, settings.trend.holdBelow = .ofCount holdMs := by
  obtain ⟨horizon, rfl, -⟩ := resolve_eq_ok_iff.mp accepted
  cases given : o.trend.holdBelowMs with
  | none => exact ⟨9000, by rw [completed, TrendOverrides.complete, given]; rfl⟩
  | some holdMs => exact ⟨holdMs, by simp [completed, TrendOverrides.complete, given]⟩

/-- An empty document leads to the standard settings. -/
theorem resolve_empty : ({} : Overrides Float).resolve = .ok .defaults := by
  refine resolve_eq_ok_iff.mpr ⟨.ofSeconds 15, rfl, ?_⟩
  constructor
  case horizon => rfl
  all_goals decide +kernel

end Overrides

end LinkQuality.Settings
