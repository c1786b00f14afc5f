import LinkQuality.Interval
import LinkQuality.Proofs.Undefined

/-!
# Counters that start again

A counter that went backwards was started again, and how far it went since the sample before is not
known. Its increase is undefined, and so are the rates that are computed from it.

Attempts to transmit are successes and retries, so they are unknown if either counter was started
again. Of the rates that are computed from them one is defined nevertheless. The transmission time
of an attempt is set to zero wherever the attempts tell nothing. This is meant for too little
traffic and for saturation, but an unknown number of attempts takes the same branch, so a station
that was restarted seems to transmit in no time.

## Main definitions

* `Counters.RestartsTx`: whether a counter of the attempts to transmit was started again
* `Interval.LacksRates`, `Interval.LacksAttempts`: whether nothing computed from them is defined, the
  transmission time of an attempt left out or not

## Main results

* `Increases.le_ofCounter_iff`, `Increases.ofCounter_le_iff`: comparisons with an increase
* `Interval.lacksRates_of_restart`, `Interval.txTimePerAttempt_of_restart`: the rates after a restart
* `Interval.lacksRates_iff_restart`: in double precision nothing but a restart makes the attempts
  unknown, and the transmission time of an attempt is defined even then
-/

namespace LinkQuality

open Scalar RemembersUndefined

variable {α : Type} [Scalar α] [Undefined α] [RemembersUndefined α]

/-! ### Increases -/

namespace Increases

variable {x : α} {earlier later : ℕ}

theorem isUndefined_ofCounter (backwards : later < earlier) :
    isUndefined (ofCounter earlier later : α) = true := by
  rw [ofCounter, if_neg (not_le_of_gt backwards)]
  exact isUndefined_undefined

/-- An increase reaches a number only if the counter did not go backwards. -/
theorem le_ofCounter_iff :
    x ≤ ofCounter earlier later ↔ earlier ≤ later ∧ x ≤ Scalar.ofNat (later - earlier) := by
  rcases le_or_gt earlier later with forward | backwards
  · simp [ofCounter, forward]
  · exact iff_of_false (not_le (isUndefined_ofCounter backwards) x).2 fun both =>
      not_le_of_gt backwards both.1

/-- An increase stays within a number only if the counter did not go backwards. -/
theorem ofCounter_le_iff :
    ofCounter earlier later ≤ x ↔ earlier ≤ later ∧ Scalar.ofNat (later - earlier) ≤ x := by
  rcases le_or_gt earlier later with forward | backwards
  · simp [ofCounter, forward]
  · exact iff_of_false (not_le (isUndefined_ofCounter backwards) x).1 fun both =>
      not_le_of_gt backwards both.1

end Increases

/-- Whether a counter of the attempts to transmit went backwards. -/
def Counters.RestartsTx (earlier later : Counters) : Prop :=
  later.txSuccess < earlier.txSuccess ∨ later.txRetries < earlier.txRetries

instance (earlier later : Counters) : Decidable (earlier.RestartsTx later) :=
  inferInstanceAs (Decidable (_ ∨ _))

namespace Increases

variable {earlier later : Counters}

theorem isUndefined_txAttempts (restarts : earlier.RestartsTx later) :
    isUndefined (between earlier later : Increases α).txAttempts = true := by
  rcases restarts with backwards | backwards
  · exact isUndefined_add_left (isUndefined_ofCounter backwards) _
  · exact isUndefined_add_right _ (isUndefined_ofCounter backwards)

/-- In double precision the attempts are known unless there was a restart, for two counts have a
sum even if it is too large for a number. -/
theorem isUndefined_txAttempts_iff :
    isUndefined (between earlier later : Increases Float).txAttempts = true ↔
      earlier.RestartsTx later := by
  refine ⟨fun unknown => ?_, isUndefined_txAttempts⟩
  by_contra goesOn
  obtain ⟨success, retries⟩ := not_or.mp goesOn
  have sum : (between earlier later : Increases Float).txAttempts =
      Float.ofNat (later.txSuccess - earlier.txSuccess) +
        Float.ofNat (later.txRetries - earlier.txRetries) :=
    congrArg₂ (· + ·) (if_pos (not_lt.mp success)) (if_pos (not_lt.mp retries))
  rw [sum] at unknown
  exact Bool.noConfusion (unknown.symm.trans (Binary64.isNaN_ofNat_add_ofNat _ _))

/-- An unknown number of attempts tells nothing. -/
theorem attemptsTell_of_restart (restarts : earlier.RestartsTx later) (gates : Settings.Gates α) :
    (between earlier later : Increases α).attemptsTell gates = false := by
  rw [attemptsTell, isUndefined_txAttempts restarts]
  rfl

omit [RemembersUndefined α] [Undefined α] in
/-- What sets the transmission time of an attempt to zero: an unknown number of attempts as well as
a small one and saturation. -/
theorem txTimePerAttempt_eq (d : Increases α) (gates : Settings.Gates α) :
    d.txTimePerAttempt gates =
      if isUndefined d.txAttempts ∨ d.hasFewAttempts gates ∨ d.isSaturated gates then 0
      else d.radioTx / d.txAttempts := by
  simp only [txTimePerAttempt, attemptsTell, ← Bool.or_eq_true, ← Bool.or_assoc,
    Bool.not_eq_true', ← Bool.not_eq_true, ite_not]

/-- The radio time per attempt counts receptions as well, and with an unknown number of
transmissions the sum is unknown, not zero. -/
theorem isUndefined_radioOnPerAttempt (restarts : earlier.RestartsTx later) :
    isUndefined (between earlier later : Increases α).radioOnPerAttempt = true := by
  let d : Increases α := between earlier later
  have unknown : isUndefined (d.txSuccess + d.rxSuccess + d.txRetries) = true := by
    rcases restarts with backwards | backwards
    · exact isUndefined_add_left (isUndefined_add_left (isUndefined_ofCounter backwards) _) _
    · exact isUndefined_add_right _ (isUndefined_ofCounter backwards)
  have notZero : (d.txSuccess + d.rxSuccess + d.txRetries == 0) = false := beq_eq_false unknown 0
  change isUndefined (if d.txSuccess + d.rxSuccess + d.txRetries == 0 then undefined
    else (d.radioOn - d.scan) / (d.txSuccess + d.rxSuccess + d.txRetries)) = true
  rw [notZero, if_neg Bool.false_ne_true]
  exact isUndefined_div_right _ unknown

end Increases

/-! ### Rates -/

namespace Interval

omit [RemembersUndefined α] [Undefined α] in
/-- Whether the number of attempts to transmit is undefined, and what is computed from it but the
transmission time of an attempt. -/
structure LacksRates (interval : Interval α) : Prop where
  txAttempts : isUndefined interval.txAttempts = true
  successPerAttempt : isUndefined interval.successPerAttempt = true
  retriesPerAttempt : isUndefined interval.retriesPerAttempt = true
  radioOnPerAttempt : isUndefined interval.radioOnPerAttempt = true
  txThroughput : isUndefined interval.txThroughput = true

/-- Whether nothing that is computed from the number of attempts to transmit is defined. -/
structure LacksAttempts (interval : Interval α) : Prop extends interval.LacksRates where
  txTimePerAttempt : isUndefined interval.txTimePerAttempt = true

variable {earlier later : Sample} (norm : Normalization α) (gates : Settings.Gates α)

/-- After a restart all rates but the transmission time are undefined. -/
theorem lacksRates_of_restart (restarts : earlier.counters.RestartsTx later.counters) :
    (between earlier later norm gates).LacksRates := by
  have tellsNothing := Increases.attemptsTell_of_restart restarts gates
  have retries : isUndefined (between earlier later norm gates).retriesPerAttempt = true := by
    change isUndefined (Increases.retriesPerAttempt _ gates) = true
    rw [Increases.retriesPerAttempt, tellsNothing, if_neg Bool.false_ne_true]
    exact isUndefined_undefined
  exact {
    txAttempts := Increases.isUndefined_txAttempts restarts
    successPerAttempt := by
      change isUndefined (Increases.successPerAttempt _ gates) = true
      rw [Increases.successPerAttempt, tellsNothing, if_neg Bool.false_ne_true]
      exact isUndefined_undefined
    retriesPerAttempt := retries
    radioOnPerAttempt := Increases.isUndefined_radioOnPerAttempt restarts
    -- The throughput is undefined because the share of retries is.
    txThroughput :=
      isUndefined_mul_left (isUndefined_mul_right _ (isUndefined_sub_right _ retries)) _ }

/-- After a restart the transmission time per attempt is zero, where the other rates are undefined.
-/
theorem txTimePerAttempt_of_restart (restarts : earlier.counters.RestartsTx later.counters) :
    (between earlier later norm gates).txTimePerAttempt = 0 := by
  change Increases.txTimePerAttempt _ gates = 0
  rw [Increases.txTimePerAttempt, Increases.attemptsTell_of_restart restarts gates,
    if_neg Bool.false_ne_true]

/-- Nothing but a restart makes all rates undefined, the transmission time left out. With it they
never are: it is zero after a restart, and the attempts are known otherwise. -/
theorem lacksRates_iff_restart (earlier later : Sample) (norm : Normalization Float)
    (gates : Settings.Gates Float) :
    let d : Increases Float := .between earlier.counters later.counters
    let interval := between earlier later norm gates
    let restarts := earlier.counters.RestartsTx later.counters
    (interval.LacksRates ↔ restarts) ∧ ¬ interval.LacksAttempts ∧
      interval.txTimePerAttempt =
        if restarts ∨ d.hasFewAttempts gates ∨ d.isSaturated gates then 0
        else d.radioTx / d.txAttempts := by
  intro d interval restarts
  have lacksRates_iff : interval.LacksRates ↔ restarts :=
    ⟨fun lacks => Increases.isUndefined_txAttempts_iff.mp lacks.txAttempts,
      lacksRates_of_restart norm gates⟩
  have txTime := Increases.txTimePerAttempt_eq d gates
  simp only [d, Increases.isUndefined_txAttempts_iff] at txTime
  refine ⟨lacksRates_iff, fun lacks => ?_, txTime⟩
  have zero := txTimePerAttempt_of_restart norm gates (lacksRates_iff.mp lacks.toLacksRates)
  have defined : isUndefined (0 : Float) = false := by decide +kernel
  exact Bool.noConfusion (lacks.txTimePerAttempt.symm.trans ((congrArg _ zero).trans defined))

/-- A station transmitted for a while and was restarted. After 100 ms of radio time for an unknown
number of attempts, an attempt seems to take none. -/
theorem not_forall_lacksAttempts :
    ¬ ∀ (earlier later : Sample) (norm : Normalization Float) (gates : Settings.Gates Float),
      earlier.counters.RestartsTx later.counters →
        (between earlier later norm gates).LacksAttempts := by
  intro lacksAttempts
  let earlier : Sample := { counters := { txSuccess := 20, radioTxMs := 100 } }
  let later : Sample :=
    { timestampMs := 3000, counters := { txSuccess := 10, radioTxMs := 200 } }
  have restarts : earlier.counters.RestartsTx later.counters := .inl (by decide)
  have unknown := (lacksAttempts earlier later .identity .defaults restarts).txTimePerAttempt
  rw [txTimePerAttempt_of_restart .identity .defaults restarts] at unknown
  have defined : isUndefined (0 : Float) = false := by decide +kernel
  exact Bool.noConfusion (unknown.symm.trans defined)

end Interval

end LinkQuality
