import LinkQuality.Proofs.Standing.Breach

/-!
# How long a link is bad before its access point is blocked

An access point is blocked when a score below the transition score meets a weak signal and the
waiting time has passed since the breach on record. The breach need not be the fall of the score. A
fall at a strong or unknown signal is not recorded, so the time may be counted from the rise before
it, and all but the last moment of it may have been spent above the transition score.

Between the breach on record and the blocking there is room for no other story: the score has been
below the transition score all the time, or it stayed above and fell once, unrecorded.

Nothing of this depends on how scores are computed, if no score is negative. So it holds of exact
numbers and of double precision. The waiting time is compared as a clock of 64 bits counts it.

## Main definitions

* `Standing.FallsAt`: a stretch of a run in which the score falls once and stays down

## Main results

* `Standing.exists_fallsAt`: what can follow a breach until the next one
* `Standing.isBlocked_iff_waited`: when the access point is blocked along a run
* `Standing.not_forall_blocked_below`: the score may have been below for a moment only
-/

namespace LinkQuality

namespace Standing

open Settings (Hysteresis)

variable {α : Type} [Scalar α] {rules : Hysteresis α} {events : List (Event α)}

/-- Events `j` to `n - 1` leave the score at or above the transition score up to event `i`, and
below it from there on. The fall, if it is one of them but not the first, is made at a signal that
is strong or not known. -/
structure FallsAt (rules : Hysteresis α) (events : List (Event α)) (j i n : ℕ) : Prop where
  notBefore : j ≤ i
  above : ∀ e < i, j ≤ e → rules.transitionScore ≤ (standingAt rules events (e + 1)).score
  below : ∀ e < n, i ≤ e → (standingAt rules events (e + 1)).score < rules.transitionScore
  unrecorded : j < i → i < n → ∀ reading, events[i]? = some (.read reading) →
    reading.isWeak rules = false

variable {j i n : ℕ}

namespace FallsAt

/-- Before the fall the score is above. -/
theorem transition_le_score (falls : FallsAt rules events j i n) {e : ℕ} (after : j < e)
    (notAfter : e ≤ i) : rules.transitionScore ≤ (standingAt rules events e).score := by
  obtain ⟨d, rfl⟩ := Nat.exists_eq_add_of_lt after
  exact falls.above (j + d) notAfter (Nat.le_add_right j d)

/-- After the fall the score is below. -/
theorem score_lt_transition (falls : FallsAt rules events j i n) {e : ℕ} (after : i < e)
    (notAfter : e ≤ n) : (standingAt rules events e).score < rules.transitionScore := by
  obtain ⟨d, rfl⟩ := Nat.exists_eq_add_of_lt after
  exact falls.below (i + d) notAfter (Nat.le_add_right i d)

/-- A stretch without a fall goes on with a score above. -/
theorem stayUp (falls : FallsAt rules events j n n)
    (above : rules.transitionScore ≤ (standingAt rules events (n + 1)).score) :
    FallsAt rules events j (n + 1) (n + 1) where
  notBefore := Nat.le_succ_of_le falls.notBefore
  above := Nat.forall_lt_succ_right.mpr ⟨falls.above, fun _ => above⟩
  below e before from_fall := by omega
  unrecorded _ before := absurd before (n + 1).lt_irrefl

/-- Any stretch goes on with a score below, if this is not a fall at a weak signal. -/
theorem goDown (falls : FallsAt rules events j i n)
    (below : (standingAt rules events (n + 1)).score < rules.transitionScore)
    (unrecorded : i = n → ∀ reading, events[n]? = some (.read reading) →
      reading.isWeak rules = false) :
    FallsAt rules events j i (n + 1) where
  notBefore := falls.notBefore
  above := falls.above
  below := Nat.forall_lt_succ_right.mpr ⟨falls.below, fun _ => below⟩
  unrecorded after before := by
    rcases Nat.lt_succ_iff_lt_or_eq.mp before with earlier | rfl
    · exact falls.unrecorded after earlier
    · exact unrecorded rfl

/-- After the first event of such a stretch nothing is recorded. -/
theorem not_breachAt [Scalar.IsOrdered α] (falls : FallsAt rules events j i n) :
    ∀ e, j < e → e < n → ¬ BreachAt rules events e := by
  rintro e after before ⟨reading, here, ⟨⟨-, wasBelow⟩, above⟩ | ⟨weak, ⟨-, below⟩, wasAbove⟩⟩
  · -- A rise: up to the fall the score was above already, and from the fall on it stays below.
    rcases Nat.lt_or_ge i e with down | up
    · exact Scalar.not_le_of_lt (falls.score_lt_transition (by omega) before) above
    · exact Scalar.not_le_of_lt wasBelow (falls.transition_le_score after up)
  · rcases Nat.lt_trichotomy e i with up | rfl | down
    · exact Scalar.not_le_of_lt below (falls.transition_le_score (by omega) up)
    · exact absurd weak (by simp [falls.unrecorded after before reading here])
    · exact Scalar.not_le_of_lt (falls.score_lt_transition down before.le) wasAbove

end FallsAt

/-- The event of a breach is a stretch of its own: a rise leaves the score above, a fall below. -/
theorem BreachAt.exists_fallsAt (breach : BreachAt rules events j) :
    ∃ i ≤ j + 1, FallsAt rules events j i (j + 1) := by
  have only {e : ℕ} (before : e < j + 1) (from_j : j ≤ e) : e = j := by omega
  obtain ⟨-, -, ⟨-, above⟩ | ⟨-, ⟨-, below⟩, -⟩⟩ := breach
  · refine ⟨j + 1, le_rfl, ⟨j.le_succ, ?_, by omega, by omega⟩⟩
    intro e before from_j
    rw [only before from_j]
    exact above
  · refine ⟨j, j.le_succ, ⟨le_rfl, by omega, ?_, by omega⟩⟩
    intro e before from_j
    rw [only before from_j]
    exact below

variable [Scalar.KeepsSigns α]

/-- Until the next breach the score falls at most once: a rise would be recorded at any signal, and
a fall at a weak one. -/
theorem exists_fallsAt (proper : rules.IsProper)
    (properEvents : ∀ event ∈ events, event.IsProper) (breach : BreachAt rules events j)
    (oneLink : ∀ event ∈ events, event.IsSameLink) (n : ℕ) (after : j < n)
    (inRange : n ≤ events.length)
    (noneSince : ∀ later, j < later → later < n → ¬ BreachAt rules events later) :
    ∃ i ≤ n, FallsAt rules events j i n := by
  -- The stretch grows by one event at a time, and the score after the event says which way.
  induction n, after using Nat.le_induction with
  | base => exact breach.exists_fallsAt
  | succ n after ih =>
    obtain ⟨i, i_le_n, falls⟩ := ih (Nat.le_of_succ_le inRange)
      fun later fromJ before => noneSince later fromJ (Nat.lt_succ_of_lt before)
    have noBreach := noneSince n after n.lt_succ_self
    have wasNonneg := score_nonneg proper properEvents n (Nat.le_of_succ_le inRange)
    have nonneg := score_nonneg proper properEvents (n + 1) inRange
    rcases Scalar.lt_or_le nonneg proper.transition_nonneg with below | above
    · refine ⟨i, Nat.le_succ_of_le i_le_n, falls.goDown below ?_⟩
      -- If the score falls here, the signal cannot be weak, or this would be a breach.
      rintro rfl reading here
      have wasAbove := falls.transition_le_score after le_rfl
      by_contra weak
      exact noBreach ⟨reading, here, .inr ⟨by simpa using weak, ⟨nonneg, below⟩, wasAbove⟩⟩
    · rcases Nat.eq_or_lt_of_le i_le_n with rfl | fallen
      · exact ⟨i + 1, le_rfl, falls.stayUp above⟩
      · -- The score has fallen, and to be above again it would have to rise.
        have wasBelow := falls.score_lt_transition fallen le_rfl
        obtain ⟨reading, here, -⟩ := exists_reading_of_oneLink oneLink inRange
        exact absurd ⟨reading, here, .inl ⟨⟨wasNonneg, wasBelow⟩, above⟩⟩ noBreach

/-- **Blocking waits since the last breach.** On one link the access point is blocked after a
reading exactly if its signal is weak and there was a breach, longer ago than the waiting time,
since which the score has been below the transition score, or has stayed at or above it and then
fallen at a signal that is strong or not known. -/
theorem isBlocked_iff_waited {k : ℕ} {last : Reading α} (proper : rules.IsProper)
    (properEvents : ∀ event ∈ events, event.IsProper)
    (oneLink : ∀ event ∈ events, event.IsSameLink) (atK : events[k]? = some (.read last)) :
    (standingAt rules events (k + 1)).isBlocked = true ↔
      last.isWeak rules = true ∧
        ∃ j i first, events[j]? = some (.read first) ∧ BreachAt rules events j ∧
          first.nowMs + rules.blockWait.clockMillis < last.nowMs ∧ i ≤ k ∧
          FallsAt rules events j i (k + 1) := by
  have inRange : k + 1 ≤ events.length := (List.getElem?_eq_some_iff.mp atK).1
  have same : last.isSameLink = true := oneLink _ (List.mem_of_getElem? atK)
  have next : standingAt rules events (k + 1) = (standingAt rules events k).adjust rules last :=
    standingAt_succ atK
  have onRecord := @lastBreach_or_none _ _ rules events oneLink (k + 1) inRange
  rw [next, isBlocked_adjust_iff same, ← next]
  constructor
  · rintro ⟨weak, below, breachMs, record, waited⟩
    refine ⟨weak, ?_⟩
    -- The time on record is that of the last breach, and after it there is no other.
    rcases onRecord with ⟨j, first, isLast, record'⟩ | ⟨-, record', -⟩
    · obtain rfl : first.nowMs = breachMs := Option.some.inj (record'.symm.trans record)
      obtain ⟨i, i_le, falls⟩ := exists_fallsAt proper properEvents isLast.breach oneLink (k + 1)
        isLast.before inRange isLast.noneSince
      have fallen : i ≤ k := by
        -- Otherwise the score would still be above after the last reading.
        by_contra k_lt_i
        exact Scalar.not_le_of_lt below (falls.transition_le_score isLast.before (by omega))
      exact ⟨j, i, first, isLast.isReading, isLast.breach, by omega, fallen, falls⟩
    · simp [record] at record'
  · rintro ⟨weak, j, i, first, atJ, breach, waited, fallen, falls⟩
    have j_le_i := falls.notBefore
    -- Nothing is recorded along such a stretch, so its first event is the one on record.
    have isLast : LastBreach rules events (k + 1) j first :=
      ⟨atJ, by omega, breach, falls.not_breachAt⟩
    have below := falls.score_lt_transition (Nat.lt_succ_of_le fallen) le_rfl
    refine ⟨weak, below, first.nowMs, ?_, by omega⟩
    rcases onRecord with ⟨j', first', isLast', record⟩ | ⟨none, -, -⟩
    · obtain rfl := isLast.unique isLast'
      obtain rfl : first = first' := by simpa [atJ] using isLast'.isReading
      exact record
    · exact absurd breach (none j isLast.before)

/-- A link rises after a second and stays above the transition score for 39 seconds. It falls at a
strong signal, and one millisecond later, at a weak one, its access point is blocked. -/
theorem isBlocked_iff_waited_unrecorded_fall :
    let rules : Hysteresis Float := .defaults
    let events : List (Event Float) :=
      [.read ⟨40, true, some (-60), 50, 0, 0⟩, .read ⟨60, true, some (-60), 50, 0, 1000⟩,
        .read ⟨40, true, some (-60), 50, 0, 40000⟩, .read ⟨40, true, some (-70), 50, 0, 40001⟩]
    (standingAt rules events 4).isBlocked = true ∧
      ∃ j i first, events[j]? = some (.read first) ∧ BreachAt rules events j ∧
        first.nowMs + 29000 < 40001 ∧ i ≤ 3 ∧ FallsAt rules events j i 4 := by
  intro rules events
  have blocked : (standingAt rules events 4).isBlocked = true := by decide +kernel
  have blockWait : rules.blockWait.clockMillis = 29000 := by decide
  have waited := isBlocked_iff_waited (by decide +kernel : rules.IsProper)
    (by decide +kernel : ∀ event ∈ events, event.IsProper) (by decide +kernel)
    (rfl : events[3]? = some (.read ⟨40, true, some (-70), 50, 0, 40001⟩))
  rw [blockWait] at waited
  exact ⟨blocked, (waited.mp blocked).2⟩

/-- The score need not have been below the transition score for as long as the waiting time. -/
theorem not_forall_blocked_below :
    ¬ ∀ (rules : Hysteresis (Exact ℚ)) (events : List (Event (Exact ℚ))) (k : ℕ)
      (last : Reading (Exact ℚ)),
      rules.IsProper → (∀ event ∈ events, event.IsProper) →
      (∀ event ∈ events, event.IsSameLink) → events.Pairwise Event.InOrder →
      events[k]? = some (.read last) → (standingAt rules events (k + 1)).isBlocked = true →
      ∃ j ≤ k, ∃ first, events[j]? = some (.read first) ∧
        first.nowMs + rules.blockWait.clockMillis < last.nowMs ∧
        ∀ i, j ≤ i → i ≤ k → (standingAt rules events (i + 1)).score < rules.transitionScore := by
  intro blockedBelow
  let rules : Hysteresis (Exact ℚ) := .defaults
  let events : List (Event (Exact ℚ)) :=
    [.read ⟨40, true, some (-60), 50, 0, 0⟩, .read ⟨60, true, some (-60), 50, 0, 1000⟩,
      .read ⟨40, true, some (-60), 50, 0, 40000⟩, .read ⟨40, true, some (-70), 50, 0, 40001⟩]
  obtain ⟨j, j_le, first, atJ, waited, below⟩ := blockedBelow rules events 3 _ (by decide +kernel)
    (by decide +kernel) (by decide +kernel) (by decide +kernel) rfl (by decide +kernel)
  by_cases early : j ≤ 1
  · have above : ¬ (standingAt rules events 2).score < rules.transitionScore := by decide +kernel
    exact above (below 1 early (by omega))
  · -- From the fall on only one millisecond has passed.
    have late : ∀ n ≤ 3, 1 < n → ∀ reading, events[n]? = some (.read reading) →
        40000 ≤ reading.nowMs := by
      intro n n_le one_lt reading here
      obtain rfl | rfl : n = 2 ∨ n = 3 := by omega
      all_goals
        obtain rfl := Event.read.inj (Option.some.inj here)
        decide
    have blockWait : rules.blockWait.clockMillis = 29000 := by decide
    have := late j j_le (by omega) first atJ
    rw [blockWait] at waited
    change first.nowMs + 29000 < 40001 at waited
    omega

end Standing

end LinkQuality
