import LinkQuality.Proofs.Standing.Run

/-!
# The breach on record

On one link the record always holds the time of the last breach, and it is empty exactly as long as
there has been none. Until then nothing can change the recommendation.

## Main definitions

* `Standing.BreachAt`: an event at which the score crosses the transition score in a way that counts
* `Standing.LastBreach`: the last such event before a given one

## Main results

* `Standing.lastBreach_or_none`: what is on record along a run on one link
-/

namespace LinkQuality

namespace Standing

open Settings (Hysteresis)

section Runs

variable {α : Type} [Scalar α]

/-- With event `i` the score rises from below the transition score, or falls below it at a weak
signal. -/
def BreachAt (rules : Hysteresis α) (events : List (Event α)) (i : ℕ) : Prop :=
  ∃ reading, events[i]? = some (.read reading) ∧
    (((0 ≤ (standingAt rules events i).score ∧
          (standingAt rules events i).score < rules.transitionScore) ∧
        rules.transitionScore ≤ (standingAt rules events (i + 1)).score) ∨
      reading.isWeak rules = true ∧
        (0 ≤ (standingAt rules events (i + 1)).score ∧
          (standingAt rules events (i + 1)).score < rules.transitionScore) ∧
        rules.transitionScore ≤ (standingAt rules events i).score)

/-- The reading of event `i` is the last breach among the first `n` events. -/
structure LastBreach (rules : Hysteresis α) (events : List (Event α)) (n i : ℕ)
    (reading : Reading α) : Prop where
  isReading : events[i]? = some (.read reading)
  before : i < n
  breach : BreachAt rules events i
  noneSince : ∀ later, i < later → later < n → ¬ BreachAt rules events later

variable {rules : Hysteresis α} {events : List (Event α)} {reading : Reading α} {n i : ℕ}

theorem breachAt_iff (here : events[n]? = some (.read reading)) :
    BreachAt rules events n ↔ reading.breaches rules (standingAt rules events n) = true := by
  have next : standingAt rules events (n + 1) = (standingAt rules events n).adjust rules reading :=
    standingAt_succ here
  rw [Reading.breaches_iff, ← next]
  constructor
  · rintro ⟨reading', here', crossing⟩
    obtain rfl : reading' = reading := by simpa [here] using here'.symm
    exact crossing
  · exact fun crossing => ⟨reading, here, crossing⟩

/-- The last breach stays the last one with a reading that is none. -/
theorem LastBreach.extend (last : LastBreach rules events n i reading)
    (noBreach : ¬ BreachAt rules events n) : LastBreach rules events (n + 1) i reading where
  isReading := last.isReading
  before := Nat.lt_succ_of_lt last.before
  breach := last.breach
  noneSince later after before := by
    rcases Nat.lt_succ_iff_lt_or_eq.mp before with earlier | rfl
    · exact last.noneSince later after earlier
    · exact noBreach

theorem LastBreach.unique {n i j : ℕ} {first second : Reading α}
    (isLast : LastBreach rules events n i first) (isLast' : LastBreach rules events n j second) :
    i = j := by
  rcases Nat.lt_trichotomy i j with earlier | same | later
  · exact absurd isLast'.breach (isLast.noneSince j earlier isLast'.before)
  · exact same
  · exact absurd isLast.breach (isLast'.noneSince i later isLast.before)

/-- On one link the record is the time of the last breach. Without a breach it is empty, and the
link is recommended as it was at first. -/
theorem lastBreach_or_none (oneLink : ∀ event ∈ events, event.IsSameLink) :
    ∀ n ≤ events.length,
      (∃ i reading, LastBreach rules events n i reading ∧
        (standingAt rules events n).lastBreachMs = some reading.nowMs) ∨
      (∀ i < n, ¬ BreachAt rules events i) ∧
        (standingAt rules events n).lastBreachMs = none ∧
        (standingAt rules events n).isRecommended = true := by
  intro n
  induction n with
  | zero => exact fun _ => .inr ⟨fun i before => absurd before i.not_lt_zero, rfl, rfl⟩
  | succ n ih =>
    intro inRange
    obtain ⟨reading, here, same⟩ := exists_reading_of_oneLink oneLink inRange
    have next : standingAt rules events (n + 1) =
        (standingAt rules events n).adjust rules reading := standingAt_succ here
    have record := lastBreachMs_standingAt_succ rules here same
    by_cases breach : BreachAt rules events n
    · -- The reading is itself the last breach, whatever was on record.
      rw [(breachAt_iff here).mp breach, if_pos rfl] at record
      refine .inl ⟨n, reading, ⟨here, n.lt_succ_self, breach, ?_⟩, record⟩
      intro later after before
      omega
    · have noBreach : reading.breaches rules (standingAt rules events n) = false :=
        Bool.eq_false_iff.mpr fun breaches => breach ((breachAt_iff here).mpr breaches)
      rw [noBreach, if_neg Bool.false_ne_true] at record
      rcases ih (Nat.le_of_succ_le inRange) with ⟨i, last, isLast, was⟩ | ⟨none, was, wasRec⟩
      · exact .inl ⟨i, last, isLast.extend breach, record.trans was⟩
      · refine .inr ⟨?_, record.trans was, ?_⟩
        · intro i before
          rcases Nat.lt_succ_iff_lt_or_eq.mp before with earlier | rfl
          · exact none i earlier
          · exact breach
        · have kept := isRecommended_of_no_breach same (next ▸ record.trans was)
          rw [next, kept, wasRec]

end Runs

section Sides

variable {α : Type} [Scalar α] {rules : Hysteresis α} {standing : Standing α} {reading : Reading α}

end Sides

end Standing

end LinkQuality
