import LinkQuality.Proofs.Standing.Breach

/-!
# Which bad links are given up

A link whose score stays below the transition score at a weak signal for longer than the debounce
time is given up exactly if a breach is on record from the beginning of that time. Otherwise the
recommendation never changes, however long the link stays bad.

A breach can be missing because the signal was strong, or not known, when the score fell. The
signal becoming weak later does not make up for it.

Scores are only compared with the transition score, so all of this holds wherever at most one of two
numbers is below the other.

## Main definitions

* `Standing.StaysDown`: a stretch of weak signals and scores below the transition score

## Main results

* `Standing.given_up_iff_breach`: the bad links that are given up
* `Standing.not_forall_given_up`: there are others
-/

namespace LinkQuality

namespace Standing

open Settings (Hysteresis)

variable {α : Type} [Scalar α]

/-- Events `j` to `k` are readings at a weak signal that leave the score below the transition
score. -/
def StaysDown (rules : Hysteresis α) (events : List (Event α))
    (j k : ℕ) : Prop :=
  ∀ i, j ≤ i → i ≤ k → ∃ reading, events[i]? = some (.read reading) ∧
    reading.isWeak rules = true ∧
    (standingAt rules events (i + 1)).score < rules.transitionScore

variable [Scalar.IsOrdered α] {rules : Hysteresis α} {events : List (Event α)}
  {first last : Reading α} {j k : ℕ}

/-- While the score stays down nothing is crossed. Only the first reading of the stretch can be a
breach. -/
theorem StaysDown.not_breachAt (down : StaysDown rules events j k) :
    ∀ i, j < i → i ≤ k → ¬ BreachAt rules events i := by
  intro i after upTo
  obtain ⟨before, rfl⟩ : ∃ before, i = before + 1 := ⟨i - 1, by omega⟩
  obtain ⟨-, -, -, wasBelow⟩ := down before (by omega) (by omega)
  obtain ⟨-, -, -, below⟩ := down (before + 1) (by omega) upTo
  rintro ⟨-, -, ⟨-, above⟩ | ⟨-, -, wasAbove⟩⟩
  · exact Scalar.not_le_of_lt below above
  · exact Scalar.not_le_of_lt wasBelow wasAbove

/-- **Giving up needs a breach.** On one link, and with a clock that does not go backwards, let the
score stay below the transition score at weak signals for longer than the debounce time. Then the
link is given up if and only if there was a breach up to the first of these readings. -/
theorem given_up_iff_breach (oneLink : ∀ event ∈ events, event.IsSameLink)
    (inOrder : events.Pairwise Event.InOrder)
    (atJ : events[j]? = some (.read first)) (atK : events[k]? = some (.read last))
    (down : StaysDown rules events j k)
    (waited : rules.debounce.clockMillis < last.nowMs - first.nowMs) :
    (standingAt rules events (k + 1)).isRecommended = false ↔
      ∃ i ≤ j, BreachAt rules events i := by
  have j_le_k : j ≤ k := by
    by_contra k_lt_j
    have := nowMs_le_of_inOrder inOrder (Nat.le_of_not_le k_lt_j) atK atJ
    omega
  have inRange : k + 1 ≤ events.length := (List.getElem?_eq_some_iff.mp atK).1
  have same : last.isSameLink = true := oneLink _ (List.mem_of_getElem? atK)
  have next : standingAt rules events (k + 1) = (standingAt rules events k).adjust rules last :=
    standingAt_succ atK
  obtain ⟨reading, here, weak, below⟩ := down k j_le_k le_rfl
  obtain rfl : reading = last := by simpa [atK] using here.symm
  -- The last breach is no later than the first reading of the stretch, so it was waited for.
  rcases lastBreach_or_none oneLink (k + 1) inRange with
    ⟨i, breach, isLast, record⟩ | ⟨none, -, still⟩
  · have i_le_j : i ≤ j := by
      by_contra j_lt_i
      exact down.not_breachAt i (by omega) (Nat.le_of_lt_succ isLast.before) isLast.breach
    have notAfter := nowMs_le_of_inOrder inOrder i_le_j isLast.isReading atJ
    have givenUp : (standingAt rules events (k + 1)).isRecommended = false := by
      rw [next] at below record ⊢
      exact isRecommended_of_waited same weak below (Scalar.not_lt_of_lt below) record (by omega)
    exact ⟨fun _ => ⟨i, i_le_j, isLast.breach⟩, fun _ => givenUp⟩
  · constructor
    · intro givenUp
      exact absurd (still.symm.trans givenUp) (by decide)
    · rintro ⟨i, i_le_j, breach⟩
      exact absurd breach (none i (by omega))

/-- A fall at a weak signal is a breach, so the link is given up once the debounce time is over. -/
theorem given_up_iff_breach_weak_fall :
    let rules : Hysteresis Float := .defaults
    let events : List (Event Float) :=
      [.read ⟨60, true, some (-70), 50, 0, 1⟩, .read ⟨49, true, some (-70), 50, 0, 2⟩,
        .read ⟨49, true, some (-70), 50, 0, 3⟩, .read ⟨49, true, some (-70), 50, 0, 5003⟩]
    StaysDown rules events 1 3 ∧ (standingAt rules events 4).isRecommended = false ∧
      ∃ i ≤ 1, BreachAt rules events i := by
  intro rules events
  have down : StaysDown rules events 1 3 := by
    intro i from_j to_k
    obtain rfl | rfl | rfl : i = 1 ∨ i = 2 ∨ i = 3 := by omega
    all_goals exact ⟨_, rfl, by decide +kernel, by decide +kernel⟩
  have givenUp : (standingAt rules events 4).isRecommended = false := by decide +kernel
  have breach : (standingAt rules events 4).isRecommended = false ↔
      ∃ i ≤ 1, BreachAt rules events i :=
    given_up_iff_breach (by decide +kernel) (by decide +kernel) rfl rfl down (by decide +kernel)
  exact ⟨down, givenUp, breach.mp givenUp⟩

/-- A link whose score falls at a strong signal, and whose signal then becomes weak, is not given
up: nine seconds are not enough, and no time would be. -/
theorem not_forall_given_up :
    ¬ ∀ (rules : Hysteresis (Exact ℚ)) (events : List (Event (Exact ℚ))) (j k : ℕ)
      (first last : Reading (Exact ℚ)),
      rules.IsProper → (∀ event ∈ events, event.IsProper) →
      (∀ event ∈ events, event.IsSameLink) → events.Pairwise Event.InOrder →
      events[j]? = some (.read first) → events[k]? = some (.read last) →
      StaysDown rules events j k → rules.debounce.clockMillis < last.nowMs - first.nowMs →
      (standingAt rules events (k + 1)).isRecommended = false := by
  intro givenUp
  let rules : Hysteresis (Exact ℚ) := .defaults
  let events : List (Event (Exact ℚ)) :=
    [.read ⟨40, true, some (-60), 50, 0, 0⟩, .read ⟨40, true, some (-70), 50, 0, 1000⟩,
      .read ⟨40, true, some (-70), 50, 0, 10000⟩]
  have down : StaysDown rules events 1 2 := by
    intro i from_j to_k
    obtain rfl | rfl : i = 1 ∨ i = 2 := by omega
    all_goals exact ⟨_, rfl, by decide +kernel, by decide +kernel⟩
  have isFalse := givenUp rules events 1 2 _ _ (by decide +kernel) (by decide +kernel)
    (by decide +kernel) (by decide +kernel) rfl rfl down (by decide +kernel)
  have isTrue : (standingAt rules events 3).isRecommended = true := by decide +kernel
  exact absurd (isTrue.symm.trans isFalse) (by decide)

end Standing

end LinkQuality
