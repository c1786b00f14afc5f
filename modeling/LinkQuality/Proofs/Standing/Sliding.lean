import LinkQuality.Proofs.Standing.Breach

/-!
# Links that are given up without waiting

A breach downwards that begins on a score which is healthy no more makes the link slide, and a
sliding link is given up at once instead of after the debounce time. The standing keeps a mark of
it. The next breach downwards sets the mark anew, and nothing else touches it: a breach upwards
starts the debounce time again, but the link slides on.

So the time is not waited for exactly if the last breach downwards was a slide, even if the score
has risen since and fell from perfect health, at a signal that was strong, to where it is now.

## Main definitions

* `Standing.BreachUpAt`, `Standing.BreachDownAt`: the two kinds of breaches along a run
* `Standing.LastBreachDown`: the last breach downwards before a given event
* `Standing.IsEarlyAt`: whether a reading comes within the debounce time

## Main results

* `Standing.isSliding_iff`: what the mark of a slide says along a run
* `Standing.given_up_early_iff`: the links that are given up within the debounce time
* `Standing.not_forall_slide_earned`: the last breach need not be the slide
-/

namespace LinkQuality

namespace Standing

open Settings (Hysteresis)

section Runs

variable {α : Type} [Scalar α]

/-- Event `i` is a breach upwards. -/
def BreachUpAt (rules : Hysteresis α) (events : List (Event α)) (i : ℕ) : Prop :=
  ∃ reading, events[i]? = some (.read reading) ∧
    breachesUp rules (standingAt rules events i).score
      (standingAt rules events (i + 1)).score = true

/-- Event `i` is a breach downwards. -/
def BreachDownAt (rules : Hysteresis α) (events : List (Event α)) (i : ℕ) : Prop :=
  ∃ reading, events[i]? = some (.read reading) ∧ reading.isWeak rules = true ∧
    breachesDown rules (standingAt rules events i).score
      (standingAt rules events (i + 1)).score = true

/-- Event `i` is the last breach downwards among the first `n` events. -/
def LastBreachDown (rules : Hysteresis α) (events : List (Event α)) (n i : ℕ) : Prop :=
  IsGreatest {j | j < n ∧ BreachDownAt rules events j} i

/-- Event `k` is a reading of a recommended link, at a signal that is not urgent, and no more than
the debounce time has passed since the breach on record. -/
structure IsEarlyAt (rules : Hysteresis α) (events : List (Event α)) (k : ℕ) (reading : Reading α) :
    Prop where
  isReading : events[k]? = some (.read reading)
  wasRecommended : (standingAt rules events k).isRecommended = true
  notUrgent : ∃ rssi, reading.rssi? = some rssi ∧ rules.urgentRssiDbm < rssi
  early : ∃ breachMs, (standingAt rules events (k + 1)).lastBreachMs = some breachMs ∧
    reading.nowMs - breachMs ≤ rules.debounce.clockMillis

variable {rules : Hysteresis α} {events : List (Event α)} {reading : Reading α} {n i k : ℕ}

/-- A breach is one upwards or one downwards. -/
theorem breachAt_iff_up_or_down :
    BreachAt rules events i ↔ BreachUpAt rules events i ∨ BreachDownAt rules events i := by
  simp only [BreachAt, BreachUpAt, BreachDownAt, breachesUp, breachesDown, Scalar.belowLimit,
    Bool.and_eq_true, decide_eq_true_eq, and_or_left, exists_or]

/-- No breach is both, since no score is below the transition score and at least as high. -/
theorem BreachDownAt.not_breachUpAt [Scalar.IsOrdered α] (down : BreachDownAt rules events i) :
    ¬ BreachUpAt rules events i := by
  rintro ⟨-, -, crossesUp⟩
  obtain ⟨-, -, -, crossesDown⟩ := down
  simp only [breachesUp, breachesDown, Scalar.belowLimit, Bool.and_eq_true, decide_eq_true_eq]
    at crossesUp crossesDown
  exact Scalar.not_lt_of_le crossesDown.2 crossesUp.1.2

/-- An event that is no breach downwards leaves the last one as it is. -/
theorem lastBreachDown_succ_iff (noBreach : ¬ BreachDownAt rules events n) :
    LastBreachDown rules events (n + 1) i ↔ LastBreachDown rules events n i := by
  have same : {j | j < n + 1 ∧ BreachDownAt rules events j} =
      {j | j < n ∧ BreachDownAt rules events j} := by
    ext j
    refine and_congr_left fun down => ?_
    have apart : j ≠ n := fun equal => noBreach (equal ▸ down)
    omega
  rw [LastBreachDown, LastBreachDown, same]

/-- A breach downwards is the last one after it. -/
theorem BreachDownAt.lastBreachDown (down : BreachDownAt rules events n) :
    LastBreachDown rules events (n + 1) n :=
  ⟨⟨n.lt_succ_self, down⟩, fun _ before => Nat.le_of_lt_succ before.1⟩

/-- A last breach that is one downwards is the last one downwards. -/
theorem LastBreach.lastBreachDown (last : LastBreach rules events n i reading)
    (down : BreachDownAt rules events i) : LastBreachDown rules events n i := by
  refine ⟨⟨last.before, down⟩, ?_⟩
  rintro later ⟨before, isDown⟩
  by_contra after
  exact last.noneSince later (Nat.lt_of_not_le after) before
    (breachAt_iff_up_or_down.mpr (.inr isDown))

/-- Along a run the mark of a slide changes with breaches downwards only. -/
theorem isSliding_standingAt_succ (rules : Hysteresis α) (here : events[n]? = some (.read reading))
    (same : reading.isSameLink = true) :
    (standingAt rules events (n + 1)).isSliding =
      if reading.isWeak rules && breachesDown rules (standingAt rules events n).score
          (standingAt rules events (n + 1)).score then
        decide ((standingAt rules events n).score < rules.maxHealthScore)
      else (standingAt rules events n).isSliding := by
  rw [standingAt_succ here]
  exact isSliding_adjust same

/-- Along a run on one link, the link slides exactly if its last breach downwards began on a score
that was healthy no more. -/
theorem isSliding_iff (oneLink : ∀ event ∈ events, event.IsSameLink) :
    ∀ n ≤ events.length, (standingAt rules events n).isSliding = true ↔
      ∃ i, LastBreachDown rules events n i ∧
        (standingAt rules events i).score < rules.maxHealthScore := by
  intro n
  induction n with
  | zero =>
    exact fun _ => iff_of_false Bool.false_ne_true fun ⟨i, last, _⟩ => i.not_lt_zero last.1.1
  | succ n ih =>
    intro inRange
    obtain ⟨reading, here, same⟩ := exists_reading_of_oneLink oneLink inRange
    have mark := isSliding_standingAt_succ rules here same
    by_cases down : BreachDownAt rules events n
    · -- The mark says from where this breach began, and it is the last one.
      have last := down.lastBreachDown
      obtain ⟨reading', here', weak, crosses⟩ := down
      obtain rfl : reading = reading' := by simpa [here] using here'
      rw [mark, weak, crosses, Bool.and_true, if_pos rfl, decide_eq_true_iff]
      constructor
      · exact fun slides => ⟨n, last, slides⟩
      · rintro ⟨i, last', slides⟩
        rwa [last.unique last']
    · have kept : (standingAt rules events (n + 1)).isSliding =
          (standingAt rules events n).isSliding := by
        rw [mark, if_neg]
        intro crosses
        exact down ⟨reading, here, Bool.and_eq_true_iff.mp crosses⟩
      rw [kept, ih (Nat.le_of_succ_le inRange)]
      simp only [lastBreachDown_succ_iff down]

/-- A reading that comes early gives the link up exactly if its signal is weak, it leads below the
transition score, and it follows a slide. Of the reasons not to wait only this one is left. -/
theorem isRecommended_iff_of_isEarlyAt [Scalar.IsOrdered α]
    (oneLink : ∀ event ∈ events, event.IsSameLink) (early : IsEarlyAt rules events k reading) :
    (standingAt rules events (k + 1)).isRecommended = false ↔
      reading.isWeak rules = true ∧
        (standingAt rules events (k + 1)).score < rules.transitionScore ∧
        ∃ i, LastBreachDown rules events (k + 1) i ∧
          (standingAt rules events i).score < rules.maxHealthScore := by
  obtain ⟨here, wasRecommended, ⟨rssi, signal, notUrgent⟩, breachMs, record, within⟩ := early
  have inRange : k + 1 ≤ events.length := (List.getElem?_eq_some_iff.mp here).1
  have same : reading.isSameLink = true := oneLink _ (List.mem_of_getElem? here)
  have next : standingAt rules events (k + 1) =
      (standingAt rules events k).adjust rules reading := standingAt_succ here
  have weakIff : reading.isWeak rules = true ↔ rssi < rules.breachRssiDbm := by
    simp [Reading.isWeak, Standing.isWeak, signal]
  have notWaited : ¬ rules.debounce.clockMillis < reading.nowMs - breachMs := within.not_gt
  rw [next] at record
  rw [← isSliding_iff oneLink (k + 1) inRange, next,
    given_up_adjust_iff same wasRecommended signal, weakIff]
  simp [record, notWaited, notUrgent]

/-- Whether the last breach among the first `n` events is a slide. -/
def EndsWithSlide (rules : Hysteresis α) (events : List (Event α)) (n : ℕ) : Prop :=
  ∃ i last, LastBreach rules events n i last ∧ BreachDownAt rules events i ∧
    (standingAt rules events i).score < rules.maxHealthScore

end Runs

/-- **What is not waited for.** Let a reading on one link come within the debounce time, at a signal
that is not urgent. It gives the link up exactly if its signal is weak, the score is below the
transition score, and the last breach downwards was a slide. If it does, the slide was the last
breach of all exactly if that was none upwards. -/
theorem given_up_early_iff {rules : Hysteresis Float} {events : List (Event Float)}
    {reading : Reading Float} {k : ℕ} (oneLink : ∀ event ∈ events, event.IsSameLink)
    (early : IsEarlyAt rules events k reading) :
    ((standingAt rules events (k + 1)).isRecommended = false ↔
      reading.isWeak rules = true ∧
        (standingAt rules events (k + 1)).score < rules.transitionScore ∧
        ∃ i, LastBreachDown rules events (k + 1) i ∧
          (standingAt rules events i).score < rules.maxHealthScore) ∧
    ((standingAt rules events (k + 1)).isRecommended = false →
      (EndsWithSlide rules events (k + 1) ↔
        ∀ i last, LastBreach rules events (k + 1) i last → ¬ BreachUpAt rules events i)) := by
  have givenUpIff := isRecommended_iff_of_isEarlyAt oneLink early
  refine ⟨givenUpIff, fun givenUp => ?_⟩
  obtain ⟨-, -, i, lastDown, slides⟩ := givenUpIff.mp givenUp
  -- The slide is the last breach downwards, so what may come after it is a rise.
  constructor
  · rintro ⟨j, last, isLast, down, -⟩ j' last' isLast'
    rw [← isLast.unique isLast']
    exact down.not_breachUpAt
  · intro notUp
    have inRange : k + 1 ≤ events.length := (List.getElem?_eq_some_iff.mp early.isReading).1
    obtain ⟨breachMs, onRecord, -⟩ := early.early
    rcases lastBreach_or_none oneLink (k + 1) inRange with ⟨j, last, isLast, -⟩ | ⟨-, record, -⟩
    · have down : BreachDownAt rules events j :=
        (breachAt_iff_up_or_down.mp isLast.breach).resolve_left (notUp j last isLast)
      rw [lastDown.unique (isLast.lastBreachDown down)] at slides
      exact ⟨j, last, isLast, down, slides⟩
    · exact absurd (onRecord.symm.trans record) (Option.some_ne_none _)

/-- A link goes down through 53, which is not healthy, and is given up with the breach. -/
theorem given_up_early_iff_slide :
    let rules : Hysteresis Float := .defaults
    let events : List (Event Float) :=
      [.read ⟨60, true, some (-70), 50, 0, 1⟩, .read ⟨53, true, some (-70), 50, 0, 2⟩,
        .read ⟨49, true, some (-70), 50, 0, 3⟩]
    IsEarlyAt rules events 2 ⟨49, true, some (-70), 50, 0, 3⟩ ∧
      (standingAt rules events 3).isRecommended = false ∧ EndsWithSlide rules events 3 := by
  intro rules events
  have early : IsEarlyAt rules events 2 ⟨49, true, some (-70), 50, 0, 3⟩ :=
    { isReading := rfl
      wasRecommended := by decide +kernel
      notUrgent := ⟨-70, rfl, by decide⟩
      early := ⟨3, by decide +kernel, by decide⟩ }
  have givenUp : (standingAt rules events 3).isRecommended = false := by decide +kernel
  have oneLink : ∀ event ∈ events, event.IsSameLink := by decide +kernel
  refine ⟨early, givenUp, ((given_up_early_iff oneLink early).2 givenUp).mpr ?_⟩
  rintro i last isLast ⟨-, -, crosses⟩
  have before := isLast.before
  have never : ∀ i < 3, breachesUp rules (standingAt rules events i).score
      (standingAt rules events (i + 1)).score = false := by decide +kernel
  exact Bool.false_ne_true ((never i before).symm.trans crosses)

/-- A link that slid once, recovered and rose from a second fall falls from 70 at a strong signal.
When the signal becomes weak, two seconds after the rise, it is given up at once. -/
theorem not_forall_slide_earned :
    ¬ ∀ (rules : Hysteresis Float) (events : List (Event Float)) (k : ℕ) (reading : Reading Float),
      1 ≤ rules.transitionScore → rules.transitionScore ≤ rules.maxScore →
      (∀ event ∈ events, event.IsSameLink) → events.Pairwise Event.InOrder →
      (∀ reading, .read reading ∈ events →
        0 ≤ reading.raw ∧ 0 < reading.threshold ∧ 0 ≤ reading.margin) →
      IsEarlyAt rules events k reading → (standingAt rules events (k + 1)).isRecommended = false →
      EndsWithSlide rules events (k + 1) := by
  intro earned
  let rules : Hysteresis Float := .defaults
  let events : List (Event Float) :=
    [.read ⟨55, true, some (-70), 50, 0, 0⟩, .read ⟨40, true, some (-70), 50, 0, 1000⟩,
      .read ⟨70, true, some (-60), 50, 0, 2000⟩, .read ⟨70, true, some (-60), 50, 0, 8000⟩,
      .read ⟨40, true, some (-60), 50, 0, 9000⟩, .read ⟨70, true, some (-60), 50, 0, 10000⟩,
      .read ⟨40, true, some (-60), 50, 0, 11000⟩, .read ⟨40, true, some (-70), 50, 0, 12000⟩]
  have early : IsEarlyAt rules events 7 ⟨40, true, some (-70), 50, 0, 12000⟩ :=
    { isReading := rfl
      wasRecommended := by decide +kernel
      notUrgent := ⟨-70, rfl, by decide⟩
      early := ⟨10000, by decide +kernel, by decide⟩ }
  have proper : ∀ reading, .read reading ∈ events →
      0 ≤ reading.raw ∧ 0 < reading.threshold ∧ 0 ≤ reading.margin := by
    intro reading mem
    simp only [events, List.mem_cons, Event.read.injEq, List.not_mem_nil, or_false] at mem
    rcases mem with rfl | rfl | rfl | rfl | rfl | rfl | rfl | rfl
    all_goals decide +kernel
  obtain ⟨i, last, isLast, ⟨reading, here, weak, crosses⟩, -⟩ := earned rules events 7 _
    (by decide +kernel) (by decide +kernel) (by decide +kernel) (by decide +kernel) proper early
    (by decide +kernel)
  -- The last breach is no earlier than the second rise, and there is none downwards from there on.
  have rise : BreachAt rules events 5 :=
    breachAt_iff_up_or_down.mpr (.inl ⟨_, rfl, by decide +kernel⟩)
  have notBefore : ¬ i < 5 := fun before => isLast.noneSince 5 before (by decide) rise
  have before := isLast.before
  obtain rfl | rfl | rfl : i = 5 ∨ i = 6 ∨ i = 7 := by omega
  · exact absurd crosses (by decide +kernel)
  · obtain rfl := Event.read.inj (Option.some.inj here)
    exact absurd weak (by decide +kernel)
  · exact absurd crosses (by decide +kernel)

end Standing

end LinkQuality
