import LinkQuality.Proofs.Standing.Score
import Mathlib.Tactic.Tauto

/-!
# Runs of a standing

A standing lives through readings and resets. This module says once what a single reading can do to
it: which breach is recorded, when the recommendation is taken back or given again. What holds of
whole runs is proved from these steps, by induction on the number of events.

## Main definitions

* `Standing.Event`, `Standing.respond`: what can happen to a standing, and where it leads
* `Standing.standingAt`: the standing after the first events of a run
* `Standing.Reading.breaches`: whether a reading is recorded as a breach

## Main results

* `Standing.lastBreachMs_adjust`, `Standing.isSliding_adjust`, `Standing.isRecommended_adjust`,
  `Standing.isBlocked_adjust_iff`, `Standing.fellToScan_adjust_iff`: the effect of one reading
* `Standing.score_nonneg`: no score of a run is negative
-/

namespace LinkQuality

namespace Standing

open Settings (Hysteresis)

section Steps

variable {α : Type} [Scalar α]

/-- What can happen to a standing. -/
inductive Event (α : Type) where
  | read (reading : Reading α)
  | reset

/-- Whether an event is a reading of the link that the standing is of. -/
def Event.IsSameLink : Event α → Prop
  | .read reading => reading.isSameLink = true
  | .reset => False

/-- Whether the clock does not go backwards from one event to another. A reset has no time. -/
def Event.InOrder : Event α → Event α → Prop
  | .read earlier, .read later => earlier.nowMs ≤ later.nowMs
  | _, _ => True

instance : DecidablePred (@Event.IsSameLink α)
  | .read reading => inferInstanceAs (Decidable (reading.isSameLink = true))
  | .reset => inferInstanceAs (Decidable False)

instance : DecidableRel (@Event.InOrder α)
  | .read earlier, .read later => inferInstanceAs (Decidable (earlier.nowMs ≤ later.nowMs))
  | .read _, .reset => inferInstanceAs (Decidable True)
  | .reset, _ => inferInstanceAs (Decidable True)

/-- The standing after an event. -/
def respond (rules : Hysteresis α) (standing : Standing α) : Event α → Standing α
  | .read reading => standing.adjust rules reading
  | .reset => fresh rules

/-- The standing after the first `n` events of a run that begins afresh. -/
def standingAt (rules : Hysteresis α) (events : List (Event α)) (n : ℕ) : Standing α :=
  (events.take n).foldl (respond rules) (fresh rules)

/-- Whether the signal of a reading is known and weak. -/
def Reading.isWeak (rules : Hysteresis α) (reading : Reading α) : Bool :=
  reading.rssi?.any (Standing.isWeak rules)

/-- Whether a reading crosses the transition score in a way that is recorded: upwards, or downwards
at a weak signal. -/
def Reading.breaches (rules : Hysteresis α) (standing : Standing α) (reading : Reading α) : Bool :=
  let score := (standing.adjust rules reading).score
  breachesUp rules standing.score score ||
    (reading.isWeak rules && breachesDown rules standing.score score)

variable {rules : Hysteresis α} {standing : Standing α} {reading : Reading α}

omit [Scalar α] in
theorem Reading.isWeak_iff :
    reading.isWeak rules = true ↔
      ∃ rssi, reading.rssi? = some rssi ∧ rssi < rules.breachRssiDbm := by
  simp [Reading.isWeak, Standing.isWeak, Option.any_eq_true]

theorem Reading.breaches_iff :
    reading.breaches rules standing = true ↔
      ((0 ≤ standing.score ∧ standing.score < rules.transitionScore) ∧
          rules.transitionScore ≤ (standing.adjust rules reading).score) ∨
        reading.isWeak rules = true ∧
          (0 ≤ (standing.adjust rules reading).score ∧
            (standing.adjust rules reading).score < rules.transitionScore) ∧
          rules.transitionScore ≤ standing.score := by
  simp [Reading.breaches, breachesUp, breachesDown, Scalar.belowLimit]

theorem standingAt_succ {events : List (Event α)} {n : ℕ} {event : Event α}
    (here : events[n]? = some event) :
    standingAt rules events (n + 1) = respond rules (standingAt rules events n) event := by
  rw [standingAt, standingAt, List.take_add_one, here, List.foldl_append]
  rfl

/-- A reading of another link is the first one of a new standing, with the best raw score. -/
theorem adjust_of_not_same (other : reading.isSameLink = false) :
    standing.adjust rules reading =
      (fresh rules).adjust rules { reading with isSameLink := true, raw := rules.maxScore } := by
  simp [adjust, other]

theorem score_adjust (same : reading.isSameLink = true) :
    (standing.adjust rules reading).score =
      adjustedScore rules standing.score reading.raw reading.threshold reading.margin := by
  simp [adjust, same]

/-- A breach is recorded with the time of its reading, and nothing else changes the record. -/
theorem lastBreachMs_adjust (same : reading.isSameLink = true) :
    (standing.adjust rules reading).lastBreachMs =
      if reading.breaches rules standing then some reading.nowMs else standing.lastBreachMs := by
  simp only [Reading.breaches, Reading.isWeak, score_adjust same]
  -- Only a fall asks for the signal; a rise is recorded without one.
  cases signal : reading.rssi? with
  | none => simp [adjust, recommend, same, signal]
  | some rssi =>
    simp only [adjust, recommend, recordFall, same, signal, if_true, Option.any_some]
    split_ifs <;> simp_all

/-- A breach downwards says anew whether the link slides: it does if it began on a score that was
healthy no more. Nothing else changes the mark. -/
theorem isSliding_adjust (same : reading.isSameLink = true) :
    (standing.adjust rules reading).isSliding =
      if reading.isWeak rules &&
          breachesDown rules standing.score (standing.adjust rules reading).score then
        decide (standing.score < rules.maxHealthScore)
      else standing.isSliding := by
  simp only [Reading.isWeak, score_adjust same]
  cases signal : reading.rssi? with
  | none => simp [adjust, recommend, same, signal]
  | some rssi =>
    simp only [adjust, recommend, recordFall, same, signal, if_true, Option.any_some]
    split_ifs <;> rfl

/-- The recommendation after a reading follows from the breach that is on record after it. Without
a signal strength it stays. -/
theorem isRecommended_adjust (same : reading.isSameLink = true) :
    (standing.adjust rules reading).isRecommended =
      match reading.rssi? with
      | none => standing.isRecommended
      | some rssi =>
        recommends rules
          { standing with
            lastBreachMs := (standing.adjust rules reading).lastBreachMs
            isSliding := (standing.adjust rules reading).isSliding }
          (standing.adjust rules reading).score rssi reading.nowMs := by
  cases signal : reading.rssi? with
  | none => simp [adjust, recommend, same, signal]
  | some rssi =>
    simp only [adjust, recommend, recordFall, same, signal, if_true]
    split_ifs <;> rfl

/-- The recommendation is given again only above the transition score, and only if the debounce time
has passed since the breach on record. -/
theorem exists_breach_of_recovery (same : reading.isSameLink = true)
    (before : standing.isRecommended = false)
    (after : (standing.adjust rules reading).isRecommended = true) :
    ∃ breachMs, (standing.adjust rules reading).lastBreachMs = some breachMs ∧
      rules.debounce.clockMillis < reading.nowMs - breachMs ∧
      rules.transitionScore < (standing.adjust rules reading).score := by
  rw [isRecommended_adjust same] at after
  cases signal : reading.rssi? with
  | none => simp [signal, before] at after
  | some rssi =>
    cases record : (standing.adjust rules reading).lastBreachMs with
    | none => simp [signal, record, recommends, sinceBreach?, before] at after
    | some breachMs =>
      refine ⟨breachMs, rfl, ?_⟩
      simp only [signal, record, recommends, sinceBreach?, Option.map_some, before] at after
      split_ifs at after with recovers
      simpa using recovers

/-- The recommendation is given at a signal of any strength, if the score is above the transition
score and the debounce time has passed since the breach on record. -/
theorem isRecommended_of_recovered {rssi : Int} {breachMs : ℕ} (same : reading.isSameLink = true)
    (signal : reading.rssi? = some rssi)
    (record : (standing.adjust rules reading).lastBreachMs = some breachMs)
    (waited : rules.debounce.clockMillis < reading.nowMs - breachMs)
    (above : rules.transitionScore < (standing.adjust rules reading).score) :
    (standing.adjust rules reading).isRecommended = true := by
  rw [isRecommended_adjust same]
  simp [signal, record, recommends, sinceBreach?, waited, above]

/-- A recommendation is taken back exactly if the signal is weak, the score is below the transition
score, a breach is on record, and there is nothing left to wait for: the debounce time has passed
since, the link slides, or the signal is urgent. -/
theorem given_up_adjust_iff [Scalar.IsOrdered α] {rssi : Int} (same : reading.isSameLink = true)
    (before : standing.isRecommended = true) (signal : reading.rssi? = some rssi) :
    (standing.adjust rules reading).isRecommended = false ↔
      rssi < rules.breachRssiDbm ∧
        (standing.adjust rules reading).score < rules.transitionScore ∧
        ∃ breachMs, (standing.adjust rules reading).lastBreachMs = some breachMs ∧
          (rules.debounce.clockMillis < reading.nowMs - breachMs ∨
            (standing.adjust rules reading).isSliding = true ∨ rssi ≤ rules.urgentRssiDbm) := by
  rw [isRecommended_adjust same]
  cases record : (standing.adjust rules reading).lastBreachMs with
  | none => simp [signal, recommends, sinceBreach?, before]
  | some breachMs =>
    simp only [signal, recommends, sinceBreach?, Option.map_some, before, Standing.isWeak,
      Option.some.injEq, exists_eq_left']
    split_ifs with recovers givesUp
    · simp only [Bool.and_eq_true, decide_eq_true_eq] at recovers
      exact iff_of_false (by decide) fun both => Scalar.not_lt_of_lt both.2.1 recovers.2
    · simp only [Bool.and_eq_true, Bool.or_eq_true, decide_eq_true_eq] at givesUp
      tauto
    · simp only [Bool.and_eq_true, Bool.or_eq_true, decide_eq_true_eq] at givesUp
      tauto

/-- Whether the access point is blocked follows from the breach that is on record after the reading.
Without a signal strength it is not. -/
theorem isBlocked_adjust (same : reading.isSameLink = true) :
    (standing.adjust rules reading).isBlocked =
      match reading.rssi? with
      | none => false
      | some rssi =>
        blocks rules
          { standing with lastBreachMs := (standing.adjust rules reading).lastBreachMs }
          (standing.adjust rules reading).score rssi reading.nowMs := by
  cases signal : reading.rssi? with
  | none => simp [adjust, recommend, signal]
  | some rssi =>
    simp only [adjust, recommend, recordFall, same, signal, if_true]
    split_ifs <;> rfl

/-- A reading blocks the access point exactly if its signal is weak, the score is below the
transition score, and the waiting time has passed since the breach on record. -/
theorem isBlocked_adjust_iff (same : reading.isSameLink = true) :
    (standing.adjust rules reading).isBlocked = true ↔
      reading.isWeak rules = true ∧
        (standing.adjust rules reading).score < rules.transitionScore ∧
        ∃ breachMs, (standing.adjust rules reading).lastBreachMs = some breachMs ∧
          rules.blockWait.clockMillis < reading.nowMs - breachMs := by
  rw [isBlocked_adjust same, Reading.isWeak]
  cases signal : reading.rssi? with
  | none => simp
  | some rssi =>
    cases record : (standing.adjust rules reading).lastBreachMs with
    | none => simp [blocks, sinceBreach?]
    | some breachMs =>
      simp only [blocks, sinceBreach?, Option.map_some, Bool.and_eq_true, decide_eq_true_eq,
        Option.any_some, Option.some.injEq, exists_eq_left']
      tauto

theorem isBlocked_of_not_below (same : reading.isSameLink = true)
    (notBelow : ¬ (standing.adjust rules reading).score < rules.transitionScore) :
    (standing.adjust rules reading).isBlocked = false := by
  by_contra blocked
  rw [Bool.not_eq_false, isBlocked_adjust_iff same] at blocked
  exact notBelow blocked.2.1

theorem fellToScan_adjust (same : reading.isSameLink = true) :
    (standing.adjust rules reading).fellToScan =
      fallsToScan rules standing.rawScore reading.raw := by
  simp [adjust, same]

/-- A raw score falls below the limit from a score that is not below it. -/
theorem fallsToScan_iff {previousRaw raw : α} :
    fallsToScan rules previousRaw raw = true ↔
      (0 ≤ raw ∧ raw < rules.scanThreshold) ∧ rules.scanThreshold ≤ previousRaw := by
  simp [fallsToScan, Scalar.belowLimit]

/-- A reading asks for a scan exactly if it is of the link that the standing is of and its raw score
falls below the limit. A new link begins with a raw score that cannot have fallen. -/
theorem fellToScan_adjust_iff [Scalar.IsOrdered α] :
    (standing.adjust rules reading).fellToScan = true ↔
      reading.isSameLink = true ∧
        fallsToScan rules standing.rawScore reading.raw = true := by
  cases same : reading.isSameLink with
  | true => simp [fellToScan_adjust same]
  | false =>
    rw [adjust_of_not_same same, fellToScan_adjust rfl, fallsToScan_iff]
    refine iff_of_false ?_ fun both => Bool.false_ne_true both.1
    rintro ⟨⟨-, below⟩, atLeast⟩
    exact Scalar.not_lt_of_le atLeast below

theorem rawScore_adjust (same : reading.isSameLink = true) :
    (standing.adjust rules reading).rawScore = reading.raw := by
  simp [adjust, same]

/-- While no breach is on record, the recommendation stays. -/
theorem isRecommended_of_no_breach (same : reading.isSameLink = true)
    (record : (standing.adjust rules reading).lastBreachMs = none) :
    (standing.adjust rules reading).isRecommended = standing.isRecommended := by
  rw [isRecommended_adjust same]
  cases signal : reading.rssi? with
  | none => rfl
  | some rssi => simp [record, recommends, sinceBreach?]

/-- At a weak signal and below the transition score the recommendation is taken back, once the
debounce time has passed since the breach on record. -/
theorem isRecommended_of_waited {breachMs : ℕ} (same : reading.isSameLink = true)
    (weak : reading.isWeak rules = true)
    (below : (standing.adjust rules reading).score < rules.transitionScore)
    (notAbove : ¬ rules.transitionScore < (standing.adjust rules reading).score)
    (record : (standing.adjust rules reading).lastBreachMs = some breachMs)
    (waited : rules.debounce.clockMillis < reading.nowMs - breachMs) :
    (standing.adjust rules reading).isRecommended = false := by
  obtain ⟨rssi, signal, isWeak⟩ := Reading.isWeak_iff.mp weak
  rw [isRecommended_adjust same]
  simp [signal, record, recommends, sinceBreach?, Standing.isWeak, waited, notAbove, isWeak, below]

/-- What holds of a new standing and is kept by every event holds along a run. -/
theorem standingAt_induction {events : List (Event α)} {motive : ℕ → Standing α → Prop}
    (start : motive 0 (fresh rules))
    (keep : ∀ n event, events[n]? = some event → motive n (standingAt rules events n) →
      motive (n + 1) (respond rules (standingAt rules events n) event)) :
    ∀ n ≤ events.length, motive n (standingAt rules events n) := by
  intro n
  induction n with
  | zero => exact fun _ => start
  | succ n ih =>
    intro inRange
    have here : events[n]? = some events[n] := List.getElem?_eq_getElem inRange
    rw [standingAt_succ here]
    exact keep n _ here (ih (Nat.le_of_succ_le inRange))

/-- Along a run the record changes with breaches only. -/
theorem lastBreachMs_standingAt_succ (rules : Hysteresis α) {events : List (Event α)} {n : ℕ}
    (here : events[n]? = some (.read reading)) (same : reading.isSameLink = true) :
    (standingAt rules events (n + 1)).lastBreachMs =
      if reading.breaches rules (standingAt rules events n) then some reading.nowMs
      else (standingAt rules events n).lastBreachMs := by
  rw [standingAt_succ here]
  exact lastBreachMs_adjust same

omit [Scalar α] in
/-- All events of a run on one link are readings of this link. -/
theorem exists_reading_of_oneLink {events : List (Event α)} {n : ℕ}
    (oneLink : ∀ event ∈ events, event.IsSameLink) (inRange : n < events.length) :
    ∃ reading, events[n]? = some (.read reading) ∧ reading.isSameLink = true := by
  have isSame := oneLink _ (List.getElem_mem inRange)
  rw [List.getElem?_eq_getElem inRange]
  cases event : events[n] with
  | reset =>
    rw [event] at isSame
    exact isSame.elim
  | read reading =>
    rw [event] at isSame
    exact ⟨reading, rfl, isSame⟩

omit [Scalar α] in
/-- Readings of a run on a clock that does not go backwards have times in order. -/
theorem nowMs_le_of_inOrder {events : List (Event α)} {i j : ℕ} {earlier later : Reading α}
    (inOrder : events.Pairwise Event.InOrder) (i_le_j : i ≤ j)
    (atI : events[i]? = some (.read earlier)) (atJ : events[j]? = some (.read later)) :
    earlier.nowMs ≤ later.nowMs := by
  rcases Nat.eq_or_lt_of_le i_le_j with rfl | i_lt_j
  · obtain rfl : earlier = later := by simpa [atI] using atJ
    exact le_rfl
  · obtain ⟨i_lt, isEarlier⟩ := List.getElem?_eq_some_iff.mp atI
    obtain ⟨j_lt, isLater⟩ := List.getElem?_eq_some_iff.mp atJ
    have ordered := List.pairwise_iff_getElem.mp inOrder i j i_lt j_lt i_lt_j
    rw [isEarlier, isLater] at ordered
    exact ordered

end Steps

/-! ### Scores -/

section Scores

variable {α : Type} [Scalar α]

/-- Whether an event is a reset or a reading such as scorers hand over. -/
def Event.IsProper : Event α → Prop
  | .read reading => reading.IsProper
  | .reset => True

instance : DecidablePred (@Event.IsProper α _)
  | .read reading => inferInstanceAs (Decidable reading.IsProper)
  | .reset => inferInstanceAs (Decidable True)

variable [Scalar.KeepsSigns α] {rules : Hysteresis α} {reading : Reading α}
  {events : List (Event α)}

/-- The score after a reading is the adjusted one of some raw score: of the one that was read, or of
the best one if the link is another. -/
theorem exists_score_adjust_eq (standing : Standing α) (proper : rules.IsProper)
    (properReading : reading.IsProper) :
    ∃ previous raw, 0 ≤ raw ∧ (standing.adjust rules reading).score =
      adjustedScore rules previous raw reading.threshold reading.margin := by
  cases same : reading.isSameLink with
  | true => exact ⟨_, _, properReading.raw_nonneg, score_adjust same⟩
  | false =>
    rw [adjust_of_not_same same]
    exact ⟨_, _, proper.maxScore_nonneg, score_adjust rfl⟩

theorem score_nonneg (proper : rules.IsProper) (properEvents : ∀ event ∈ events, event.IsProper) :
    ∀ n ≤ events.length, 0 ≤ (standingAt rules events n).score := by
  refine standingAt_induction (motive := fun _ standing => 0 ≤ standing.score)
    proper.maxScore_nonneg ?_
  intro n event here _
  have properEvent := properEvents event (List.mem_of_getElem? here)
  cases event with
  | read reading =>
    obtain ⟨previous, raw, raw_nonneg, score⟩ := exists_score_adjust_eq
      (standingAt rules events n) proper properEvent
    rw [respond, score]
    exact adjustedScore_nonneg proper raw_nonneg properEvent.threshold_pos
      properEvent.margin_nonneg
  | reset => exact proper.maxScore_nonneg

end Scores

section ExactScores

variable {K : Type} [Field K] [LinearOrder K] [IsStrictOrderedRing K] [FloorRing K]
  {rules : Hysteresis (Exact K)} {reading : Reading (Exact K)}

theorem isAdjusted_adjust (standing : Standing (Exact K)) (proper : rules.IsProper)
    (properReading : reading.IsProper) :
    IsAdjusted rules (standing.adjust rules reading).score := by
  obtain ⟨previous, raw, raw_nonneg, score⟩ := exists_score_adjust_eq standing proper properReading
  rw [score]
  exact isAdjusted_adjustedScore proper raw_nonneg properReading.threshold_pos
    properReading.margin_nonneg

/-- The score after a reading exceeds the highest score by one at most. -/
theorem score_adjust_le (standing : Standing (Exact K)) (proper : rules.IsProper)
    (properReading : reading.IsProper) :
    (standing.adjust rules reading).score ≤ rules.maxScore + 1 := by
  obtain ⟨previous, raw, raw_nonneg, score⟩ := exists_score_adjust_eq standing proper properReading
  rw [score]
  exact adjustedScore_le proper raw_nonneg properReading.threshold_pos properReading.margin_nonneg

end ExactScores

end Standing

end LinkQuality
