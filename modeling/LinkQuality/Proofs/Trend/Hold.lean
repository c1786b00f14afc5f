import LinkQuality.Proofs.Exact
import LinkQuality.Proofs.Settings.Accepted
import LinkQuality.Proofs.Trend.Observe

/-!
# The hold after a fall

A link that was given up is not taken back at once. When the score falls below the transition, the
time is remembered, and until the hold has passed no score that rises again is taken as it comes. It
is the score before it that is kept, which lies below, so no new fall is recorded either and the
hold is not prolonged.

The best score is not below the transition, so a new connection counts as one that is not below.
Handovers, missing readings and counters that start over make no difference, since none of them
changes the score that was settled last or the time of the fall.

## Main definitions

* `TrendScorer.Memory.IsHeld`: whether the score is below the transition since a remembered fall
* `TrendScorer.judge`, `TrendScorer.usability`: the verdict on a sample at a time, for links of one
  kind, and whether a run of them finds the link usable
* `TrendScorer.IsGivenUpAt`: whether a link is given up at a place of a run

## Main results

* `TrendScorer.verdict_cases`: what a call does to the settled score and the remembered fall
* `TrendScorer.isHeld_of_fall`, `TrendScorer.Memory.IsHeld.verdict`: a fall begins the hold, and a
  call before its end keeps it
* `TrendScorer.isHeld_memoryAt`: the hold lasts through a run
* `TrendScorer.not_usable_until_hold_passed`: no link is found usable before the hold has passed
-/

namespace LinkQuality

namespace Trend.Boundary

variable {α : Type} [Scalar α] {rules : Settings.Trend α} {boundary : Boundary}
  {signs : Signs α} {nowMs : ℕ} {transition score : ℤ}

/-- While a score is held below the transition, what is settled on lies below it. -/
theorem settle_lt_of_isHeld (below : signs.previous < transition)
    (held : boundary.isHeld rules nowMs = true) :
    boundary.settle rules signs nowMs transition score < transition := by
  have notAbove : ¬ transition < signs.previous := Int.not_lt.mpr below.le
  unfold settle
  split_ifs with spared rises
  · exact absurd spared.1 notAbove
  · exact below
  · -- A score that does not rise to the transition is below it.
    exact Int.not_le.mp fun reaches => rises ⟨below, reaches, held⟩

theorem lastFallMs_probe [Exponential α] :
    (boundary.probe rules nowMs transition score).lastFallMs = boundary.lastFallMs := by
  unfold probe
  split_ifs <;> rfl

end Trend.Boundary

namespace TrendScorer

variable {α : Type} [Scalar α] [Exponential α] {scorer : TrendScorer α} {memory : Memory α}
  {sample : Sample} {nowMs : ℕ} {isPrimary : Bool}

/-! ### Single calls -/

/-- What a call does to the settled score and to the remembered fall: nothing before the first
reading, and else a score is settled and a fall is remembered. -/
theorem verdict_cases (scorer : TrendScorer α) (memory : Memory α) (sample : Sample) (nowMs : ℕ)
    (isPrimary : Bool) :
    let after := (scorer.verdict memory sample nowMs isPrimary).1
    let transition := scorer.transition isPrimary
    after.score = memory.score ∧ after.boundary = memory.boundary ∨
      ∃ (signs : Trend.Signs α) (score : ℤ), signs.previous = memory.score ∧
        after.score = memory.boundary.settle scorer.settings signs nowMs transition score ∧
        after.boundary.lastFallMs =
          (memory.boundary.recordFall memory.score after.score transition nowMs).lastFallMs := by
  obtain ⟨sameScore, sameBoundary⟩ := score_observe scorer memory sample
  dsimp only [verdict]
  split_ifs with started
  · -- Whatever was scored and observed, only the score before and the remembered fall matter.
    refine .inr ⟨scorer.signs (scorer.observe memory sample) sample,
      scorer.rawScore (scorer.observe memory sample), sameScore, ?_, ?_⟩
    · rw [sameBoundary]
    · rw [Trend.Boundary.lastFallMs_probe, sameScore, sameBoundary]
  · exact .inl ⟨sameScore, sameBoundary⟩

/-- A link is usable exactly if the score that is settled on reaches the transition. -/
theorem isUsable_verdict :
    (scorer.verdict memory sample nowMs isPrimary).2.isUsable =
      decide (scorer.transition isPrimary ≤
        (scorer.verdict memory sample nowMs isPrimary).1.score) := by
  dsimp only [verdict]
  split_ifs <;> rfl

/-- Whether the score lies below a transition since a remembered fall. -/
structure Memory.IsHeld (transition : ℤ) (fallMs : ℕ) (memory : Memory α) : Prop where
  below : memory.score < transition
  remembered : memory.boundary.lastFallMs = some fallMs

/-- A call that takes the score below the transition begins the hold. -/
theorem isHeld_of_fall (reached : scorer.transition isPrimary ≤ memory.score)
    (fell : (scorer.verdict memory sample nowMs isPrimary).1.score < scorer.transition isPrimary) :
    (scorer.verdict memory sample nowMs isPrimary).1.IsHeld (scorer.transition isPrimary)
      nowMs := by
  refine ⟨fell, ?_⟩
  rcases verdict_cases scorer memory sample nowMs isPrimary with ⟨sameScore, -⟩ |
    ⟨signs, score, -, -, remembered⟩
  · rw [sameScore] at fell
    exact absurd reached (Int.not_le.mpr fell)
  · rw [remembered, Trend.Boundary.recordFall, if_pos ⟨reached, fell⟩]

/-- A call before the end of the hold keeps it, with the same remembered fall. -/
theorem Memory.IsHeld.verdict {fallMs : ℕ}
    (held : memory.IsHeld (scorer.transition isPrimary) fallMs)
    (recent : nowMs - fallMs < scorer.settings.holdBelow.clockMillis) :
    (scorer.verdict memory sample nowMs isPrimary).1.IsHeld (scorer.transition isPrimary)
      fallMs := by
  rcases verdict_cases scorer memory sample nowMs isPrimary with ⟨sameScore, sameBoundary⟩ |
    ⟨signs, score, previous, settled, remembered⟩
  · exact ⟨sameScore ▸ held.below, sameBoundary ▸ held.remembered⟩
  · have isHeld : memory.boundary.isHeld scorer.settings nowMs = true := by
      simpa [Trend.Boundary.isHeld, held.remembered] using recent
    constructor
    · rw [settled]
      exact Trend.Boundary.settle_lt_of_isHeld (previous.symm ▸ held.below) isHeld
    · -- The score was below before, so this is no fall.
      have noFall : ¬ scorer.transition isPrimary ≤ memory.score := Int.not_le.mpr held.below
      rw [remembered, Trend.Boundary.recordFall, if_neg fun fall => noFall fall.1]
      exact held.remembered

/-! ### Runs -/

/-- The verdict on a sample at a time, for links of one kind. -/
def judge (scorer : TrendScorer α) (isPrimary : Bool) (memory : Memory α)
    (reading : Sample × ℕ) : Memory α × Verdict :=
  scorer.verdict memory reading.1 reading.2 isPrimary

/-- The memory of a new connection after the first readings. -/
def memoryAt (scorer : TrendScorer α) (isPrimary : Bool) (readings : List (Sample × ℕ)) (n : ℕ) :
    Memory α :=
  stateAfter (scorer.judge isPrimary) scorer.start (readings.take n)

variable {readings : List (Sample × ℕ)} {reading : Sample × ℕ} {n : ℕ}

theorem memoryAt_add_one (here : readings[n]? = some reading) :
    scorer.memoryAt isPrimary readings (n + 1) =
      (scorer.verdict (scorer.memoryAt isPrimary readings n) reading.1 reading.2 isPrimary).1 :=
  stateAfter_take_add_one _ _ here

/-- Once begun, the hold lasts as long as the readings come before its end. -/
theorem isHeld_memoryAt {k m fallMs : ℕ}
    (held : (scorer.memoryAt isPrimary readings (k + 1)).IsHeld (scorer.transition isPrimary)
      fallMs)
    (k_le_m : k ≤ m)
    (recent : ∀ n, n ≤ m → ∀ reading, readings[n]? = some reading →
      reading.2 - fallMs < scorer.settings.holdBelow.clockMillis)
    (inRange : m < readings.length) :
    (scorer.memoryAt isPrimary readings (m + 1)).IsHeld (scorer.transition isPrimary) fallMs := by
  induction m, k_le_m using Nat.le_induction with
  | base => exact held
  | succ m k_le_m ih =>
    -- The fall that is remembered is the same one after every call.
    have here : readings[m + 1]? = some readings[m + 1] := List.getElem?_eq_getElem inRange
    have heldBefore := ih (fun n n_le_m => recent n (Nat.le_succ_of_le n_le_m)) (by omega)
    rw [memoryAt_add_one here]
    exact heldBefore.verdict (recent (m + 1) le_rfl _ here)

/-- Whether the verdicts on a new connection find it usable, one after the other. -/
def usability (scorer : TrendScorer α) (isPrimary : Bool) (readings : List (Sample × ℕ)) :
    List Bool :=
  (answers (scorer.judge isPrimary) scorer.start readings).map Verdict.isUsable

/-- Whether a connection is given up at a place: it is unusable there, and was usable just before
if there is a verdict before. -/
structure IsGivenUpAt (usable : List Bool) (k : ℕ) : Prop where
  before : ∀ n, n + 1 = k → usable[n]? = some true
  here : usable[k]? = some false

/-- A connection is found usable exactly if the score then reaches the transition. -/
theorem getElem?_usability (here : readings[n]? = some reading) :
    (scorer.usability isPrimary readings)[n]? = some (decide (scorer.transition isPrimary ≤
      (scorer.memoryAt isPrimary readings (n + 1)).score)) := by
  rw [usability, List.getElem?_map, getElem?_answers, here, memoryAt_add_one here]
  exact congrArg some isUsable_verdict

/-- Until a connection is given up, its score reaches the transition. With accepted settings this
also holds of a new connection, which has the best score. -/
theorem transition_le_score_of_isGivenUpAt {overrides : Settings.Overrides α}
    {settings : Settings α} (accepted : overrides.resolve = .ok settings) {k : ℕ}
    (givenUp : IsGivenUpAt (usability ⟨settings.trend⟩ isPrimary readings) k)
    (inRange : k < readings.length) :
    transition ⟨settings.trend⟩ isPrimary ≤
      (memoryAt ⟨settings.trend⟩ isPrimary readings k).score := by
  cases k with
  | zero =>
    obtain ⟨horizon, -, passes⟩ := Settings.Overrides.resolve_eq_ok_iff.mp accepted
    cases isPrimary with
    | true => exact passes.transitionScore
    | false => exact passes.secondaryTransitionScore
  | succ n =>
    have here : readings[n]? = some readings[n] :=
      List.getElem?_eq_getElem (Nat.lt_of_succ_lt inRange)
    have usable := givenUp.before n rfl
    rw [getElem?_usability here] at usable
    exact of_decide_eq_true (Option.some.inj usable)

omit [Exponential α] in
/-- Readings that are taken in order come before the end of the hold if a later one does. -/
theorem nowMs_lt_of_recent {overrides : Settings.Overrides α} {settings : Settings α}
    (accepted : overrides.resolve = .ok settings)
    (inOrder : readings.Pairwise fun earlier later => earlier.2 ≤ later.2) {m fallMs : ℕ}
    {later : Sample × ℕ} (n_le_m : n ≤ m) (here : readings[n]? = some reading)
    (laterHere : readings[m]? = some later)
    (recent : (Duration.ofMillis (later.2 - fallMs)).nanoseconds <
      settings.trend.holdBelow.nanoseconds) :
    reading.2 - fallMs < settings.trend.holdBelow.clockMillis := by
  have notLater : reading.2 ≤ later.2 := by
    rcases n_le_m.eq_or_lt with rfl | n_lt_m
    · obtain rfl : reading = later := Option.some.inj (here.symm.trans laterHere)
      exact le_rfl
    · obtain ⟨nInRange, rfl⟩ := List.getElem?_eq_some_iff.mp here
      obtain ⟨mInRange, rfl⟩ := List.getElem?_eq_some_iff.mp laterHere
      exact List.pairwise_iff_getElem.mp inOrder n m nInRange mInRange n_lt_m
  -- The hold is a whole number of milliseconds and fits the clock, so that nothing of it is lost.
  obtain ⟨holdMs, hold⟩ := Settings.Overrides.exists_holdBelow_eq accepted
  rw [hold] at recent
  rw [hold, Duration.clockMillis_ofCount]
  change (later.2 - fallMs) * 1000000 < holdMs.toNat * 1000000 at recent
  omega

/-- With accepted settings, a connection that is given up stays unusable until the hold has passed,
whatever is read in the meantime, if time does not run backwards. -/
theorem not_usable_until_hold_passed {overrides : Settings.Overrides α} {settings : Settings α}
    (accepted : overrides.resolve = .ok settings) (isPrimary : Bool)
    {readings : List (Sample × ℕ)}
    (inOrder : readings.Pairwise fun earlier later => earlier.2 ≤ later.2) {k m : ℕ}
    {atFall later : Sample × ℕ} (fallHere : readings[k]? = some atFall)
    (givenUp : IsGivenUpAt (usability ⟨settings.trend⟩ isPrimary readings) k)
    (k_le_m : k ≤ m) (laterHere : readings[m]? = some later)
    (recent : (Duration.ofMillis (later.2 - atFall.2)).nanoseconds <
      settings.trend.holdBelow.nanoseconds) :
    (usability ⟨settings.trend⟩ isPrimary readings)[m]? = some false := by
  have inRange : m < readings.length := (List.getElem?_eq_some_iff.mp laterHere).1
  have fallInRange : k < readings.length := k_le_m.trans_lt inRange
  have reached := transition_le_score_of_isGivenUpAt accepted givenUp fallInRange
  have fell := givenUp.here
  rw [getElem?_usability fallHere] at fell
  have held : (memoryAt ⟨settings.trend⟩ isPrimary readings (k + 1)).IsHeld
      (transition ⟨settings.trend⟩ isPrimary) atFall.2 := by
    rw [memoryAt_add_one fallHere] at fell ⊢
    exact isHeld_of_fall reached (Int.not_le.mp (of_decide_eq_false (Option.some.inj fell)))
  have heldLater := isHeld_memoryAt held k_le_m
    (fun n n_le_m reading here => nowMs_lt_of_recent accepted inOrder n_le_m here laterHere recent)
    inRange
  rw [getElem?_usability laterHere, decide_eq_false (Int.not_le.mpr heldLater.below)]

/-- A roam to a weak link is a fall, and a roam to a strong one a millisecond before nine seconds
have passed does not make up for it. No exponential is taken before the fall, so that any function
can stand for it. -/
theorem not_usable_until_hold_passed_roam :
    let _ : Exponential (Exact ℚ) := ⟨fun x => 1 + x⟩
    let settings : Settings (Exact ℚ) := .defaults
    let on (frequencyMhz : ℕ) (timestampMs : ℕ) (rssiDbm : ℤ) (txSuccess : ℕ) : Sample × ℕ :=
      ({ timestampMs, accessPoint := ⟨.zero, frequencyMhz⟩, rssiDbm, counters := { txSuccess } },
        timestampMs)
    let readings := [on 2412 0 (-60) 100, on 5180 3000 (-95) 0, on 5955 11999 (-40) 0]
    (usability ⟨settings.trend⟩ true readings)[2]? = some false := by
  intro _ settings on readings
  have accepted : ({} : Settings.Overrides (Exact ℚ)).resolve = .ok settings :=
    Settings.Overrides.resolve_eq_ok_iff.mpr ⟨.ofSeconds 15, rfl, by constructor <;> decide +kernel⟩
  have givenUp : IsGivenUpAt (usability ⟨settings.trend⟩ true readings) 1 := by
    refine ⟨fun n same => ?_, by decide +kernel⟩
    obtain rfl : n = 0 := by omega
    decide +kernel
  exact not_usable_until_hold_passed accepted true (by decide) rfl givenUp (by decide) rfl
    (by decide)

end TrendScorer

end LinkQuality
