import LinkQuality.Proofs.Trend.Hold
import LinkQuality.Proofs.Trend.Level

/-!
# Steady links

A new connection on which only one signal strength is ever read is steady, if time does not run
backwards. Its filter rests at that strength after every call, whatever the counters say and however
far apart the samples are, so its score only follows the exit level. It never falls. A link that is
near the exit level or below it can earn a higher score with traffic, up to two above the
transition, and without traffic in one direction it keeps the score that it began with.

## Main definitions

* `TrendScorer.AreSteady`: whether readings are those of a steady connection
* `TrendScorer.rawScores`: the raw scores of a new connection

## Main results

* `TrendScorer.AreSteady.restsAt_memoryAt`: a steady connection is at rest
* `TrendScorer.AreSteady.rises_memoryAt`, `TrendScorer.AreSteady.rawScore_memoryAt_le`: its score
  from one call to the next, and through a run
* `TrendScorer.isIdle_memoryAt`: a connection whose counter of successes never advances
* `TrendScorer.AreSteady.score_eq`, `TrendScorer.AreSteady.pairwise_rawScores`,
  `TrendScorer.AreSteady.le_of_mem_rawScores`, `TrendScorer.AreSteady.eq_of_mem_rawScores`: what
  the scores of a steady connection are, and how they compare
* `TrendScorer.steady_scores_follow_level`: all of this with accepted settings
-/

namespace LinkQuality

variable {K : Type} [Field K] [LinearOrder K] [FloorRing K]

namespace TrendScorer

variable {scorer : TrendScorer (Exact K)} {point : AccessPoint} {rssi : ℤ} {isPrimary : Bool}
  {readings : List (Sample × ℕ)} {reading next : Sample × ℕ} {n m : ℕ}

/-- Whether readings are all of one link and one signal strength, in the order they were taken. -/
structure AreSteady (point : AccessPoint) (rssi : ℤ) (readings : List (Sample × ℕ)) : Prop where
  accessPoint : ∀ reading ∈ readings, reading.1.accessPoint = point
  rssi : ∀ reading ∈ readings, reading.1.rssi? = some rssi
  inOrder : readings.Pairwise fun earlier later => earlier.1.timestampMs ≤ later.1.timestampMs

/-- Two readings of a steady connection that follow each other. -/
theorem AreSteady.consecutive (steady : AreSteady point rssi readings)
    (here : readings[n]? = some reading) (nextHere : readings[n + 1]? = some next) :
    reading.1.accessPoint = next.1.accessPoint ∧ next.1.rssi? = some rssi ∧
      reading.1.timestampMs ≤ next.1.timestampMs := by
  refine ⟨?_, steady.rssi _ (List.mem_of_getElem? nextHere), ?_⟩
  · rw [steady.accessPoint _ (List.mem_of_getElem? here),
      steady.accessPoint _ (List.mem_of_getElem? nextHere)]
  · obtain ⟨inRange, rfl⟩ := List.getElem?_eq_some_iff.mp here
    obtain ⟨nextInRange, rfl⟩ := List.getElem?_eq_some_iff.mp nextHere
    exact List.pairwise_iff_getElem.mp steady.inOrder n (n + 1) inRange nextInRange (by omega)

/-- Accepted settings whose variances are finite are proper. -/
theorem isProper_of_accepted [IsStrictOrderedRing K] {overrides : Settings.Overrides (Exact K)}
    {settings : Settings (Exact K)} (accepted : overrides.resolve = .ok settings)
    (isFinite : Scalar.isFinite settings.trend.accelerationStd = true)
    (fits : settings.trend.maxScore ≤ 0x7FFFFFFF) :
    IsProper (⟨settings.trend⟩ : TrendScorer (Exact K)) := by
  obtain ⟨horizon, completed, passes⟩ := Settings.Overrides.resolve_eq_ok_iff.mp accepted
  refine ⟨⟨?_, ?_⟩, ?_, passes.trendMaxScore_nonneg, fits⟩
  · obtain ⟨std, isNumber, std_pos⟩ := Exact.pos_iff.mp passes.readingStd
    exact ⟨std * std, by rw [noise, Trend.Noise.ofStds, isNumber, Exact.number_mul], by positivity⟩
  · cases isNumber : settings.trend.accelerationStd with
    | undefined =>
      rw [isNumber] at isFinite
      cases isFinite
    | number std =>
      exact ⟨std * std, by rw [noise, Trend.Noise.ofStds, isNumber, Exact.number_mul],
        mul_self_nonneg std⟩
  · rw [← completed]
    exact Exact.half_eq

variable [Exponential (Exact K)]

/-- The raw scores of a new connection. -/
def rawScores (scorer : TrendScorer (Exact K)) (isPrimary : Bool) (readings : List (Sample × ℕ)) :
    List ℤ :=
  (answers (scorer.judge isPrimary) scorer.start readings).map Verdict.score

/-! ### Runs without traffic in a direction -/

/-- The rates are read off the sample of the last call. -/
theorem last?_memoryAt (here : readings[n]? = some reading) :
    (scorer.memoryAt isPrimary readings (n + 1)).meter.last? =
      some (reading.1.timestampMs, reading.1.counters) := by
  rw [memoryAt_add_one here, meter_verdict]
  rfl

variable [IsStrictOrderedRing K]

/-- If a counter of successes never advances, the rates of a new connection stay idle. -/
theorem isIdle_memoryAt {direction : Trend.Direction}
    (noAdvance : readings.Pairwise fun earlier later =>
      direction.counter later.1.counters ≤ direction.counter earlier.1.counters) (n : ℕ) :
    (scorer.memoryAt isPrimary readings n).meter.rates.IsIdle direction := by
  induction n with
  | zero => exact Trend.Rates.isIdle_zero direction
  | succ n ih =>
    cases here : readings[n]? with
    | none =>
      rw [memoryAt, List.take_add_one, here, Option.toList_none, List.append_nil]
      exact ih
    | some reading =>
      rw [memoryAt_add_one here, meter_verdict]
      -- A first sample is compared with none, and a later one with the sample of the call before.
      refine ih.update _ fun timestampMs counters last => ?_
      cases n with
      | zero => cases last
      | succ m =>
        have inRange := (List.getElem?_eq_some_iff.mp here).1
        have before : readings[m]? = some readings[m] := List.getElem?_eq_getElem (by omega)
        rw [last?_memoryAt before] at last
        obtain ⟨-, rfl⟩ := Prod.mk.inj (Option.some.inj last)
        obtain ⟨_, rfl⟩ := List.getElem?_eq_some_iff.mp here
        exact List.pairwise_iff_getElem.mp noAdvance m (m + 1) (by omega) inRange (by omega)

/-! ### Steady runs -/

/-- A steady connection is at rest with every reading that it takes in. -/
theorem AreSteady.restsAt_observe (steady : AreSteady point rssi readings)
    (proper : scorer.IsProper) (isPrimary : Bool) (here : readings[n]? = some reading) :
    (scorer.observe (scorer.memoryAt isPrimary readings n) reading.1).RestsAt rssi reading.1 := by
  induction n generalizing reading with
  | zero =>
    rw [observe_of_reading (steady.rssi _ (List.mem_of_getElem? here))]
    exact (restsAt_read_start proper).shift proper
  | succ n ih =>
    -- The memory before is that of the call before, which was at rest when it took in its sample.
    have inRange : n < readings.length := by
      have := (List.getElem?_eq_some_iff.mp here).1
      omega
    have before : readings[n]? = some readings[n] := List.getElem?_eq_getElem inRange
    obtain ⟨sameLink, reads, inOrder⟩ := steady.consecutive before here
    rw [memoryAt_add_one before]
    exact ((ih before).verdict.1.observe proper sameLink reads inOrder).1

/-- A steady connection is at rest after every call. -/
theorem AreSteady.restsAt_memoryAt (steady : AreSteady point rssi readings)
    (proper : scorer.IsProper) (isPrimary : Bool) (here : readings[n]? = some reading) :
    (scorer.memoryAt isPrimary readings (n + 1)).RestsAt rssi reading.1 := by
  rw [memoryAt_add_one here]
  exact (steady.restsAt_observe proper isPrimary here).verdict.1

/-- The score that a call is given is that of the memory after it. -/
theorem AreSteady.getElem?_rawScores (steady : AreSteady point rssi readings)
    (proper : scorer.IsProper) (isPrimary : Bool) (here : readings[n]? = some reading) :
    (scorer.rawScores isPrimary readings)[n]? =
      some (scorer.rawScore (scorer.memoryAt isPrimary readings (n + 1))) := by
  rw [rawScores, List.getElem?_map, getElem?_answers, here, memoryAt_add_one here]
  exact congrArg some (steady.restsAt_observe proper isPrimary here).verdict.2.1

/-- Every score of a steady connection is that of the memory after one of its calls. -/
theorem AreSteady.rawScore_of_getElem? (steady : AreSteady point rssi readings)
    (proper : scorer.IsProper) (isPrimary : Bool) {score : ℤ}
    (scored : (scorer.rawScores isPrimary readings)[n]? = some score) :
    n < readings.length ∧ score = scorer.rawScore (scorer.memoryAt isPrimary readings (n + 1)) := by
  have inRange : n < readings.length := by
    simpa [rawScores] using (List.getElem?_eq_some_iff.mp scored).1
  rw [steady.getElem?_rawScores proper isPrimary (List.getElem?_eq_getElem inRange)] at scored
  exact ⟨inRange, (Option.some.inj scored).symm⟩

/-- From one call to the next the score of a steady connection only rises, by a shift. -/
theorem AreSteady.rises_memoryAt (steady : AreSteady point rssi readings)
    (proper : scorer.IsProper) (isPrimary : Bool) (here : readings[n]? = some reading)
    (nextHere : readings[n + 1]? = some next) :
    scorer.Rises (scorer.memoryAt isPrimary readings (n + 1))
      (scorer.memoryAt isPrimary readings (n + 2)) := by
  obtain ⟨sameLink, reads, inOrder⟩ := steady.consecutive here nextHere
  have rests := steady.restsAt_memoryAt proper isPrimary here
  rw [memoryAt_add_one nextHere]
  exact (steady.restsAt_observe proper isPrimary nextHere).verdict.2.2 _
    (rests.observe proper sameLink reads inOrder).2

/-- Through a run the scores of a steady connection never fall, and rise no further than a link near
the exit level or below it can. -/
theorem AreSteady.rawScore_memoryAt_le (steady : AreSteady point rssi readings)
    (proper : scorer.IsProper) (isPrimary : Bool) (n_le_m : n ≤ m) (inRange : m < readings.length) :
    scorer.rawScore (scorer.memoryAt isPrimary readings (n + 1)) ≤
        scorer.rawScore (scorer.memoryAt isPrimary readings (m + 1)) ∧
      scorer.rawScore (scorer.memoryAt isPrimary readings (m + 1)) ≤
        max (scorer.rawScore (scorer.memoryAt isPrimary readings (n + 1)))
          (scorer.nearestScore (scorer.settings.transitionScore + 2)) := by
  induction m, n_le_m using Nat.le_induction with
  | base => exact ⟨le_rfl, le_max_left _ _⟩
  | succ m n_le_m ih =>
    obtain ⟨rose, bounded⟩ := ih (by omega)
    have rises := steady.rises_memoryAt proper isPrimary
      (List.getElem?_eq_getElem (by omega : m < readings.length))
      (List.getElem?_eq_getElem inRange)
    exact ⟨rose.trans rises.rawScore_le,
      rises.le_max.trans (max_le bounded (le_max_right _ _))⟩

/-- Through a run in which the link never works, the scores of a steady connection stay equal. -/
theorem AreSteady.rawScore_memoryAt_eq (steady : AreSteady point rssi readings)
    (proper : scorer.IsProper) (isPrimary : Bool)
    (idle : ∀ k, scorer.isWorking (scorer.memoryAt isPrimary readings k) = false)
    (inRange : m < readings.length) :
    scorer.rawScore (scorer.memoryAt isPrimary readings (m + 1)) =
      scorer.rawScore (scorer.memoryAt isPrimary readings 1) := by
  induction m with
  | zero => rfl
  | succ m ih =>
    have rises := steady.rises_memoryAt proper isPrimary
      (List.getElem?_eq_getElem (by omega : m < readings.length))
      (List.getElem?_eq_getElem inRange)
    exact (rises.eq_of_idle (idle _)).trans (ih (by omega))

/-! ### Scores -/

/-- Every score of a steady connection is the distance of its signal strength from the exit level,
counted from the transition. -/
theorem AreSteady.score_eq (steady : AreSteady point rssi readings) (proper : scorer.IsProper)
    (isPrimary : Bool) {score : ℤ}
    (scored : (scorer.rawScores isPrimary readings)[n]? = some score) :
    let memory := scorer.memoryAt isPrimary readings (n + 1)
    memory.filter.value = .number (rssi : K) ∧ memory.filter.velocity = .number 0 ∧
      ∃ level : ℤ, scorer.exitLevel memory = .number (level : K) ∧
        score = scorer.nearestScore (rssi - level + scorer.settings.transitionScore) := by
  intro memory
  obtain ⟨inRange, rfl⟩ := steady.rawScore_of_getElem? proper isPrimary scored
  have rests := steady.restsAt_memoryAt proper isPrimary (List.getElem?_eq_getElem inRange)
  obtain ⟨shift, isNumber⟩ := rests.shiftDb
  have atLevel := exitLevel_number scorer isNumber
  exact ⟨rests.filter.value, rests.filter.velocity, _, atLevel,
    rawScore_of_restsAt proper rests.filter atLevel⟩

theorem AreSteady.pairwise_rawScores (steady : AreSteady point rssi readings)
    (proper : scorer.IsProper) (isPrimary : Bool) :
    (scorer.rawScores isPrimary readings).Pairwise (· ≤ ·) := by
  rw [List.pairwise_iff_getElem]
  intro i j i_inRange j_inRange i_lt_j
  obtain ⟨-, first⟩ := steady.rawScore_of_getElem? proper isPrimary
    (List.getElem?_eq_getElem i_inRange)
  obtain ⟨inRange, second⟩ := steady.rawScore_of_getElem? proper isPrimary
    (List.getElem?_eq_getElem j_inRange)
  rw [first, second]
  exact (steady.rawScore_memoryAt_le proper isPrimary i_lt_j.le inRange).1

/-- No score of a steady connection is higher than its first one, or than what a link near the exit
level or below it can earn. -/
theorem AreSteady.le_of_mem_rawScores (steady : AreSteady point rssi readings)
    (proper : scorer.IsProper) (isPrimary : Bool) {first score : ℤ}
    (isFirst : first ∈ (scorer.rawScores isPrimary readings).head?)
    (scored : score ∈ scorer.rawScores isPrimary readings) :
    score ≤ max first (scorer.nearestScore (scorer.settings.transitionScore + 2)) := by
  rw [Option.mem_def, List.head?_eq_getElem?] at isFirst
  obtain ⟨-, rfl⟩ := steady.rawScore_of_getElem? proper isPrimary isFirst
  obtain ⟨n, here⟩ := List.getElem?_of_mem scored
  obtain ⟨inRange, rfl⟩ := steady.rawScore_of_getElem? proper isPrimary here
  exact (steady.rawScore_memoryAt_le proper isPrimary (Nat.zero_le n) inRange).2

/-- If a counter of successes never advances but working takes some successes, every score of a
steady connection is the one after its first call. -/
theorem AreSteady.eq_of_mem_rawScores (steady : AreSteady point rssi readings)
    (proper : scorer.IsProper) (isPrimary : Bool) (takesAny : 0 < scorer.settings.minSuccessRate)
    {direction : Trend.Direction}
    (noAdvance : readings.Pairwise fun earlier later =>
      direction.counter later.1.counters ≤ direction.counter earlier.1.counters)
    {score : ℤ} (scored : score ∈ scorer.rawScores isPrimary readings) :
    score = scorer.rawScore (scorer.memoryAt isPrimary readings 1) := by
  have idle (k : ℕ) : scorer.isWorking (scorer.memoryAt isPrimary readings k) = false :=
    isWorking_eq_false_of_isIdle (isIdle_memoryAt noAdvance k) takesAny
  obtain ⟨n, here⟩ := List.getElem?_of_mem scored
  obtain ⟨inRange, rfl⟩ := steady.rawScore_of_getElem? proper isPrimary here
  exact steady.rawScore_memoryAt_eq proper isPrimary idle inRange

/-! ### Accepted settings -/

/-- What the scores of a steady connection follow: the filter rests at the signal strength, and the
score is the distance from the exit level, counted from the transition. It never falls, and rises
no further than to two above the transition, and not at all on a link that has no successes in one
direction, if any are asked for. -/
theorem steady_scores_follow_level {overrides : Settings.Overrides (Exact K)}
    {settings : Settings (Exact K)} (accepted : overrides.resolve = .ok settings)
    (isFinite : Scalar.isFinite settings.trend.accelerationStd = true)
    (fits : settings.trend.maxScore ≤ 0x7FFFFFFF)
    {point : AccessPoint} {rssi : ℤ} {readings : List (Sample × ℕ)}
    (steady : AreSteady point rssi readings) (isPrimary : Bool) :
    let scorer : TrendScorer (Exact K) := ⟨settings.trend⟩
    let scores := scorer.rawScores isPrimary readings
    (∀ (n : ℕ) (score : ℤ), scores[n]? = some score →
      let memory := scorer.memoryAt isPrimary readings (n + 1)
      memory.filter.value = .number (rssi : K) ∧ memory.filter.velocity = .number 0 ∧
        ∃ level : ℤ, scorer.exitLevel memory = .number (level : K) ∧
          score = scorer.nearestScore (rssi - level + scorer.settings.transitionScore)) ∧
      scores.Pairwise (· ≤ ·) ∧
      (∀ first ∈ scores.head?, ∀ score ∈ scores,
        score ≤ max first (scorer.nearestScore (scorer.settings.transitionScore + 2))) ∧
      (0 < scorer.settings.minSuccessRate → ∀ direction : Trend.Direction,
        (readings.Pairwise fun earlier later =>
          direction.counter later.1.counters ≤ direction.counter earlier.1.counters) →
        ∀ score ∈ scores, ∀ other ∈ scores, score = other) := by
  intro scorer scores
  have proper : scorer.IsProper := isProper_of_accepted accepted isFinite fits
  refine ⟨?_, ?_, ?_, ?_⟩
  · intro n score scored
    exact steady.score_eq proper isPrimary scored
  · exact steady.pairwise_rawScores proper isPrimary
  · intro first isFirst score scored
    exact steady.le_of_mem_rawScores proper isPrimary isFirst scored
  · intro takesAny direction noAdvance score scored other otherScored
    rw [steady.eq_of_mem_rawScores proper isPrimary takesAny noAdvance scored,
      steady.eq_of_mem_rawScores proper isPrimary takesAny noAdvance otherScored]

/-- A weak link that moves traffic earns a lower exit level, bit by bit, and with it a higher score.
The function that rates decay with is a linear one here, so that the rates are rational. -/
theorem steady_scores_follow_level_busy :
    let _ : Exponential (Exact ℚ) := ⟨fun x => 1 + x⟩
    let settings : Settings (Exact ℚ) := .defaults
    let scorer : TrendScorer (Exact ℚ) := ⟨settings.trend⟩
    let taken (timestampMs packets : ℕ) : Sample × ℕ :=
      ({ timestampMs, accessPoint := ⟨.zero, 2412⟩, rssiDbm := -85,
         counters := { txSuccess := packets, rxSuccess := packets } }, timestampMs)
    let readings := [taken 0 0, taken 3000 30, taken 3000 60, taken 6000 90, taken 9000 120]
    let scores := scorer.rawScores true readings
    scores = [48, 48, 48, 49, 49] ∧ scores.Pairwise (· ≤ ·) ∧
      ∀ score ∈ scores, score ≤ max 48 (scorer.nearestScore 52) := by
  intro _ settings scorer taken readings scores
  have accepted : ({} : Settings.Overrides (Exact ℚ)).resolve = .ok settings :=
    Settings.Overrides.resolve_eq_ok_iff.mpr ⟨.ofSeconds 15, rfl, by constructor <;> decide +kernel⟩
  have steady : AreSteady ⟨.zero, 2412⟩ (-85) readings := by constructor <;> decide
  have values : scores = [48, 48, 48, 49, 49] := by decide +kernel
  obtain ⟨-, ordered, bounded, -⟩ := steady_scores_follow_level accepted rfl (by decide) steady true
  have isFirst : 48 ∈ scores.head? := by rw [values, List.head?_cons, Option.mem_def]
  exact ⟨values, ordered, bounded 48 isFirst⟩

end TrendScorer

end LinkQuality
