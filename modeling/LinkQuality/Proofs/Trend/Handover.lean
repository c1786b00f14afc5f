import LinkQuality.Proofs.Trend.Range

/-!
# The filter after a handover

A handover does not touch the filter. It only makes the next reading start it over, and from that
reading on the filter is that of the present link: what it holds follows from the times and signal
strengths since the handover, whatever was measured before.

Until that reading comes, the filter still is that of the link before. If nothing had been read
there, it is blank and the present link is not scored. Otherwise the present link is scored, by the
signal strength of the other one and the levels of its own band.

## Main definitions

* `Call.IsOn`, `Call.reading?`: the access point of a call, and what it reads
* `TrendScorer.memoryAfter`: the memory after some calls
* `TrendScorer.filterOf`: the filter that readings of one link lead to
* `TrendScorer.Memory.Tracks`: what is left of the past in a memory, and what came after

## Main results

* `TrendScorer.tracks_memoryAfter`: the invariant of a link
* `TrendScorer.filter_eq_blank_iff`: when a filter is blank
* `TrendScorer.filter_after_handover`: what the filter and the scores of a link depend on
-/

namespace LinkQuality

/-! ### The calls of a link -/

/-- Whether a call hands over a sample of an access point. -/
def Call.IsOn (point : AccessPoint) : Call → Prop
  | .score sample _ _ => sample.accessPoint = point
  | .reset => False

/-- The time and the signal strength that a call hands over. -/
def Call.reading? : Call → Option (ℕ × ℤ)
  | .score sample _ _ => sample.rssi?.map fun rssi => (sample.timestampMs, rssi)
  | .reset => none

/-- The times and signal strengths that calls hand over. -/
def readingsOf (calls : List Call) : List (ℕ × ℤ) := calls.filterMap Call.reading?

theorem readingsOf_append_singleton (calls : List Call) (call : Call) :
    readingsOf (calls ++ [call]) = readingsOf calls ++ call.reading?.toList := by
  rw [readingsOf, List.filterMap_append, ← readingsOf]
  cases reading : call.reading? with
  | none => simp [reading]
  | some reading => simp [reading]

namespace TrendScorer

variable {α : Type} {memory : Memory α} {sample : Sample} {nowMs : ℕ} {isPrimary : Bool}
  {point : AccessPoint}

/-! ### Single calls -/

/-- On the same access point nothing changes. -/
theorem attend_of_eq (same : memory.accessPoint? = some point) : attend memory point = memory :=
  if_pos same

/-- After a handover the last reading is forgotten. -/
theorem lastReadingMs_attend (handover : memory.accessPoint? ≠ some point) :
    (attend memory point).lastReadingMs = none := by
  rw [attend, if_neg handover]

@[simp] theorem accessPoint?_attend : (attend memory point).accessPoint? = some point := by
  unfold attend
  split_ifs with same
  · exact same
  · rfl

variable [Scalar α] {scorer : TrendScorer α}

@[simp] theorem lastReadingMs_shift :
    (scorer.shift memory).lastReadingMs = memory.lastReadingMs := by
  unfold shift
  split_ifs <;> rfl

@[simp] theorem accessPoint?_shift : (scorer.shift memory).accessPoint? = memory.accessPoint? := by
  unfold shift
  split_ifs <;> rfl

/-- The filter after a reading depends on the filter before only if there was a reading before. -/
theorem filterAfter_congr {memory memory' : Memory α}
    (sameTime : memory.lastReadingMs = memory'.lastReadingMs)
    (same : memory'.lastReadingMs ≠ none → memory.filter = memory'.filter) (rssi : ℤ)
    (timestampMs : ℕ) :
    scorer.filterAfter memory rssi timestampMs = scorer.filterAfter memory' rssi timestampMs := by
  unfold filterAfter
  rw [sameTime]
  cases last : memory'.lastReadingMs with
  | none => rfl
  | some lastMs => rw [same (by simp [last])]

section Calls

variable [Exponential α]

/-- The memory after some calls. -/
def memoryAfter (scorer : TrendScorer α) (calls : List Call) : Memory α :=
  stateAfter scorer.step scorer.start calls

theorem memoryAfter_append_singleton (calls : List Call) (call : Call) :
    scorer.memoryAfter (calls ++ [call]) = (scorer.step (scorer.memoryAfter calls) call).1 :=
  stateAfter_append scorer.step scorer.start calls [call]

/-- A call on a sample leads to the memory after its verdict. -/
theorem step_score :
    (scorer.step memory (.score sample nowMs isPrimary)).1 =
      (scorer.verdict memory sample nowMs isPrimary).1 := rfl

@[simp] theorem filter_verdict :
    (scorer.verdict memory sample nowMs isPrimary).1.filter =
      (scorer.observe memory sample).filter := by
  dsimp only [verdict]
  split_ifs <;> rfl

@[simp] theorem lastReadingMs_verdict :
    (scorer.verdict memory sample nowMs isPrimary).1.lastReadingMs =
      (scorer.observe memory sample).lastReadingMs := by
  dsimp only [verdict]
  split_ifs <;> rfl

@[simp] theorem accessPoint?_verdict :
    (scorer.verdict memory sample nowMs isPrimary).1.accessPoint? = some sample.accessPoint := by
  have observed : (scorer.observe memory sample).accessPoint? = some sample.accessPoint := by
    cases reading : sample.rssi? with
    | none => simp [observe_of_no_reading reading, count]
    | some rssi => simp [observe_of_reading reading, read, count]
  rw [← observed]
  dsimp only [verdict]
  split_ifs <;> rfl

/-- The present access point is that of the last call, unless that was a reset. -/
theorem accessPoint?_memoryAfter_ne {calls : List Call}
    (handover : ∀ call, calls.getLast? = some call → ¬ call.IsOn point) :
    (scorer.memoryAfter calls).accessPoint? ≠ some point := by
  rcases List.eq_nil_or_concat calls with rfl | ⟨earlier, call, rfl⟩
  · simp [memoryAfter, stateAfter, start]
  · rw [List.concat_eq_append] at handover ⊢
    have elsewhere := handover call (by simp)
    rw [memoryAfter_append_singleton]
    cases call with
    | score sample nowMs isPrimary =>
      intro same
      exact elsewhere (Option.some.inj (accessPoint?_verdict.symm.trans same))
    | reset => simp [step, forget]

/-! ### Readings -/

/-- The filter has started exactly if there was a reading. -/
theorem hasStarted_memoryAfter (scorer : TrendScorer α) (calls : List Call) :
    (scorer.memoryAfter calls).filter.hasStarted = hasReading calls := by
  induction calls using List.reverseRecOn with
  | nil => rfl
  | append_singleton calls call ih =>
    rw [memoryAfter_append_singleton, hasReading_append_singleton]
    cases call with
    | score sample nowMs isPrimary =>
      rw [step_score, filter_verdict, hasStarted_observe, ih]
    | reset => rfl

theorem filter_eq_blank_iff (calls : List Call) :
    (scorer.memoryAfter calls).filter = .blank ↔ hasReading calls = false := by
  rw [← hasStarted_memoryAfter scorer]
  constructor
  · intro blank
    rw [blank]
    rfl
  · induction calls using List.reverseRecOn with
    | nil =>
      intro stopped
      rfl
    | append_singleton calls call ih =>
      rw [memoryAfter_append_singleton]
      intro stopped
      cases call with
      | score sample nowMs isPrimary =>
        rw [step_score, filter_verdict] at stopped ⊢
        -- A sample without a reading leaves the filter, and one with a reading starts it.
        rw [hasStarted_observe, Bool.or_eq_false_iff] at stopped
        have noReading : sample.rssi? = none := by simpa using stopped.1
        rw [observe_of_no_reading noReading, count, filter_attend]
        exact ih stopped.2
      | reset => rfl

/-! ### The present link -/

/-- The memory after a reading of the same link, as far as the filter is concerned. -/
def follow (scorer : TrendScorer α) (memory : Memory α) (reading : ℕ × ℤ) : Memory α :=
  { memory with
    filter := scorer.filterAfter memory reading.2 reading.1
    lastReadingMs := some reading.1 }

/-- The filter that the times and signal strengths of one link lead to. -/
def filterOf (scorer : TrendScorer α) (readings : List (ℕ × ℤ)) : Trend.Filter α :=
  (readings.foldl scorer.follow scorer.start).filter

/-- What is left of the past in a memory, and what came after: the filter is that of the past until
the first reading, and then that of the readings. -/
structure Memory.Tracks (scorer : TrendScorer α) (past : Trend.Filter α)
    (readings : List (ℕ × ℤ)) (memory : Memory α) : Prop where
  lastReadingMs : memory.lastReadingMs = (readings.foldl scorer.follow scorer.start).lastReadingMs
  filter : memory.filter = if readings = [] then past else scorer.filterOf readings

omit [Exponential α] in
/-- There was a last reading if there was one at all. -/
theorem ne_nil_of_lastReadingMs {readings : List (ℕ × ℤ)}
    (read : (readings.foldl scorer.follow scorer.start).lastReadingMs ≠ none) : readings ≠ [] := by
  rintro rfl
  exact read rfl

/-- A call on the same link hands over a reading or leaves the filter. -/
theorem Memory.Tracks.verdict {past : Trend.Filter α} {readings : List (ℕ × ℤ)}
    (tracks : (attend memory sample.accessPoint).Tracks scorer past readings) :
    (scorer.verdict memory sample nowMs isPrimary).1.Tracks scorer past
      (readings ++ (Call.score sample nowMs isPrimary).reading?.toList) := by
  cases reading : sample.rssi? with
  | none =>
    have nothing : (Call.score sample nowMs isPrimary).reading?.toList = [] := by
      simp [Call.reading?, reading]
    rw [nothing, List.append_nil]
    constructor
    · rw [lastReadingMs_verdict, observe_of_no_reading reading, count]
      exact tracks.lastReadingMs
    · rw [filter_verdict, observe_of_no_reading reading, count]
      exact tracks.filter
  | some rssi =>
    have something : (Call.score sample nowMs isPrimary).reading?.toList =
        [(sample.timestampMs, rssi)] := by
      simp [Call.reading?, reading]
    rw [something]
    constructor
    · rw [lastReadingMs_verdict, observe_of_reading reading, lastReadingMs_shift, List.foldl_append]
      rfl
    · rw [filter_verdict, observe_of_reading reading, filter_shift, if_neg (by simp), filterOf,
        List.foldl_append]
      -- The last reading and the filter are those that the readings before have led to. Without a
      -- reading before, the filter does not matter.
      refine filterAfter_congr tracks.lastReadingMs (fun read => ?_) rssi sample.timestampMs
      exact tracks.filter.trans (if_neg (ne_nil_of_lastReadingMs read))

/-- After a handover the memory tracks the past and the present link. -/
theorem tracks_memoryAfter {earlier link : List Call}
    (handover : ∀ call, earlier.getLast? = some call → ¬ call.IsOn point)
    (present : ∀ call ∈ link, call.IsOn point) :
    (attend (scorer.memoryAfter (earlier ++ link)) point).Tracks scorer
      (scorer.memoryAfter earlier).filter (readingsOf link) := by
  -- A call on the present link leaves the access point, so the filter goes on with its readings.
  induction link using List.reverseRecOn with
  | nil =>
    rw [List.append_nil]
    constructor
    · rw [lastReadingMs_attend (accessPoint?_memoryAfter_ne handover)]
      rfl
    · rw [filter_attend]
      rfl
  | append_singleton link call ih =>
    have before := ih fun call member => present call (List.mem_append_left _ member)
    have isOn : call.IsOn point := present call (by simp)
    rw [← List.append_assoc, memoryAfter_append_singleton, readingsOf_append_singleton]
    cases call with
    | score sample nowMs isPrimary =>
      obtain rfl : sample.accessPoint = point := isOn
      rw [step_score, attend_of_eq accessPoint?_verdict]
      exact before.verdict
    | reset => exact isOn.elim

/-- With a highest score that clamping keeps to, only links without a filter are not scored. -/
theorem score_eq_neg_one_iff (clamps : scorer.ClampsScores) :
    (scorer.verdict memory sample nowMs isPrimary).2.score = -1 ↔
      (scorer.observe memory sample).filter.hasStarted = false := by
  dsimp only [TrendScorer.verdict]
  split_ifs with started
  · have scored : 0 ≤ scorer.rawScore (scorer.observe memory sample) := (clamps _).1
    have notStopped : (scorer.observe memory sample).filter.hasStarted ≠ false := by simp [started]
    exact iff_of_false (by dsimp only [verdictOf]; omega) notStopped
  · exact iff_of_true rfl (Bool.eq_false_of_not_eq_true started)

end Calls

/-- What the filter of a link depends on. From its first reading on it is that of its own readings.
Before, it is the filter that the link before has left, which is blank only if nothing had been
read, and only then the link is not scored. -/
theorem filter_after_handover {scorer : TrendScorer Float} (nonneg : 0 ≤ scorer.settings.maxScore)
    (fits : scorer.settings.maxScore ≤ 0x7FFFFFFF) {earlier link : List Call}
    (handover : ∀ call, earlier.getLast? = some call → ¬ call.IsOn point)
    (present : ∀ call ∈ link, call.IsOn point) :
    let after := scorer.memoryAfter (earlier ++ link)
    (after.filter = if readingsOf link = [] then (scorer.memoryAfter earlier).filter
      else scorer.filterOf (readingsOf link)) ∧
    (after.filter = scorer.filterOf (readingsOf link) ↔
      readingsOf link ≠ [] ∨ hasReading earlier = false) ∧
    ∀ sample nowMs isPrimary, readingsOf link = [] → sample.rssi? = none →
      ((scorer.verdict after sample nowMs isPrimary).2.score = -1 ↔ hasReading earlier = false) := by
  intro after
  have filter : after.filter = if readingsOf link = [] then (scorer.memoryAfter earlier).filter
      else scorer.filterOf (readingsOf link) := by
    rw [← (tracks_memoryAfter handover present).filter, filter_attend]
  refine ⟨filter, ?_, ?_⟩
  · rw [filter]
    -- With no reading there is still the filter of the link before.
    by_cases unread : readingsOf link = []
    · have blank : scorer.filterOf [] = .blank := rfl
      simpa [unread, blank] using filter_eq_blank_iff earlier
    · simp [unread]
  · intro sample nowMs isPrimary unread noReading
    rw [score_eq_neg_one_iff (clampsScores_float nonneg fits), hasStarted_observe, noReading, filter,
      if_pos unread, hasStarted_memoryAfter]
    rfl

/-- A link that is read at once, and read again after a gap. -/
theorem filter_after_handover_read_at_once :
    let scorer : TrendScorer Float := ⟨.defaults⟩
    let earlier : List Call := [.score { accessPoint := ⟨.zero, 2437⟩, rssiDbm := -60 } 0 true]
    let sample : Sample := { accessPoint := ⟨.zero, 5180⟩, timestampMs := 3000, rssiDbm := -75 }
    let link : List Call := [.score sample 3000 true,
      .score { sample with timestampMs := 6000, rssiDbm := noSignalDbm } 6000 true,
      .score { sample with timestampMs := 9000, rssiDbm := -78 } 9000 true]
    (scorer.memoryAfter (earlier ++ link)).filter = scorer.filterOf [(3000, -75), (9000, -78)] := by
  intro scorer earlier sample link
  have handover : ∀ call, earlier.getLast? = some call → ¬ call.IsOn ⟨.zero, 5180⟩ := by
    simp [earlier, Call.IsOn]
  have present : ∀ call ∈ link, call.IsOn ⟨.zero, 5180⟩ := by
    simp [link, sample, Call.IsOn]
  exact (filter_after_handover (by decide) (by decide) handover present).2.1.mpr (.inl (by decide))

/-- A link without a reading of its own is scored all the same after one that was read. -/
theorem not_filter_of_present_link :
    ¬ ∀ (point : AccessPoint) (earlier earlier' link : List Call),
      (∀ call, earlier.getLast? = some call → ¬ call.IsOn point) →
      (∀ call, earlier'.getLast? = some call → ¬ call.IsOn point) →
      (∀ call ∈ link, call.IsOn point) → link ≠ [] →
      let scorer : TrendScorer Float := ⟨.defaults⟩
      (scorer.memoryAfter (earlier ++ link)).filter =
          (scorer.memoryAfter (earlier' ++ link)).filter ∧
        (readingsOf link = [] → ∀ verdict,
          (answers scorer.step scorer.start (earlier ++ link)).getLast? = some (some verdict) →
            verdict.score = -1) := by
  intro known
  let earlier : List Call := [.score { accessPoint := ⟨.zero, 2437⟩, rssiDbm := -60 } 0 true]
  let link : List Call :=
    [.score { accessPoint := ⟨.zero, 5180⟩, timestampMs := 3000 } 3000 true]
  have filters := (known ⟨.zero, 5180⟩ earlier [] link (by simp [earlier, Call.IsOn]) (by simp)
    (by simp [link, Call.IsOn]) (by simp [link])).1
  have started := congrArg Trend.Filter.hasStarted filters
  rw [hasStarted_memoryAfter, hasStarted_memoryAfter] at started
  exact absurd started (by decide)

end TrendScorer

end LinkQuality
