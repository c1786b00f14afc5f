import LinkQuality.Proofs.Simulation.Totals

/-!
# Courses of events

The trace of a station is consistent, whatever happens to it. Its clock advances by the whole
milliseconds of a step with every poll, and by those of a stall. Its counters show what all steps so
far have added up to, so they run on across roams and stalls, and their increases between any two
samples are defined.

The clock and the counters do not go beyond 64 bits. Counters stay at the largest count when they
reach it. Of the clock it is assumed that a course takes no longer than it can show, and then a step
as well is shorter than that, unless there is but one.

## Main definitions

* `Simulation.Event.exact`: events in conditions that are given by numbers
* `Station.after`, `Station.trace`: a station after such events, and its samples
* `Simulation.polled`, `Simulation.stalledMs`: the conditions of the polls, and the time stalled
* `Simulation.elapsedMs`: the time that a course of events takes
* `Simulation.carried`: what the steps of a course have added to a total
* `Simulation.Follows`: whether a sample follows another one as it should

## Main results

* `Station.total_after`, `Station.nowMs_after`: totals and clock after any events
* `Station.exists_poll_of_getElem?`, `Station.exists_polls_of_getElem?`: the poll of a sample, and
  those of two samples in a row
* `Station.trace_consistent`: the trace of any course of events
-/

namespace LinkQuality.Simulation

/-! ### Events -/

section Events

variable {α : Type}

/-- The conditions that an event polls the station in. -/
def Event.conditions? : Event α → Option (Conditions α)
  | .poll conditions => some conditions
  | .roam _ => none
  | .stall _ => none

/-- The whole milliseconds that an event stalls the poller. -/
def Event.stalledMs : Event α → ℕ
  | .poll _ => 0
  | .roam _ => 0
  | .stall gap => gap.millis

/-- The conditions of the polls of a course of events. -/
def polled (events : List (Event α)) : List (Conditions α) := events.filterMap Event.conditions?

/-- The whole milliseconds that the stalls of a course of events take. -/
def stalledMs (events : List (Event α)) : ℕ := (events.map Event.stalledMs).sum

/-- The whole milliseconds that a course of events takes: a step with every poll, and the stalls. Of
a step no more is counted than 64 bits hold. -/
def elapsedMs (step : Duration) (events : List (Event α)) : ℕ :=
  (polled events).length * min step.millis (2 ^ 64 - 1) + stalledMs events

@[simp] theorem polled_nil : polled ([] : List (Event α)) = [] := rfl

@[simp] theorem polled_append (earlier later : List (Event α)) :
    polled (earlier ++ later) = polled earlier ++ polled later :=
  List.filterMap_append

@[simp] theorem polled_poll (conditions : Conditions α) (events : List (Event α)) :
    polled (.poll conditions :: events) = conditions :: polled events := rfl

@[simp] theorem stalledMs_nil : stalledMs ([] : List (Event α)) = 0 := rfl

@[simp] theorem stalledMs_append (earlier later : List (Event α)) :
    stalledMs (earlier ++ later) = stalledMs earlier + stalledMs later := by
  simp [stalledMs]

@[simp] theorem stalledMs_poll (conditions : Conditions α) (events : List (Event α)) :
    stalledMs (.poll conditions :: events) = stalledMs events :=
  Nat.zero_add _

theorem elapsedMs_append (step : Duration) (earlier later : List (Event α)) :
    elapsedMs step (earlier ++ later) = elapsedMs step earlier + elapsedMs step later := by
  rw [elapsedMs, polled_append, stalledMs_append, List.length_append, Nat.add_mul,
    Nat.add_add_add_comm]
  rfl

theorem elapsedMs_le_append (step : Duration) (earlier later : List (Event α)) :
    elapsedMs step earlier ≤ elapsedMs step (earlier ++ later) :=
  elapsedMs_append step earlier later ▸ Nat.le_add_right _ _

/-- If two steps are within 64 bits, then so is a step. -/
theorem millis_le_of_elapsedMs_lt {step : Duration} {events : List (Event α)}
    (two : 2 ≤ (polled events).length) (fits : elapsedMs step events < 2 ^ 64) :
    step.millis ≤ 2 ^ 64 - 1 := by
  by_contra! long
  -- A step that is longer is taken for one of 2 ^ 64 - 1, and there is no room for two of them.
  rw [elapsedMs, min_eq_right long.le] at fits
  have steps := Nat.mul_le_mul_right (2 ^ 64 - 1) two
  omega

end Events

variable {K : Type} [Field K]

/-- Events in conditions that are given by numbers. -/
def Event.exact : Event K → Event (Exact K)
  | .poll conditions => .poll conditions.exact
  | .roam accessPoint => .roam accessPoint
  | .stall gap => .stall gap

variable [LinearOrder K]

/-- What the steps of a course of events add to the total behind a counter. -/
def carried (step : Duration) (tally : Tally) (events : List (Event K)) : K :=
  ((polled events).map fun conditions => tally.growth step conditions).sum

theorem carried_append (step : Duration) (tally : Tally) (earlier later : List (Event K)) :
    carried step tally (earlier ++ later) =
      carried step tally earlier + carried step tally later := by
  simp [carried]

section Carried

variable [IsStrictOrderedRing K]

theorem carried_nonneg (step : Duration) (tally : Tally) (events : List (Event K)) :
    0 ≤ carried step tally events := by
  refine List.sum_nonneg fun growth mem => ?_
  obtain ⟨conditions, -, rfl⟩ := List.mem_map.mp mem
  exact tally.growth_nonneg step conditions

/-- More events carry more. -/
theorem carried_le_append (step : Duration) (tally : Tally) (earlier later : List (Event K)) :
    carried step tally earlier ≤ carried step tally (earlier ++ later) := by
  rw [carried_append]
  exact le_add_of_nonneg_right (carried_nonneg step tally later)

theorem carried_busy_le (step : Duration) (events : List (Event K)) :
    carried step .busyOnChannel events ≤ carried step .radioOnChannel events :=
  List.sum_le_sum fun conditions _ => Tally.growth_busy_le step conditions

end Carried

/-- Whether a sample follows another one as it should, with given events in between: a step and the
stalls later, with no counter that has gone backwards, and so with increases that are numbers. -/
structure Follows [FloorRing K] (step : Duration) (between : List (Event K))
    (earlier later : Sample) : Prop where
  timestampMs_eq : later.timestampMs = earlier.timestampMs + (step.millis + stalledMs between)
  count_le : ∀ tally : Tally, tally.count earlier.counters ≤ tally.count later.counters
  increase_eq : ∀ (norm : Normalization (Exact K)) (gates : Settings.Gates (Exact K))
    (tally : Tally), tally.increase (Interval.between earlier later norm gates).toIncreases =
      .number ((tally.count later.counters - tally.count earlier.counters : ℕ) : K)

namespace Station

variable [FloorRing K] (station : Station (Exact K))

/-- A station after some events. -/
def after (events : List (Event K)) : Station (Exact K) :=
  stateAfter occur station (events.map Event.exact)

/-- The samples of a course of events. -/
def trace (events : List (Event K)) : List Sample := station.samples (events.map Event.exact)

theorem after_append (earlier later : List (Event K)) :
    station.after (earlier ++ later) = (station.after earlier).after later := by
  rw [after, List.map_append, stateAfter_append]
  rfl

theorem trace_append (earlier later : List (Event K)) :
    station.trace (earlier ++ later) =
      station.trace earlier ++ (station.after earlier).trace later := by
  rw [trace, samples, List.map_append, answers_append, List.filterMap_append]
  rfl

/-- There is one sample for each poll. -/
theorem length_trace (events : List (Event K)) :
    (station.trace events).length = (polled events).length := by
  induction events generalizing station with
  | nil => rfl
  | cons event events ih =>
    cases event with
    | poll conditions => exact congrArg (· + 1) (ih _)
    | roam accessPoint => exact ih _
    | stall gap => exact ih _

theorem step_after (events : List (Event K)) : (station.after events).step = station.step := by
  induction events generalizing station with
  | nil => rfl
  | cons event events ih => cases event <;> exact ih _

/-! ### Clock and totals -/

variable [IsStrictOrderedRing K]

/-- The clock counts a step or a stall, and no roam. -/
theorem nowMs_occur {event : Event K} (fits : elapsedMs station.step [event] < 2 ^ 64) :
    (station.occur event.exact).1.nowMs = station.nowMs + elapsedMs station.step [event] := by
  cases event with
  | poll conditions =>
    have sameMs := Exact.toCount_ofNat (K := K) station.step.millis
    change station.nowMs + Scalar.toCount (Scalar.ofNat station.step.millis : Exact K) =
      station.nowMs + (1 * min station.step.millis _ + 0)
    omega
  | roam accessPoint =>
    change station.nowMs = station.nowMs + (0 * _ + 0)
    omega
  | stall gap =>
    change 0 * _ + (gap.millis + 0) < 2 ^ 64 at fits
    change station.nowMs + gap.clockMillis = station.nowMs + (0 * _ + (gap.millis + 0))
    rw [Duration.clockMillis_of_lt (by omega)]
    omega

/-- A total grows with a step only. -/
theorem total_occur {tally : Tally} {x : K} (isNumber : tally.total station.totals = .number x)
    (event : Event K) :
    tally.total (station.occur event.exact).1.totals =
      .number (x + carried station.step tally [event]) := by
  cases event with
  | poll conditions =>
    have grown : carried station.step tally [.poll conditions] =
        tally.growth station.step conditions := List.sum_singleton
    change tally.total (station.totals.grow station.step conditions.exact) = _
    rw [tally.total_grow, isNumber, grown, Exact.number_add]
  | roam accessPoint =>
    have nothing : carried station.step tally [.roam accessPoint] = (0 : K) := rfl
    rw [nothing, add_zero]
    exact isNumber
  | stall gap =>
    have nothing : carried station.step tally [.stall gap] = (0 : K) := rfl
    rw [nothing, add_zero]
    exact isNumber

variable (step : Duration) (accessPoint : AccessPoint)

/-- The clock counts all steps and stalls, as long as it can show them. -/
theorem nowMs_after {events : List (Event K)} (fits : elapsedMs step events < 2 ^ 64) :
    ((start step accessPoint).after events).nowMs = elapsedMs step events := by
  induction events using List.reverseRecOn with
  | nil => exact (Nat.zero_mul _).symm
  | append_singleton events event ih =>
    have split := elapsedMs_append step events [event]
    have sameStep : ((start step accessPoint).after events).step = step := step_after _ events
    have fitsEvent : elapsedMs ((start step accessPoint).after events).step [event] < 2 ^ 64 := by
      rw [sameStep]
      omega
    have occurs := nowMs_occur ((start step accessPoint).after events) fitsEvent
    rw [ih (by omega), sameStep, ← split] at occurs
    rw [after_append]
    exact occurs

/-- A total is what all steps have carried. -/
theorem total_after (tally : Tally) (events : List (Event K)) :
    tally.total ((start step accessPoint).after events).totals =
      .number (carried step tally events) := by
  induction events using List.reverseRecOn with
  | nil =>
    have nothing : tally.total (Totals.zero : Totals (Exact K)) = 0 := by cases tally <;> rfl
    exact nothing.trans Exact.zero_eq
  | append_singleton events event ih =>
    have occurs := total_occur ((start step accessPoint).after events) ih event
    rw [step_after] at occurs
    rw [after_append, carried_append]
    exact occurs

/-! ### Samples and polls -/

section Polls

omit [IsStrictOrderedRing K]

variable {station} {events : List (Event K)} {sample earlier later : Sample} {n : ℕ}

/-- A sample is taken by a poll, after as many polls as there are samples before it. -/
theorem exists_poll_of_getElem? (taken : (station.trace events)[n]? = some sample) :
    ∃ before conditions rest, events = before ++ .poll conditions :: rest ∧
      (polled before).length = n ∧
      sample = (station.after (before ++ [.poll conditions])).sample conditions.exact := by
  -- Only a poll takes a sample. All other events are passed over.
  induction events generalizing station n with
  | nil => cases taken
  | cons event events ih =>
    cases event with
    | poll conditions =>
      cases n with
      | zero => exact ⟨[], conditions, events, rfl, rfl, (Option.some.inj taken).symm⟩
      | succ n =>
        obtain ⟨before, conditions', rest, rfl, count, isSample⟩ := ih taken
        exact ⟨.poll conditions :: before, conditions', rest, rfl, congrArg (· + 1) count, isSample⟩
    | roam accessPoint =>
      obtain ⟨before, conditions, rest, rfl, count, isSample⟩ := ih taken
      exact ⟨.roam accessPoint :: before, conditions, rest, rfl, count, isSample⟩
    | stall gap =>
      obtain ⟨before, conditions, rest, rfl, count, isSample⟩ := ih taken
      exact ⟨.stall gap :: before, conditions, rest, rfl, count, isSample⟩

/-- Between the polls of two samples in a row there is no other poll. -/
theorem exists_polls_of_getElem? (taken : (station.trace events)[n]? = some earlier)
    (takenNext : (station.trace events)[n + 1]? = some later) :
    ∃ before conditions between conditions' rest,
      events = before ++ .poll conditions :: (between ++ .poll conditions' :: rest) ∧
      (polled before).length = n ∧ polled between = [] ∧
      earlier = (station.after (before ++ [.poll conditions])).sample conditions.exact ∧
      later = (station.after (before ++ [.poll conditions] ++
        (between ++ [.poll conditions']))).sample conditions'.exact := by
  obtain ⟨before, conditions, rest, rfl, count, isEarlier⟩ := exists_poll_of_getElem? taken
  -- The later sample is the first one of what comes after the poll of the earlier one.
  have length : (station.trace (before ++ [.poll conditions])).length = n + 1 := by
    rw [length_trace, polled_append, List.length_append, count]
    rfl
  have split : before ++ .poll conditions :: rest = before ++ [.poll conditions] ++ rest := by simp
  rw [split, trace_append, List.getElem?_append_right length.le, length, Nat.sub_self] at takenNext
  obtain ⟨between, conditions', rest, rfl, none, isLater⟩ := exists_poll_of_getElem? takenNext
  refine ⟨before, conditions, between, conditions', rest, rfl, count,
    List.eq_nil_of_length_eq_zero none, isEarlier, ?_⟩
  rw [after_append]
  exact isLater

end Polls

/-! ### Traces -/

/-- The counters of a sample show what the steps have carried. -/
theorem count_sample_after (tally : Tally) (events : List (Event K)) (conditions : Conditions K) :
    tally.count (((start step accessPoint).after events).sample conditions.exact).counters =
      Tally.shown (carried step tally events) :=
  tally.count_counters (total_after step accessPoint tally events)
    (carried_nonneg step tally events)

/-- A sample is taken as many steps and stalls after the station came up as there have been. -/
theorem timestampMs_sample_after {events : List (Event K)} {conditions : Conditions K}
    (fits : elapsedMs step (events ++ [.poll conditions]) < 2 ^ 64) :
    (((start step accessPoint).after (events ++ [.poll conditions])).sample
        conditions.exact).timestampMs =
      ((polled events).length + 1) * min step.millis (2 ^ 64 - 1) + stalledMs events := by
  have clock := nowMs_after step accessPoint fits
  rw [elapsedMs, polled_append, stalledMs_append, List.length_append] at clock
  exact clock

/-- Two samples in a row follow each other, if the course takes no longer than 64 bits can count. -/
theorem follows_of_polls {before between rest : List (Event K)}
    {conditions conditions' : Conditions K} (fits : elapsedMs step
      (before ++ .poll conditions :: (between ++ .poll conditions' :: rest)) < 2 ^ 64)
    (none : polled between = []) :
    let sampleAfter (events : List (Event K)) (conditions : Conditions K) :=
      ((start step accessPoint).after (events ++ [.poll conditions])).sample conditions.exact
    Follows step between (sampleAfter before conditions)
      (sampleAfter (before ++ [.poll conditions] ++ between) conditions') := by
  intro sampleAfter
  have count_le (tally : Tally) : tally.count (sampleAfter before conditions).counters ≤
      tally.count (sampleAfter (before ++ [.poll conditions] ++ between) conditions').counters := by
    rw [count_sample_after, count_sample_after, List.append_assoc _ between]
    exact Tally.shown_mono (carried_le_append step tally _ _)
  constructor
  · have inRange : step.millis ≤ 2 ^ 64 - 1 := by
      refine millis_le_of_elapsedMs_lt ?_ fits
      simp [none]
      omega
    -- Either sample is taken before the end of the course, and so within 64 bits as well.
    have split : before ++ .poll conditions :: (between ++ .poll conditions' :: rest) =
        before ++ [.poll conditions] ++ (between ++ [.poll conditions'] ++ rest) := by simp
    rw [split] at fits
    have fitsEarlier := (elapsedMs_le_append step _ _).trans_lt fits
    rw [← List.append_assoc, ← List.append_assoc] at fits
    have fitsLater := (elapsedMs_le_append step _ _).trans_lt fits
    rw [timestampMs_sample_after step accessPoint fitsEarlier,
      timestampMs_sample_after step accessPoint fitsLater, min_eq_left inRange]
    simp only [polled_append, polled_poll, polled_nil, none, stalledMs_append, stalledMs_poll,
      stalledMs_nil, List.length_append, List.length_cons, List.length_nil]
    ring
  · exact count_le
  · intro norm gates tally
    rw [Interval.between]
    dsimp only
    rw [tally.increase_between, Increases.ofCounter, if_pos (count_le tally), Exact.scalarOfNat_eq]

/-- The trace of any course of events that takes no longer than 64 bits can count. There is a sample
for each poll. Two samples in a row are apart by a step and the stalls between their polls, and no
counter has gone backwards. Each sample is taken after as many steps as there have been polls, and
the stalls before it; the channel was not busy for longer than the radio was on it; and the
successes of either direction are the whole part of what all steps have carried, or the largest
count. -/
theorem trace_consistent {events : List (Event K)} (fits : elapsedMs step events < 2 ^ 64) :
    let samples := (start step accessPoint).trace events
    samples.length = (polled events).length ∧
      (∀ n earlier later, samples[n]? = some earlier → samples[n + 1]? = some later →
        ∃ before conditions between conditions' rest,
          events = before ++ .poll conditions :: (between ++ .poll conditions' :: rest) ∧
          (polled before).length = n ∧ polled between = [] ∧
          Follows step between earlier later) ∧
      ∀ n sample, samples[n]? = some sample →
        (∃ before conditions rest, events = before ++ .poll conditions :: rest ∧
          (polled before).length = n ∧
          sample.timestampMs = (n + 1) * min step.millis (2 ^ 64 - 1) + stalledMs before) ∧
        sample.counters.busyOnChannelMs ≤ sample.counters.radioOnChannelMs ∧
        sample.counters.txSuccess = min ⌊(((polled events).take (n + 1)).map fun conditions =>
          max conditions.txRate 0 * step.inSeconds).sum⌋₊ (2 ^ 64 - 1) ∧
        sample.counters.rxSuccess = min ⌊(((polled events).take (n + 1)).map fun conditions =>
          max conditions.rxRate 0 * step.inSeconds).sum⌋₊ (2 ^ 64 - 1) := by
  intro samples
  refine ⟨length_trace _ events, ?_, ?_⟩
  · intro n earlier later taken takenNext
    obtain ⟨before, conditions, between, conditions', rest, rfl, count, none, rfl, rfl⟩ :=
      exists_polls_of_getElem? taken takenNext
    refine ⟨before, conditions, between, conditions', rest, rfl, count, none, ?_⟩
    rw [← List.append_assoc (before ++ _)]
    exact follows_of_polls step accessPoint fits none
  · intro n sample taken
    obtain ⟨before, conditions, rest, rfl, rfl, rfl⟩ := exists_poll_of_getElem? taken
    -- The polls that a sample shows are those up to its own.
    have soFar : (polled (before ++ .poll conditions :: rest)).take ((polled before).length + 1) =
        polled (before ++ [.poll conditions]) := by
      simp [List.take_append]
    have shows (tally : Tally) := count_sample_after step accessPoint tally
      (before ++ [.poll conditions]) conditions
    have fitsSample : elapsedMs step (before ++ [.poll conditions]) < 2 ^ 64 := by
      rw [List.append_cons] at fits
      exact (elapsedMs_le_append step _ _).trans_lt fits
    refine ⟨⟨before, conditions, rest, rfl, rfl,
      timestampMs_sample_after step accessPoint fitsSample⟩, ?_, ?_, ?_⟩
    · exact (shows .busyOnChannel).trans_le
        ((Tally.shown_mono (carried_busy_le step _)).trans_eq (shows .radioOnChannel).symm)
    · rw [soFar]
      exact shows .txSuccess
    · rw [soFar]
      exact shows .rxSuccess

/-- A station in conditions that no link can be in, which stalls and moves between two polls. Steps
are no whole milliseconds. -/
theorem trace_consistent_stalled_roam :
    let impossible : Conditions ℚ := ⟨-127, -3, 1 / 10, 2, -1, 0, 7 / 2⟩
    let usual : Conditions ℚ := ⟨-55, 20, 25, 1 / 100, 1 / 20, 433, 1 / 5⟩
    let events : List (Event ℚ) := [.poll usual, .stall (.ofMillis 10000),
      .roam ⟨.ofLastOctet 2, 2437⟩, .poll impossible, .poll usual]
    let step : Duration := .ofMicros 2500600
    let station : Station (Exact ℚ) := .start step ⟨.ofLastOctet 1, 5180⟩
    let samples := station.trace events
    elapsedMs step events < 2 ^ 64 ∧ samples.length = 3 ∧
      (∀ n earlier later, samples[n]? = some earlier → samples[n + 1]? = some later →
        ∃ between : List (Event ℚ), polled between = [] ∧
          Follows step between earlier later) ∧
      ∀ n sample, samples[n]? = some sample →
        sample.counters.busyOnChannelMs ≤ sample.counters.radioOnChannelMs ∧
        sample.counters.txSuccess = min ⌊(((polled events).take (n + 1)).map fun conditions =>
          max conditions.txRate 0 * step.inSeconds).sum⌋₊ (2 ^ 64 - 1) := by
  intro impossible usual events step station samples
  have fits : elapsedMs step events < 2 ^ 64 := by decide
  obtain ⟨length, inARow, each⟩ := trace_consistent step ⟨.ofLastOctet 1, 5180⟩ fits
  refine ⟨fits, length, ?_, ?_⟩
  · intro n earlier later taken takenNext
    obtain ⟨-, -, between, -, -, -, -, none, follows⟩ := inARow n earlier later taken takenNext
    exact ⟨between, none, follows⟩
  · intro n sample taken
    obtain ⟨-, busy, sent, -⟩ := each n sample taken
    exact ⟨busy, sent⟩

end Station

end LinkQuality.Simulation
