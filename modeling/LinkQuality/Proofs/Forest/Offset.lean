import LinkQuality.Forest.Scorer
import LinkQuality.Proofs.Offset

/-!
# Offsets and the forest

A history remembers whole samples, and a standing the time of the last breach. An offset moves both,
and nothing else that scoring by forest remembers. The summary of a moved history is that of the
history itself, since increases and gaps are differences, and the time since a breach is one as
well. So a call that is moved gives the same verdict, and leads to the moved memory.

## Main definitions

* `Offset.onHistory`, `Offset.onStanding`, `Offset.onForestMemory`: what is remembered after moved
  calls

## Main results

* `Offset.between_onSample`: the interval between two samples
* `Offset.summary?_onHistory`: the summary of a history
* `Offset.adjust_onStanding`: the standing after a reading
* `Offset.verdict_onForestMemory`, `Offset.step_onForestMemory`: the verdict on a sample, and the
  answer to a call
-/

namespace LinkQuality

namespace Offset

variable {α : Type} (offset : Offset)

/-- An interval that ends with a moved sample. -/
def onInterval (interval : Interval α) : Interval α :=
  { interval with sample := offset.onSample interval.sample }

/-- A history of moved samples. -/
def onHistory (history : History α) : History α :=
  { history with intervals := history.intervals.map offset.onInterval }

/-- A standing whose last breach was recorded by a later clock. -/
def onStanding (standing : Standing α) : Standing α :=
  { standing with lastBreachMs := offset.onTime standing.lastBreachMs }

/-- What is remembered after moved calls. -/
def onForestMemory (memory : ForestScorer.Memory α) : ForestScorer.Memory α :=
  { memory with
    history := offset.onHistory memory.history
    standing := offset.onStanding memory.standing }

/-! ### Histories -/

theorem last?_onHistory (history : History α) :
    (offset.onHistory history).last? = history.last?.map offset.onInterval := by
  simp [History.last?, onHistory, List.getLast?_map]

@[simp] theorem continuity_onHistory (history : History α) (sample : Sample) :
    (offset.onHistory history).continuity (offset.onSample sample) =
      history.continuity sample := by
  unfold History.continuity
  rw [last?_onHistory]
  cases history.last? with
  | none => rfl
  | some last =>
    simp only [Option.map_some, onInterval, accessPoint_onSample, gapSince?_onSample]
    rfl

theorem push_onHistory (history : History α) (interval : Interval α) :
    (offset.onHistory history).push (offset.onInterval interval) =
      offset.onHistory (history.push interval) := by
  simp [History.push, onHistory, List.map_drop]

theorem historyBefore_onHistory (history : History α) (sample : Sample) (isSameLink : Bool) :
    ForestScorer.historyBefore (offset.onHistory history) (offset.onSample sample) isSameLink =
      offset.onHistory (ForestScorer.historyBefore history sample isSameLink) := by
  unfold ForestScorer.historyBefore
  rw [continuity_onHistory]
  split <;> rfl

theorem column_onHistory [Scalar α] (history : History α) (feature : Feature) :
    (offset.onHistory history).column feature = history.column feature := by
  simp only [History.column, onHistory, List.map_map]
  rfl

/-- The summary of a history does not show when its samples were taken. -/
theorem summary?_onHistory [Scalar α] [SquareRoot α] (history : History α)
    (norm : Normalization α) :
    (offset.onHistory history).summary? norm = history.summary? norm := by
  have sameMean (feature : Feature) :
      (offset.onHistory history).mean norm feature = history.mean norm feature := by
    rw [History.mean, History.mean, column_onHistory]
  unfold History.summary?
  rw [last?_onHistory, Option.map_map]
  simp only [sameMean, column_onHistory]
  rfl

/-! ### Intervals -/

section Intervals

variable [Scalar α] [Undefined α]

theorem ofCounter_add (earlier later start : Nat) :
    (Increases.ofCounter (earlier + start) (later + start) : α) =
      Increases.ofCounter earlier later := by
  simp only [Increases.ofCounter, Nat.add_le_add_iff_right, Nat.add_sub_add_right]

theorem between_onCounters (earlier later : Counters) :
    (Increases.between (offset.onCounters earlier) (offset.onCounters later) : Increases α) =
      Increases.between earlier later := by
  simp only [Increases.between, onCounters, ofCounter_add]

/-- The interval between two moved samples differs only in the sample that it ends with. -/
theorem between_onSample (earlier later : Sample) (norm : Normalization α)
    (gates : Settings.Gates α) :
    Interval.between (offset.onSample earlier) (offset.onSample later) norm gates =
      offset.onInterval (Interval.between earlier later norm gates) := by
  have sameIncreases : (Increases.between (offset.onSample earlier).counters
      (offset.onSample later).counters : Increases α) =
        Increases.between earlier.counters later.counters :=
    offset.between_onCounters earlier.counters later.counters
  rw [Interval.between, sameIncreases]
  rfl

theorem intervalAfter_onHistory (scorer : ForestScorer α) (history : History α)
    (sample : Sample) :
    scorer.intervalAfter (offset.onHistory history) (offset.onSample sample) =
      offset.onInterval (scorer.intervalAfter history sample) := by
  unfold ForestScorer.intervalAfter
  rw [last?_onHistory]
  cases history.last? with
  | none => rfl
  | some last => exact offset.between_onSample last.sample sample _ _

theorem score_onHistory [SquareRoot α] (scorer : ForestScorer α) (history : History α)
    (sample : Sample) (isSameLink : Bool) :
    scorer.score (offset.onHistory history) (offset.onSample sample) isSameLink =
      (offset.onHistory (scorer.score history sample isSameLink).1,
        (scorer.score history sample isSameLink).2) := by
  have sameScore (later : History α) :
      scorer.forestScore? (offset.onHistory later) = scorer.forestScore? later := by
    simp only [ForestScorer.forestScore?, summary?_onHistory]
  -- What proves a link bad are the counts of the interval and the signal strength.
  have sameProof (interval : Interval α) :
      scorer.provesBad (offset.onInterval interval) = scorer.provesBad interval := rfl
  simp only [ForestScorer.score_eq, historyBefore_onHistory, intervalAfter_onHistory,
    push_onHistory, sameScore, sameProof, continuity_onHistory, rssi?_onSample]
  split <;> rfl

end Intervals

/-! ### Standings -/

theorem sinceBreach?_onStanding (standing : Standing α) (nowMs : Nat) :
    (offset.onStanding standing).sinceBreach? (nowMs + offset.nowMs) =
      standing.sinceBreach? nowMs := by
  simp only [Standing.sinceBreach?, onStanding, onTime, Option.map_map, Function.comp_def,
    Nat.add_sub_add_right]

section Standings

variable [Scalar α]

theorem recordFall_onStanding (rules : Settings.Hysteresis α) (standing : Standing α) (score : α)
    (rssi : Int) (nowMs : Nat) :
    (offset.onStanding standing).recordFall rules score rssi (nowMs + offset.nowMs) =
      offset.onStanding (standing.recordFall rules score rssi nowMs) := by
  unfold Standing.recordFall
  rw [apply_ite offset.onStanding]
  rfl

theorem recommend_onStanding (rules : Settings.Hysteresis α) (standing : Standing α) (score : α)
    (rssi? : Option Int) (nowMs : Nat) :
    (offset.onStanding standing).recommend rules score rssi? (nowMs + offset.nowMs) =
      offset.onStanding (standing.recommend rules score rssi? nowMs) := by
  cases rssi? with
  | none => rfl
  | some rssi =>
    simp only [Standing.recommend, recordFall_onStanding, Standing.recommends, Standing.blocks,
      sinceBreach?_onStanding]
    rfl

theorem recordRise_onStanding (rules : Settings.Hysteresis α) (standing : Standing α) (score : α)
    (nowMs : Nat) :
    { offset.onStanding standing with
        lastBreachMs :=
          if Standing.breachesUp rules standing.score score then some (nowMs + offset.nowMs)
          else (offset.onStanding standing).lastBreachMs } =
      offset.onStanding { standing with
        lastBreachMs :=
          if Standing.breachesUp rules standing.score score then some nowMs
          else standing.lastBreachMs } := by
  by_cases rises : Standing.breachesUp rules standing.score score = true
  · simp only [if_pos rises, onStanding, onTime, Option.map_some]
  · simp only [if_neg rises, onStanding]

/-- A standing is moved by a reading at a later clock as it is by the reading itself. -/
theorem adjust_onStanding (scorer : ForestScorer α) (standing : Standing α) (raw : α)
    (isSameLink : Bool) (rssi? : Option Int) (nowMs : Nat) :
    scorer.adjust (offset.onStanding standing) raw isSameLink rssi? (nowMs + offset.nowMs) =
      offset.onStanding (scorer.adjust standing raw isSameLink rssi? nowMs) := by
  -- A new standing has no breach to remember, so that no offset moves it.
  have samePrevious (rules : Settings.Hysteresis α) :
      (if isSameLink then offset.onStanding standing else .fresh rules) =
        offset.onStanding (if isSameLink then standing else .fresh rules) := by
    split <;> rfl
  let rules := scorer.settings.hysteresis
  simp only [ForestScorer.adjust, Standing.adjust, samePrevious]
  generalize (if isSameLink then standing else .fresh _) = previous
  generalize (if isSameLink then raw else _) = heard
  let score := Standing.adjustedScore rules previous.score heard rules.threshold rules.margin
  have moved := congrArg (Standing.recommend rules score rssi? (nowMs + offset.nowMs))
    (offset.recordRise_onStanding rules previous score nowMs)
  rw [recommend_onStanding] at moved
  exact congrArg (fun later : Standing α =>
    { later with
      score
      rawScore := heard
      fellToScan := Standing.fallsToScan rules previous.rawScore heard }) moved

end Standings

/-! ### Calls -/

section Calls

variable [Scalar α] [Undefined α] [SquareRoot α] (scorer : ForestScorer α)

theorem verdict_onForestMemory (memory : ForestScorer.Memory α) (sample : Sample) (nowMs : Nat)
    (isPrimary : Bool) :
    scorer.verdict (offset.onForestMemory memory) (offset.onSample sample) (nowMs + offset.nowMs)
        isPrimary =
      (offset.onForestMemory (scorer.verdict memory sample nowMs isPrimary).1,
        (scorer.verdict memory sample nowMs isPrimary).2) := by
  have sameScored (isSameLink : Bool) :
      (if isPrimary then
          scorer.score (offset.onHistory memory.history) (offset.onSample sample) isSameLink
        else (offset.onHistory memory.history, unclassified)) =
        Prod.map offset.onHistory id
          (if isPrimary then scorer.score memory.history sample isSameLink
            else (memory.history, unclassified)) := by
    cases isPrimary with
    | false => rfl
    | true => exact offset.score_onHistory scorer memory.history sample isSameLink
  simp only [ForestScorer.verdict, onForestMemory, accessPoint_onSample, sameScored,
    rssi?_onSample, adjust_onStanding]
  generalize (if isPrimary then scorer.score memory.history sample _
    else (memory.history, unclassified)) = scored
  simp only [Prod.map_fst, Prod.map_snd, id]
  split <;> rfl

theorem step_onForestMemory (memory : ForestScorer.Memory α) (call : Call) :
    scorer.step (offset.onForestMemory memory) (offset.onCall call) =
      (offset.onForestMemory (scorer.step memory call).1, (scorer.step memory call).2) := by
  cases call with
  | score sample nowMs isPrimary =>
    simp only [ForestScorer.step, onCall, verdict_onForestMemory]
  | reset => rfl

end Calls

end Offset

end LinkQuality
