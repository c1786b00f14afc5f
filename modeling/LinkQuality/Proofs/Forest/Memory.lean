import LinkQuality.Forest.Scorer
import Mathlib.Data.Nat.Notation
import Mathlib.Tactic.SplitIfs

/-!
# What a call remembers

What one call does to the memory of a connection, and what of the memory it reads. A call does not
see which access point was remembered, only whether its own sample was taken there. A sample that
is taken elsewhere than the last interval of the history is treated like the first one of all.

## Main definitions

* `ForestScorer.Memory.isFollowedBy`: whether a sample was taken on the access point remembered
* `ForestScorer.canScore`: whether there is a model to score with

## Main results

* `ForestScorer.verdict_congr`: all that a call reads of the memory
* `ForestScorer.score_of_handover`: a handover leaves nothing of the history
* `ForestScorer.verdict_of_unclassified`, `ForestScorer.verdict_of_scored`,
  `ForestScorer.verdict_secondary`: all that a call does to it
-/

namespace LinkQuality

namespace ForestScorer

variable {α : Type} [Scalar α]

/-- Whether a sample was taken on the access point of the last call. The first sample counts as
such. -/
def Memory.isFollowedBy (memory : Memory α) (sample : Sample) : Bool :=
  memory.accessPoint?.all fun point => point == sample.accessPoint

/-- Whether there is a model that gives scores. A model without trees gives none. -/
def canScore (scorer : ForestScorer α) : Bool :=
  scorer.model?.any fun model => !model.forest.trees.isEmpty

variable {scorer : ForestScorer α} {history : History α} {memory : Memory α} {sample : Sample}
  {nowMs : ℕ} {isPrimary isSameLink : Bool}

/-! ### Histories -/

omit [Scalar α] in
/-- A sample taken elsewhere than the last one is a handover. -/
theorem continuity_of_ne {last : Interval α} (ends : history.last? = some last)
    (elsewhere : last.sample.accessPoint ≠ sample.accessPoint) :
    history.continuity sample = .handover := by
  simp [History.continuity, ends, elsewhere]

omit [Scalar α] in
@[simp] theorem maxGapMs_historyBefore :
    (historyBefore history sample isSameLink).maxGapMs = history.maxGapMs := by
  unfold historyBefore
  split <;> rfl

section Calls

variable [Undefined α]

@[simp] theorem sample_intervalAfter :
    (scorer.intervalAfter history sample).sample = sample := by
  unfold intervalAfter
  cases history.last? with
  | none => rfl
  | some last => rfl

variable [SquareRoot α]

/-- The history after a sample is what was left of it and one more interval. -/
theorem history_score :
    (scorer.score history sample isSameLink).1 =
      (historyBefore history sample isSameLink).push
        (scorer.intervalAfter (historyBefore history sample isSameLink) sample) := by
  rw [score_eq]
  dsimp only
  split <;> rfl

theorem maxGapMs_score :
    (scorer.score history sample isSameLink).1.maxGapMs = history.maxGapMs := by
  rw [history_score]
  exact maxGapMs_historyBefore

theorem exists_last?_score (scorer : ForestScorer α) (history : History α) (sample : Sample)
    (isSameLink : Bool) :
    ∃ last, (scorer.score history sample isSameLink).1.last? = some last ∧
      last.sample = sample := by
  rw [history_score]
  exact ⟨_, History.last?_push _ _, sample_intervalAfter⟩

/-- A handover leaves nothing of the history: the sample is scored as the first of all, and it is
no pause either. -/
theorem score_of_handover (handover : history.continuity sample = .handover) :
    scorer.score history sample isSameLink =
      scorer.score (.empty history.maxGapMs) sample true := by
  have cleared : historyBefore history sample isSameLink = .empty history.maxGapMs := by
    simp [historyBefore, handover, History.clear, History.empty]
  -- Both a handover and a first sample are no pause, so both can be proved bad.
  have first : (History.empty history.maxGapMs : History α).continuity sample = .continuous := rfl
  have kept : historyBefore (.empty history.maxGapMs : History α) sample true =
      .empty history.maxGapMs := by
    simp [historyBefore, first]
  simp [score_eq, cleared, kept, handover, first]

omit [Undefined α] in
theorem forestScore?_of_not_canScore (cannot : scorer.canScore = false) :
    scorer.forestScore? history = none := by
  cases loaded : scorer.model? with
  | none => simp [forestScore?, loaded]
  | some model =>
    have treeless : model.forest.trees.isEmpty = true := by simpa [canScore, loaded] using cannot
    have silent (values : Vector α 45) : model.forest.score? values = none := by
      rw [Forest.score?, Forest.probability?, if_pos treeless, Option.map_none]
    simp [forestScore?, loaded, silent]

theorem score_of_not_canScore (cannot : scorer.canScore = false) :
    (scorer.score history sample isSameLink).2 = unclassified := by
  simp [score_eq, forestScore?_of_not_canScore cannot]

/-- With a model a sample gets the score that the forest gives some summary, or the score of a bad
link in its place. -/
theorem exists_summary_of_model (scorer : ForestScorer α) (history : History α) (sample : Sample)
    (isSameLink : Bool) {model : Model α} (loaded : scorer.model? = some model) :
    ∃ (summary : Summary α) (isBad : Bool),
      (scorer.score history sample isSameLink).2 =
        match model.forest.score? summary.toVector with
        | none => unclassified
        | some raw => if isBad then scorer.badScore else raw := by
  let before := historyBefore history sample isSameLink
  let interval := scorer.intervalAfter before sample
  obtain ⟨summary, summedUp⟩ : ∃ summary : Summary α,
      (before.push interval).summary? model.normalization = some summary := by
    -- A history that a sample was added to is not empty, so it can be summed up.
    rw [History.summary?, History.last?_push]
    exact ⟨_, rfl⟩
  refine ⟨summary, history.continuity sample != .stale &&
    sample.rssi?.any (scorer.provesBad interval), ?_⟩
  simp only [score_eq, forestScore?, loaded, Option.bind_some, before, interval] at summedUp ⊢
  rw [summedUp, Option.bind_some]
  cases model.forest.score? summary.toVector with
  | none => rfl
  | some raw => rfl

/-! ### Memories -/

/-- A primary call whose sample gets no score leaves the standing alone. -/
theorem verdict_of_unclassified
    (unscored : ((scorer.score memory.history sample (memory.isFollowedBy sample)).2 ==
      unclassified) = true) :
    scorer.verdict memory sample nowMs true =
      ({ memory with
          history := (scorer.score memory.history sample (memory.isFollowedBy sample)).1
          accessPoint? := some sample.accessPoint },
        verdictOf memory.standing
          (scorer.score memory.history sample (memory.isFollowedBy sample)).2 unclassified
          false) := by
  simp only [Memory.isFollowedBy] at unscored
  simp [verdict, Memory.isFollowedBy, unscored]

/-- A primary call whose sample gets a score moves the standing by it. -/
theorem verdict_of_scored {raw : α} {standing : Standing α}
    (hasScore : (scorer.score memory.history sample (memory.isFollowedBy sample)).2 = raw)
    (scored : (raw == unclassified) = false)
    (moved : scorer.adjust memory.standing raw (memory.isFollowedBy sample) sample.rssi? nowMs =
      standing) :
    scorer.verdict memory sample nowMs true =
      ({ history := (scorer.score memory.history sample (memory.isFollowedBy sample)).1
         standing
         accessPoint? := some sample.accessPoint },
        verdictOf standing raw standing.score
          (decide (raw < scorer.settings.hysteresis.transitionScore) ||
            scorer.isWeakAndSlow sample)) := by
  subst hasScore moved
  simp only [Memory.isFollowedBy] at scored
  simp only [verdict, Memory.isFollowedBy, if_true, scored, Bool.false_eq_true, if_false]
  rfl

/-- A secondary call leaves history and standing alone. The mark of an unclassified sample has to
equal itself for that, as it does in floating point. -/
theorem verdict_secondary (marked : ((unclassified : α) == unclassified) = true) :
    scorer.verdict memory sample nowMs false =
      ({ memory with accessPoint? := some sample.accessPoint },
        verdictOf memory.standing unclassified unclassified false) := by
  simp [verdict, marked]

@[simp] theorem accessPoint?_verdict :
    (scorer.verdict memory sample nowMs isPrimary).1.accessPoint? = some sample.accessPoint := by
  simp only [verdict]
  split_ifs <;> rfl

theorem maxGapMs_verdict :
    (scorer.verdict memory sample nowMs isPrimary).1.history.maxGapMs =
      memory.history.maxGapMs := by
  simp only [verdict]
  split_ifs <;> simp [maxGapMs_score]

/-- A primary call adds its sample to the history, whether it is scored or not. -/
theorem history_verdict_primary :
    (scorer.verdict memory sample nowMs true).1.history =
      (scorer.score memory.history sample (memory.isFollowedBy sample)).1 := by
  simp only [verdict, Memory.isFollowedBy, if_true]
  split_ifs <;> rfl

/-- All that a call reads of the memory: history, standing, and whether its sample follows. -/
theorem verdict_congr {first second : Memory α} (sameHistory : first.history = second.history)
    (sameStanding : first.standing = second.standing)
    (sameLink : first.isFollowedBy sample = second.isFollowedBy sample) :
    scorer.verdict first sample nowMs isPrimary = scorer.verdict second sample nowMs isPrimary := by
  unfold Memory.isFollowedBy at sameLink
  unfold verdict
  rw [sameHistory, sameStanding, sameLink]

end Calls

end ForestScorer

end LinkQuality
