import LinkQuality.Proofs.Forest.Memory
import Mathlib.Data.List.Chain
import Mathlib.Data.List.DropRight

/-!
# What a history recalls

Samples are scored one by one, by calls for a primary link or by themselves, with a word on whether
they are of the same link as the one before. Calls for a secondary link come between them, and
resets. A journal of all this keeps every scored sample since the last reset, together with the one
scored before it. It forgets nothing.

A scored sample breaks with the one before it if there is none, if it is said to be of another link
or is taken on another one, if time went backwards, or if too much of it has passed. Of all samples
in the journal, the history recalls the last five since the latest break, each by the interval that
leads to it from the sample scored before it, also when that one is no longer recalled.

## Main definitions

* `Operation`, `ForestScorer.operate`: what can be done with a connection, and what it does
* `Journal`: the samples that were scored
* `Scored.Breaks`: whether a scored sample begins anew
* `ForestScorer.Recalls`: whether intervals are the last ones since the latest break

## Main results

* `ForestScorer.recalls_score`: scoring a sample adds its interval
* `ForestScorer.history_recalls_last_five`: what the history holds after any operations
-/

namespace LinkQuality

/-- What can be done with a connection that is scored by forest. -/
inductive Operation where
  /-- To score a sample by itself, which is said to be of the same link as the one before or not. -/
  | score (sample : Sample) (isSameLink : Bool)
  | call (call : Call)
  deriving DecidableEq, Repr

/-- A sample that was scored. -/
structure Scored where
  sample : Sample
  /-- Whether it was said to be of the same link as the sample before it. -/
  isSameLink : Bool
  /-- The sample that was scored immediately before it, if one was since the last reset. -/
  previous? : Option Sample
  deriving DecidableEq, Repr

/-- Whether a scored sample begins anew, given the longest time between two samples that follow each
other: it is the first one, it is said to be of another link, it was taken on another one, time went
backwards, or too much of it has passed. -/
def Scored.Breaks (maxGapMs : ℕ) (scored : Scored) : Prop :=
  match scored.previous? with
  | none => True
  | some previous =>
    scored.isSameLink = false ∨ previous.accessPoint ≠ scored.sample.accessPoint ∨
      scored.sample.timestampMs < previous.timestampMs ∨
      maxGapMs < scored.sample.timestampMs - previous.timestampMs

/-- What was done with a connection since the last reset. -/
structure Journal where
  /-- All samples that were scored, oldest first. -/
  scored : List Scored
  /-- The access point of the last call, for a primary or a secondary link. -/
  accessPoint? : Option AccessPoint

namespace Journal

def blank : Journal := ⟨[], none⟩

/-- The entry for a sample that is scored next. -/
def next (journal : Journal) (sample : Sample) (isSameLink : Bool) : Scored where
  sample
  isSameLink
  previous? := journal.scored.getLast?.map Scored.sample

/-- Adds a sample that was scored. -/
def note (journal : Journal) (sample : Sample) (isSameLink : Bool) : Journal :=
  { journal with scored := journal.scored ++ [journal.next sample isSameLink] }

/-- Adds an operation. The sample of a call is said to be of the same link if the call before it was
on the same access point, or if there is none. Only primary calls score their sample. -/
def add (journal : Journal) : Operation → Journal
  | .score sample isSameLink => journal.note sample isSameLink
  | .call .reset => blank
  | .call (.score sample _ isPrimary) =>
    let isSameLink := journal.accessPoint?.all fun point => point == sample.accessPoint
    let noted := if isPrimary then journal.note sample isSameLink else journal
    { noted with accessPoint? := some sample.accessPoint }

/-- The journal of operations on a new connection. -/
def ofOperations (operations : List Operation) : Journal := operations.foldl add blank

/-- Whether every entry knows the sample before it. -/
def IsLinked (journal : Journal) : Prop :=
  journal.scored.IsChain fun earlier later => later.previous? = some earlier.sample

theorem IsLinked.note {journal : Journal} (linked : journal.IsLinked) (sample : Sample)
    (isSameLink : Bool) : (journal.note sample isSameLink).IsLinked := by
  refine List.isChain_append.mpr ⟨linked, List.isChain_singleton _, ?_⟩
  intro last isLast next isNext
  obtain rfl : journal.next sample isSameLink = next := by simpa using isNext
  rw [Journal.next, Option.mem_def.mp isLast, Option.map_some]

theorem IsLinked.add {journal : Journal} (linked : journal.IsLinked) (operation : Operation) :
    (journal.add operation).IsLinked := by
  match operation with
  | .score sample isSameLink => exact linked.note sample isSameLink
  | .call .reset => exact List.isChain_nil
  | .call (.score sample _ true) => exact linked.note sample _
  | .call (.score sample _ false) => exact linked

theorem isLinked_ofOperations (operations : List Operation) :
    (ofOperations operations).IsLinked := by
  induction operations using List.reverseRecOn with
  | nil => exact List.isChain_nil
  | append_singleton operations operation ih =>
    rw [ofOperations, List.foldl_append]
    exact ih.add operation

end Journal

/-! ### Breaks -/

section Breaks

variable {α : Type} {history : History α} {maxGapMs : ℕ}

/-- Between a scored sample and the one before it there is no break exactly if both are of one link,
in the order of time and not too far apart. -/
theorem Scored.not_breaks_iff {scored : Scored} :
    ¬ scored.Breaks maxGapMs ↔ ∃ previous, scored.previous? = some previous ∧
      scored.isSameLink = true ∧ previous.accessPoint = scored.sample.accessPoint ∧
      previous.timestampMs ≤ scored.sample.timestampMs ∧
      scored.sample.timestampMs - previous.timestampMs ≤ maxGapMs := by
  cases before : scored.previous? with
  | none => simp [Scored.Breaks, before]
  | some previous => simp [Scored.Breaks, before]

/-- A sample continues a history that ends with an interval exactly if it does not break with the
sample of this interval. -/
theorem History.continuity_eq_continuous_iff {last : Interval α} {sample : Sample}
    (ends : history.last? = some last) :
    history.continuity sample = .continuous ↔ last.sample.accessPoint = sample.accessPoint ∧
      last.sample.timestampMs ≤ sample.timestampMs ∧
      sample.timestampMs - last.sample.timestampMs ≤ history.maxGapMs := by
  rw [History.continuity, ends]
  by_cases samePoint : last.sample.accessPoint = sample.accessPoint
  · by_cases inOrder : last.sample.timestampMs ≤ sample.timestampMs
    · simp [samePoint, Sample.gapSince?, inOrder]
    · simp [samePoint, Sample.gapSince?, inOrder]
  · simp [samePoint]

end Breaks

/-! ### Intervals since the latest break -/

namespace ForestScorer

section Recall

variable {α : Type} [Scalar α] [Undefined α] [SquareRoot α]

/-- The interval that leads to a scored sample from the one before it. -/
def intervalTo (scorer : ForestScorer α) (scored : Scored) : Interval α :=
  match scored.previous? with
  | some previous =>
    .between previous scored.sample scorer.normalization scorer.settings.gates
  | none => .first scored.sample scorer.normalization

/-- The intervals of samples without a break between them: an average one for the first sample, and
for each other one that from the sample before it. -/
def intervalsSince (scorer : ForestScorer α) (start : Scored) (rest : List Scored) :
    List (Interval α) :=
  .first start.sample scorer.normalization :: rest.map scorer.intervalTo

/-- Whether intervals are the last ones, as many as a history keeps, of all those since the latest
break. Where nothing was scored there are none. -/
def Recalls (scorer : ForestScorer α) (scored : List Scored) (intervals : List (Interval α)) :
    Prop :=
  scored = [] ∧ intervals = [] ∨
    ∃ earlier start rest, scored = earlier ++ start :: rest ∧
      start.Breaks scorer.settings.polling.maxGapMs ∧
      (∀ later ∈ rest, ¬ later.Breaks scorer.settings.polling.maxGapMs) ∧
      intervals = (scorer.intervalsSince start rest).rtake History.capacity

variable {scorer : ForestScorer α} {history : History α} {journal : Journal} {sample : Sample}
  {isSameLink : Bool}

omit [SquareRoot α] in
/-- The samples of the intervals are those that were scored. -/
theorem map_sample_intervalsSince (scorer : ForestScorer α) (start : Scored) (rest : List Scored) :
    (scorer.intervalsSince start rest).map Interval.sample = (start :: rest).map Scored.sample := by
  have sample_intervalTo (scored : Scored) : (scorer.intervalTo scored).sample = scored.sample := by
    unfold intervalTo
    split <;> rfl
  simp [intervalsSince, sample_intervalTo, Interval.first, Interval.ofFeatures]

omit [Scalar α] [Undefined α] [SquareRoot α] in
/-- A pushed interval joins the last ones. -/
theorem intervals_push_of_rtake {intervals : List (Interval α)} (interval : Interval α)
    (kept : history.intervals = intervals.rtake History.capacity) :
    (history.push interval).intervals = (intervals ++ [interval]).rtake History.capacity := by
  -- Of the last five only four stay when another one comes, and those are the last four of all.
  have twice : (intervals.rtake 5).rtake 4 = intervals.rtake 4 := by
    simp only [List.rtake, List.drop_drop, List.length_drop]
    congr 1
    omega
  change (history.intervals ++ [interval]).rtake History.capacity = _
  rw [kept, History.capacity, List.rtake_concat_succ, List.rtake_concat_succ, twice]

omit [SquareRoot α] in
/-- The history ends with the sample that was scored last. -/
theorem Recalls.map_sample_last? (recalls : scorer.Recalls journal.scored history.intervals) :
    history.last?.map Interval.sample = journal.scored.getLast?.map Scored.sample := by
  rcases recalls with ⟨nothing, empty⟩ | ⟨earlier, start, rest, log, -, -, intervals⟩
  · simp [History.last?, nothing, empty]
  · -- There is at least one interval since the break, so the last one is never dropped.
    have notEmpty : scorer.intervalsSince start rest ≠ [] := List.cons_ne_nil _ _
    have sameLast : history.last? = (scorer.intervalsSince start rest).getLast? := by
      rw [History.last?, intervals, List.rtake, List.getLast?_drop, if_neg]
      have := List.length_pos_iff.mpr notEmpty
      rw [History.capacity]
      omega
    rw [sameLast, ← List.getLast?_map, map_sample_intervalsSince, List.getLast?_map, log,
      List.getLast?_append_of_ne_nil _ (List.cons_ne_nil _ _)]

omit [Scalar α] [Undefined α] [SquareRoot α] in
/-- A break leaves nothing of the history: it is cleared, or it was empty. -/
theorem intervals_historyBefore_of_breaks
    (sameLast : history.last?.map Interval.sample = journal.scored.getLast?.map Scored.sample)
    (breaks : (journal.next sample isSameLink).Breaks history.maxGapMs) :
    (historyBefore history sample isSameLink).intervals = [] := by
  unfold historyBefore
  split_ifs with goesOn
  · rw [Bool.and_eq_true, beq_iff_eq] at goesOn
    cases ends : history.last? with
    | none => exact List.getLast?_eq_none_iff.mp ends
    | some last =>
      rw [ends, Option.map_some] at sameLast
      have continues := (History.continuity_eq_continuous_iff ends).mp goesOn.2
      exact absurd breaks (Scored.not_breaks_iff.mpr ⟨_, sameLast.symm, goesOn.1, continues⟩)
  · rfl

omit [SquareRoot α] in
/-- Without a break the history is kept, and its last interval is where the next one begins. -/
theorem historyBefore_of_not_breaks (scorer : ForestScorer α)
    (sameLast : history.last?.map Interval.sample = journal.scored.getLast?.map Scored.sample)
    (goesOn : ¬ (journal.next sample isSameLink).Breaks history.maxGapMs) :
    historyBefore history sample isSameLink = history ∧
      scorer.intervalAfter history sample =
        scorer.intervalTo (journal.next sample isSameLink) := by
  obtain ⟨previous, before, same, continues⟩ := Scored.not_breaks_iff.mp goesOn
  obtain ⟨last, ends, rfl⟩ := Option.map_eq_some_iff.mp (sameLast.trans before)
  have continuous : history.continuity sample = .continuous :=
    (History.continuity_eq_continuous_iff ends).mpr continues
  have sameLink : isSameLink = true := same
  constructor
  · rw [historyBefore, continuous, sameLink]
    rfl
  · rw [intervalAfter, intervalTo, ends, before]
    rfl

/-- Scoring a sample adds its interval to those since the latest break, or begins with it anew. -/
theorem recalls_score (gap : history.maxGapMs = scorer.settings.polling.maxGapMs)
    (recalls : scorer.Recalls journal.scored history.intervals) (sample : Sample)
    (isSameLink : Bool) :
    scorer.Recalls (journal.note sample isSameLink).scored
      (scorer.score history sample isSameLink).1.intervals := by
  have sameLast := recalls.map_sample_last?
  rw [history_score]
  by_cases breaks : (journal.next sample isSameLink).Breaks history.maxGapMs
  · have nothingLeft := intervals_historyBefore_of_breaks sameLast breaks
    have alone : (historyBefore history sample isSameLink).intervals =
        ([] : List (Interval α)).rtake History.capacity := by rw [nothingLeft, List.rtake_nil]
    have first : scorer.intervalAfter (historyBefore history sample isSameLink) sample =
        .first sample scorer.normalization := by
      rw [intervalAfter, History.last?, nothingLeft, List.getLast?_nil]
    refine .inr ⟨journal.scored, journal.next sample isSameLink, [], rfl, gap ▸ breaks, by simp, ?_⟩
    rw [intervals_push_of_rtake _ alone, first]
    rfl
  · obtain ⟨kept, onward⟩ := historyBefore_of_not_breaks scorer sameLast breaks
    rw [kept, onward]
    rcases recalls with ⟨nothing, -⟩ | ⟨earlier, start, rest, log, starts, noBreak, intervals⟩
    · -- The first sample of all would be a break.
      exact absurd (by simp [Scored.Breaks, Journal.next, nothing]) breaks
    · refine .inr ⟨earlier, start, rest ++ [journal.next sample isSameLink], ?_, starts, ?_, ?_⟩
      · rw [Journal.note, log, List.append_assoc, List.cons_append]
      · intro later isLater
        rcases List.mem_append.mp isLater with before | isNext
        · exact noBreak later before
        · rw [List.mem_singleton.mp isNext, ← gap]
          exact breaks
      · rw [intervals_push_of_rtake _ intervals, intervalsSince, intervalsSince, List.map_append,
          List.cons_append, List.map_singleton]

/-! ### Runs -/

/-- What an operation does to the memory of a connection. Scoring a sample by itself only changes
the history. -/
def operate (scorer : ForestScorer α) (memory : Memory α) : Operation → Memory α
  | .score sample isSameLink =>
    { memory with history := (scorer.score memory.history sample isSameLink).1 }
  | .call call => (scorer.step memory call).1

/-- The memory of a new connection after operations. -/
def memoryAfter (scorer : ForestScorer α) (operations : List Operation) : Memory α :=
  operations.foldl scorer.operate scorer.start

/-- Whether a memory is as a journal tells. -/
structure Memory.Follows (scorer : ForestScorer α) (memory : Memory α) (journal : Journal) :
    Prop where
  accessPoint : memory.accessPoint? = journal.accessPoint?
  maxGapMs : memory.history.maxGapMs = scorer.settings.polling.maxGapMs
  recalls : scorer.Recalls journal.scored memory.history.intervals

omit [SquareRoot α] [Undefined α] in
/-- Nothing is recalled of a new connection. -/
theorem Memory.Follows.start [Undefined α] : scorer.start.Follows scorer .blank where
  accessPoint := rfl
  maxGapMs := rfl
  recalls := .inl ⟨rfl, rfl⟩

theorem history_verdict_secondary {memory : Memory α} {nowMs : ℕ} :
    (scorer.verdict memory sample nowMs false).1.history = memory.history := by
  simp only [verdict, Bool.false_eq_true, if_false]
  split_ifs <;> rfl

/-- Every operation leads to a memory that the journal tells. -/
theorem Memory.Follows.operate {memory : Memory α} (follows : memory.Follows scorer journal)
    (operation : Operation) :
    (scorer.operate memory operation).Follows scorer (journal.add operation) := by
  match operation with
  | .score sample isSameLink =>
    exact
      { accessPoint := follows.accessPoint
        maxGapMs := maxGapMs_score.trans follows.maxGapMs
        recalls := recalls_score follows.maxGapMs follows.recalls sample isSameLink }
  | .call .reset =>
    exact
      { accessPoint := rfl
        maxGapMs := follows.maxGapMs
        recalls := .inl ⟨rfl, rfl⟩ }
  | .call (.score sample nowMs isPrimary) =>
    change (scorer.verdict memory sample nowMs isPrimary).1.Follows scorer _
    refine ⟨accessPoint?_verdict, maxGapMs_verdict.trans follows.maxGapMs, ?_⟩
    cases isPrimary with
    | true =>
      -- The word on the link is what the access point of the last call says.
      rw [history_verdict_primary, Memory.isFollowedBy, follows.accessPoint]
      exact recalls_score follows.maxGapMs follows.recalls sample _
    | false =>
      rw [history_verdict_secondary]
      exact follows.recalls

/-- After any operations the memory is as their journal tells. -/
theorem follows_ofOperations (scorer : ForestScorer α) (operations : List Operation) :
    (scorer.memoryAfter operations).Follows scorer (.ofOperations operations) := by
  induction operations using List.reverseRecOn with
  | nil => exact .start
  | append_singleton operations operation ih =>
    rw [memoryAfter, Journal.ofOperations, List.foldl_append, List.foldl_append]
    exact ih.operate operation

/-! ### Neighbours -/

/-- Whether a sample can follow another one in a history that allows gaps of a given size. -/
structure CanFollow (maxGapMs : ℕ) (earlier later : Sample) : Prop where
  accessPoint : earlier.accessPoint = later.accessPoint
  inOrder : earlier.timestampMs ≤ later.timestampMs
  near : later.timestampMs - earlier.timestampMs ≤ maxGapMs

/-- Samples that were scored one after the other without a break can follow each other. -/
theorem isChain_canFollow {maxGapMs : ℕ} {start : Scored} {rest : List Scored}
    (linked : (start :: rest).IsChain fun earlier later => later.previous? = some earlier.sample)
    (noBreak : ∀ later ∈ rest, ¬ later.Breaks maxGapMs) :
    ((start :: rest).map Scored.sample).IsChain (CanFollow maxGapMs) := by
  induction rest generalizing start with
  | nil => exact List.isChain_singleton _
  | cons next rest ih =>
    obtain ⟨link, linked⟩ := List.isChain_cons_cons.mp linked
    obtain ⟨previous, before, -, samePoint, inOrder, near⟩ :=
      Scored.not_breaks_iff.mp (noBreak next List.mem_cons_self)
    obtain rfl : start.sample = previous := Option.some.inj (link.symm.trans before)
    refine List.isChain_cons_cons.mpr ⟨⟨samePoint, inOrder, near⟩, ih linked ?_⟩
    exact fun later isLater => noBreak later (List.mem_cons_of_mem _ isLater)

omit [SquareRoot α] in
/-- Each sample that is recalled could follow the one before it. -/
theorem Recalls.isChain_canFollow {intervals : List (Interval α)} (linked : journal.IsLinked)
    (recalls : scorer.Recalls journal.scored intervals) :
    intervals.IsChain fun earlier later =>
      CanFollow scorer.settings.polling.maxGapMs earlier.sample later.sample := by
  rcases recalls with ⟨-, rfl⟩ | ⟨earlier, start, rest, log, -, noBreak, rfl⟩
  · exact List.isChain_nil
  · rw [Journal.IsLinked, log] at linked
    have chain := ForestScorer.isChain_canFollow
      (linked.suffix (List.suffix_append _ _)) noBreak
    rw [← map_sample_intervalsSince scorer, List.isChain_map] at chain
    exact chain.drop _

/-- After any operations on a connection the history holds the last five intervals, or fewer if
there are not so many, of the samples scored since the latest break. So its samples are of one
access point, in the order of time, and no two neighbours are too far apart. -/
theorem history_recalls_last_five (scorer : ForestScorer α) (operations : List Operation) :
    let intervals := (scorer.memoryAfter operations).history.intervals
    scorer.Recalls (Journal.ofOperations operations).scored intervals ∧
      (∀ first ∈ intervals, ∀ second ∈ intervals,
        first.sample.accessPoint = second.sample.accessPoint) ∧
      (intervals.Pairwise fun earlier later =>
        earlier.sample.timestampMs ≤ later.sample.timestampMs) ∧
      intervals.IsChain fun earlier later =>
        later.sample.timestampMs - earlier.sample.timestampMs ≤
          scorer.settings.polling.maxGapMs := by
  intro intervals
  have recalls := (follows_ofOperations scorer operations).recalls
  have chain := recalls.isChain_canFollow (Journal.isLinked_ofOperations operations)
  refine ⟨recalls, ?_, ?_, chain.imp fun _ _ canFollow => canFollow.near⟩
  · have points := List.isChain_map_of_isChain (fun interval => interval.sample.accessPoint)
      (S := (· = ·)) (fun _ _ canFollow => canFollow.accessPoint) chain
    intro first isFirst second isSecond
    exact List.Pairwise.forall_of_forall (fun _ _ => rfl) points.pairwise
      (List.mem_map_of_mem isFirst) (List.mem_map_of_mem isSecond)
  · have times := List.isChain_map_of_isChain (fun interval => interval.sample.timestampMs)
      (S := (· ≤ ·)) (fun _ _ canFollow => canFollow.inOrder) chain
    exact List.pairwise_map.mp times.pairwise

end Recall

end ForestScorer

end LinkQuality
