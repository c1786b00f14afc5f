import LinkQuality.Proofs.Forest.Rounded
import LinkQuality.Proofs.Forest.Secondary
import LinkQuality.Proofs.Forest.Votes
import Mathlib.Data.Rat.Sqrt

/-!
# Handovers

A sample of another access point than the last one begins anew: its interval is the first of its
history, and its reading the first of its standing. What was remembered of the old access point
reaches neither its verdict nor any later one.

The standing is begun anew only by a sample that is scored. No score of a forest is the mark of an
unclassified sample, but the score of a bad link is one less than the threshold, and if the
threshold is so small that rounding drops it, that is the mark. Then a hopeless sample of a new
access point is taken for unclassified, and is answered with what was recommended about the old one.

The reading of a handover is the best one. If the threshold can be reached at all, the new link is
above the transition score and usable, and nothing is asked for.

## Main definitions

* `ForestScorer.Memory.EndsElsewhere`: whether a memory ends on another access point
* `ForestScorer.TellsScores`: whether no score is taken for the mark
* `ForestScorer.CutsOff`: whether nothing of an access point is left after a handover

## Main results

* `Standing.transition_lt_of_other`, `Standing.isRecommended_of_other`: a new standing is good
* `ForestScorer.isUsable_of_elsewhere`: so is the verdict that it leads to
* `ForestScorer.cutsOff_of_tellsScores`: scorers that tell their scores from the mark cut off
* `ForestScorer.answers_eq_of_handover`: which scorers these are
* `ForestScorer.not_forall_cutsOff`: there are others
-/

namespace LinkQuality

variable {K : Type} [Field K] [LinearOrder K] [FloorRing K]

namespace Standing

open Settings (Hysteresis)

variable {rules : Hysteresis (Exact K)} {reading : Reading (Exact K)}
  (standing : Standing (Exact K))

theorem fellToScan_of_other (other : reading.isSameLink = false) :
    (standing.adjust rules reading).fellToScan = false := by
  rw [← Bool.not_eq_true, fellToScan_adjust_iff, other]
  exact fun falls => Bool.false_ne_true falls.1

/-- A new standing that begins above the transition score is recommended and not blocked: nothing
has been crossed. -/
theorem isRecommended_of_other (transition_lt_max : rules.transitionScore < rules.maxScore)
    (other : reading.isSameLink = false)
    (above : rules.transitionScore < (standing.adjust rules reading).score) :
    (standing.adjust rules reading).isRecommended = true ∧
      (standing.adjust rules reading).isBlocked = false := by
  rw [adjust_of_not_same other] at above ⊢
  let first : Reading (Exact K) := { reading with isSameLink := true, raw := rules.maxScore }
  have notBelow : ¬ ((fresh rules).adjust rules first).score < rules.transitionScore :=
    Scalar.not_lt_of_lt above
  have uncrossed : first.breaches rules (fresh rules) = false := by
    by_contra crossed
    rcases Reading.breaches_iff.mp (Bool.not_eq_false _ ▸ crossed) with up | down
    · exact Scalar.not_lt_of_lt transition_lt_max up.1.2
    · exact notBelow down.2.1.2
  have record : ((fresh rules).adjust rules first).lastBreachMs = none := by
    rw [lastBreachMs_adjust rfl, uncrossed]
    rfl
  exact ⟨isRecommended_of_no_breach rfl record, isBlocked_of_not_below rfl notBelow⟩

variable [IsStrictOrderedRing K]

/-- If the threshold is within the scores that can be reached, a new standing begins with a score
that is at least the transition score, and is kept off it. -/
theorem exists_score_of_other (one_le : 1 ≤ rules.transitionScore)
    (transition_lt_max : rules.transitionScore < rules.maxScore)
    (threshold_pos : 0 < reading.threshold) (threshold_le_max : reading.threshold ≤ rules.maxScore)
    (other : reading.isSameLink = false) :
    ∃ t s, rules.transitionScore = .number t ∧ 1 ≤ t ∧ t ≤ s ∧
      (standing.adjust rules reading).score =
        keepOff rules.transitionScore rules.maxScore (.number s) := by
  obtain ⟨t, m, transition, max, t_lt_m⟩ := Exact.lt_iff.mp transition_lt_max
  obtain ⟨θ, threshold, θ_pos⟩ := Exact.pos_iff.mp threshold_pos
  rw [transition, Exact.one_eq, Exact.number_le_number] at one_le
  rw [threshold, max, Exact.number_le_number] at threshold_le_max
  refine ⟨t, min (t / θ * m) m, transition, one_le, le_min ?_ t_lt_m.le, ?_⟩
  · have t_nonneg : 0 ≤ t := zero_le_one.trans one_le
    calc t = t / θ * θ := (div_mul_cancel₀ t θ_pos.ne').symm
      _ ≤ t / θ * m := mul_le_mul_of_nonneg_left threshold_le_max (div_nonneg t_nonneg θ_pos.le)
  · -- A new standing is not below the transition score, so the margin is not added.
    have notBelow : ¬ rules.maxScore < rules.transitionScore :=
      Scalar.not_lt_of_lt transition_lt_max
    have notRaised : thresholdAfter rules rules.maxScore reading.threshold reading.margin =
        .number θ := by
      simp [thresholdAfter, notBelow, threshold]
    have scaled : scale rules (.number θ) rules.maxScore = .number (min (t / θ * m) m) := by
      rw [max]
      exact scale_number transition max θ_pos
    rw [adjust_of_not_same other, score_adjust rfl]
    change adjustedScore rules rules.maxScore rules.maxScore reading.threshold reading.margin = _
    rw [adjustedScore, notRaised, scaled]

/-- A new standing begins with a score above the transition score. The integer part of that score is
above it as well, if there are integers above the transition score among those that it is cut to. -/
theorem transition_lt_of_other (one_le : 1 ≤ rules.transitionScore)
    (transition_lt_max : rules.transitionScore < rules.maxScore)
    (threshold_pos : 0 < reading.threshold) (threshold_le_max : reading.threshold ≤ rules.maxScore)
    (other : reading.isSameLink = false) :
    rules.transitionScore < (standing.adjust rules reading).score ∧
      (rules.transitionScore < Scalar.ofInt 0x7FFFFFFF → rules.transitionScore <
        Scalar.ofInt (Scalar.toInt32 (standing.adjust rules reading).score)) := by
  obtain ⟨t, s, transition, one_le_t, t_le_s, score⟩ := exists_score_of_other standing one_le
    transition_lt_max threshold_pos threshold_le_max other
  have t_nonneg : 0 ≤ t := zero_le_one.trans one_le_t
  have above : rules.transitionScore < (standing.adjust rules reading).score := by
    rw [score]
    exact transition_lt_keepOff transition one_le_t t_le_s transition_lt_max
  have adjusted : IsAdjusted rules (standing.adjust rules reading).score := by
    rw [score]
    exact isAdjusted_keepOff transition one_le_t (t_nonneg.trans t_le_s) _
  refine ⟨above, fun fits => ?_⟩
  obtain ⟨t', x, transition', isNumber, t_lt_x⟩ := Exact.lt_iff.mp above
  obtain rfl : t = t' := Exact.number.inj (transition.symm.trans transition')
  rw [isNumber] at adjusted ⊢
  have t_lt_floor := adjusted.transition_lt_floor transition t_nonneg t_lt_x
  rw [transition, Exact.ofInt_eq, Exact.number_lt_number] at fits
  rw [transition, Scalar.toInt32, Exact.toInt_number, Exact.ofInt_eq, Exact.number_lt_number,
    Exact.wholePart_towardZero (t_nonneg.trans t_lt_x.le), Int.cast_max, Int.cast_min]
  -- Neither bound of the integers gets in the way.
  exact lt_max_of_lt_right (lt_min fits t_lt_floor)

end Standing

namespace ForestScorer

section Runs

variable {α : Type} [Scalar α] [Undefined α] [SquareRoot α] {scorer : ForestScorer α}

/-- Whether the last interval of a memory, and its last call, were on another access point than a
sample. -/
structure Memory.EndsElsewhere (memory : Memory α) (sample : Sample) : Prop where
  handover : memory.history.continuity sample = .handover
  isFollowedBy_eq_false : memory.isFollowedBy sample = false

/-- After a primary call the memory ends on its access point. -/
theorem endsElsewhere_stateAfter {last sample : Sample} (calls : List Call) (lastMs : ℕ)
    (elsewhere : last.accessPoint ≠ sample.accessPoint) :
    (stateAfter scorer.step scorer.start (calls ++ [.score last lastMs true])).EndsElsewhere
      sample := by
  rw [stateAfter_append]
  change (scorer.verdict (stateAfter scorer.step scorer.start calls) last lastMs
    true).1.EndsElsewhere sample
  constructor
  · rw [history_verdict_primary]
    obtain ⟨interval, isLast, isOfLast⟩ := exists_last?_score scorer _ last _
    exact continuity_of_ne isLast (isOfLast ▸ elsewhere)
  · rw [Memory.isFollowedBy, accessPoint?_verdict, Option.all_some]
    exact beq_eq_false_iff_ne.mpr elsewhere

theorem maxGapMs_stateAfter (calls : List Call) :
    (stateAfter scorer.step scorer.start calls).history.maxGapMs =
      scorer.settings.polling.maxGapMs := by
  induction calls using List.reverseRecOn with
  | nil => rfl
  | append_singleton calls call ih =>
    rw [stateAfter_append]
    cases call with
    | reset => exact ih
    | score sample nowMs isPrimary => exact maxGapMs_verdict.trans ih

/-- Where there is nothing to score with, the standing stays that of a new link. -/
theorem standing_stateAfter_of_not_canScore
    (marked : ((unclassified : α) == unclassified) = true) (cannot : scorer.canScore = false)
    (calls : List Call) :
    (stateAfter scorer.step scorer.start calls).standing = .fresh scorer.settings.hysteresis := by
  induction calls using List.reverseRecOn with
  | nil => rfl
  | append_singleton calls call ih =>
    rw [stateAfter_append]
    cases call with
    | reset => rfl
    | score sample nowMs isPrimary =>
      change (scorer.verdict (stateAfter scorer.step scorer.start calls) sample nowMs
        isPrimary).1.standing = _
      -- Neither kind of call has a score, and only scores move the standing.
      cases isPrimary with
      | false =>
        rw [verdict_secondary marked]
        exact ih
      | true =>
        rw [verdict_of_unclassified (by rw [score_of_not_canScore cannot]; exact marked)]
        exact ih

/-- Whether no score that there is something to make of is taken for the mark of an unclassified
sample. -/
def TellsScores (scorer : ForestScorer α) : Prop :=
  scorer.canScore = true → ∀ (history : History α) (sample : Sample) (isSameLink : Bool),
    ((scorer.score history sample isSameLink).2 == unclassified) = false

/-- Whether a handover cuts off the old access point: whatever two connections were before it, from
the first sample of the new access point on all answers are the same. -/
def CutsOff (scorer : ForestScorer α) : Prop :=
  ∀ (firstPast secondPast later : List Call) (firstLast secondLast sample : Sample)
    (firstMs secondMs nowMs : ℕ), firstLast.accessPoint ≠ sample.accessPoint →
    secondLast.accessPoint ≠ sample.accessPoint →
      answers scorer.step
          (stateAfter scorer.step scorer.start (firstPast ++ [.score firstLast firstMs true]))
          (.score sample nowMs true :: later) =
        answers scorer.step
          (stateAfter scorer.step scorer.start (secondPast ++ [.score secondLast secondMs true]))
          (.score sample nowMs true :: later)

/-- Two memories that end elsewhere lead to the same verdict and the same memory. Their standings
only have to agree where there is nothing to score with, since then they are not begun anew. -/
theorem verdict_eq_of_endsElsewhere (marked : ((unclassified : α) == unclassified) = true)
    (tells : scorer.TellsScores) (nowMs : ℕ) {first second : Memory α} {sample : Sample}
    (firstElsewhere : first.EndsElsewhere sample) (secondElsewhere : second.EndsElsewhere sample)
    (sameGaps : first.history.maxGapMs = second.history.maxGapMs)
    (sameStanding : scorer.canScore = false → first.standing = second.standing) :
    scorer.verdict first sample nowMs true = scorer.verdict second sample nowMs true := by
  have sameScore : scorer.score first.history sample (first.isFollowedBy sample) =
      scorer.score second.history sample (second.isFollowedBy sample) := by
    rw [score_of_handover firstElsewhere.handover, score_of_handover secondElsewhere.handover,
      sameGaps]
  cases can : scorer.canScore with
  | false =>
    -- Without scores the standing is never moved, so it is not begun anew either.
    have unscored (history : History α) (isSameLink : Bool) :
        ((scorer.score history sample isSameLink).2 == unclassified) = true := by
      rw [score_of_not_canScore can]
      exact marked
    rw [verdict_of_unclassified (unscored _ _), verdict_of_unclassified (unscored _ _), sameScore,
      sameStanding can]
  | true =>
    have scored := tells can second.history sample (second.isFollowedBy sample)
    have sameMove (raw : α) :
        scorer.adjust first.standing raw (first.isFollowedBy sample) sample.rssi? nowMs =
          scorer.adjust second.standing raw (second.isFollowedBy sample) sample.rssi? nowMs := by
      rw [firstElsewhere.isFollowedBy_eq_false, secondElsewhere.isFollowedBy_eq_false]
      exact (Standing.adjust_of_not_same rfl).trans (Standing.adjust_of_not_same rfl).symm
    rw [verdict_of_scored (congrArg Prod.snd sameScore) scored (sameMove _),
      verdict_of_scored rfl scored rfl, sameScore]

/-- A scorer that tells its scores from the mark cuts off the old access point. -/
theorem cutsOff_of_tellsScores (marked : ((unclassified : α) == unclassified) = true)
    (tells : scorer.TellsScores) : scorer.CutsOff := by
  intro firstPast secondPast later firstLast secondLast sample firstMs secondMs nowMs
    firstElsewhere secondElsewhere
  let first := stateAfter scorer.step scorer.start (firstPast ++ [.score firstLast firstMs true])
  let second :=
    stateAfter scorer.step scorer.start (secondPast ++ [.score secondLast secondMs true])
  have sameVerdict : scorer.verdict first sample nowMs true =
      scorer.verdict second sample nowMs true := by
    apply verdict_eq_of_endsElsewhere marked tells nowMs
    · exact endsElsewhere_stateAfter firstPast firstMs firstElsewhere
    · exact endsElsewhere_stateAfter secondPast secondMs secondElsewhere
    · rw [maxGapMs_stateAfter, maxGapMs_stateAfter]
    · intro cannot
      rw [standing_stateAfter_of_not_canScore marked cannot,
        standing_stateAfter_of_not_canScore marked cannot]
  have same : scorer.step first (.score sample nowMs true) =
      scorer.step second (.score sample nowMs true) := by
    rw [step, step, sameVerdict]
  -- The same memory answers the same to all that follows.
  change answers scorer.step first _ = answers scorer.step second _
  rw [answers, answers, same]

end Runs

/-! ### Exact scores -/

theorem unclassified_eq : (unclassified : Exact K) = .number (-1) := by
  rw [unclassified, Exact.one_eq, Exact.neg_number]

theorem unclassified_beq : ((unclassified : Exact K) == unclassified) = true := by
  rw [unclassified_eq, Exact.number_beq]
  exact decide_eq_true rfl

variable [IsStrictOrderedRing K] [SquareRoot (Exact K)] {scorer : ForestScorer (Exact K)}
  {sample : Sample}

/-- Where there is something to score with, a sample gets a score of the forest or that of a bad
link. -/
theorem exists_score_of_canScore {θ : K}
    (threshold : scorer.settings.hysteresis.threshold = .number θ) (can : scorer.canScore = true)
    (history : History (Exact K)) (sample : Sample) (isSameLink : Bool) :
    ∃ x, (scorer.score history sample isSameLink).2 = .number x ∧
      (0 ≤ x ∧ x ≤ 100 ∨ x = θ - 1) := by
  obtain ⟨model, loaded, hasTrees⟩ := (Option.any_eq_true _ _).mp can
  obtain ⟨summary, isBad, raw⟩ := exists_summary_of_model scorer history sample isSameLink loaded
  obtain ⟨score, scored, nonneg, atMost⟩ :=
    model.forest.exists_score (by simpa using hasTrees) summary.toVector
  have bad : scorer.badScore = .number (θ - 1) := by
    rw [badScore, threshold, Exact.one_eq, Exact.number_sub]
  rw [raw, scored, bad]
  cases isBad with
  | false => exact ⟨score, rfl, .inl ⟨nonneg, atMost⟩⟩
  | true => exact ⟨θ - 1, rfl, .inr rfl⟩

/-- No score is taken for a missing one: the scores of the forest are not negative, and that of a
bad link is above minus one. -/
theorem score_ne_unclassified (threshold_pos : 0 < scorer.settings.hysteresis.threshold)
    (can : scorer.canScore = true) (history : History (Exact K)) (sample : Sample)
    (isSameLink : Bool) :
    ((scorer.score history sample isSameLink).2 == unclassified) = false := by
  obtain ⟨θ, threshold, θ_pos⟩ := Exact.pos_iff.mp threshold_pos
  obtain ⟨x, raw, range⟩ := exists_score_of_canScore threshold can history sample isSameLink
  have apart : x ≠ -1 := by
    rcases range with ⟨nonneg, -⟩ | bad
    · linarith
    · linarith
  rw [raw, unclassified_eq]
  simpa using apart

/-- Where there is something to score with, a sample taken elsewhere moves the standing by a reading
of another link, and the verdict is what that standing recommends. -/
theorem exists_reading_of_elsewhere (nowMs : ℕ) {memory : Memory (Exact K)}
    (threshold_pos : 0 < scorer.settings.hysteresis.threshold) (can : scorer.canScore = true)
    (elsewhere : memory.EndsElsewhere sample) :
    ∃ (reading : Standing.Reading (Exact K)) (wantsProbe : Bool),
      reading.isSameLink = false ∧ reading.threshold = scorer.settings.hysteresis.threshold ∧
      (scorer.verdict memory sample nowMs true).1.standing =
        memory.standing.adjust scorer.settings.hysteresis reading ∧
      (scorer.verdict memory sample nowMs true).2 =
        verdictOf (memory.standing.adjust scorer.settings.hysteresis reading) reading.raw
          (memory.standing.adjust scorer.settings.hysteresis reading).score wantsProbe := by
  have scored := score_ne_unclassified threshold_pos can memory.history sample
    (memory.isFollowedBy sample)
  rw [verdict_of_scored rfl scored rfl, elsewhere.isFollowedBy_eq_false]
  exact ⟨_, _, rfl, rfl, rfl, rfl⟩

/-- The first verdict after a handover, if there is something to score with and the threshold is
within the scores that can be reached: the link is usable, and nothing is asked for. -/
theorem isUsable_of_elsewhere (nowMs : ℕ) {memory : Memory (Exact K)}
    (one_le : 1 ≤ scorer.settings.hysteresis.transitionScore)
    (transition_lt_max : scorer.settings.hysteresis.transitionScore <
      scorer.settings.hysteresis.maxScore)
    (threshold_pos : 0 < scorer.settings.hysteresis.threshold)
    (threshold_le_max : scorer.settings.hysteresis.threshold ≤
      scorer.settings.hysteresis.maxScore)
    (can : scorer.canScore = true) (elsewhere : memory.EndsElsewhere sample) :
    let (after, verdict) := scorer.verdict memory sample nowMs true
    let transition := scorer.settings.hysteresis.transitionScore
    verdict.isUsable = true ∧ verdict.wantsBlock = false ∧ verdict.wantsScan = false ∧
      transition < after.standing.score ∧
      verdict.adjustedScore = Scalar.toInt32 after.standing.score ∧
      (transition < Scalar.ofInt 0x7FFFFFFF →
        transition < Scalar.ofInt verdict.adjustedScore) := by
  obtain ⟨reading, wantsProbe, other, threshold, standing, verdict⟩ :=
    exists_reading_of_elsewhere nowMs threshold_pos can elsewhere
  rw [← threshold] at threshold_pos threshold_le_max
  obtain ⟨above, integerAbove⟩ := Standing.transition_lt_of_other memory.standing one_le
    transition_lt_max threshold_pos threshold_le_max other
  obtain ⟨recommended, notBlocked⟩ :=
    Standing.isRecommended_of_other memory.standing transition_lt_max other above
  have noScan : (memory.standing.adjust scorer.settings.hysteresis reading).fellToScan = false :=
    Standing.fellToScan_of_other memory.standing other
  dsimp only
  rw [verdict, standing]
  exact ⟨recommended, notBlocked, noScan, above, rfl, integerAbove⟩

/-! ### Handovers -/

theorem tellsScores_of_positive (threshold_pos : 0 < scorer.settings.hysteresis.threshold) :
    scorer.TellsScores :=
  fun can => score_ne_unclassified threshold_pos can

omit [IsStrictOrderedRing K] [SquareRoot (Exact K)] in
/-- In double precision the scores of a forest are told from the mark, so only that of a bad link
has to be. -/
theorem tellsScores_of_badScore {scorer : ForestScorer Float}
    (apart : (scorer.badScore == unclassified) = false) : scorer.TellsScores := by
  intro can history sample isSameLink
  obtain ⟨model, loaded, hasTrees⟩ := (Option.any_eq_true _ _).mp can
  obtain ⟨summary, isBad, raw⟩ := exists_summary_of_model scorer history sample isSameLink loaded
  obtain ⟨score, scored, notBelow⟩ :=
    model.forest.not_score_lt_zero (by simpa using hasTrees) summary.toVector
  rw [raw, scored]
  cases isBad with
  | true => exact apart
  | false =>
    have mark_lt_zero : (unclassified : Float) < 0 := by decide +kernel
    rw [← Bool.not_eq_true]
    exact fun isMark => notBelow (Scalar.lt_of_le_of_lt (Binary64.le_of_beq isMark) mark_lt_zero)

/-- A handover cuts off the old access point, if the score of a bad link is not the mark of an
unclassified sample. In exact arithmetic it never is. There, if something can be scored with and the
threshold is within the scores that can be reached, the first verdict finds the new link usable,
with an adjusted score above the transition score, and asks for nothing. -/
theorem answers_eq_of_handover :
    (∀ scorer : ForestScorer Float, (scorer.badScore == unclassified) = false →
      scorer.CutsOff) ∧
    ∀ scorer : ForestScorer (Exact K),
      let rules := scorer.settings.hysteresis
      0 < rules.threshold → scorer.CutsOff ∧
      (1 ≤ rules.transitionScore → rules.transitionScore < rules.maxScore →
        rules.threshold ≤ rules.maxScore → scorer.canScore = true →
        ∀ (past : List Call) (last sample : Sample) (lastMs nowMs : ℕ),
          last.accessPoint ≠ sample.accessPoint →
          ∃ memory verdict,
            scorer.step (stateAfter scorer.step scorer.start (past ++ [.score last lastMs true]))
                (.score sample nowMs true) = (memory, some verdict) ∧
              verdict.isUsable = true ∧ verdict.wantsBlock = false ∧ verdict.wantsScan = false ∧
              rules.transitionScore < memory.standing.score ∧
              verdict.adjustedScore = Scalar.toInt32 memory.standing.score ∧
              (rules.transitionScore < Scalar.ofInt 0x7FFFFFFF →
                rules.transitionScore < Scalar.ofInt verdict.adjustedScore)) := by
  constructor
  · intro scorer apart
    have marked : ((unclassified : Float) == unclassified) = true := by decide +kernel
    exact cutsOff_of_tellsScores marked (tellsScores_of_badScore apart)
  · intro scorer rules threshold_pos
    refine ⟨cutsOff_of_tellsScores unclassified_beq (tellsScores_of_positive threshold_pos), ?_⟩
    intro one_le transition_lt_max threshold_le_max can past last sample lastMs nowMs
      isElsewhere
    -- A primary call leaves history and access point where it was made.
    have elsewhere : (stateAfter scorer.step scorer.start
        (past ++ [.score last lastMs true])).EndsElsewhere sample :=
      endsElsewhere_stateAfter past lastMs isElsewhere
    have usable := isUsable_of_elsewhere nowMs one_le transition_lt_max threshold_pos
      threshold_le_max can elsewhere
    exact ⟨_, _, rfl, usable⟩

/-- A model that expects every link to fail, in double precision and in exact arithmetic. A link
that was hopeless and a link that was fine are both forgotten, and the new one is usable. -/
theorem answers_eq_of_handover_from_two_links :
    let _ : SquareRoot (Exact ℚ) := ⟨fun
      | .number x => .number (Rat.sqrt x)
      | .undefined => .undefined⟩
    let rounded : ForestScorer Float :=
      { settings := .defaults, model? := some Pessimist.model }
    let exact : ForestScorer (Exact ℚ) :=
      { settings := .defaults
        model? := some
          { forest := { trees := [⟨#[.leaf 0.95], by decide +kernel⟩], vote := .mean }
            normalization := .identity } }
    let on (frequencyMhz : ℕ) (rssiDbm : ℤ) : Sample :=
      { accessPoint := ⟨.zero, frequencyMhz⟩, rssiDbm }
    let later : List Call := [.score (on 5955 (-60)) 12000 true, .score (on 5955 (-60)) 15000 true]
    answers rounded.step (stateAfter rounded.step rounded.start
          ([.score (on 2412 (-90)) 0 true] ++ [.score (on 2412 (-90)) 3000 true])) later =
        answers rounded.step (stateAfter rounded.step rounded.start
          ([.reset] ++ [.score (on 5180 (-40)) 9000 true])) later ∧
      ∃ memory verdict, exact.step (stateAfter exact.step exact.start
            ([.score (on 2412 (-90)) 0 true] ++ [.score (on 2412 (-90)) 3000 true]))
          (.score (on 5955 (-60)) 12000 true) = (memory, some verdict) ∧ verdict.isUsable = true ∧
        exact.settings.hysteresis.transitionScore < Scalar.ofInt verdict.adjustedScore := by
  intro _ rounded exact on later
  have first : (on 2412 (-90)).accessPoint ≠ (on 5955 (-60)).accessPoint := by decide
  have second : (on 5180 (-40)).accessPoint ≠ (on 5955 (-60)).accessPoint := by decide
  obtain ⟨cutsOff, isGood⟩ := answers_eq_of_handover (K := ℚ)
  obtain ⟨memory, verdict, answer, usable, -, -, -, -, above⟩ :=
    (isGood exact (by decide +kernel)).2 (by decide +kernel) (by decide +kernel) (by decide +kernel)
      (by decide +kernel) [.score (on 2412 (-90)) 0 true] _ _ 3000 12000 first
  refine ⟨?_, memory, verdict, answer, usable, above (by decide +kernel)⟩
  exact cutsOff rounded (by decide +kernel) [.score (on 2412 (-90)) 0 true] [.reset]
    [.score (on 5955 (-60)) 15000 true] _ _ _ 3000 9000 12000 first second

/-- With a threshold so small that one less is rounded to minus one, a hopeless sample of a new
access point is answered with what was recommended about the old one. -/
theorem not_forall_cutsOff :
    ¬ ∀ scorer : ForestScorer Float,
      1 ≤ scorer.settings.hysteresis.transitionScore →
      scorer.settings.hysteresis.transitionScore < scorer.settings.hysteresis.maxScore →
      0 < scorer.settings.hysteresis.threshold → scorer.CutsOff := by
  intro allCutOff
  let scorer : ForestScorer Float :=
    { settings :=
        { Settings.defaults with
          hysteresis := { Settings.Hysteresis.defaults with threshold := 1e-17 } }
      model? := some Pessimist.model }
  let on (frequencyMhz : ℕ) (rssiDbm : ℤ) : Sample :=
    { accessPoint := ⟨.zero, frequencyMhz⟩, rssiDbm }
  have same := allCutOff scorer (by decide +kernel) (by decide +kernel) (by decide +kernel)
    [.score (on 2412 (-82)) 0 true] [.score (on 2412 (-60)) 0 true] [] (on 2412 (-82))
    (on 2412 (-60)) (on 5180 (-90)) 3000 3000 6000 (by decide) (by decide)
  exact absurd same (by decide +kernel)

end ForestScorer

end LinkQuality
