import LinkQuality.Proofs.Forest.Memory
import LinkQuality.Proofs.Standing.Run
import LinkQuality.Binary64.Arithmetic
import Mathlib.Data.List.Infix

/-!
# Calls for secondary links

A call for a secondary link leaves history and standing alone, but it is remembered which access
point it was on. The next primary call compares its own access point with that one. So secondary
calls between two primary ones can make a handover of a stay, and a stay of a handover.

There is no other way for them to be noticed. The answers to all other calls are those that they
would be without the secondary calls exactly if every primary call still continues the link that it
continues without them.

## Main definitions

* `withoutSecondary`: calls of which those for secondary links are deleted
* `answersTo`: the answers to some of the inputs
* `ForestScorer.Undisturbed`: whether the secondary calls leave every stay and handover as it is
* `ForestScorer.pessimist`: a scorer whose answers show what it takes for a handover

## Main results

* `ForestScorer.answersTo_eq_of_undisturbed`: undisturbed calls get the answers they would get
* `ForestScorer.answersTo_eq_iff_undisturbed`: and no others get them from every scorer
-/

namespace LinkQuality

/-- Whether an input is a call for a secondary link. -/
def Call.isSecondary : Call → Bool
  | .score _ _ isPrimary => !isPrimary
  | .reset => false

/-- Calls of which those for secondary links are deleted. -/
def withoutSecondary (calls : List Call) : List Call := calls.filter fun call => !call.isSecondary

theorem withoutSecondary_append_singleton (calls : List Call) (call : Call) :
    withoutSecondary (calls ++ [call]) =
      withoutSecondary calls ++ if call.isSecondary then [] else [call] := by
  cases secondary : call.isSecondary <;> simp [withoutSecondary, secondary]

section Machine

variable {σ ι ο : Type}

/-- The answers of a machine to the wanted ones of the inputs that it is given. -/
def answersTo (wanted : ι → Bool) (step : σ → ι → σ × ο) (state : σ) : List ι → List ο
  | [] => []
  | input :: inputs =>
    let later := answersTo wanted step (step state input).1 inputs
    if wanted input then (step state input).2 :: later else later

variable {wanted : ι → Bool} {step : σ → ι → σ × ο}

/-- There is one answer to each input that is wanted. -/
theorem length_answersTo (state : σ) (inputs : List ι) :
    (answersTo wanted step state inputs).length = (inputs.filter wanted).length := by
  induction inputs generalizing state with
  | nil => rfl
  | cons input inputs ih =>
    cases isWanted : wanted input with
    | true => simp [answersTo, isWanted, ih]
    | false => simp [answersTo, isWanted, ih]

/-- The last input adds an answer if it is wanted. -/
theorem answersTo_append_singleton (state : σ) (inputs : List ι) (input : ι) :
    answersTo wanted step state (inputs ++ [input]) =
      answersTo wanted step state inputs ++
        if wanted input then [(step (stateAfter step state inputs) input).2] else [] := by
  induction inputs generalizing state with
  | nil => simp [answersTo, stateAfter]
  | cons first inputs ih =>
    cases isWanted : wanted first with
    | true => simp [answersTo, stateAfter, isWanted, ih]
    | false => simp [answersTo, stateAfter, isWanted, ih]

/-- Deleting the unwanted inputs leaves the wanted answers as they are exactly if it does so up to
the last input, and for the last one if it is wanted. -/
theorem answersTo_eq_answers_append_singleton (state : σ) (inputs : List ι) (input : ι) :
    answersTo wanted step state (inputs ++ [input]) =
        answers step state ((inputs ++ [input]).filter wanted) ↔
      answersTo wanted step state inputs = answers step state (inputs.filter wanted) ∧
        (wanted input = true →
          (step (stateAfter step state inputs) input).2 =
            (step (stateAfter step state (inputs.filter wanted)) input).2) := by
  rw [answersTo_append_singleton, List.filter_append, answers_append]
  cases isWanted : wanted input with
  | false => simp [isWanted, answers]
  | true =>
    -- Both lists end with the answer to the input, so they can be compared in two parts.
    have sameLength : (answersTo wanted step state inputs).length =
        (answers step state (inputs.filter wanted)).length := by
      rw [length_answersTo, length_answers]
    constructor
    · intro same
      obtain ⟨sameBefore, sameLast⟩ := List.append_inj same sameLength
      refine ⟨sameBefore, fun _ => ?_⟩
      simpa [isWanted, answers] using sameLast
    · rintro ⟨sameBefore, sameLast⟩
      rw [sameBefore]
      simp [isWanted, answers, sameLast rfl]

end Machine

/-! ### Stays and handovers -/

/-- The access point of a call. -/
def Call.accessPoint? : Call → Option AccessPoint
  | .score sample _ _ => some sample.accessPoint
  | .reset => none

/-- Whether a sample stays on the access point of the last call before it. The first sample of all
does, and so does the first one after a reset. -/
def stays (before : List Call) (sample : Sample) : Bool :=
  (before.getLast?.bind Call.accessPoint?).all fun point => point == sample.accessPoint

/-- Whether every primary call stays where it is exactly if it does with the secondary calls
deleted. -/
def Undisturbed (calls : List Call) : Prop :=
  ∀ before sample nowMs, before ++ [.score sample nowMs true] <+: calls →
    stays before sample = stays (withoutSecondary before) sample

/-- Calls are undisturbed if they are so up to the last one, and the last one if it is primary. -/
theorem undisturbed_append_singleton (calls : List Call) (call : Call) :
    Undisturbed (calls ++ [call]) ↔
      Undisturbed calls ∧ ∀ sample nowMs, call = .score sample nowMs true →
        stays calls sample = stays (withoutSecondary calls) sample := by
  constructor
  · intro undisturbed
    refine ⟨fun before sample nowMs here => ?_, ?_⟩
    · exact undisturbed before sample nowMs (here.trans (List.prefix_append _ _))
    · rintro sample nowMs rfl
      exact undisturbed calls sample nowMs List.prefix_rfl
  · rintro ⟨undisturbed, last⟩ before sample nowMs here
    rcases List.prefix_concat_iff.mp here with atEnd | earlier
    · obtain ⟨rfl, isLast⟩ := List.append_inj' atEnd rfl
      exact last sample nowMs (List.singleton_inj.mp isLast).symm
    · exact undisturbed before sample nowMs earlier

namespace ForestScorer

section Runs

variable {α : Type} [Scalar α] [Undefined α] [SquareRoot α] {scorer : ForestScorer α}

/-- The access point remembered is that of the last call. -/
theorem isFollowedBy_stateAfter (calls : List Call) (sample : Sample) :
    (stateAfter scorer.step scorer.start calls).isFollowedBy sample = stays calls sample := by
  induction calls using List.reverseRecOn with
  | nil => rfl
  | append_singleton calls call _ =>
    rw [stateAfter_append, stays, List.getLast?_concat, Memory.isFollowedBy]
    cases call with
    | reset => rfl
    | score later nowMs isPrimary =>
      have remembered : (scorer.verdict (stateAfter scorer.step scorer.start calls) later nowMs
          isPrimary).1.accessPoint? = some later.accessPoint := accessPoint?_verdict
      exact congrArg (Option.all _) remembered

/-- Two runs that agree on history and standing agree on the next primary call if its sample stays
in both or in none. -/
theorem verdict_stateAfter_congr (nowMs : ℕ) {first second : List Call} {sample : Sample}
    (sameHistory : (stateAfter scorer.step scorer.start first).history =
      (stateAfter scorer.step scorer.start second).history)
    (sameStanding : (stateAfter scorer.step scorer.start first).standing =
      (stateAfter scorer.step scorer.start second).standing)
    (sameLink : stays first sample = stays second sample) :
    scorer.verdict (stateAfter scorer.step scorer.start first) sample nowMs true =
      scorer.verdict (stateAfter scorer.step scorer.start second) sample nowMs true := by
  refine verdict_congr sameHistory sameStanding ?_
  rw [isFollowedBy_stateAfter, isFollowedBy_stateAfter, sameLink]

/-- Undisturbed calls lead to the history and the standing that they lead to without the secondary
ones. -/
theorem memory_eq_of_undisturbed (marked : ((unclassified : α) == unclassified) = true)
    {calls : List Call} (undisturbed : Undisturbed calls) :
    (stateAfter scorer.step scorer.start calls).history =
        (stateAfter scorer.step scorer.start (withoutSecondary calls)).history ∧
      (stateAfter scorer.step scorer.start calls).standing =
        (stateAfter scorer.step scorer.start (withoutSecondary calls)).standing := by
  induction calls using List.reverseRecOn with
  | nil => exact ⟨rfl, rfl⟩
  | append_singleton calls call ih =>
    obtain ⟨undisturbedBefore, last⟩ := (undisturbed_append_singleton calls call).mp undisturbed
    obtain ⟨sameHistory, sameStanding⟩ := ih undisturbedBefore
    rw [withoutSecondary_append_singleton]
    cases call with
    | reset =>
      -- Both histories are emptied, and they allowed the same gaps.
      simp [Call.isSecondary, stateAfter_append, stateAfter, step, forget, sameHistory]
    | score sample nowMs isPrimary =>
      cases isPrimary with
      | false =>
        -- The secondary call only moves the access point that is remembered.
        simpa [Call.isSecondary, stateAfter_append, stateAfter, step, verdict_secondary marked]
          using ⟨sameHistory, sameStanding⟩
      | true =>
        have same :=
          verdict_stateAfter_congr nowMs sameHistory sameStanding (last sample nowMs rfl)
        simp [Call.isSecondary, stateAfter_append, stateAfter, step, same]

/-- Deleting the secondary ones of undisturbed calls leaves the answers to the others unchanged. -/
theorem answersTo_eq_of_undisturbed (marked : ((unclassified : α) == unclassified) = true)
    {calls : List Call} (undisturbed : Undisturbed calls) :
    answersTo (fun call => !call.isSecondary) scorer.step scorer.start calls =
      answers scorer.step scorer.start (withoutSecondary calls) := by
  induction calls using List.reverseRecOn with
  | nil => rfl
  | append_singleton calls call ih =>
    obtain ⟨undisturbedBefore, last⟩ := (undisturbed_append_singleton calls call).mp undisturbed
    refine (answersTo_eq_answers_append_singleton _ _ _).mpr ⟨ih undisturbedBefore, ?_⟩
    -- The last call is answered the same, since all that it reads of the memory is the same.
    intro isWanted
    cases call with
    | reset => rfl
    | score sample nowMs isPrimary =>
      obtain rfl : isPrimary = true := by simpa [Call.isSecondary] using isWanted
      obtain ⟨sameHistory, sameStanding⟩ := memory_eq_of_undisturbed marked undisturbedBefore
      have same :=
        verdict_stateAfter_congr nowMs sameHistory sameStanding (last sample nowMs rfl)
      exact congrArg (fun result : Memory α × Verdict => some result.2) same

end Runs

/-! ### A scorer that shows what it notices -/

/-- A model that finds every link failing. -/
def Pessimist.model : Model Float where
  forest := { trees := [⟨#[.leaf 1], by decide +kernel⟩], vote := .mean }
  normalization := .identity

theorem Pessimist.score?_eq (values : Vector Float 45) :
    Pessimist.model.forest.score? values = some 0 := by
  have failing : (100 * (1 - Vote.mean.combine [1]) : Float) = 0 := by decide +kernel
  exact congrArg some failing

/-- A scorer that gives every sample the worst score. After a handover the adjusted score is the
best one all the same. -/
def pessimist : ForestScorer Float where
  settings :=
    { Settings.defaults with
      hysteresis := { Settings.Hysteresis.defaults with threshold := 1, margin := 0 } }
  model? := some Pessimist.model

/-- The raw score is zero, and it also is where the link is proved to be bad. -/
theorem score_pessimist (history : History Float) (sample : Sample) (isSameLink : Bool) :
    (pessimist.score history sample isSameLink).2 = 0 := by
  have bad : pessimist.badScore = 0 := by decide +kernel
  obtain ⟨summary, isBad, raw⟩ := exists_summary_of_model pessimist history sample
    isSameLink rfl
  rw [raw, Pessimist.score?_eq, bad]
  cases isBad <;> rfl

/-- Whatever the score before it, the worst raw score is kept as it is. -/
theorem adjustedScore_worst (previous : Float) :
    Standing.adjustedScore pessimist.settings.hysteresis previous 0 1 0 = 0 := by
  have scaled : Standing.scale pessimist.settings.hysteresis (Standing.thresholdAfter
      pessimist.settings.hysteresis previous 1 0) 0 = 0 := by
    -- The margin is zero, so the threshold is the same on both sides of the transition score.
    unfold Standing.thresholdAfter
    split
    · decide +kernel
    · decide +kernel
  have apart : (Scalar.whole .towardZero (0 : Float) ==
      Scalar.whole .towardZero pessimist.settings.hysteresis.transitionScore) = false := by
    decide +kernel
  rw [Standing.adjustedScore, scaled, Standing.keepOff, apart]
  rfl

/-- The adjusted score shows whether the call was taken for a handover. -/
theorem adjustedScore_pessimist (memory : Memory Float) (sample : Sample) (nowMs : ℕ) :
    (pessimist.verdict memory sample nowMs true).2.adjustedScore =
      if memory.isFollowedBy sample then 0 else 100 := by
  have scored : ((0 : Float) == unclassified) = false := by decide +kernel
  rw [verdict_of_scored (score_pessimist _ _ _) scored rfl]
  change Scalar.toInt32 (pessimist.adjust memory.standing 0 (memory.isFollowedBy sample)
    sample.rssi? nowMs).score = _
  cases follows : memory.isFollowedBy sample with
  | true =>
    have worst : Scalar.toInt32 (0 : Float) = 0 := by decide +kernel
    rw [adjust, Standing.score_adjust rfl]
    exact (congrArg Scalar.toInt32 (adjustedScore_worst _)).trans worst
  -- A handover is scored by the best raw score, whatever the forest says.
  | false =>
    have best : Scalar.toInt32 (Standing.adjustedScore pessimist.settings.hysteresis 100 100 1 0) =
        100 := by decide +kernel
    rw [adjust, Standing.adjust_of_not_same rfl, Standing.score_adjust rfl]
    exact best

/-- If the answers stay the same when the secondary calls are deleted, they do so for the pessimist,
and then every primary call stays where it did. -/
theorem undisturbed_of_answersTo_eq {calls : List Call}
    (same : answersTo (fun call => !call.isSecondary) pessimist.step pessimist.start calls =
      answers pessimist.step pessimist.start (withoutSecondary calls)) :
    Undisturbed calls := by
  induction calls using List.reverseRecOn with
  | nil =>
    intro before sample nowMs here
    simp at here
  | append_singleton calls call ih =>
    obtain ⟨sameBefore, sameLast⟩ := (answersTo_eq_answers_append_singleton _ _ _).mp same
    refine (undisturbed_append_singleton calls call).mpr ⟨ih sameBefore, ?_⟩
    rintro sample nowMs rfl
    have sameScore := congrArg Verdict.adjustedScore (Option.some.inj (sameLast rfl))
    change (pessimist.verdict _ sample nowMs true).2.adjustedScore =
      (pessimist.verdict _ sample nowMs true).2.adjustedScore at sameScore
    rw [adjustedScore_pessimist, adjustedScore_pessimist, isFollowedBy_stateAfter,
      isFollowedBy_stateAfter] at sameScore
    -- The two possible scores tell a stay from a handover.
    have shown : ∀ first second : Bool,
        (if first then (0 : ℤ) else 100) = (if second then 0 else 100) → first = second := by
      decide
    exact shown _ _ sameScore

/-- Deleting the secondary calls leaves the answers to all others unchanged, whatever the settings
and the model are, exactly if every primary call stays where it would without them. -/
theorem answersTo_eq_iff_undisturbed (calls : List Call) :
    (∀ scorer : ForestScorer Float,
      answersTo (fun call => !call.isSecondary) scorer.step scorer.start calls =
        answers scorer.step scorer.start (withoutSecondary calls)) ↔ Undisturbed calls := by
  constructor
  · intro same
    exact undisturbed_of_answersTo_eq (same pessimist)
  · intro undisturbed scorer
    have marked : ((unclassified : Float) == unclassified) = true := by decide +kernel
    exact answersTo_eq_of_undisturbed marked undisturbed

/-- A handover that a secondary call comes before is not noticed: the new access point is judged by
the scores of the old one. -/
theorem not_forall_answersTo_eq :
    ¬ ∀ (scorer : ForestScorer Float) (calls : List Call),
      answersTo (fun call => !call.isSecondary) scorer.step scorer.start calls =
        answers scorer.step scorer.start (withoutSecondary calls) := by
  intro same
  let here : Sample := { accessPoint := ⟨.zero, 5180⟩ }
  let there : Sample := { accessPoint := ⟨.zero, 2412⟩ }
  have undisturbed : Undisturbed [.score here 0 true, .score there 3000 false,
      .score there 3000 true] := undisturbed_of_answersTo_eq (same pessimist _)
  have staysAlike := undisturbed [.score here 0 true, .score there 3000 false] there 3000
    List.prefix_rfl
  exact absurd staysAlike (by decide)

end ForestScorer

end LinkQuality
