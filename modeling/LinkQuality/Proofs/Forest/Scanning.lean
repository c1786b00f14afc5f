import LinkQuality.Proofs.Forest.Scores

/-!
# Requests for a scan

A scan is asked for when the raw score of a link falls below a limit, and not again while it stays
there. The request is a flag of the standing. A reading decides it anew, and no reading makes a
request while another one stands: the raw score on record is below the limit then, so no score can
fall there.

Every answer reports the flag, also that of a call which is not classified and so leaves the
standing as it is. Such a call repeats the request of the call before it, with the mark of an
unclassified sample for a score. Nothing else can go wrong.

Of the arithmetic it is only needed that no number is both below another and at least as large. So
all of this holds of floating-point numbers, whatever the settings are.

## Main definitions

* `Standing.AsksBelowLimit`: whether the raw score on record justifies the request
* `ForestScorer.AsksAt`: whether a call is answered with a request for a scan
* `ForestScorer.AsksOnce`: whether each request has a low score to it and none is repeated

## Main results

* `Standing.asksBelowLimit_adjust`, `Standing.AsksBelowLimit.not_fellToScan_adjust`: the requests of
  readings
* `ForestScorer.asksBelowLimit_stateAfter`: the raw score on record along a run
* `ForestScorer.asksAt_iff_of_classified`, `ForestScorer.asksAt_iff_of_not_classified`: the requests
  of calls
* `ForestScorer.asksOnce_iff`: when requests are in order
-/

namespace LinkQuality

namespace Standing

open Settings (Hysteresis)

variable {α : Type} [Scalar α] {rules : Hysteresis α} {standing : Standing α}
  {reading : Reading α}

/-- Whether the raw score on record is below the limit while a scan is asked for. -/
def AsksBelowLimit (rules : Hysteresis α) (standing : Standing α) : Prop :=
  standing.fellToScan = true → standing.rawScore < rules.scanThreshold

theorem asksBelowLimit_fresh (rules : Hysteresis α) :
    (fresh rules).AsksBelowLimit rules :=
  fun asks => nomatch (show false = true from asks)

/-- A reading that asks for a scan puts a raw score below the limit on record. -/
theorem asksBelowLimit_adjust [Scalar.IsOrdered α] (standing : Standing α) (reading : Reading α) :
    (standing.adjust rules reading).AsksBelowLimit rules := by
  intro asks
  obtain ⟨same, falls⟩ := fellToScan_adjust_iff.mp asks
  rw [rawScore_adjust same]
  exact (fallsToScan_iff.mp falls).1.2

/-- While a scan is asked for, no reading asks for another one. -/
theorem AsksBelowLimit.not_fellToScan_adjust [Scalar.IsOrdered α]
    (justified : standing.AsksBelowLimit rules) (asks : standing.fellToScan = true) :
    ¬ (standing.adjust rules reading).fellToScan = true := by
  intro again
  obtain ⟨-, falls⟩ := fellToScan_adjust_iff.mp again
  exact Scalar.not_lt_of_le (fallsToScan_iff.mp falls).2 (justified asks)

end Standing

namespace ForestScorer

section Runs

variable {α : Type} [Scalar α] [Undefined α] [SquareRoot α] {scorer : ForestScorer α}
  {calls : List Call} {n : ℕ} {sample : Sample} {nowMs : ℕ} {isPrimary : Bool}

/-- The raw score on record justifies every request along a run. -/
theorem asksBelowLimit_stateAfter [Scalar.IsOrdered α] (calls : List Call) :
    (stateAfter scorer.step scorer.start calls).standing.AsksBelowLimit
      scorer.settings.hysteresis := by
  induction calls using List.reverseRecOn with
  | nil => exact Standing.asksBelowLimit_fresh _
  | append_singleton calls call ih =>
    rw [stateAfter_append]
    cases call with
    | reset => exact Standing.asksBelowLimit_fresh _
    | score sample nowMs isPrimary =>
      change (scorer.step (stateAfter scorer.step scorer.start calls)
        (.score sample nowMs isPrimary)).1.standing.AsksBelowLimit _
      rw [standing_step_score]
      cases classified : scorer.isClassified (stateAfter scorer.step scorer.start calls) sample
          isPrimary with
      | false =>
        -- The standing is left as it is, with its request and its score.
        rw [standingAfter_of_not_classified classified]
        exact ih
      | true =>
        rw [standingAfter_of_classified classified]
        exact Standing.asksBelowLimit_adjust _ _

/-- Whether a call of a run is answered with a request for a scan. -/
def AsksAt (scorer : ForestScorer α) (calls : List Call) (n : ℕ) : Prop :=
  ∃ verdict, (answers scorer.step scorer.start calls)[n]? = some (some verdict) ∧
    verdict.wantsScan = true

/-- What is answered with a request is a call that scores. -/
theorem AsksAt.exists_call (asks : scorer.AsksAt calls n) :
    ∃ sample nowMs isPrimary, calls[n]? = some (.score sample nowMs isPrimary) := by
  obtain ⟨verdict, answered, -⟩ := asks
  rw [getElem?_answers] at answered
  obtain ⟨call, here, answer⟩ := Option.map_eq_some_iff.mp answered
  cases call with
  | reset => exact nomatch answer
  | score sample nowMs isPrimary => exact ⟨sample, nowMs, isPrimary, here⟩

/-- A request is that of the standing which the call leads to. -/
theorem asksAt_iff_standing (here : calls[n]? = some (.score sample nowMs isPrimary)) :
    scorer.AsksAt calls n ↔
      (stateAfter scorer.step scorer.start (calls.take (n + 1))).standing.fellToScan = true := by
  let memory := stateAfter scorer.step scorer.start (calls.take n)
  let verdict := (scorer.verdict memory sample nowMs isPrimary).2
  have answered : (answers scorer.step scorer.start calls)[n]? = some (some verdict) := by
    rw [getElem?_answers, here]
    rfl
  have reports : verdict.wantsScan =
      (scorer.standingAfter memory sample nowMs isPrimary).fellToScan := by
    obtain ⟨-, wantsProbe, reported⟩ := verdict_eq scorer memory sample nowMs isPrimary
    exact congrArg Verdict.wantsScan reported
  rw [stateAfter_take_add_one scorer.step scorer.start here, standing_step_score, ← reports,
    AsksAt, answered]
  simp

theorem asksAt_iff (here : calls[n]? = some (.score sample nowMs isPrimary)) :
    scorer.AsksAt calls n ↔
      (scorer.standingAfter (stateAfter scorer.step scorer.start (calls.take n)) sample nowMs
        isPrimary).fellToScan = true := by
  rw [asksAt_iff_standing here, stateAfter_take_add_one scorer.step scorer.start here,
    standing_step_score]

/-- A classified call asks for a scan exactly if it stays on its link and its raw score falls below
the limit. -/
theorem asksAt_iff_of_classified [Scalar.IsOrdered α]
    (here : calls[n]? = some (.score sample nowMs isPrimary))
    (classified : scorer.isClassified (stateAfter scorer.step scorer.start (calls.take n)) sample
      isPrimary = true) :
    let memory := stateAfter scorer.step scorer.start (calls.take n)
    scorer.AsksAt calls n ↔
      memory.isFollowedBy sample = true ∧
        Standing.fallsToScan scorer.settings.hysteresis memory.standing.rawScore
          (scorer.rawScore memory sample isPrimary) = true := by
  rw [asksAt_iff here, standingAfter_of_classified classified]
  exact Standing.fellToScan_adjust_iff

/-- A call that is not classified repeats what was asked for before. -/
theorem asksAt_iff_of_not_classified (here : calls[n]? = some (.score sample nowMs isPrimary))
    (unclassified : scorer.isClassified (stateAfter scorer.step scorer.start (calls.take n)) sample
      isPrimary = false) :
    scorer.AsksAt calls n ↔
      (stateAfter scorer.step scorer.start (calls.take n)).standing.fellToScan = true := by
  rw [asksAt_iff here, standingAfter_of_not_classified unclassified]

/-- What a standing asks for was the answer to the call before. -/
theorem exists_asksAt_of_fellToScan
    (asks : (stateAfter scorer.step scorer.start (calls.take n)).standing.fellToScan = true)
    (inRange : n < calls.length) : ∃ m, n = m + 1 ∧ scorer.AsksAt calls m := by
  cases n with
  | zero => exact nomatch (show false = true from asks)
  | succ m =>
    have here : calls[m]? = some calls[m] := List.getElem?_eq_getElem (Nat.lt_of_succ_lt inRange)
    cases call : calls[m] with
    | reset =>
      -- A reset leaves a new standing behind, which asks for nothing.
      rw [stateAfter_take_add_one scorer.step scorer.start here, call] at asks
      exact nomatch (show false = true from asks)
    | score sample nowMs isPrimary =>
      rw [call] at here
      exact ⟨m, rfl, (asksAt_iff_standing here).mpr asks⟩

/-- A classified call right after a request makes none. -/
theorem AsksAt.not_asksAt_of_classified [Scalar.IsOrdered α] (asks : scorer.AsksAt calls n)
    (next : calls[n + 1]? = some (.score sample nowMs isPrimary))
    (classified : scorer.isClassified (stateAfter scorer.step scorer.start (calls.take (n + 1)))
      sample isPrimary = true) :
    ¬ scorer.AsksAt calls (n + 1) := by
  obtain ⟨earlier, earlierMs, wasPrimary, here⟩ := asks.exists_call
  rw [asksAt_iff next, standingAfter_of_classified classified]
  exact (asksBelowLimit_stateAfter _).not_fellToScan_adjust ((asksAt_iff_standing here).mp asks)

/-- Whether each request for a scan is made on a classified call whose raw score is below the limit
and not negative, and none on two calls in a row. -/
structure AsksOnce (scorer : ForestScorer α) (calls : List Call) : Prop where
  onLowScore : ∀ n, scorer.AsksAt calls n →
    let memory := stateAfter scorer.step scorer.start (calls.take n)
    ∃ sample nowMs isPrimary, calls[n]? = some (.score sample nowMs isPrimary) ∧
      scorer.isClassified memory sample isPrimary = true ∧
      0 ≤ scorer.rawScore memory sample isPrimary ∧
      scorer.rawScore memory sample isPrimary < scorer.settings.hysteresis.scanThreshold
  notInARow : ∀ n, scorer.AsksAt calls n → ¬ scorer.AsksAt calls (n + 1)

end Runs

/-- **Requests for a scan.** Each request has a low score to it and none is repeated, exactly if no
call that is not classified comes right after a request. -/
theorem asksOnce_iff (scorer : ForestScorer Float) (calls : List Call) :
    scorer.AsksOnce calls ↔
      ∀ n sample nowMs isPrimary, scorer.AsksAt calls n →
        calls[n + 1]? = some (.score sample nowMs isPrimary) →
        scorer.isClassified (stateAfter scorer.step scorer.start (calls.take (n + 1))) sample
          isPrimary = true := by
  constructor
  · intro once n sample nowMs isPrimary asks next
    -- A call that is not classified would repeat the request.
    by_contra unclassified
    rw [Bool.not_eq_true] at unclassified
    obtain ⟨earlier, earlierMs, wasPrimary, here⟩ := asks.exists_call
    have repeats : scorer.AsksAt calls (n + 1) :=
      (asksAt_iff_of_not_classified next unclassified).mpr ((asksAt_iff_standing here).mp asks)
    exact once.notInARow n asks repeats
  · intro classifiedNext
    have classified {n : ℕ} {sample : Sample} {nowMs : ℕ} {isPrimary : Bool}
        (asks : scorer.AsksAt calls n) (here : calls[n]? = some (.score sample nowMs isPrimary)) :
        scorer.isClassified (stateAfter scorer.step scorer.start (calls.take n)) sample
          isPrimary = true := by
      by_contra unclassified
      rw [Bool.not_eq_true] at unclassified
      -- The request would be one that the call before has made.
      obtain ⟨m, rfl, before⟩ := exists_asksAt_of_fellToScan
        ((asksAt_iff_of_not_classified here unclassified).mp asks)
        (List.getElem?_eq_some_iff.mp here).1
      exact Bool.false_ne_true
        (unclassified.symm.trans (classifiedNext m sample nowMs isPrimary before here))
    constructor
    · intro n asks
      obtain ⟨sample, nowMs, isPrimary, here⟩ := asks.exists_call
      have isClassified := classified asks here
      obtain ⟨-, falls⟩ := (asksAt_iff_of_classified here isClassified).mp asks
      exact ⟨sample, nowMs, isPrimary, here, isClassified, (Standing.fallsToScan_iff.mp falls).1⟩
    · intro n asks again
      obtain ⟨sample, nowMs, isPrimary, next⟩ := again.exists_call
      exact asks.not_asksAt_of_classified next
        (classifiedNext n sample nowMs isPrimary asks next) again

/-- A call for a secondary link repeats the request of the call before it. -/
theorem not_forall_asksOnce :
    ¬ ∀ (scorer : ForestScorer Float) (calls : List Call), .reset ∉ calls →
      scorer.AsksOnce calls := by
  intro allOnce
  let scorer : ForestScorer Float :=
    { settings := .defaults
      model? := some
        { forest := { trees := [⟨#[.leaf 0.95], by decide +kernel⟩], vote := .mean }
          normalization := .identity } }
  let sample : Sample := { accessPoint := ⟨.zero, 2412⟩, rssiDbm := -60 }
  let calls : List Call := [.score sample 0 true, .score sample 1500 false]
  have first : scorer.AsksAt calls 0 := (asksAt_iff rfl).mpr (by decide +kernel)
  have second : scorer.AsksAt calls 1 := (asksAt_iff rfl).mpr (by decide +kernel)
  exact (allOnce scorer calls (by simp [calls])).notInARow 0 first second

end ForestScorer

end LinkQuality
