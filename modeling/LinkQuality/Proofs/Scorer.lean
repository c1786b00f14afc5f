import LinkQuality.Proofs.Forest.Handover
import LinkQuality.Proofs.Forest.Offset
import LinkQuality.Proofs.Trend.Offset
import LinkQuality.Scorer

/-!
# Connections that are scored alike

Whatever a scorer was made of, what it says of a connection does not depend on where clocks and
counters stood when they were first read, and after a reset it does not depend on anything before.

## Main definitions

* `Offset.onMemory`: what is remembered after moved calls
* `Scorer.memoryAfter`: what is remembered after calls

## Main results

* `Scorer.verdicts_map_onCall`: moved calls get the same answers
* `Scorer.step_reset`: a reset leaves nothing behind that calls have written
* `Scorer.verdicts_append_reset`: the answers after a reset are those on a new connection
-/

namespace LinkQuality

variable {α : Type} [Scalar α]

/-- What is remembered after moved calls. -/
def Offset.onMemory (offset : Offset) : (scorer : Scorer α) → scorer.Memory → scorer.Memory
  | .forest _ => offset.onForestMemory
  | .trend _ => offset.onTrendMemory

/-- A memory that calls have led to is forgotten as if there had been none: no call changes the gaps
that the history allows. -/
theorem ForestScorer.forget_stateAfter [Undefined α] [SquareRoot α] (scorer : ForestScorer α)
    (calls : List Call) :
    scorer.forget (stateAfter scorer.step scorer.start calls) = scorer.start := by
  rw [forget, History.clear, maxGapMs_stateAfter]
  rfl

namespace Scorer

variable [Undefined α] [SquareRoot α] [Exponential α] (scorer : Scorer α)

/-! ### Offsets -/

/-- A moved call gets the same answer, and leads to a moved memory. -/
theorem step_onMemory (offset : Offset) (memory : scorer.Memory) (call : Call) :
    scorer.step (offset.onMemory scorer memory) (offset.onCall call) =
      (offset.onMemory scorer (scorer.step memory call).1, (scorer.step memory call).2) := by
  cases scorer with
  | forest scorer => exact offset.step_onForestMemory scorer memory call
  | trend scorer => exact offset.step_onTrendMemory scorer memory call

omit [Undefined α] [SquareRoot α] [Exponential α] in
/-- Of a new connection no time and no counter is remembered. -/
theorem start_eq_onMemory (offset : Offset) :
    scorer.start = offset.onMemory scorer scorer.start := by
  cases scorer <;> rfl

/-- Calls that are moved get the same answers. -/
theorem verdicts_map_onCall (offset : Offset) (calls : List Call) :
    scorer.verdicts (calls.map offset.onCall) = scorer.verdicts calls := by
  unfold verdicts
  conv_lhs => rw [start_eq_onMemory scorer offset]
  exact answers_map scorer.step (step_onMemory scorer offset) scorer.start calls

/-! ### Resets -/

/-- What is remembered of a connection after calls. -/
def memoryAfter (calls : List Call) : scorer.Memory := stateAfter scorer.step scorer.start calls

/-- A reset leads back to where a connection begins, whatever the calls before it were. -/
theorem step_reset (calls : List Call) :
    scorer.step (scorer.memoryAfter calls) .reset = (scorer.start, none) := by
  cases scorer with
  | forest scorer => exact congrArg (·, none) (scorer.forget_stateAfter calls)
  | trend scorer => rfl

/-- The answers after a reset are those that a new connection gets. -/
theorem verdicts_append_reset (before after : List Call) :
    scorer.verdicts (before ++ .reset :: after) =
      scorer.verdicts before ++ none :: scorer.verdicts after := by
  have reset := step_reset scorer before
  unfold verdicts
  rw [answers_append, answers, ← memoryAfter, reset]

end Scorer

end LinkQuality
