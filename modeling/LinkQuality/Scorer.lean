import LinkQuality.Forest.Scorer
import LinkQuality.Trend.Scorer

/-!
# Scorers

Settings choose how a connection is scored. A forest that is asked for but cannot be had is
replaced by the trend, so there always is a way to score.

A scorer itself never changes. What it remembers of a connection is a value of its own, which calls
lead from one to the next.

## Main definitions

* `Scorer`, `Scorer.ofSettings`: a way to score
* `Scorer.Memory`: what it remembers of a connection
* `Scorer.step`: the answer to a call
* `Scorer.verdicts`, `Scorer.replay`: the answers to calls and to the samples of a trace
-/

namespace LinkQuality

/-- A way to score a connection. -/
inductive Scorer (α : Type) [Scalar α] where
  | forest (scorer : ForestScorer α)
  | trend (scorer : TrendScorer α)

namespace Scorer

variable {α : Type} [Scalar α]

/-- The scorer that settings ask for, with the model of a bundle if there is one. -/
def ofSettings (settings : Settings α) (bundle? : Option (Bundle α)) : Scorer α :=
  match settings.method with
  | .trend => .trend ⟨settings.trend⟩
  | .forest =>
    match bundle?.bind (Model.load? settings.modelId) with
    | some model => .forest ⟨settings, some model⟩
    | none => .trend ⟨settings.trend⟩

/-- The method of a scorer. -/
def method : Scorer α → Method
  | .forest _ => .forest
  | .trend _ => .trend

/-- What a scorer remembers of a connection. -/
def Memory : Scorer α → Type
  | .forest _ => ForestScorer.Memory α
  | .trend _ => TrendScorer.Memory α

/-- The memory of a connection that nothing is known of. -/
def start : (scorer : Scorer α) → scorer.Memory
  | .forest scorer => scorer.start
  | .trend scorer => scorer.start

/-- The answer to a call. -/
def step [Undefined α] [SquareRoot α] [Exponential α] :
    (scorer : Scorer α) → scorer.Memory → Call → scorer.Memory × Option Verdict
  | .forest scorer => scorer.step
  | .trend scorer => scorer.step

/-- The answers to calls on a new connection. -/
def verdicts [Undefined α] [SquareRoot α] [Exponential α] (scorer : Scorer α)
    (calls : List Call) : List (Option Verdict) :=
  answers scorer.step scorer.start calls

/-- The verdict on a sample, and the memory after it. -/
def verdict [Undefined α] [SquareRoot α] [Exponential α] :
    (scorer : Scorer α) → scorer.Memory → Sample → (nowMs : Nat) → (isPrimary : Bool) →
      scorer.Memory × Verdict
  | .forest scorer => scorer.verdict
  | .trend scorer => scorer.verdict

/-- The verdicts on the samples of a new connection, each scored at its own time. -/
def replay [Undefined α] [SquareRoot α] [Exponential α] (scorer : Scorer α) (isPrimary : Bool)
    (samples : List Sample) : List Verdict :=
  answers (fun memory sample => scorer.verdict memory sample sample.timestampMs isPrimary)
    scorer.start samples

end Scorer

end LinkQuality
