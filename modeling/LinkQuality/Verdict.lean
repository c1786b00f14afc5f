import LinkQuality.Scalar
import LinkQuality.Telemetry.Sample

/-!
# Calls and verdicts

A scorer is called once for each sample of a connection, and answers each call with a verdict: two
scores and what it recommends to do about the link. Nothing here acts on a recommendation. Between
two calls a scorer may be told to forget the connection.

## Main definitions

* `Verdict`: the answer to a call
* `Call`: what a scorer can be told
* `answers`, `stateAfter`: what a machine answers to a list of inputs, and where they lead it
* `answers_append`, `stateAfter_append`: inputs in two parts
* `getElem?_answers`, `stateAfter_take_add_one`: the answer to one input, and the state after it
* `answers_map`: inputs and states that are moved together
-/

namespace LinkQuality

/-- The score of a link that cannot be scored. -/
def unclassified {α : Type} [Scalar α] : α := -1

/-- What a scorer says about a link. -/
structure Verdict where
  /-- The score of the sample on its own. -/
  score : Int
  /-- The score after hysteresis. -/
  adjustedScore : Int
  isUsable : Bool
  wantsScan : Bool
  /-- Whether the next hop should be probed. -/
  wantsProbe : Bool
  /-- Whether the access point should be avoided. -/
  wantsBlock : Bool
  deriving DecidableEq, Repr

/-- What a scorer can be told. -/
inductive Call where
  /-- To score a sample at a given time, on a primary or a secondary link. -/
  | score (sample : Sample) (nowMs : Nat) (isPrimary : Bool)
  /-- To forget the connection. -/
  | reset
  deriving DecidableEq, Repr

section Machine

variable {σ ι ο : Type} (step : σ → ι → σ × ο)

/-- The answers of a machine to inputs that it is given one after the other. -/
def answers (state : σ) : List ι → List ο
  | [] => []
  | input :: inputs => (step state input).2 :: answers (step state input).1 inputs

/-- The state of a machine after inputs that it is given one after the other. -/
def stateAfter (state : σ) : List ι → σ
  | [] => state
  | input :: inputs => stateAfter (step state input).1 inputs

/-- There is one answer to each input. -/
@[simp] theorem length_answers (state : σ) (inputs : List ι) :
    (answers step state inputs).length = inputs.length := by
  induction inputs generalizing state with
  | nil => rfl
  | cons input inputs ih => simp [answers, ih]

/-- Later inputs find the state that earlier ones have left. -/
theorem stateAfter_append (state : σ) (earlier later : List ι) :
    stateAfter step state (earlier ++ later) =
      stateAfter step (stateAfter step state earlier) later := by
  induction earlier generalizing state with
  | nil => rfl
  | cons input earlier ih => exact ih _

/-- Earlier answers do not depend on later inputs, and later ones depend on earlier inputs only
through the state. -/
theorem answers_append (state : σ) (earlier later : List ι) :
    answers step state (earlier ++ later) =
      answers step state earlier ++ answers step (stateAfter step state earlier) later := by
  induction earlier generalizing state with
  | nil => rfl
  | cons input earlier ih => simp [answers, stateAfter, ih]

/-- One more input moves the state by one step. -/
theorem stateAfter_take_add_one (state : σ) {inputs : List ι} {n : Nat} {input : ι}
    (here : inputs[n]? = some input) :
    stateAfter step state (inputs.take (n + 1)) =
      (step (stateAfter step state (inputs.take n)) input).1 := by
  rw [List.take_add_one, here, stateAfter_append]
  rfl

/-- The answer to an input is that of the state which the inputs before it have led to. -/
theorem getElem?_answers (state : σ) (inputs : List ι) (n : Nat) :
    (answers step state inputs)[n]? =
      inputs[n]?.map fun input => (step (stateAfter step state (inputs.take n)) input).2 := by
  induction inputs generalizing state n with
  | nil => rfl
  | cons input inputs ih =>
    cases n with
    | zero => rfl
    | succ n => exact ih _ n

/-- Moved inputs get the same answers, if moving a state and an input moves the state after it and
leaves the answer alone. -/
theorem answers_map {moveState : σ → σ} {moveInput : ι → ι}
    (moves : ∀ state input, step (moveState state) (moveInput input) =
      (moveState (step state input).1, (step state input).2)) (state : σ) (inputs : List ι) :
    answers step (moveState state) (inputs.map moveInput) = answers step state inputs := by
  induction inputs generalizing state with
  | nil => rfl
  | cons input inputs ih =>
    rw [List.map_cons, answers, answers, moves, ih]

end Machine

end LinkQuality
