import LinkQuality.Forest.Tree

/-!
# Forests

A forest combines the probabilities of its trees into one. A forest of no trees says nothing.
-/

namespace LinkQuality

/-- How the probabilities of trees are combined. -/
inductive Vote where
  /-- The average probability. -/
  | mean
  /-- The share of trees that find failing more likely than not. -/
  | majority
  deriving DecidableEq, Repr

/-- Combines probabilities. -/
def Vote.combine {α : Type} [Scalar α] (vote : Vote) (probabilities : List α) : α :=
  match vote with
  | .mean => Scalar.total probabilities / Scalar.ofNat probabilities.length
  | .majority =>
    Scalar.ofNat (probabilities.countP fun p => decide ((0.5 : α) < p)) /
      Scalar.ofNat probabilities.length

/-- Decision trees that vote. -/
structure Forest (α : Type) [Scalar α] where
  trees : List (Tree α)
  vote : Vote

namespace Forest

variable {α : Type} [Scalar α]

/-- The probability that the link fails. -/
def probability? (forest : Forest α) (input : List α) : Option α :=
  if forest.trees.isEmpty then none
  else some (forest.vote.combine (forest.trees.map fun tree => tree.probability input))

/-- The score of the link: a hundred if it surely works, zero if it surely fails. -/
def score? (forest : Forest α) (values : Vector α 45) : Option α :=
  (forest.probability? values.toList).map fun p => 100 * (1 - p)

end Forest

end LinkQuality
