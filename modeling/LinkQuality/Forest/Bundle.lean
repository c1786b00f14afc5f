import LinkQuality.Forest.Basic
import LinkQuality.Forest.Record

/-!
# Models and bundles

A model is a forest together with the statistics its inputs are normalized with. A bundle is a
model as it stands in a file, with nothing checked.

## Main definitions

* `Model`, `Bundle`
* `Bundle.build`: the model that a bundle describes
* `Model.load?`: the model of a bundle, if it is one that can be run
-/

namespace LinkQuality

/-- A forest and the statistics of its training data. -/
structure Model (α : Type) [Scalar α] where
  forest : Forest α
  normalization : Normalization α

/-- A model as it stands in a file. -/
structure Bundle (α : Type) [Scalar α] where
  trees : List (List (NodeRecord α))
  vote : Vote := .mean
  means : List α
  stds : List α

namespace Bundle

/-- Why a bundle describes no model. -/
inductive Fault (α : Type) where
  | normalization (fault : Normalization.Fault α)
  | tree (index : Nat) (fault : Tree.Fault α)
  deriving DecidableEq, Repr

/-- The text of a fault in messages. -/
def Fault.message : Fault Float → String
  | .normalization fault => fault.message
  | .tree index fault => s!"invalid tree {index}: {fault.message}"

variable {α : Type} [Scalar α]

/-- The trees that lists of records describe, the first of them with a given index. -/
def treesOfRecords (index : Nat) :
    List (List (NodeRecord α)) → Except (Fault α) (List (Tree α))
  | [] => .ok []
  | records :: rest =>
    match Tree.ofRecords records with
    | .error fault => .error (.tree index fault)
    | .ok tree => (treesOfRecords (index + 1) rest).map (tree :: ·)

/-- The model that a bundle describes. Its statistics are checked before its trees. -/
def build (bundle : Bundle α) : Except (Fault α) (Model α) :=
  match Normalization.ofLists bundle.means bundle.stds with
  | .error fault => .error (.normalization fault)
  | .ok normalization =>
    (treesOfRecords 0 bundle.trees).map fun trees => ⟨⟨trees, bundle.vote⟩, normalization⟩

end Bundle

/-- The families of models, by their number. -/
inductive Family where
  | regression
  | forest
  | unknown (id : Nat)
  deriving DecidableEq, Repr

namespace Family

/-- The family with a number. -/
def ofId : Nat → Family
  | 1 => .regression
  | 7 => .forest
  | id => .unknown id

/-- The text of a family in messages. -/
def text : Family → String
  | .regression => "logistic-regression(1)"
  | .forest => "random-forest(7)"
  | .unknown id => s!"unknown({id})"

end Family

/-- The model of a bundle, if the family with the given number is that of forests and the bundle
describes one. -/
def Model.load? {α : Type} [Scalar α] (id : Nat) (bundle : Bundle α) : Option (Model α) :=
  match Family.ofId id with
  | .forest => bundle.build.toOption
  | .regression | .unknown _ => none

end LinkQuality
