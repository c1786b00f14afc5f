import LinkQuality.Forest.Tree

/-!
# Node records

In a file a node is a record of numbers in which −1 stands for no feature and no node. A record
without a left node is a leaf, whatever its other members hold.
-/

namespace LinkQuality

/-- A node as it stands in a file. -/
structure NodeRecord (α : Type) [Scalar α] where
  feature : Int := -1
  threshold : α := 0
  left : Int := -1
  right : Int := -1
  probability : α := 0

namespace NodeRecord

variable {α : Type} [Scalar α]

/-- The record of a node. -/
def ofNode : Node α → NodeRecord α
  | .leaf probability => { probability }
  | .split feature threshold left right => { feature, threshold, left, right }

/-- The node that the record at a place describes. Of several negative numbers the feature is
refused first, then the left node. -/
def toNode (place : Nat) (record : NodeRecord α) : Except (Tree.Fault α) (Node α) :=
  if record.left = -1 then .ok (.leaf record.probability)
  else if record.feature < 0 then .error (.featureOutOfRange place record.feature)
  else if record.left < 0 then .error (.missingChild place record.left)
  else if record.right < 0 then .error (.missingChild place record.right)
  else .ok (.split record.feature.toNat record.threshold record.left.toNat record.right.toNat)

end NodeRecord

namespace Tree

variable {α : Type} [Scalar α]

/-- The nodes that records describe, the first of them at a given place. -/
def nodesOfRecords (place : Nat) : List (NodeRecord α) → Except (Fault α) (List (Node α))
  | [] => .ok []
  | record :: records =>
    match record.toNode place with
    | .error fault => .error fault
    | .ok node => (nodesOfRecords (place + 1) records).map (node :: ·)

/-- The tree that records describe. A record that describes no node is refused before anything
else. -/
def ofRecords (records : List (NodeRecord α)) : Except (Fault α) (Tree α) :=
  match nodesOfRecords 0 records with
  | .error fault => .error fault
  | .ok nodes => ofNodes nodes.toArray

/-- The records of a tree. -/
def records (tree : Tree α) : List (NodeRecord α) := tree.nodes.toList.map .ofNode

end Tree

end LinkQuality
