import LinkQuality.Binary64.Shortest
import LinkQuality.Normalization

/-!
# Decision trees

A tree is a table of nodes that refer to each other by place; place 0 is the root. A split sends an
input to its left node if the value it looks at is at most its threshold, and to its right node
otherwise. A value that is undefined or missing goes right.

A table is a tree if its nodes are sound and no node is met twice on the ways from the root, so
that every descent ends. Nodes that no way leads to are allowed, and they have to be sound as well.

## Main definitions

* `Node`: a leaf or a split
* `Tree.fault?`: what is wrong with a table
* `Tree`, `Tree.ofNodes`: tables with nothing wrong
* `Tree.probability`: the probability at the leaf that an input reaches
-/

namespace LinkQuality

/-- A node of a decision tree. -/
inductive Node (α : Type) where
  /-- Ends a descent with the probability that the link fails. -/
  | leaf (probability : α)
  /-- Compares a value of the input with a threshold and sends the input to another node. -/
  | split (feature : Nat) (threshold : α) (left right : Nat)
  deriving DecidableEq, Repr

/-- The places that a node refers to, the left one first. -/
def Node.children {α : Type} : Node α → List Nat
  | .leaf _ => []
  | .split _ _ left right => [left, right]

namespace Tree

/-- Why a table of nodes is no tree. -/
inductive Fault (α : Type) where
  | empty
  | missingChild (place : Nat) (child : Int)
  | featureOutOfRange (place : Nat) (feature : Int)
  | thresholdNotFinite (place : Nat)
  | probabilityOutOfRange (place : Nat) (probability : α)
  /-- Two ways lead from the root to one node. -/
  | metTwice (place : Nat)
  deriving DecidableEq, Repr

/-- The signed 64-bit number with the same low 64 bits. -/
def signed64 (n : Int) : Int := n.bmod 0x10000000000000000

/-- The text of a fault in messages. -/
def Fault.message : Fault Float → String
  | .empty => "tree has no nodes"
  | .missingChild place child => s!"node {place} references missing child {signed64 child}"
  | .featureOutOfRange place feature =>
    s!"node {place} splits on feature {signed64 feature}, only {summarySize} features exist"
  | .thresholdNotFinite place => s!"node {place} has non-finite split threshold"
  | .probabilityOutOfRange place probability =>
    s!"leaf {place} has probability {Binary64.text probability} outside [0, 1]"
  | .metTwice place => s!"node {place} is reachable twice (cycle or shared subtree)"

variable {α : Type} [Scalar α]

/-- What is wrong with the node at a place of a table of a given size. -/
def nodeFault? (size place : Nat) : Node α → Option (Fault α)
  | .leaf probability =>
    if Scalar.within 0 1 probability then none else some (.probabilityOutOfRange place probability)
  | .split feature threshold left right =>
    if summarySize ≤ feature then some (.featureOutOfRange place feature)
    else if Scalar.isFinite threshold then
      ([left, right].find? fun child => decide (size ≤ child)).map fun child =>
        .missingChild place child
    else some (.thresholdNotFinite place)

/-- The places that the node at a place refers to. -/
def childrenAt (nodes : Array (Node α)) (place : Nat) : List Nat :=
  match nodes[place]? with
  | some node => node.children
  | none => []

/-- Follows all ways from the places of a stack, left ones first, and returns the first place that
is met for a second time. The places not met yet become fewer with every step. -/
def metTwice? (nodes : Array (Node α)) (unmet : List Nat) : (stack : List Nat) → Option Nat
  | [] => none
  | place :: stack =>
    if _h : place ∈ unmet then
      metTwice? nodes (unmet.erase place) (childrenAt nodes place ++ stack)
    else some place
termination_by unmet.length
decreasing_by
  have := List.length_pos_of_mem _h
  rw [List.length_erase_of_mem _h]
  omega

/-- What is wrong with a table of nodes: the first unsound node or, if all are sound, a place that
is met twice from the root. -/
def fault? (nodes : Array (Node α)) : Option (Fault α) :=
  if nodes.isEmpty then some .empty
  else
    -- Ways are followed through sound nodes only, so all places that are met are in the table.
    let unsound := nodes.toList.zipIdx.findSome? fun entry =>
      nodeFault? nodes.size entry.2 entry.1
    match unsound with
    | some fault => some fault
    | none => (metTwice? nodes (List.range nodes.size) [0]).map .metTwice

end Tree

/-- A decision tree. -/
structure Tree (α : Type) [Scalar α] where
  nodes : Array (Node α)
  faultless : Tree.fault? nodes = none

namespace Tree

variable {α : Type} [Scalar α]

/-- The tree that a table of nodes describes. -/
def ofNodes (nodes : Array (Node α)) : Except (Fault α) (Tree α) :=
  match h : fault? nodes with
  | some fault => .error fault
  | none => .ok ⟨nodes, h⟩

/-- A tree keeps the table it was made of. -/
theorem nodes_of_ofNodes {nodes : Array (Node α)} {tree : Tree α}
    (made : ofNodes nodes = .ok tree) : tree.nodes = nodes := by
  unfold ofNodes at made
  split at made
  · cases made
  · cases made
    rfl

/-- A table with nothing wrong is made a tree as it is. -/
theorem ofNodes_eq_ok {nodes : Array (Node α)} (faultless : fault? nodes = none) :
    ofNodes nodes = .ok ⟨nodes, faultless⟩ := by
  unfold ofNodes
  split <;> rename_i found
  · rw [faultless] at found
    cases found
  · rfl

/-- A table is refused exactly for what is wrong with it. -/
theorem ofNodes_eq_error_iff {nodes : Array (Node α)} {fault : Fault α} :
    ofNodes nodes = .error fault ↔ fault? nodes = some fault := by
  unfold ofNodes
  split <;> rename_i found
  · simp [found]
  · simp [found]

/-- Whether a split sends an input to the left, given the value it looks at. -/
def goesLeft (threshold : α) : Option α → Bool
  | some value => decide (value ≤ threshold)
  | none => false

/-- The probability at the leaf that an input reaches from a place, if it is reached within a
number of nodes. -/
def descend? (nodes : Array (Node α)) (input : List α) : (limit : Nat) → (place : Nat) → Option α
  | 0, _ => none
  | limit + 1, place =>
    match nodes[place]? with
    | none => none
    | some (.leaf probability) => some probability
    | some (.split feature threshold left right) =>
      descend? nodes input limit (if goesLeft threshold input[feature]? then left else right)

/-- The probability at the leaf that an input reaches from the root. No descent meets more nodes
than the tree has. -/
def probability (tree : Tree α) (input : List α) : α :=
  (descend? tree.nodes input tree.nodes.size 0).getD 0

end Tree

end LinkQuality
