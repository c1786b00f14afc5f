import LinkQuality.Forest.Tree
import Mathlib.Data.Fintype.Card
import Mathlib.Tactic.SplitIfs

/-!
# Ways through a table of nodes

A way is a list of turns, to the left or to the right, that are taken at the splits of a table of
nodes. It leads from a place to another one, or nowhere if it turns at a leaf or leaves the table.

Two ways from the root may lead to one place: where two splits share a child, where a split has the
same child on both sides, and where a way returns to a place that it came through. A table in which
this never happens has no more turns on any way than it has nodes.

## Main definitions

* `Turn`, `Tree.follow?`: the place that a way leads to
* `Tree.HasUniqueWays`: whether no place is reached from the root by two ways
* `Node.IsSound`: whether a node is sound in itself

## Main results

* `Tree.nodeFault?_eq_none_iff`: what soundness of a node is
* `Tree.lt_size_of_follow?`: sound nodes are only left for places of the table
* `Tree.length_lt_size`: unique ways are short
-/

namespace LinkQuality

/-- A turn at a split. -/
inductive Turn where
  | left
  | right
  deriving DecidableEq, Repr

variable {α : Type}

namespace Tree

/-- The turns that can be taken at a place. -/
def turnsAt (nodes : Array (Node α)) (place : ℕ) : List Turn :=
  match nodes[place]? with
  | some (.split ..) => [.left, .right]
  | _ => []

/-- The place that a turn at another place leads to. -/
def child? (nodes : Array (Node α)) (place : ℕ) (turn : Turn) : Option ℕ :=
  match nodes[place]?, turn with
  | some (.split _ _ left _), .left => some left
  | some (.split _ _ _ right), .right => some right
  | _, _ => none

/-- The place that a way leads to from another place. -/
def follow? (nodes : Array (Node α)) : (place : ℕ) → (way : List Turn) → Option ℕ
  | place, [] => some place
  | place, turn :: way => (child? nodes place turn).bind fun child => follow? nodes child way

/-- Whether no place is reached from the root by two ways. -/
def HasUniqueWays (nodes : Array (Node α)) : Prop :=
  ∀ first second place, follow? nodes 0 first = some place → follow? nodes 0 second = some place →
    first = second

variable {nodes : Array (Node α)} {place child : ℕ} {turn : Turn} {way : List Turn}

@[simp] theorem follow?_nil : follow? nodes place [] = some place := rfl

@[simp] theorem follow?_cons :
    follow? nodes place (turn :: way) =
      (child? nodes place turn).bind fun child => follow? nodes child way := rfl

/-- A way that is followed after another one begins where that one ends. -/
theorem follow?_append (first second : List Turn) :
    follow? nodes place (first ++ second) =
      (follow? nodes place first).bind fun middle => follow? nodes middle second := by
  induction first generalizing place with
  | nil => rfl
  | cons turn first ih =>
    rw [List.cons_append, follow?_cons, follow?_cons]
    cases child? nodes place turn with
    | none => rfl
    | some child => exact ih

/-- One more turn leads to a child of the place reached before. -/
theorem follow?_concat (reached : follow? nodes 0 way = some place) :
    follow? nodes 0 (way ++ [turn]) = child? nodes place turn := by
  simp [follow?_append, reached]

/-- The part of a way that comes first leads somewhere as well. -/
theorem exists_follow?_take (reached : follow? nodes 0 way = some place) (count : ℕ) :
    ∃ middle, follow? nodes 0 (way.take count) = some middle := by
  rw [← List.take_append_drop count way, follow?_append] at reached
  obtain ⟨middle, before, -⟩ := Option.bind_eq_some_iff.mp reached
  exact ⟨middle, before⟩

/-- A turn leads somewhere exactly if it can be taken. -/
theorem mem_turnsAt :
    turn ∈ turnsAt nodes place ↔ ∃ child, child? nodes place turn = some child := by
  unfold turnsAt child?
  cases nodes[place]? with
  | none => simp
  | some node =>
    cases node with
    | leaf probability => simp
    | split feature threshold left right => cases turn <;> simp

/-- Whichever side of a split an input goes to, a turn leads there. -/
theorem exists_turn_of_split {feature left right : ℕ} {threshold : α}
    (here : nodes[place]? = some (.split feature threshold left right)) (toLeft : Bool) :
    ∃ turn, child? nodes place turn = some (if toLeft then left else right) := by
  cases toLeft with
  | true => exact ⟨.left, by simp [child?, here]⟩
  | false => exact ⟨.right, by simp [child?, here]⟩

theorem nodup_turnsAt : (turnsAt nodes place).Nodup := by
  unfold turnsAt
  split
  · simp
  · exact List.nodup_nil

/-- The places that a node refers to are those that its turns lead to, in the same order. -/
theorem forall₂_childrenAt :
    List.Forall₂ (fun turn child => child? nodes place turn = some child) (turnsAt nodes place)
      (childrenAt nodes place) := by
  unfold turnsAt childrenAt child?
  cases nodes[place]? with
  | none => exact .nil
  | some node =>
    cases node with
    | leaf probability => exact .nil
    | split feature threshold left right => exact .cons rfl (.cons rfl .nil)

end Tree

/-! ### Sound nodes -/

variable [Scalar α]

/-- Whether a node is sound in a table of a given size: the probability at a leaf is one, and a
split looks at one of the 45 values that there are, has a finite threshold and stays in the
table. -/
def Node.IsSound (size : ℕ) : Node α → Prop
  | .leaf probability => 0 ≤ probability ∧ probability ≤ 1
  | .split feature threshold left right =>
    feature < summarySize ∧ Scalar.isFinite threshold = true ∧ left < size ∧ right < size

instance (size : ℕ) : DecidablePred (@Node.IsSound α _ size)
  | .leaf probability => inferInstanceAs (Decidable (0 ≤ probability ∧ probability ≤ 1))
  | .split feature threshold left right =>
    inferInstanceAs (Decidable (feature < summarySize ∧ Scalar.isFinite threshold = true ∧
      left < size ∧ right < size))

namespace Tree

variable {nodes : Array (Node α)} {place child : ℕ} {turn : Turn} {way : List Turn}

/-- A node has no fault of its own exactly if it is sound. -/
theorem nodeFault?_eq_none_iff {size : ℕ} {node : Node α} :
    nodeFault? size place node = none ↔ node.IsSound size := by
  cases node with
  | leaf probability => simp [nodeFault?, Node.IsSound, Scalar.within]
  | split feature threshold left right =>
    simp only [nodeFault?, Node.IsSound]
    by_cases inSummary : feature < summarySize
    · rw [if_neg (Nat.not_le_of_lt inSummary)]
      by_cases finite : Scalar.isFinite threshold = true
      · -- The first child outside the table is searched for among the two.
        by_cases leftInside : left < size <;> by_cases rightInside : right < size <;>
          simp [inSummary, finite, leftInside, rightInside, Nat.not_le_of_lt]
      · simp [finite]
    · simp [inSummary, Nat.le_of_not_lt inSummary]

/-- A turn at a sound node stays in the table. -/
theorem lt_size_of_child? (sound : ∀ node ∈ nodes, node.IsSound nodes.size)
    (turned : child? nodes place turn = some child) : child < nodes.size := by
  unfold child? at turned
  split at turned
  case h_1 feature threshold left right here =>
    obtain rfl := Option.some.inj turned
    exact (sound _ (Array.mem_of_getElem? here)).2.2.1
  case h_2 feature threshold left right here =>
    obtain rfl := Option.some.inj turned
    exact (sound _ (Array.mem_of_getElem? here)).2.2.2
  case h_3 => cases turned

/-- Ways that begin in a table of sound nodes stay in it. -/
theorem lt_size_of_follow? (sound : ∀ node ∈ nodes, node.IsSound nodes.size) {start : ℕ}
    (inside : start < nodes.size) (reached : follow? nodes start way = some place) :
    place < nodes.size := by
  induction way generalizing start with
  | nil =>
    obtain rfl := Option.some.inj reached
    exact inside
  | cons turn way ih =>
    rw [follow?_cons] at reached
    obtain ⟨child, turned, onward⟩ := Option.bind_eq_some_iff.mp reached
    exact ih (lt_size_of_child? sound turned) onward

/-- Where ways from the root are unique, they have fewer turns than the table has nodes: each part
of a way that comes first leads to a place of its own. -/
theorem length_lt_size (sound : ∀ node ∈ nodes, node.IsSound nodes.size)
    (inside : 0 < nodes.size) (uniqueWays : HasUniqueWays nodes)
    (reached : follow? nodes 0 way = some place) : way.length < nodes.size := by
  choose middle before using exists_follow?_take reached
  -- The parts of no turns, of one turn and so on up to the whole way.
  let placeAfter (count : Fin (way.length + 1)) : Fin nodes.size :=
    ⟨middle count, lt_size_of_follow? sound inside (before count)⟩
  have injective : Function.Injective placeAfter := by
    intro fewer more same
    have samePlace : middle fewer = middle more := congrArg Fin.val same
    have sameWay : way.take fewer = way.take more :=
      uniqueWays _ _ _ (before fewer) (samePlace ▸ before more)
    have sameLength := congrArg List.length sameWay
    rw [List.length_take, List.length_take] at sameLength
    exact Fin.ext (by omega)
  have counted := Fintype.card_le_of_injective placeAfter injective
  rwa [Fintype.card_fin, Fintype.card_fin, Nat.succ_le_iff] at counted

end Tree

end LinkQuality
