import LinkQuality.Forest.Record
import LinkQuality.Proofs.Forest.Descent

/-!
# Trees as they stand in files

The records of a file can be read without making a tree of them. A walk begins at record 0. A record
without a left node ends it with its probability, whatever its other members hold; any other one
looks at the value that its feature refers to and passes the input on to one of the two records that
it refers to. All these references are signed numbers, and a negative one refers to nothing.

Where the records are accepted, this walk is the descent through the tree that they describe: every
input has exactly one answer, and it is the probability of the tree. The other way round a tree
survives being written record by record, with references that are below the number of its nodes.

## Main definitions

* `NodeRecord.item?`: what a signed number refers to
* `NodeRecord.Walk`: the walk of an input along records
* `NodeRecord.RefersWithin`: the range of the references of a record

## Main results

* `Tree.exists_record`: the record behind a node
* `Tree.walk_of_descent`, `NodeRecord.Walk.unique`: the walk of every input, and that it is the only
  one
* `Tree.ofRecords_records`: a tree is read back
* `Tree.records_mean_tree`: both directions together
-/

namespace LinkQuality

namespace NodeRecord

/-- What a signed number refers to in a list. A negative number refers to nothing. -/
def item? {β : Type} (items : List β) : (number : ℤ) → Option β
  | .ofNat n => items[n]?
  | .negSucc _ => none

@[simp] theorem item?_natCast {β : Type} (items : List β) (n : ℕ) : item? items n = items[n]? := rfl

variable {α : Type} [Scalar α] {records : List (NodeRecord α)} {input : List α}

/-- The walk of an input along records, from a place to the answer. A value that is missing or not
comparable is not low, so it sends the input to the right. -/
inductive Walk (records : List (NodeRecord α)) (input : List α) :
    (place : ℤ) → (answer : α) → Prop where
  | leaf {place : ℤ} {record : NodeRecord α} (here : item? records place = some record)
    (ends : record.left = -1) : Walk records input place record.probability
  | left {place : ℤ} {record : NodeRecord α} {value answer : α}
    (here : item? records place = some record) (splits : record.left ≠ -1)
    (looksAt : item? input record.feature = some value) (low : value ≤ record.threshold)
    (onward : Walk records input record.left answer) : Walk records input place answer
  | right {place : ℤ} {record : NodeRecord α} {answer : α}
    (here : item? records place = some record) (splits : record.left ≠ -1)
    (notLow : ∀ value, item? input record.feature = some value → ¬ value ≤ record.threshold)
    (onward : Walk records input record.right answer) : Walk records input place answer

/-- An input has at most one answer. -/
theorem Walk.unique {place : ℤ} {first second : α} (walk : Walk records input place first)
    (other : Walk records input place second) : first = second := by
  -- Both walks look at the same record, which ends both or turns both to one side.
  induction walk with
  | leaf here ends =>
    cases other with
    | leaf alsoHere =>
      rw [here] at alsoHere
      cases alsoHere
      rfl
    | left alsoHere splits | right alsoHere splits =>
      rw [here] at alsoHere
      cases alsoHere
      exact absurd ends splits
  | left here splits looksAt low _ ih =>
    cases other with
    | leaf alsoHere ends =>
      rw [here] at alsoHere
      cases alsoHere
      exact absurd ends splits
    | left alsoHere _ _ _ onward =>
      rw [here] at alsoHere
      cases alsoHere
      exact ih onward
    | right alsoHere _ notLow =>
      rw [here] at alsoHere
      cases alsoHere
      exact absurd low (notLow _ looksAt)
  | right here splits notLow _ ih =>
    cases other with
    | leaf alsoHere ends =>
      rw [here] at alsoHere
      cases alsoHere
      exact absurd ends splits
    | left alsoHere _ looksAt low =>
      rw [here] at alsoHere
      cases alsoHere
      exact absurd low (notLow _ looksAt)
    | right alsoHere _ _ onward =>
      rw [here] at alsoHere
      cases alsoHere
      exact ih onward

/-! ### Records and nodes -/

variable {record : NodeRecord α} {place : ℕ}

/-- A record is read as a leaf exactly if it has no left node. -/
theorem toNode_eq_leaf_iff {probability : α} :
    record.toNode place = .ok (.leaf probability) ↔
      record.left = -1 ∧ record.probability = probability := by
  unfold toNode
  split_ifs with ends <;> simp [ends]

/-- A record that is read as a split holds what the split holds. -/
theorem of_toNode_eq_split {feature left right : ℕ} {threshold : α}
    (read : record.toNode place = .ok (.split feature threshold left right)) :
    record.left ≠ -1 ∧ record.feature = feature ∧ record.threshold = threshold ∧
      record.left = left ∧ record.right = right := by
  unfold toNode at read
  split_ifs at read with ends noFeature noLeft noRight
  · cases read
  · rw [Except.ok.injEq, Node.split.injEq] at read
    obtain ⟨rfl, rfl, rfl, rfl⟩ := read
    -- None of the references is negative, so none is changed by dropping its sign.
    exact ⟨ends, by omega, rfl, by omega, by omega⟩

@[simp] theorem toNode_ofNode (node : Node α) : (ofNode node).toNode place = .ok node := by
  cases node with
  | leaf probability => rfl
  | split feature threshold left right =>
    have isNode : ¬ (left : ℤ) = -1 := by omega
    have notNegative (n : ℕ) : ¬ (n : ℤ) < 0 := by omega
    simp [toNode, ofNode, isNode, notNegative]

/-- The range of the references of a record: −1, or below the number of nodes and, of features,
below the number of values. -/
structure RefersWithin (size : ℕ) (record : NodeRecord α) : Prop where
  feature_range : -1 ≤ record.feature ∧ record.feature < summarySize
  left_range : -1 ≤ record.left ∧ record.left < size
  right_range : -1 ≤ record.right ∧ record.right < size

/-- The record of a sound node stays within the table of the node. -/
theorem refersWithin_ofNode {node : Node α} {size : ℕ} (sound : node.IsSound size) :
    (ofNode node).RefersWithin size := by
  cases node with
  | leaf probability =>
    have below (bound : ℕ) : (-1 : ℤ) < bound := by omega
    exact ⟨⟨le_rfl, below _⟩, ⟨le_rfl, below _⟩, ⟨le_rfl, below _⟩⟩
  | split feature threshold left right =>
    obtain ⟨inSummary, -, leftInside, rightInside⟩ := sound
    have range {number bound : ℕ} (less : number < bound) :
        -1 ≤ (number : ℤ) ∧ (number : ℤ) < bound := by omega
    exact ⟨range inSummary, range leftInside, range rightInside⟩

end NodeRecord

namespace Tree

open NodeRecord

variable {α : Type} [Scalar α] {records : List (NodeRecord α)} {nodes : List (Node α)}
  {input : List α}

/-- Behind every node there is a record that it was read from. -/
theorem exists_record {start place : ℕ} {node : Node α}
    (decoded : nodesOfRecords start records = .ok nodes) (here : nodes[place]? = some node) :
    ∃ record, records[place]? = some record ∧ record.toNode (start + place) = .ok node := by
  induction records generalizing start nodes place with
  | nil =>
    cases decoded
    cases here
  | cons record records ih =>
    rw [nodesOfRecords] at decoded
    split at decoded
    case h_1 => cases decoded
    case h_2 first read =>
      cases others : nodesOfRecords (start + 1) records with
      | error fault =>
        rw [others] at decoded
        cases decoded
      | ok rest =>
        rw [others] at decoded
        cases decoded
        -- The first record is read at its place, the others one place further on.
        cases place with
        | zero =>
          obtain rfl := Option.some.inj here
          exact ⟨record, rfl, read⟩
        | succ place =>
          obtain ⟨behind, isRecord, isRead⟩ := ih others here
          have shifted : start + (place + 1) = start + 1 + place := by omega
          exact ⟨behind, isRecord, by rwa [shifted]⟩

/-- A value is low if it is there and compares so. -/
theorem goesLeft_eq_true_iff {threshold : α} {value? : Option α} :
    goesLeft threshold value? = true ↔ ∃ value, value? = some value ∧ value ≤ threshold := by
  cases value? with
  | none => simp [goesLeft]
  | some value => simp [goesLeft]

/-- Where a descent through the nodes leads, the walk along the records leads as well. -/
theorem walk_of_descent (decoded : nodesOfRecords 0 records = .ok nodes) {place leaf : ℕ}
    {splits : List ℕ} {probability : α} (descent : Descent nodes.toArray input place splits leaf)
    (isLeaf : nodes.toArray[leaf]? = some (.leaf probability)) :
    Walk records input place probability := by
  induction descent with
  | leaf =>
    obtain ⟨record, here, read⟩ := exists_record decoded (by simpa using isLeaf)
    obtain ⟨ends, rfl⟩ := toNode_eq_leaf_iff.mp read
    exact .leaf here ends
  | @split place feature left right leaf threshold splits atSplit below ih =>
    obtain ⟨record, here, read⟩ := exists_record decoded (by simpa using atSplit)
    obtain ⟨isSplit, isFeature, rfl, isLeft, isRight⟩ := of_toNode_eq_split read
    have onward := ih isLeaf
    -- The descent turns left only for a value that is there, and so does the walk.
    cases side : goesLeft record.threshold input[feature]? with
    | true =>
      obtain ⟨value, looksAt, low⟩ := goesLeft_eq_true_iff.mp side
      rw [side, if_pos rfl, ← isLeft] at onward
      exact .left here isSplit (by rwa [isFeature]) low onward
    | false =>
      rw [side, if_neg Bool.false_ne_true, ← isRight] at onward
      refine .right here isSplit (fun value looksAt low => ?_) onward
      rw [isFeature, item?_natCast] at looksAt
      exact Bool.noConfusion (side.symm.trans (goesLeft_eq_true_iff.mpr ⟨value, looksAt, low⟩))

/-- Accepted records are read as the nodes of the tree. -/
theorem nodesOfRecords_of_ofRecords {tree : Tree α} (accepted : ofRecords records = .ok tree) :
    ∃ nodes, nodesOfRecords 0 records = .ok nodes ∧ ofNodes nodes.toArray = .ok tree := by
  unfold ofRecords at accepted
  split at accepted
  case h_1 => cases accepted
  case h_2 nodes decoded => exact ⟨nodes, decoded, accepted⟩

theorem nodesOfRecords_map_ofNode (start : ℕ) (nodes : List (Node α)) :
    nodesOfRecords start (nodes.map ofNode) = .ok nodes := by
  induction nodes generalizing start with
  | nil => rfl
  | cons node nodes ih => simp [nodesOfRecords, ih, Except.map]

theorem ofRecords_records (tree : Tree α) : ofRecords tree.records = .ok tree := by
  rw [ofRecords, records, nodesOfRecords_map_ofNode]
  exact ofNodes_eq_ok tree.faultless

/-- Records mean the tree that they describe, and a tree is what its records mean. Every input has
one walk along accepted records, and its answer is the probability of the tree. A table that is a
tree is read back from the records of its nodes, and these refer to nothing beyond the table. -/
theorem records_mean_tree :
    (∀ (records : List (NodeRecord α)) (tree : Tree α), ofRecords records = .ok tree →
      ∀ input answer, Walk records input 0 answer ↔ tree.probability input = answer) ∧
    (∀ (nodes : Array (Node α)) (tree : Tree α), ofNodes nodes = .ok tree →
      ofRecords (nodes.toList.map ofNode) = .ok tree ∧
        ∀ record ∈ nodes.toList.map ofNode, record.RefersWithin nodes.size) := by
  constructor
  · intro records tree accepted input answer
    obtain ⟨nodes, decoded, made⟩ := nodesOfRecords_of_ofRecords accepted
    obtain ⟨splits, leaf, probability, descent, isLeaf, -, isAnswer, -⟩ :=
      exists_descent_of_ofNodes made input
    have walk : Walk records input 0 probability := walk_of_descent decoded descent isLeaf
    rw [isAnswer]
    constructor
    · intro other
      exact walk.unique other
    · rintro rfl
      exact walk
  · intro nodes tree made
    obtain rfl := nodes_of_ofNodes made
    refine ⟨ofRecords_records tree, fun record mem => ?_⟩
    obtain ⟨node, isNode, rfl⟩ := List.mem_map.mp mem
    obtain ⟨-, sound, -⟩ := isSound_of_faultless tree.faultless
    exact refersWithin_ofNode (sound node (Array.mem_toList_iff.mp isNode))

/-- A leaf may carry the remains of a split, one of them undefined. They mean nothing, and they are
not written again. -/
theorem records_mean_tree_remains_of_split :
    let records : List (NodeRecord Float) :=
      [{ feature := 44, threshold := -0.5, left := 2, right := 1 }, { probability := 0.25 },
        { feature := 7, threshold := undefined, right := 9, probability := 1 }]
    ∃ tree, ofRecords records = .ok tree ∧
      (∀ input answer, Walk records input 0 answer ↔ tree.probability input = answer) ∧
      ofNodes tree.nodes = .ok tree ∧
      (ofRecords (tree.nodes.toList.map ofNode) = .ok tree ∧
        ∀ record ∈ tree.nodes.toList.map ofNode, record.RefersWithin tree.nodes.size) ∧
      tree.nodes.toList.map ofNode ≠ records := by
  intro records
  let nodes : Array (Node Float) := #[.split 44 (-0.5) 2 1, .leaf 0.25, .leaf 1]
  have made : ofNodes nodes = .ok ⟨nodes, by decide +kernel⟩ := ofNodes_eq_ok (by decide +kernel)
  have accepted : ofRecords records = .ok ⟨nodes, by decide +kernel⟩ := made
  refine ⟨_, accepted, records_mean_tree.1 records _ accepted, made,
    records_mean_tree.2 nodes _ made, fun same => ?_⟩
  exact absurd (congrArg (List.map NodeRecord.right) same) (by decide)

end Tree

end LinkQuality
