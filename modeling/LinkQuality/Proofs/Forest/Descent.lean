import LinkQuality.Proofs.Forest.Search

/-!
# Descents

An input descends through a tree from the root: at each split it turns to the side that the value
looked at decides, until it is at a leaf. Nothing counts the turns. A descent ends because it is a
way from the root, and in a tree each part of a way leads to a place of its own.

Inputs may have any length and any values. A value that is undefined or missing only decides for the
right side.

## Main definitions

* `Tree.Descent`: the splits that an input passes from a place, and the leaf that it ends at

## Main results

* `Tree.Descent.nodup`: a descent comes to no place twice
* `Tree.exists_descent_of_way`: it ends within as many steps as the table has nodes
* `Tree.exists_descent_of_ofNodes`: the probability of a tree is the one at the leaf it ends at
-/

namespace LinkQuality

namespace Tree

variable {α : Type} [Scalar α] {nodes : Array (Node α)} {input : List α}

/-- The descent of an input from a place: the splits that it passes one after the other, and the
leaf that it ends at. -/
inductive Descent (nodes : Array (Node α)) (input : List α) :
    (place : ℕ) → (splits : List ℕ) → (leaf : ℕ) → Prop where
  | leaf {place : ℕ} {probability : α} (here : nodes[place]? = some (.leaf probability)) :
    Descent nodes input place [] place
  | split {place feature left right leaf : ℕ} {threshold : α} {splits : List ℕ}
    (here : nodes[place]? = some (.split feature threshold left right))
    (below : Descent nodes input (if goesLeft threshold input[feature]? then left else right)
      splits leaf) :
    Descent nodes input place (place :: splits) leaf

/-- A descent comes to each of its places on a way of as many turns as it has passed splits. -/
theorem Descent.exists_way {place leaf visited count : ℕ} {splits : List ℕ}
    (descent : Descent nodes input place splits leaf)
    (visits : (splits ++ [leaf])[count]? = some visited) :
    ∃ way, way.length = count ∧ follow? nodes place way = some visited := by
  induction descent generalizing count with
  | leaf =>
    obtain ⟨rfl, rfl⟩ : count = 0 ∧ _ = visited := by
      simpa [List.getElem?_singleton] using visits
    exact ⟨[], rfl, rfl⟩
  | @split place feature left right leaf threshold splits here below ih =>
    -- The place itself is reached by no turn, and all others by a way on from the child.
    cases count with
    | zero =>
      obtain rfl : place = visited := by simpa using visits
      exact ⟨[], rfl, rfl⟩
    | succ count =>
      obtain ⟨way, length, reached⟩ := ih (by simpa using visits)
      obtain ⟨turn, turned⟩ := exists_turn_of_split here (goesLeft threshold input[feature]?)
      refine ⟨turn :: way, by rw [List.length_cons, length], ?_⟩
      rw [follow?_cons, turned]
      exact reached

section FromRoot

variable {leaf : ℕ} {splits : List ℕ}

/-- Where ways are unique, a descent from the root comes to no place twice: the ways on which it
would do so have different lengths. -/
theorem Descent.nodup (descent : Descent nodes input 0 splits leaf)
    (uniqueWays : HasUniqueWays nodes) : (splits ++ [leaf]).Nodup := by
  rw [List.nodup_iff_getElem?_ne_getElem?]
  intro earlier later isEarlier inRange same
  obtain ⟨visited, visits⟩ : ∃ visited, (splits ++ [leaf])[later]? = some visited :=
    ⟨_, List.getElem?_eq_getElem inRange⟩
  obtain ⟨firstWay, firstLength, firstReached⟩ := descent.exists_way (same.trans visits)
  obtain ⟨secondWay, secondLength, secondReached⟩ := descent.exists_way visits
  have sameWay := uniqueWays firstWay secondWay visited firstReached secondReached
  rw [← firstLength, ← secondLength, sameWay] at isEarlier
  exact lt_irrefl _ isEarlier

theorem Descent.lt_size {place visited : ℕ} (descent : Descent nodes input place splits leaf)
    (isVisited : visited ∈ splits ++ [leaf]) : visited < nodes.size := by
  induction descent with
  | leaf here =>
    obtain rfl := by simpa using isVisited
    exact (Array.getElem?_eq_some_iff.mp here).1
  | split here _ ih =>
    rcases List.mem_cons.mp isVisited with rfl | isBelow
    · exact (Array.getElem?_eq_some_iff.mp here).1
    · exact ih isBelow

/-- A descent from the root passes fewer splits than the table has nodes. -/
theorem Descent.length_lt_size (descent : Descent nodes input 0 splits leaf)
    (sound : ∀ node ∈ nodes, node.IsSound nodes.size) (uniqueWays : HasUniqueWays nodes) :
    splits.length < nodes.size := by
  have inside : leaf < nodes.size := descent.lt_size (by simp)
  have atLeaf : (splits ++ [leaf])[splits.length]? = some leaf := by simp
  obtain ⟨way, length, reached⟩ := descent.exists_way atLeaf
  rw [← length]
  exact Tree.length_lt_size sound (Nat.zero_lt_of_lt inside) uniqueWays reached

end FromRoot

/-- From a place that a way leads to, a descent ends within the number of steps that are left if the
turns of the way are taken from the size of the table. -/
theorem exists_descent_of_way (sound : ∀ node ∈ nodes, node.IsSound nodes.size)
    (inside : 0 < nodes.size) (uniqueWays : HasUniqueWays nodes) (input : List α)
    {limit place : ℕ} {way : List Turn} (reached : follow? nodes 0 way = some place)
    (enough : nodes.size ≤ way.length + limit) :
    ∃ splits leaf probability, Descent nodes input place splits leaf ∧
      nodes[leaf]? = some (.leaf probability) ∧
      descend? nodes input limit place = some probability := by
  induction limit generalizing place way with
  | zero =>
    -- Steps are used up only by a way with as many turns as there are nodes.
    exact absurd (Tree.length_lt_size sound inside uniqueWays reached) (by omega)
  | succ limit ih =>
    obtain ⟨node, here⟩ : ∃ node, nodes[place]? = some node :=
      ⟨_, Array.getElem?_eq_getElem (lt_size_of_follow? sound inside reached)⟩
    cases node with
    | leaf probability =>
      refine ⟨[], place, probability, .leaf here, here, ?_⟩
      rw [descend?, here]
    | split feature threshold left right =>
      -- The way goes on with the turn that the input takes here.
      obtain ⟨turn, turned⟩ := exists_turn_of_split here (goesLeft threshold input[feature]?)
      have reachedBelow := (follow?_concat reached).trans turned
      have enoughBelow : nodes.size ≤ (way ++ [turn]).length + limit := by
        rw [List.length_append, List.length_singleton]
        omega
      obtain ⟨splits, leaf, probability, below, isLeaf, answer⟩ := ih reachedBelow enoughBelow
      refine ⟨place :: splits, leaf, probability, .split here below, isLeaf, ?_⟩
      rw [descend?, here]
      exact answer

/-- Every input descends to a leaf of a tree. It comes to no place twice, passes fewer splits than
the tree has nodes, never leaves the table, and the answer is the probability at the leaf: no
descent is given up. -/
theorem exists_descent_of_ofNodes {tree : Tree α} (made : ofNodes nodes = .ok tree)
    (input : List α) :
    ∃ splits leaf probability, Descent nodes input 0 splits leaf ∧
      nodes[leaf]? = some (.leaf probability) ∧
      descend? nodes input nodes.size 0 = some probability ∧ tree.probability input = probability ∧
      (0 ≤ probability ∧ probability ≤ 1) ∧ (splits ++ [leaf]).Nodup ∧
      splits.length < nodes.size ∧ ∀ place ∈ splits ++ [leaf], place < nodes.size := by
  obtain rfl := nodes_of_ofNodes made
  obtain ⟨inside, sound, uniqueWays⟩ := isSound_of_faultless tree.faultless
  obtain ⟨splits, leaf, probability, descent, isLeaf, answer⟩ :=
    exists_descent_of_way sound inside uniqueWays input follow?_nil (Nat.le_add_left _ _)
  refine ⟨splits, leaf, probability, descent, isLeaf, answer, ?_, ?_, descent.nodup uniqueWays,
    descent.length_lt_size sound uniqueWays, fun place => descent.lt_size⟩
  · rw [Tree.probability, answer, Option.getD_some]
  · exact sound _ (Array.mem_of_getElem? isLeaf)

/-- An input with an undefined value and without most others goes right at both splits. -/
theorem exists_descent_of_ofNodes_undefined_input :
    let nodes : Array (Node Float) :=
      #[.split 44 0.5 1 2, .leaf 0.25, .split 0 (-70) 3 4, .leaf 0, .leaf 1]
    let input : List Float := [undefined, -70]
    ∃ tree, ofNodes nodes = .ok tree ∧
      ∃ splits leaf probability, Descent nodes input 0 splits leaf ∧
        nodes[leaf]? = some (.leaf probability) ∧
        descend? nodes input nodes.size 0 = some probability ∧
        tree.probability input = probability ∧
        (0 ≤ probability ∧ probability ≤ 1) ∧ (splits ++ [leaf]).Nodup ∧
        splits.length < nodes.size ∧ ∀ place ∈ splits ++ [leaf], place < nodes.size := by
  intro nodes input
  have made : ofNodes nodes = .ok ⟨nodes, by decide +kernel⟩ := ofNodes_eq_ok (by decide +kernel)
  exact ⟨_, made, exists_descent_of_ofNodes made input⟩

end Tree

end LinkQuality
