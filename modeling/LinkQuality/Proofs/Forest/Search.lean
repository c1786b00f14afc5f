import LinkQuality.Binary64.Arithmetic
import LinkQuality.Proofs.Forest.Probability
import LinkQuality.Proofs.Forest.Ways
import Mathlib.Data.List.Forall2
import Mathlib.Data.Set.Insert

/-!
# The search for a place met twice

A table of nodes is refused if its search from the root meets a place for the second time. The
search follows all ways from the root, but it only keeps places: those not met yet, and a stack of
those to be looked at next. Beside them stand here the ways that led to them, which the search does
not know. They are all different, and together they are all ways found so far. So a place that is
met again is one that two ways lead to, and a search that ends has found every way, each to a place
of its own.

## Main definitions

* `Tree.Explored`: what the search has found, told by ways
* `Tree.metTwiceWithin?`: the search with a limit on the number of places it looks at

## Main results

* `Tree.Explored.step`: what one round of the search adds
* `Tree.metTwiceWithin?_eq`: a round for each node and one more are enough
* `Tree.Explored.exists_two_ways`, `Tree.Explored.hasUniqueWays`: what either outcome says
* `Tree.exists_ofNodes_eq_ok_iff`: which tables are trees, and what is reported of a table whose
  only fault is that ways meet
-/

namespace LinkQuality

namespace Tree

variable {α : Type} {nodes : Array (Node α)}

/-! ### Rounds -/

/-- The search for a place met twice, given up when more than a number of places are looked at. -/
def metTwiceWithin? (nodes : Array (Node α)) :
    (limit : ℕ) → (unmet stack : List ℕ) → Option (Option ℕ)
  | _, _, [] => some none
  | 0, _, _ :: _ => none
  | limit + 1, unmet, place :: stack =>
    if place ∈ unmet then
      metTwiceWithin? nodes limit (unmet.erase place) (childrenAt nodes place ++ stack)
    else some (some place)

/-- Every round but the last one meets a new place, so the search is never given up if it may take
one round more than there are places to meet. -/
theorem metTwiceWithin?_eq {limit : ℕ} {unmet : List ℕ} (stack : List ℕ)
    (enough : unmet.length < limit) :
    metTwiceWithin? nodes limit unmet stack = some (metTwice? nodes unmet stack) := by
  induction limit generalizing unmet stack with
  | zero => exact absurd enough (Nat.not_lt_zero _)
  | succ limit ih =>
    cases stack with
    | nil => rw [metTwiceWithin?, metTwice?]
    | cons place stack =>
      rw [metTwiceWithin?, metTwice?]
      -- A place that is new is taken off the list of the others, and the limit goes down with it.
      by_cases new : place ∈ unmet
      · have fewer : (unmet.erase place).length < limit := by
          have := List.length_pos_of_mem new
          rw [List.length_erase_of_mem new]
          omega
        rw [if_pos new, dif_pos new, ih _ fewer]
      · rw [if_neg new, dif_neg new]

/-! ### Ways that the search has found -/

/-- What the search has found when it still has to meet some places and has others on its stack:
the ways to the places met, and the pending ways to the places of the stack. -/
structure Explored (nodes : Array (Node α)) (met : Set (List Turn)) (pending : List (List Turn))
    (unmet stack : List ℕ) : Prop where
  leads : List.Forall₂ (fun way place => follow? nodes 0 way = some place) pending stack
  nodup_pending : pending.Nodup
  not_met : ∀ way ∈ pending, way ∉ met
  root : [] ∈ met ∨ [] ∈ pending
  /-- A way is found after the way that it extends. -/
  parent : ∀ way turn, way ++ [turn] ∈ met ∨ way ++ [turn] ∈ pending → way ∈ met
  /-- A place is met together with all turns that can be taken there. -/
  child : ∀ way ∈ met, ∀ turn place, follow? nodes 0 (way ++ [turn]) = some place →
    way ++ [turn] ∈ met ∨ way ++ [turn] ∈ pending
  exists_met : ∀ place < nodes.size, place ∉ unmet →
    ∃ way ∈ met, follow? nodes 0 way = some place
  not_unmet : ∀ way ∈ met, ∀ place, follow? nodes 0 way = some place → place ∉ unmet
  unique : ∀ first ∈ met, ∀ second ∈ met, ∀ place, follow? nodes 0 first = some place →
    follow? nodes 0 second = some place → first = second
  nodup_unmet : unmet.Nodup

/-- At first only the way of no turns is known. -/
theorem Explored.initial : Explored nodes ∅ [[]] (List.range nodes.size) [0] where
  leads := .cons rfl .nil
  nodup_pending := List.nodup_singleton _
  not_met _ _ := Set.notMem_empty _
  root := .inr (List.mem_singleton_self _)
  parent := by simp
  child := by simp
  exists_met place inside notUnmet := absurd (List.mem_range.mpr inside) notUnmet
  not_unmet := by simp
  unique := by simp
  nodup_unmet := List.nodup_range

section Step

variable {met : Set (List Turn)} {pending : List (List Turn)} {way : List Turn}
  {unmet stack : List ℕ} {place : ℕ}

/-- The ways that are one turn longer than a way to a place. -/
def branches (nodes : Array (Node α)) (place : ℕ) (way : List Turn) : List (List Turn) :=
  (turnsAt nodes place).map fun turn => way ++ [turn]

theorem mem_branches {branch : List Turn} :
    branch ∈ branches nodes place way ↔ ∃ turn ∈ turnsAt nodes place, way ++ [turn] = branch :=
  List.mem_map

/-- The branches of a way lead to the children of the place that it leads to. -/
theorem forall₂_branches (here : follow? nodes 0 way = some place) :
    List.Forall₂ (fun way place => follow? nodes 0 way = some place)
      (branches nodes place way) (childrenAt nodes place) := by
  rw [branches, List.forall₂_map_left_iff]
  refine forall₂_childrenAt.imp fun turn child turned => ?_
  rw [follow?_concat here, turned]

theorem nodup_branches : (branches nodes place way).Nodup := by
  refine nodup_turnsAt.map fun first second same => ?_
  simpa using same

/-- Where the search looks at a place that it has not met, the way to this place is met, and its
branches are pending in its stead. -/
theorem Explored.step (explored : Explored nodes met (way :: pending) unmet (place :: stack))
    (new : place ∈ unmet) :
    Explored nodes (insert way met) (branches nodes place way ++ pending) (unmet.erase place)
      (childrenAt nodes place ++ stack) := by
  obtain ⟨here, leads⟩ := List.forall₂_cons.mp explored.leads
  obtain ⟨notAgain, nodup⟩ := List.nodup_cons.mp explored.nodup_pending
  have wayNotMet : way ∉ met := explored.not_met way List.mem_cons_self
  -- No branch was found before, since the way itself was not.
  have branch_not_met {branch : List Turn} (isBranch : branch ∈ branches nodes place way) :
      branch ∉ met ∧ branch ∉ way :: pending := by
    obtain ⟨turn, -, rfl⟩ := mem_branches.mp isBranch
    constructor
    · intro found
      exact wayNotMet (explored.parent way turn (.inl found))
    · intro found
      exact wayNotMet (explored.parent way turn (.inr found))
  constructor
  case leads => exact List.rel_append (forall₂_branches here) leads
  case nodup_pending =>
    refine nodup_branches.append nodup fun branch isBranch found => ?_
    exact (branch_not_met isBranch).2 (List.mem_cons_of_mem _ found)
  case not_met =>
    intro found isNowPending
    rcases List.mem_append.mp isNowPending with isBranch | isPending
    · obtain ⟨notMet, notPending⟩ := branch_not_met isBranch
      rintro (rfl | isMet)
      · exact notPending List.mem_cons_self
      · exact notMet isMet
    · rintro (rfl | isMet)
      · exact notAgain isPending
      · exact explored.not_met found (List.mem_cons_of_mem _ isPending) isMet
  case root =>
    rcases explored.root with isMet | isPending
    · exact .inl (Set.mem_insert_of_mem _ isMet)
    · rcases List.mem_cons.mp isPending with rfl | isPending
      · exact .inl (Set.mem_insert _ _)
      · exact .inr (List.mem_append_right _ isPending)
  case parent =>
    rintro shorter turn ((rfl | isMet) | isPending)
    · exact .inr (explored.parent shorter turn (.inr List.mem_cons_self))
    · exact .inr (explored.parent shorter turn (.inl isMet))
    · rcases List.mem_append.mp isPending with isBranch | isPending
      · obtain ⟨turn', -, same⟩ := mem_branches.mp isBranch
        obtain ⟨rfl, -⟩ := List.append_inj' same rfl
        exact Set.mem_insert _ _
      · exact .inr (explored.parent shorter turn (.inr (List.mem_cons_of_mem _ isPending)))
  case child =>
    rintro shorter (rfl | isMet) turn child reached
    · -- The turn can be taken at the new place, so it is one of the branches.
      rw [follow?_concat here] at reached
      have canTurn : turn ∈ turnsAt nodes place := mem_turnsAt.mpr ⟨child, reached⟩
      exact .inr (List.mem_append_left _ (mem_branches.mpr ⟨turn, canTurn, rfl⟩))
    · rcases explored.child shorter isMet turn child reached with isMet | isPending
      · exact .inl (.inr isMet)
      · rcases List.mem_cons.mp isPending with isWay | isPending
        · exact .inl (.inl isWay)
        · exact .inr (List.mem_append_right _ isPending)
  case exists_met =>
    intro other inside notUnmet
    by_cases same : other = place
    · subst same
      exact ⟨way, Set.mem_insert _ _, here⟩
    · have wasMet : other ∉ unmet := fun isUnmet =>
        notUnmet ((List.mem_erase_of_ne same).mpr isUnmet)
      obtain ⟨found, isMet, reached⟩ := explored.exists_met other inside wasMet
      exact ⟨found, .inr isMet, reached⟩
  case not_unmet =>
    rintro found (rfl | isMet) other reached isUnmet
    · obtain rfl : place = other := Option.some.inj (here.symm.trans reached)
      exact explored.nodup_unmet.not_mem_erase isUnmet
    · exact explored.not_unmet found isMet other reached (List.mem_of_mem_erase isUnmet)
  case unique =>
    -- A way met before does not lead to the new place, which had not been met.
    have apart {found : List Turn} (isMet : found ∈ met) {other : ℕ}
        (reached : follow? nodes 0 found = some other)
        (alsoReached : follow? nodes 0 way = some other) : False := by
      obtain rfl : place = other := Option.some.inj (here.symm.trans alsoReached)
      exact explored.not_unmet found isMet place reached new
    rintro first (rfl | firstMet) second (rfl | secondMet) other reached alsoReached
    · rfl
    · exact (apart secondMet alsoReached reached).elim
    · exact (apart firstMet reached alsoReached).elim
    · exact explored.unique first firstMet second secondMet other reached alsoReached
  case nodup_unmet => exact explored.nodup_unmet.erase place

/-- Where the search has nothing left to look at, all ways from the root are met. -/
theorem Explored.mem_met (explored : Explored nodes met [] unmet stack) (way : List Turn)
    {place : ℕ} (reached : follow? nodes 0 way = some place) : way ∈ met := by
  induction way using List.reverseRecOn generalizing place with
  | nil => simpa using explored.root
  | append_singleton way turn ih =>
    have before := reached
    rw [follow?_append] at before
    obtain ⟨middle, reachedBefore, -⟩ := Option.bind_eq_some_iff.mp before
    simpa using explored.child way (ih reachedBefore) turn place reached

/-- A search that meets no place twice has met every way, and each leads to a place of its own. -/
theorem Explored.hasUniqueWays (explored : Explored nodes met pending unmet stack)
    (notTwice : metTwice? nodes unmet stack = none) : HasUniqueWays nodes := by
  -- Each round keeps what is known of the search, with other ways met and pending.
  induction unmet, stack using metTwice?.induct nodes generalizing met pending with
  | case1 unmet =>
    obtain rfl : pending = [] := List.forall₂_nil_right_iff.mp explored.leads
    intro first second place firstReached secondReached
    exact explored.unique first (explored.mem_met first firstReached) second
      (explored.mem_met second secondReached) place firstReached secondReached
  | case2 unmet place stack new ih =>
    rw [metTwice?, dif_pos new] at notTwice
    cases pending with
    | nil => cases explored.leads
    | cons way pending => exact ih (explored.step new) notTwice
  | case3 unmet place stack old =>
    rw [metTwice?, dif_neg old] at notTwice
    cases notTwice

end Step

section Outcomes

variable [Scalar α] {place : ℕ}

/-- A place that a search meets twice is one that two ways lead to. The table has to be sound, since
a place outside is not there to be met. -/
theorem Explored.exists_two_ways {met : Set (List Turn)} {pending : List (List Turn)}
    {unmet stack : List ℕ} (sound : ∀ node ∈ nodes, node.IsSound nodes.size)
    (inside : 0 < nodes.size) (explored : Explored nodes met pending unmet stack)
    (twice : metTwice? nodes unmet stack = some place) :
    ∃ first second, first ≠ second ∧ follow? nodes 0 first = some place ∧
      follow? nodes 0 second = some place := by
  induction unmet, stack using metTwice?.induct nodes generalizing met pending with
  | case1 unmet =>
    rw [metTwice?] at twice
    cases twice
  | case2 unmet next stack new ih =>
    rw [metTwice?, dif_pos new] at twice
    cases pending with
    | nil => cases explored.leads
    | cons way pending => exact ih (explored.step new) twice
  | case3 unmet next stack old =>
    rw [metTwice?, dif_neg old] at twice
    obtain rfl := Option.some.inj twice
    cases pending with
    | nil => cases explored.leads
    | cons way pending =>
      obtain ⟨here, -⟩ := List.forall₂_cons.mp explored.leads
      -- The way met earlier is another one than the pending way.
      obtain ⟨earlier, isMet, reached⟩ :=
        explored.exists_met next (lt_size_of_follow? sound inside here) old
      refine ⟨earlier, way, ?_, reached, here⟩
      rintro rfl
      exact explored.not_met earlier List.mem_cons_self isMet

/-- If every node is sound, the only fault that is left is a place met twice. -/
theorem fault?_of_isSound (inside : 0 < nodes.size)
    (sound : ∀ node ∈ nodes, node.IsSound nodes.size) :
    fault? nodes = (metTwice? nodes (List.range nodes.size) [0]).map .metTwice := by
  have notEmpty : ¬ nodes.isEmpty = true := by
    rw [Array.isEmpty_iff_size_eq_zero]
    exact inside.ne'
  have noneUnsound : (nodes.toList.zipIdx.findSome? fun entry =>
      nodeFault? nodes.size entry.2 entry.1) = none := by
    rw [List.findSome?_eq_none_iff]
    rintro ⟨node, place⟩ listed
    rw [List.mk_mem_zipIdx_iff_getElem?, Array.getElem?_toList] at listed
    exact nodeFault?_eq_none_iff.mpr (sound node (Array.mem_of_getElem? listed))
  rw [fault?, if_neg notEmpty]
  simp only [noneUnsound]

/-- A table has no fault exactly if it has a node, all its nodes are sound, and no place is met
twice from the root. -/
theorem fault?_eq_none_iff :
    fault? nodes = none ↔ 0 < nodes.size ∧ (∀ node ∈ nodes, node.IsSound nodes.size) ∧
      metTwice? nodes (List.range nodes.size) [0] = none := by
  constructor
  · intro faultless
    have inside : 0 < nodes.size := by
      refine Nat.pos_of_ne_zero fun empty => ?_
      rw [fault?, if_pos (Array.isEmpty_iff_size_eq_zero.mpr empty)] at faultless
      cases faultless
    have sound : ∀ node ∈ nodes, node.IsSound nodes.size := by
      intro node mem
      obtain ⟨place, here⟩ := Array.mem_iff_getElem?.mp mem
      exact nodeFault?_eq_none_iff.mp (nodeFault?_eq_none ⟨nodes, faultless⟩ here)
    refine ⟨inside, sound, ?_⟩
    rwa [fault?_of_isSound inside sound, Option.map_eq_none_iff] at faultless
  · rintro ⟨inside, sound, notTwice⟩
    rw [fault?_of_isSound inside sound, notTwice, Option.map_none]

/-- A tree has a node, sound nodes only, and unique ways. -/
theorem isSound_of_faultless (faultless : fault? nodes = none) :
    0 < nodes.size ∧ (∀ node ∈ nodes, node.IsSound nodes.size) ∧ HasUniqueWays nodes := by
  obtain ⟨inside, sound, notTwice⟩ := fault?_eq_none_iff.mp faultless
  exact ⟨inside, sound, Explored.initial.hasUniqueWays notTwice⟩

/-- Which tables are trees: those with at least one node, with sound nodes only, whether a way leads
to them or not, and with no place that two ways from the root lead to. The search for such a place
always ends. If there is one and nothing else is wrong, it is the fault that is reported. -/
theorem exists_ofNodes_eq_ok_iff (nodes : Array (Node α)) :
    metTwiceWithin? nodes (nodes.size + 1) (List.range nodes.size) [0] =
        some (metTwice? nodes (List.range nodes.size) [0]) ∧
      ((∃ tree, ofNodes nodes = .ok tree ∧ tree.nodes = nodes) ↔
        0 < nodes.size ∧ (∀ node ∈ nodes, node.IsSound nodes.size) ∧ HasUniqueWays nodes) ∧
      (0 < nodes.size → (∀ node ∈ nodes, node.IsSound nodes.size) → ¬ HasUniqueWays nodes →
        ∃ place first second, ofNodes nodes = .error (.metTwice place) ∧ first ≠ second ∧
          follow? nodes 0 first = some place ∧ follow? nodes 0 second = some place) := by
  refine ⟨metTwiceWithin?_eq _ (by simp), ⟨?_, ?_⟩, ?_⟩
  · rintro ⟨tree, -, rfl⟩
    exact isSound_of_faultless tree.faultless
  · rintro ⟨inside, sound, uniqueWays⟩
    -- A search that ends without a place met twice has met every way.
    cases twice : metTwice? nodes (List.range nodes.size) [0] with
    | none =>
      have faultless : fault? nodes = none := fault?_eq_none_iff.mpr ⟨inside, sound, twice⟩
      exact ⟨⟨nodes, faultless⟩, ofNodes_eq_ok faultless, rfl⟩
    | some place =>
      obtain ⟨first, second, differ, firstReached, secondReached⟩ :=
        Explored.initial.exists_two_ways sound inside twice
      exact absurd (uniqueWays first second place firstReached secondReached) differ
  · intro inside sound notUnique
    cases twice : metTwice? nodes (List.range nodes.size) [0] with
    | none => exact absurd (Explored.initial.hasUniqueWays twice) notUnique
    | some place =>
      obtain ⟨first, second, twoWays⟩ := Explored.initial.exists_two_ways sound inside twice
      refine ⟨place, first, second, ofNodes_eq_error_iff.mpr ?_, twoWays⟩
      rw [fault?_of_isSound inside sound, twice, Option.map_some]

/-- A leaf that a later split shares with the root is reported, though every node is sound. -/
theorem exists_ofNodes_eq_ok_iff_shared_leaf :
    let nodes : Array (Node Float) :=
      #[.split 0 0.5 1 2, .leaf 0.25, .split 44 (-1) 3 1, .leaf 1]
    (∀ node ∈ nodes, node.IsSound nodes.size) ∧ ¬ HasUniqueWays nodes ∧
      ∃ place first second, ofNodes nodes = .error (.metTwice place) ∧ first ≠ second ∧
        follow? nodes 0 first = some place ∧ follow? nodes 0 second = some place := by
  intro nodes
  have sound : ∀ node ∈ nodes, node.IsSound nodes.size := by decide +kernel
  have notUnique : ¬ HasUniqueWays nodes := by
    intro uniqueWays
    exact absurd (uniqueWays [.left] [.right, .right] 1 rfl rfl) (by decide)
  exact ⟨sound, notUnique, (exists_ofNodes_eq_ok_iff nodes).2.2 (by decide) sound notUnique⟩

end Outcomes

end Tree

end LinkQuality
