import LinkQuality.Proofs.Forest.Descent
import LinkQuality.Proofs.Forest.Probability
import LinkQuality.Proofs.Summary

/-!
# Votes

The trees of a forest vote on an input, each with the probability at the leaf that the input
descends to. In exact arithmetic either rule counts a weight for each tree and divides by their
number: the probability itself, or one if failing is more likely than not. So it does not matter in
which order trees are asked, nor whether all of them are asked several times, and as a weight is
never below zero or above one, neither is the average.

A tree that is sure of its answers, with none but zero and one at its leaves, has the same weight
under both rules. So the rules can only differ on trees that are in doubt.

## Main definitions

* `Vote.weight`, `Vote.average`: what the probability of one tree counts, and the average over many
* `Tree.risk`: the probability of a tree as a number
* `Tree.IsDecided`: whether a tree is sure of all its answers

## Main results

* `Vote.average_perm`, `Vote.average_flatten_replicate`, `Vote.average_mem`: averages over many
* `Tree.exists_leaf`: the risk of an input is what its leaf says
* `Forest.probability?_eq`: the probability of a forest is the average over the risks
* `Forest.exists_score`: the range of the scores of a forest
* `Forest.probability?_independent_of_order`: what both rules answer to any input
-/

namespace LinkQuality

variable {K : Type} [Field K] [LinearOrder K]

/-! ### Rules -/

namespace Vote

/-- What the probability of one tree counts. -/
def weight (vote : Vote) (risk : K) : K :=
  match vote with
  | .mean => risk
  | .majority => if 0.5 < risk then 1 else 0

/-- What the probabilities of many trees count on average. -/
def average (vote : Vote) (risks : List K) : K := (risks.map vote.weight).sum / risks.length

variable {risks others : List K} (vote : Vote)

/-- The order of the trees does not matter. -/
theorem average_perm (reordered : others.Perm risks) :
    vote.average others = vote.average risks := by
  rw [average, average, (reordered.map vote.weight).sum_eq, reordered.length_eq]

/-- Asking all voters the same number of times does not change their average. -/
theorem average_flatten_replicate [CharZero K] {times : ℕ} (asked : times ≠ 0) (risks : List K) :
    vote.average (List.replicate times risks).flatten = vote.average risks := by
  have length : ((List.replicate times risks).flatten.length : K) = times * risks.length := by
    simp [List.length_flatten]
  have sum : ((List.replicate times risks).flatten.map vote.weight).sum =
      times * (risks.map vote.weight).sum := by
    simp [List.map_flatten, List.sum_flatten]
  rw [average, average, sum, length, mul_div_mul_left _ _ (Nat.cast_ne_zero.mpr asked)]

/-- What is certain counts the same under both rules. -/
theorem weight_of_decided [IsStrictOrderedRing K] {risk : K} (decided : risk = 0 ∨ risk = 1) :
    vote.weight risk = risk := by
  cases vote with
  | mean => rfl
  | majority =>
    rcases decided with rfl | rfl
    · exact if_neg (by norm_num)
    · exact if_pos (by norm_num)

/-- Risks that are certain have the same average under both rules. -/
theorem average_of_decided [IsStrictOrderedRing K]
    (decided : ∀ risk ∈ risks, risk = 0 ∨ risk = 1) :
    average .mean risks = average .majority risks := by
  have sameWeights : risks.map (weight .mean) = risks.map (weight .majority) :=
    List.map_congr_left fun risk mem =>
      (weight_of_decided .mean (decided risk mem)).trans
        (weight_of_decided .majority (decided risk mem)).symm
  rw [average, average, sameWeights]

section Range

variable [IsStrictOrderedRing K]

theorem weight_mem {risk : K} (isRisk : 0 ≤ risk ∧ risk ≤ 1) :
    0 ≤ vote.weight risk ∧ vote.weight risk ≤ 1 := by
  cases vote with
  | mean => exact isRisk
  | majority =>
    dsimp only [weight]
    split_ifs <;> simp

theorem average_mem (nonempty : risks ≠ []) (areRisks : ∀ risk ∈ risks, 0 ≤ risk ∧ risk ≤ 1) :
    0 ≤ vote.average risks ∧ vote.average risks ≤ 1 := by
  have weights (weight : K) (counted : weight ∈ risks.map vote.weight) :
      0 ≤ weight ∧ weight ≤ 1 := by
    obtain ⟨risk, mem, rfl⟩ := List.mem_map.mp counted
    exact vote.weight_mem (areRisks risk mem)
  have number_pos : (0 : K) < risks.length := by
    exact_mod_cast List.length_pos_iff.mpr nonempty
  have sum_le : (risks.map vote.weight).sum ≤ risks.length := by
    simpa using List.sum_le_card_nsmul _ 1 fun weight counted => (weights weight counted).2
  exact ⟨div_nonneg (List.sum_nonneg fun weight counted => (weights weight counted).1)
    number_pos.le, (div_le_one number_pos).mpr sum_le⟩

end Range

/-- The majority counts the trees that find failing more likely than not. -/
theorem sum_weight_majority (risks : List K) :
    (risks.map (weight .majority)).sum = (risks.countP (fun risk => 0.5 < risk) : ℕ) := by
  have weights : weight .majority = fun risk : K => if 0.5 < risk then 1 else 0 := rfl
  rw [weights, List.sum_map_ite, List.countP_eq_length_filter]
  simp

theorem combine_number [FloorRing K] (nonempty : risks ≠ []) :
    vote.combine (risks.map Exact.number) = .number (vote.average risks) := by
  have number_ne_zero : (risks.length : K) ≠ 0 :=
    Nat.cast_ne_zero.mpr (List.length_pos_iff.mpr nonempty).ne'
  cases vote with
  | mean =>
    have weights : risks.map (weight .mean) = risks := List.map_id risks
    rw [combine, Exact.total_number, List.length_map, Exact.scalarOfNat_eq,
      Exact.number_div number_ne_zero, average, weights]
  | majority =>
    -- Counting the votes is summing up their weights.
    have above : (fun x : Exact K => decide ((0.5 : Exact K) < x)) ∘ Exact.number =
        fun risk => decide (0.5 < risk) := by
      funext risk
      rw [Function.comp_apply, Exact.ofScientific_eq]
      rfl
    rw [combine, List.countP_map, above, List.length_map, Exact.scalarOfNat_eq,
      Exact.scalarOfNat_eq, Exact.number_div number_ne_zero, average, sum_weight_majority]

end Vote

/-! ### Trees -/

variable [FloorRing K]

namespace Tree

/-- The probability that a tree answers to an input, as a number. -/
def risk (input : List (Exact K)) (tree : Tree (Exact K)) : K :=
  ((tree.probability input).value?).getD 0

/-- Whether a tree is sure of all its answers. -/
def IsDecided (tree : Tree (Exact K)) : Prop :=
  ∀ probability : Exact K, .leaf probability ∈ tree.nodes → probability = 0 ∨ probability = 1

variable (tree : Tree (Exact K)) (input : List (Exact K))

/-- Every input descends to a leaf, and the probability there is the risk. -/
theorem exists_leaf :
    .leaf (.number (tree.risk input)) ∈ tree.nodes ∧
      tree.probability input = .number (tree.risk input) ∧
      0 ≤ tree.risk input ∧ tree.risk input ≤ 1 := by
  obtain ⟨inside, sound, uniqueWays⟩ := isSound_of_faultless tree.faultless
  -- The walk from the root ends, and at a leaf of the tree, whose probability has been checked.
  obtain ⟨splits, leaf, probability, -, isLeaf, answer⟩ :=
    exists_descent_of_way sound inside uniqueWays input follow?_nil (Nat.le_add_left _ _)
  obtain ⟨p, rfl, nonneg, le_one⟩ := Exact.isProbability_of_within (tree.within_of_leaf isLeaf)
  have isRisk : tree.probability input = .number p := by
    rw [probability, answer, Option.getD_some]
  have same : tree.risk input = p := by
    rw [risk, isRisk, Exact.value?_number, Option.getD_some]
  rw [same]
  exact ⟨Array.mem_of_getElem? isLeaf, isRisk, nonneg, le_one⟩

theorem IsDecided.risk_eq {tree : Tree (Exact K)} (decided : tree.IsDecided) :
    tree.risk input = 0 ∨ tree.risk input = 1 := by
  simpa using decided _ (tree.exists_leaf input).1

end Tree

/-! ### Forests -/

namespace Forest

variable (trees : List (Tree (Exact K))) (input : List (Exact K))

/-- A forest answers with the average over the risks that its trees see. -/
theorem probability?_eq (nonempty : trees ≠ []) (vote : Vote) :
    (⟨trees, vote⟩ : Forest (Exact K)).probability? input =
      some (.number (vote.average (trees.map (Tree.risk input)))) := by
  have risks : trees.map (fun tree => tree.probability input) =
      (trees.map (Tree.risk input)).map Exact.number := by
    rw [List.map_map]
    exact List.map_congr_left fun tree _ => (tree.exists_leaf input).2.1
  rw [probability?, if_neg (by simpa using nonempty), risks,
    vote.combine_number (by simpa using nonempty)]

theorem probability?_eq_none_iff (vote : Vote) :
    (⟨trees, vote⟩ : Forest (Exact K)).probability? input = none ↔ trees = [] := by
  rw [probability?]
  simp

variable {trees}

theorem probability?_perm {others : List (Tree (Exact K))} (reordered : others.Perm trees)
    (vote : Vote) :
    (⟨others, vote⟩ : Forest (Exact K)).probability? input =
      (⟨trees, vote⟩ : Forest (Exact K)).probability? input := by
  by_cases empty : trees = []
  · rw [empty, List.perm_nil] at reordered
    rw [empty, reordered]
  · have nonempty : others ≠ [] := fun none => empty (List.nil_perm.mp (none ▸ reordered))
    rw [probability?_eq trees input empty, probability?_eq others input nonempty,
      vote.average_perm (reordered.map _)]

variable (trees)

theorem probability?_flatten_replicate {times : ℕ} (asked : times ≠ 0) (vote : Vote) :
    (⟨(List.replicate times trees).flatten, vote⟩ : Forest (Exact K)).probability? input =
      (⟨trees, vote⟩ : Forest (Exact K)).probability? input := by
  by_cases empty : trees = []
  · rw [empty]
    simp
  · have nonempty : (List.replicate times trees).flatten ≠ [] := by simp [asked, empty]
    rw [probability?_eq trees input empty, probability?_eq _ input nonempty, List.map_flatten,
      List.map_replicate, vote.average_flatten_replicate asked]

variable [IsStrictOrderedRing K] {trees}

/-- Under both rules a forest answers the same if its trees are sure of all their answers. -/
theorem probability?_of_decided (decided : ∀ tree ∈ trees, tree.IsDecided) :
    (⟨trees, .mean⟩ : Forest (Exact K)).probability? input =
      (⟨trees, .majority⟩ : Forest (Exact K)).probability? input := by
  by_cases empty : trees = []
  · rw [empty]
    rfl
  · have certain : ∀ risk ∈ trees.map (Tree.risk input), risk = 0 ∨ risk = 1 := by
      intro risk mem
      obtain ⟨tree, isTree, rfl⟩ := List.mem_map.mp mem
      exact (decided tree isTree).risk_eq input
    rw [probability?_eq trees input empty, probability?_eq trees input empty,
      Vote.average_of_decided certain]

/-- What trees answer is a probability, and so what it leaves of a hundred is a score. -/
theorem exists_probability (nonempty : trees ≠ []) (vote : Vote) :
    ∃ p : K, (⟨trees, vote⟩ : Forest (Exact K)).probability? input = some (.number p) ∧
      0 ≤ p ∧ p ≤ 1 ∧ 0 ≤ 100 * (1 - p) ∧ 100 * (1 - p) ≤ 100 ∧
      ∀ values : Vector (Exact K) 45, values.toList = input →
        (⟨trees, vote⟩ : Forest (Exact K)).score? values = some (.number (100 * (1 - p))) := by
  have areRisks : ∀ risk ∈ trees.map (Tree.risk input), 0 ≤ risk ∧ risk ≤ 1 := by
    intro risk mem
    obtain ⟨tree, -, rfl⟩ := List.mem_map.mp mem
    exact (tree.exists_leaf input).2.2
  obtain ⟨nonneg, le_one⟩ := vote.average_mem (by simpa using nonempty) areRisks
  have answer := probability?_eq trees input nonempty vote
  refine ⟨_, answer, nonneg, le_one, by linarith, by linarith, ?_⟩
  rintro values rfl
  rw [score?, answer, Option.map_some, Exact.ofNat_eq, Exact.one_eq, Exact.number_sub,
    Exact.number_mul]

/-- A forest of at least one tree scores every input from zero to a hundred. -/
theorem exists_score (forest : Forest (Exact K)) (nonempty : forest.trees.isEmpty = false)
    (values : Vector (Exact K) 45) :
    ∃ score, forest.score? values = some (.number score) ∧ 0 ≤ score ∧ score ≤ 100 := by
  have hasTrees : forest.trees ≠ [] := by simpa using nonempty
  obtain ⟨p, -, -, -, nonneg, atMost, score⟩ :=
    exists_probability values.toList hasTrees forest.vote
  exact ⟨100 * (1 - p), score values rfl, nonneg, atMost⟩

/-- Whatever an input is, a forest answers it unless it has no trees, with a probability that does
not depend on the order of the trees or on how often all of them are asked. The score of a whole
summary is what the probability leaves of a hundred. The two rules agree on trees that are sure of
all their answers. -/
theorem probability?_independent_of_order (trees : List (Tree (Exact K))) (input : List (Exact K)) :
    let probability? (vote : Vote) (trees : List (Tree (Exact K))) :=
      (⟨trees, vote⟩ : Forest (Exact K)).probability? input
    (∀ vote, probability? vote trees = none ↔ trees = []) ∧
      (trees ≠ [] → ∀ vote, ∃ p : K, probability? vote trees = some (.number p) ∧
        0 ≤ p ∧ p ≤ 1 ∧ 0 ≤ 100 * (1 - p) ∧ 100 * (1 - p) ≤ 100 ∧
        ∀ values : Vector (Exact K) 45, values.toList = input →
          (⟨trees, vote⟩ : Forest (Exact K)).score? values = some (.number (100 * (1 - p)))) ∧
      (∀ vote others, others.Perm trees → probability? vote others = probability? vote trees) ∧
      (∀ vote times, times ≠ 0 →
        probability? vote (List.replicate times trees).flatten = probability? vote trees) ∧
      ((∀ tree ∈ trees, tree.IsDecided) →
        probability? .mean trees = probability? .majority trees) :=
  ⟨probability?_eq_none_iff trees input, fun nonempty => exists_probability input nonempty,
    fun vote _ reordered => probability?_perm input reordered vote,
    fun vote _ asked => probability?_flatten_replicate trees input asked vote,
    probability?_of_decided input⟩

/-- Two trees that are sure of their answers, in either order and asked three times, on an input
whose only value is undefined. -/
theorem probability?_independent_of_order_two_trees :
    let stump : Tree (Exact ℚ) :=
      ⟨#[.split 0 (.number (-70)) 1 2, .leaf (.number 0), .leaf (.number 1)], by decide +kernel⟩
    let stub : Tree (Exact ℚ) := ⟨#[.leaf (.number 0)], by decide +kernel⟩
    let input : List (Exact ℚ) := [.undefined]
    let probability? (vote : Vote) (trees : List (Tree (Exact ℚ))) :=
      (⟨trees, vote⟩ : Forest (Exact ℚ)).probability? input
    (∃ p : ℚ, probability? .mean [stump, stub] = some (.number p) ∧ 0 ≤ p ∧ p ≤ 1) ∧
      probability? .mean [stub, stump] = probability? .mean [stump, stub] ∧
      probability? .mean [stump, stub, stump, stub, stump, stub] =
        probability? .mean [stump, stub] ∧
      probability? .mean [stump, stub] = probability? .majority [stump, stub] := by
  intro stump stub input probability?
  have decided : ∀ tree ∈ [stump, stub], tree.IsDecided := by
    simp [stump, stub, Tree.IsDecided]
  obtain ⟨-, range, order, repetition, agreement⟩ :=
    probability?_independent_of_order [stump, stub] input
  obtain ⟨p, answer, nonneg, le_one, -⟩ := range (by simp) .mean
  exact ⟨⟨p, answer, nonneg, le_one⟩, order .mean _ (.swap _ _ _),
    repetition .mean 3 (by decide), agreement decided⟩

end Forest

end LinkQuality
