import LinkQuality.Forest.Bundle
import LinkQuality.Proofs.Exact
import Mathlib.Tactic.SplitIfs

/-!
# Probabilities at leaves

A table of nodes is only made a tree if the probability at each leaf lies between zero and one. So
does every probability that a descent ends with.

## Main definitions

* `Exact.IsProbability`: whether a value is a number between zero and one

## Main results

* `Tree.nodeFault?_eq_none`: the nodes of a tree are sound
* `Tree.within_of_leaf`, `Tree.within_of_descend?`: what is said at leaves
-/

namespace LinkQuality

namespace Tree

variable {α : Type} [Scalar α]

/-- No node of a tree has a fault of its own. -/
theorem nodeFault?_eq_none (tree : Tree α) {place : ℕ} {node : Node α}
    (here : tree.nodes[place]? = some node) : nodeFault? tree.nodes.size place node = none := by
  have faultless := tree.faultless
  simp only [fault?] at faultless
  split_ifs at faultless
  split at faultless
  case h_1 fault unsound => cases faultless
  case h_2 sound =>
    -- The first unsound node is searched for, and there is none.
    have listed : (node, place) ∈ tree.nodes.toList.zipIdx := by
      rw [List.mk_mem_zipIdx_iff_getElem?, Array.getElem?_toList]
      exact here
    exact List.findSome?_eq_none_iff.mp sound (node, place) listed

/-- The probability at a leaf is one. -/
theorem within_of_leaf (tree : Tree α) {place : ℕ} {probability : α}
    (here : tree.nodes[place]? = some (.leaf probability)) :
    Scalar.within 0 1 probability = true := by
  have sound := tree.nodeFault?_eq_none here
  rw [nodeFault?] at sound
  split_ifs at sound with within
  exact within

/-- Wherever a descent ends, it ends with the probability at a leaf. -/
theorem within_of_descend? (tree : Tree α) (input : List α) {probability : α} {limit place : ℕ}
    (ends : descend? tree.nodes input limit place = some probability) :
    Scalar.within 0 1 probability = true := by
  induction limit generalizing place with
  | zero => cases ends
  | succ limit ih =>
    rw [descend?] at ends
    split at ends
    case h_1 => cases ends
    case h_2 value here =>
      obtain rfl := Option.some.inj ends
      exact tree.within_of_leaf here
    case h_3 => exact ih ends

end Tree

variable {K : Type} [Field K] [LinearOrder K] [FloorRing K]

/-- Whether a value is a number between zero and one. -/
def Exact.IsProbability (x : Exact K) : Prop := ∃ p, x = .number p ∧ 0 ≤ p ∧ p ≤ 1

theorem Exact.isProbability_of_within {x : Exact K} (within : Scalar.within 0 1 x = true) :
    x.IsProbability := by
  simp only [Scalar.within, Bool.and_eq_true, decide_eq_true_eq] at within
  obtain ⟨p, rfl, nonneg⟩ := Exact.nonneg_iff.mp within.1
  exact ⟨p, rfl, nonneg, by simpa using within.2⟩

end LinkQuality
