import LinkQuality.Proofs.Binary64.Line
import LinkQuality.Proofs.Exact

/-!
# Ordered scalars

Most of what is decided about a score is decided by comparing it. What comparisons need is little:
any two defined values can be compared, and at most is transitive. That is true of exact numbers and
of double precision.

Scores are computed from quantities that are not negative, and are expected not to be negative
themselves. For this it is not necessary that results are exact. Rounding changes no sign, and what
is added to a number of at least zero does not make it less.

## Main definitions

* `Scalar.IsOrdered`: scalars whose defined values are ordered
* `Scalar.KeepsSigns`: ordered scalars whose operations keep signs as those of numbers do
-/

namespace LinkQuality

namespace Scalar

/-- Scalars whose defined values are totally ordered, so that equally large ones may differ. -/
class IsOrdered (α : Type) [Scalar α] : Prop where
  le_trans {x y z : α} (x_le_y : x ≤ y) (y_le_z : y ≤ z) : x ≤ z
  le_total {x y : α} (definedX : isUndefined x = false) (definedY : isUndefined y = false) :
    x ≤ y ∨ y ≤ x
  lt_iff_not_le {x y : α} : x < y ↔ ¬ y ≤ x ∧ isUndefined x = false ∧ isUndefined y = false
  defined_of_le {x y : α} (x_le_y : x ≤ y) : isUndefined x = false ∧ isUndefined y = false

/-- Ordered scalars whose operations keep the signs that the results would have without rounding. -/
class KeepsSigns (α : Type) [Scalar α] : Prop extends IsOrdered α where
  zero_le_one : (0 : α) ≤ 1
  le_add_right {x y : α} (x_nonneg : 0 ≤ x) (y_nonneg : 0 ≤ y) : x ≤ x + y
  sub_one_nonneg {x : α} (one_le : 1 ≤ x) : 0 ≤ x - 1
  not_mul_lt_zero {x y : α} (hx : ¬ x < 0) (hy : ¬ y < 0) : ¬ x * y < 0
  not_div_lt_zero {x y : α} (hx : ¬ x < 0) (hy : 0 < y) : ¬ x / y < 0
  one_le_of_whole_beq {x y : α} (x_nonneg : 0 ≤ x) (one_le : 1 ≤ y)
    (same : (whole .towardZero x == whole .towardZero y) = true) : 1 ≤ x

section Order

variable {α : Type} [Scalar α] [IsOrdered α] {x y z : α}

protected theorem not_le_of_lt (below : x < y) : ¬ y ≤ x := (IsOrdered.lt_iff_not_le.mp below).1

protected theorem not_lt_of_le (atMost : x ≤ y) : ¬ y < x :=
  fun below => Scalar.not_le_of_lt below atMost

protected theorem le_of_lt (below : x < y) : x ≤ y := by
  obtain ⟨notAtMost, definedX, definedY⟩ := IsOrdered.lt_iff_not_le.mp below
  exact (IsOrdered.le_total definedX definedY).resolve_right notAtMost

protected theorem not_lt_of_lt (below : x < y) : ¬ y < x :=
  Scalar.not_lt_of_le (Scalar.le_of_lt below)

protected theorem lt_of_lt_of_le (x_lt_y : x < y) (y_le_z : y ≤ z) : x < z := by
  obtain ⟨notAtMost, definedX, -⟩ := IsOrdered.lt_iff_not_le.mp x_lt_y
  refine IsOrdered.lt_iff_not_le.mpr ⟨fun z_le_x => ?_, definedX,
    (IsOrdered.defined_of_le y_le_z).2⟩
  exact notAtMost (IsOrdered.le_trans y_le_z z_le_x)

protected theorem lt_of_le_of_lt (x_le_y : x ≤ y) (y_lt_z : y < z) : x < z := by
  obtain ⟨notAtMost, -, definedZ⟩ := IsOrdered.lt_iff_not_le.mp y_lt_z
  refine IsOrdered.lt_iff_not_le.mpr
    ⟨fun z_le_x => ?_, (IsOrdered.defined_of_le x_le_y).1, definedZ⟩
  exact notAtMost (IsOrdered.le_trans z_le_x x_le_y)

/-- Two values that compare with zero compare with each other. -/
protected theorem lt_or_le (x_nonneg : 0 ≤ x) (y_nonneg : 0 ≤ y) : x < y ∨ y ≤ x := by
  have definedX := (IsOrdered.defined_of_le x_nonneg).2
  have definedY := (IsOrdered.defined_of_le y_nonneg).2
  by_cases atMost : y ≤ x
  · exact .inr atMost
  · exact .inl (IsOrdered.lt_iff_not_le.mpr ⟨atMost, definedX, definedY⟩)

end Order

section Signs

variable {α : Type} [Scalar α] [KeepsSigns α] {x y : α}

/-- A defined value that is not below zero is at least zero. -/
theorem nonneg_of_not_lt_zero (notBelow : ¬ x < 0) (defined : isUndefined x = false) : 0 ≤ x := by
  have definedZero : isUndefined (0 : α) = false :=
    (IsOrdered.defined_of_le KeepsSigns.zero_le_one).1
  by_contra notAtLeast
  exact notBelow (IsOrdered.lt_iff_not_le.mpr ⟨notAtLeast, defined, definedZero⟩)

/-- A value above one that is not below zero is above zero. -/
theorem pos_of_lt (notBelow : ¬ x < 0) (x_lt_y : x < y) : 0 < y := by
  have definedX := (IsOrdered.lt_iff_not_le.mp x_lt_y).2.1
  exact Scalar.lt_of_le_of_lt (nonneg_of_not_lt_zero notBelow definedX) x_lt_y

/-- The smaller of two values is at least zero if one of them is, and the other one is not below
zero. It may be undefined, and is then not selected. -/
theorem lesser_nonneg (hx : ¬ x < 0) (hy : 0 ≤ y) : 0 ≤ lesser x y := by
  unfold lesser
  split_ifs with below undefined
  · exact hy
  · exact hy
  · exact nonneg_of_not_lt_zero hx (Bool.eq_false_iff.mpr undefined)

end Signs

/-! ### Double precision -/

instance : KeepsSigns Float where
  le_trans := Binary64.le_trans
  le_total := Binary64.le_total
  lt_iff_not_le := Binary64.lt_iff_not_le
  defined_of_le x_le_y := (Binary64.le_iff_not_lt.mp x_le_y).2.symm
  zero_le_one := Binary64.zero_le_one
  le_add_right := Binary64.le_add_right
  sub_one_nonneg := Binary64.sub_one_nonneg
  not_mul_lt_zero := Binary64.not_mul_lt_zero
  not_div_lt_zero := Binary64.not_div_lt_zero
  one_le_of_whole_beq := Binary64.one_le_of_whole_beq

end Scalar

/-! ### Exact numbers -/

namespace Exact

variable {K : Type} [Field K] [LinearOrder K] [FloorRing K]

instance : Scalar.IsOrdered (Exact K) where
  le_trans := le_trans
  le_total {x y} definedX definedY := by
    cases x with
    | undefined => exact Bool.noConfusion definedX
    | number a =>
      cases y with
      | undefined => exact Bool.noConfusion definedY
      | number b => exact LinearOrder.le_total a b
  lt_iff_not_le {x y} := by
    cases x with
    | undefined => exact iff_of_false id fun both => Bool.noConfusion both.2.1
    | number a =>
      cases y with
      | undefined => exact iff_of_false id fun both => Bool.noConfusion both.2.2
      | number b => exact not_le.symm.trans (and_iff_left ⟨rfl, rfl⟩).symm
  defined_of_le x_le_y := by
    obtain ⟨a, b, rfl, rfl, -⟩ := le_iff.mp x_le_y
    exact ⟨rfl, rfl⟩

theorem not_lt_zero_iff {x : Exact K} : ¬ x < 0 ↔ x = undefined ∨ 0 ≤ x := by
  cases x with
  | undefined => exact iff_of_true id (.inl rfl)
  | number a => simp

variable [IsStrictOrderedRing K]

instance : Scalar.KeepsSigns (Exact K) where
  zero_le_one := nonneg_iff.mpr ⟨1, one_eq, zero_le_one⟩
  le_add_right x_nonneg y_nonneg := by
    obtain ⟨a, rfl, -⟩ := nonneg_iff.mp x_nonneg
    obtain ⟨b, rfl, b_nonneg⟩ := nonneg_iff.mp y_nonneg
    exact le_add_of_nonneg_right b_nonneg
  sub_one_nonneg one_le := by
    obtain ⟨a, rfl, one_le_a⟩ := one_le_iff.mp one_le
    rw [one_eq, number_sub]
    exact nonneg_iff.mpr ⟨a - 1, rfl, sub_nonneg.mpr one_le_a⟩
  not_mul_lt_zero hx hy := by
    rcases not_lt_zero_iff.mp hx with rfl | x_nonneg
    · exact id
    · obtain ⟨a, rfl, a_nonneg⟩ := nonneg_iff.mp x_nonneg
      rcases not_lt_zero_iff.mp hy with rfl | y_nonneg
      · exact id
      · obtain ⟨b, rfl, b_nonneg⟩ := nonneg_iff.mp y_nonneg
        exact not_lt_zero_iff.mpr (.inr (nonneg_iff.mpr ⟨a * b, rfl, mul_nonneg a_nonneg b_nonneg⟩))
  not_div_lt_zero hx hy := by
    obtain ⟨b, rfl, b_pos⟩ := pos_iff.mp hy
    rcases not_lt_zero_iff.mp hx with rfl | x_nonneg
    · exact id
    · obtain ⟨a, rfl, a_nonneg⟩ := nonneg_iff.mp x_nonneg
      rw [number_div b_pos.ne']
      exact not_lt_zero_iff.mpr (.inr (nonneg_iff.mpr ⟨a / b, rfl, div_nonneg a_nonneg b_pos.le⟩))
  one_le_of_whole_beq x_nonneg one_le same := by
    obtain ⟨a, rfl, a_nonneg⟩ := nonneg_iff.mp x_nonneg
    obtain ⟨b, rfl, one_le_b⟩ := one_le_iff.mp one_le
    have floor_eq : ⌊a⌋ = ⌊b⌋ := by
      simpa [wholePart_towardZero a_nonneg, wholePart_towardZero (zero_le_one.trans one_le_b)]
        using same
    have one_le_floor : 1 ≤ ⌊a⌋ := floor_eq ▸ Int.le_floor.mpr (by simpa using one_le_b)
    exact one_le_iff.mpr ⟨a, rfl, by simpa using Int.le_floor.mp one_le_floor⟩

end Exact

end LinkQuality
