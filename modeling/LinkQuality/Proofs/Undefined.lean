import LinkQuality.Proofs.Binary64.Undefined
import LinkQuality.Proofs.Exact

/-!
# Undefined values

The rules never ask on the way whether a quantity could be measured. They compute with it as with
any other and rely on the scalars to remember: what is computed from an undefined value is undefined
as well, and no comparison holds of it. Double precision remembers, and so do exact numbers.

## Main definitions

* `Scalar.RemembersUndefined`: the scalars of which this is true
-/

namespace LinkQuality

/-- Scalars in which what is computed from an undefined value is undefined, and in which nothing
compares with one. -/
class Scalar.RemembersUndefined (α : Type) [Scalar α] [Undefined α] : Prop where
  isUndefined_undefined : isUndefined (undefined : α) = true
  isUndefined_add_left {x : α} (isUndefined_x : isUndefined x = true) (y : α) :
    isUndefined (x + y) = true
  isUndefined_add_right (x : α) {y : α} (isUndefined_y : isUndefined y = true) :
    isUndefined (x + y) = true
  isUndefined_sub_right (x : α) {y : α} (isUndefined_y : isUndefined y = true) :
    isUndefined (x - y) = true
  isUndefined_mul_left {x : α} (isUndefined_x : isUndefined x = true) (y : α) :
    isUndefined (x * y) = true
  isUndefined_mul_right (x : α) {y : α} (isUndefined_y : isUndefined y = true) :
    isUndefined (x * y) = true
  isUndefined_div_right (x : α) {y : α} (isUndefined_y : isUndefined y = true) :
    isUndefined (x / y) = true
  beq_eq_false {x : α} (isUndefined_x : isUndefined x = true) (y : α) : (x == y) = false
  not_le {x : α} (isUndefined_x : isUndefined x = true) (y : α) : ¬ x ≤ y ∧ ¬ y ≤ x

instance : Scalar.RemembersUndefined Float where
  isUndefined_undefined := by decide +kernel
  isUndefined_add_left := Binary64.isNaN_add_left
  isUndefined_add_right x := Binary64.isNaN_add_right x
  isUndefined_sub_right x := Binary64.isNaN_sub_right x
  isUndefined_mul_left := Binary64.isNaN_mul_left
  isUndefined_mul_right x := Binary64.isNaN_mul_right x
  isUndefined_div_right x := Binary64.isNaN_div_right x
  beq_eq_false := Binary64.beq_eq_false_of_isNaN
  not_le := Binary64.not_le_of_isNaN

namespace Exact

variable {K : Type} [Field K] [LinearOrder K] [FloorRing K]

theorem isUndefined_iff {x : Exact K} : Scalar.isUndefined x = true ↔ x = undefined := by
  cases x with
  | number x => exact iff_of_false Bool.false_ne_true (fun equal => nomatch equal)
  | undefined => exact iff_of_true rfl rfl

instance : Scalar.RemembersUndefined (Exact K) where
  isUndefined_undefined := rfl
  isUndefined_add_left isUndefined_x y := by
    rw [isUndefined_iff.mp isUndefined_x]
    rfl
  isUndefined_add_right x y isUndefined_y := by
    rw [isUndefined_iff.mp isUndefined_y]
    cases x <;> rfl
  isUndefined_sub_right x y isUndefined_y := by
    rw [isUndefined_iff.mp isUndefined_y]
    cases x <;> rfl
  isUndefined_mul_left isUndefined_x y := by
    rw [isUndefined_iff.mp isUndefined_x]
    rfl
  isUndefined_mul_right x y isUndefined_y := by
    rw [isUndefined_iff.mp isUndefined_y]
    cases x <;> rfl
  isUndefined_div_right x y isUndefined_y := by
    rw [isUndefined_iff.mp isUndefined_y]
    cases x <;> rfl
  beq_eq_false isUndefined_x y := by
    rw [isUndefined_iff.mp isUndefined_x]
    cases y <;> rfl
  not_le isUndefined_x y := by
    rw [isUndefined_iff.mp isUndefined_x]
    cases y <;> exact ⟨id, id⟩

end Exact

end LinkQuality
