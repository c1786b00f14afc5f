import LinkQuality.Binary64.Arithmetic

/-!
# The order of floating-point numbers

Comparing two numbers of double precision the other way round turns the result around, and undefined
values stay incomparable. So no two numbers are below each other, and of two that are defined the
one that is not below the other is at least as large.
-/

namespace LinkQuality.Binary64

open Float.Model

theorem compare_swap (x y : UnpackedFloat) : y.compare x = (x.compare y).map Ordering.swap := by
  cases x with
  | notANumber => cases y <;> rfl
  | infinity sign =>
    cases y with
    | infinity sign' => cases sign <;> cases sign' <;> rfl
    | notANumber => cases sign <;> rfl
    | zero => cases sign <;> rfl
    | finite => cases sign <;> rfl
  | zero sign =>
    cases y with
    | infinity sign' => cases sign' <;> rfl
    | notANumber => rfl
    | zero => rfl
    | finite sign' => cases sign' <;> rfl
  | finite sign significand exponent =>
    cases y with
    | infinity sign' => cases sign' <;> rfl
    | notANumber => rfl
    | zero => cases sign <;> rfl
    | finite sign' significand' exponent' =>
      -- Of two numbers of one sign the exponent is compared first, then the significand.
      have sizes : (compare exponent' exponent).then (compare significand' significand) =
          ((compare exponent exponent').then (compare significand significand')).swap := by
        rw [Ordering.swap_then, Int.compare_swap, Nat.compare_swap]
      cases sign with
      | negative =>
        cases sign' with
        | negative => exact congrArg (fun sizes => some sizes.swap) sizes
        | positive => rfl
      | positive =>
        cases sign' with
        | negative => rfl
        | positive => exact congrArg some sizes

theorem lt_iff {x y : Float} :
    x < y ↔ x.toModel.unpack.compare y.toModel.unpack = some .lt := by
  change Float.lt x y = true ↔ _
  rw [Float.lt, decide_eq_true_eq]
  exact beq_iff_eq

theorem lt_asymm {x y : Float} (below : x < y) : ¬ y < x := by
  rw [lt_iff] at below ⊢
  rw [compare_swap, below]
  decide

theorem not_lt_self (x : Float) : ¬ x < x := fun below => lt_asymm below below

theorem le_iff {x y : Float} :
    x ≤ y ↔ (x.toModel.unpack.compare y.toModel.unpack).any (·.isLE) = true := by
  change Float.le x y = true ↔ _
  rw [Float.le, decide_eq_true_eq]
  rfl

theorem not_lt_of_le {x y : Float} (atMost : x ≤ y) : ¬ y < x := by
  rw [le_iff] at atMost
  rw [lt_iff, compare_swap]
  cases compared : x.toModel.unpack.compare y.toModel.unpack with
  | none => simp
  | some order => cases order <;> simp_all

/-- Undefined values are incomparable, and nothing else is. -/
theorem compare_eq_none_iff {x y : UnpackedFloat} :
    x.compare y = none ↔ x.isNaN = true ∨ y.isNaN = true := by
  cases x with
  | notANumber => exact iff_of_true (by cases y <;> rfl) (.inl rfl)
  | infinity sign | zero sign | finite sign =>
    cases y with
    | notANumber => exact iff_of_true (by cases sign <;> rfl) (.inr rfl)
    | infinity sign' | zero sign' | finite sign' =>
      refine iff_of_false ?_ fun undefined => undefined.elim Bool.noConfusion Bool.noConfusion
      cases sign <;> cases sign' <;> exact Option.some_ne_none _

/-- A number is at most another one if that is not below it and both are defined. -/
theorem le_iff_not_lt {x y : Float} :
    y ≤ x ↔ ¬ x < y ∧ x.isNaN = false ∧ y.isNaN = false := by
  have undefined : x.toModel.unpack.compare y.toModel.unpack = none ↔
      x.isNaN = true ∨ y.isNaN = true := compare_eq_none_iff
  rw [le_iff, lt_iff, compare_swap]
  cases compared : x.toModel.unpack.compare y.toModel.unpack with
  | none =>
    refine iff_of_false Bool.false_ne_true fun both => ?_
    rcases undefined.mp compared with isNaN | isNaN
    · exact Bool.noConfusion (isNaN.symm.trans both.2.1)
    · exact Bool.noConfusion (isNaN.symm.trans both.2.2)
  | some order => cases order <;> simp_all

end LinkQuality.Binary64
