import LinkQuality.Proofs.Binary64.Operations

/-!
# Undefined values of double precision

Every operation on an undefined value gives an undefined one, and no comparison holds of it. Other
values are rarely undefined: a quotient of infinities is, but a sum of whole numbers never, however
large they are.

## Main results

* `isNaN_add_left`, `isNaN_div_right`, …: the operations pass undefined values on
* `beq_eq_false_of_isNaN`, `not_le_of_isNaN`: no comparison holds of them
* `isNaN_ofNat_add_ofNat`: the sum of two counts is defined
-/

namespace LinkQuality.Binary64

open Float.Model UnpackedFloat

variable {x y z : Float} {form form' : UnpackedFloat} {s t : ℚ}

/-! ### Operations on undefined values -/

theorem unpack_of_isNaN (undefined : x.isNaN = true) :
    x.toModel.unpack = .notANumber := by
  change x.toModel.unpack.isNaN = true at undefined
  cases form : x.toModel.unpack with
  | notANumber => rfl
  | infinity | zero | finite =>
    rw [form] at undefined
    exact Bool.noConfusion undefined

/-- What is computed as no number is undefined. -/
theorem isNaN_of_unpacked
    (computed : z.toModel.unpack =
      UnpackedFloat.unpack .binary64 (UnpackedFloat.pack .binary64 form))
    (noNumber : form = .notANumber) : z.isNaN = true := by
  change z.toModel.unpack.isNaN = true
  rw [computed, noNumber, unpack_pack_notANumber]
  rfl

theorem isNaN_add_left (undefined : x.isNaN = true) (y : Float) : (x + y).isNaN = true := by
  refine isNaN_of_unpacked rfl ?_
  rw [unpack_of_isNaN undefined]
  rfl

theorem isNaN_add_right (x : Float) (undefined : y.isNaN = true) : (x + y).isNaN = true := by
  refine isNaN_of_unpacked rfl ?_
  rw [unpack_of_isNaN undefined]
  cases x.toModel.unpack <;> rfl

theorem isNaN_sub_right (x : Float) (undefined : y.isNaN = true) : (x - y).isNaN = true := by
  refine isNaN_of_unpacked rfl ?_
  rw [unpack_of_isNaN undefined]
  cases x.toModel.unpack <;> rfl

theorem isNaN_mul_left (undefined : x.isNaN = true) (y : Float) : (x * y).isNaN = true := by
  refine isNaN_of_unpacked rfl ?_
  rw [unpack_of_isNaN undefined]
  rfl

theorem isNaN_mul_right (x : Float) (undefined : y.isNaN = true) : (x * y).isNaN = true := by
  refine isNaN_of_unpacked rfl ?_
  rw [unpack_of_isNaN undefined]
  cases x.toModel.unpack <;> rfl

theorem isNaN_div_right (x : Float) (undefined : y.isNaN = true) : (x / y).isNaN = true := by
  refine isNaN_of_unpacked rfl ?_
  rw [unpack_of_isNaN undefined]
  cases x.toModel.unpack <;> rfl

/-- Infinities have no quotient. -/
theorem isNaN_div_of_infinity {sign sign' : Sign}
    (first : x.toModel.unpack = .infinity sign) (second : y.toModel.unpack = .infinity sign') :
    (x / y).isNaN = true := by
  refine isNaN_of_unpacked rfl ?_
  rw [first, second]
  rfl

/-! ### Comparisons with undefined values -/

theorem not_lt_of_isNaN (undefined : x.isNaN = true) (y : Float) : ¬ x < y := by
  rw [lt_iff, compare_eq_none_iff.mpr (.inl undefined)]
  exact Option.some_ne_none _ ∘ Eq.symm

theorem not_le_of_isNaN (undefined : x.isNaN = true) (y : Float) : ¬ x ≤ y ∧ ¬ y ≤ x := by
  rw [le_iff_not_lt, le_iff_not_lt, undefined]
  simp

theorem beq_eq_false_of_isNaN (undefined : x.isNaN = true) (y : Float) : (x == y) = false := by
  have incomparable : x.toModel.unpack.compare y.toModel.unpack = none :=
    compare_eq_none_iff.mpr (.inl undefined)
  change (x.toModel.unpack.compare y.toModel.unpack == some .eq) = false
  rw [incomparable]
  rfl

/-! ### Sums that are defined -/

/-- What rounds to a number, however large, is packed as something defined. -/
theorem Rounds.isNaN_unpack_pack {sign : Sign} {q : ℚ} (rounds : Rounds sign q form) :
    (UnpackedFloat.unpack .binary64 (UnpackedFloat.pack .binary64 form)).isNaN = false := by
  by_cases fits : rounded q < 2 ^ 1024
  · have isValue := rounds.value?_unpack_pack fits
    cases packed : UnpackedFloat.unpack .binary64 (UnpackedFloat.pack .binary64 form) with
    | notANumber =>
      rw [packed] at isValue
      cases isValue
    | infinity | zero | finite => rfl
  · rw [rounds.unpack_pack_of_not_lt fits]
    rfl

/-- A whole number of some unit is normalized to something defined. -/
theorem isNaN_normalize (n e : ℤ) (sign : Sign) :
    (UnpackedFloat.unpack .binary64
      (UnpackedFloat.pack .binary64 (UnpackedFloat.normalize .binary64 n e sign))).isNaN =
        false := by
  rcases lt_trichotomy n 0 with negative | rfl | positive
  · rw [UnpackedFloat.normalize, Int.compare_eq_lt.mpr negative]
    exact (rounds_round .negative (by omega) e).isNaN_unpack_pack
  · exact (HasForm.zero sign).unpack_pack ▸ rfl
  · rw [UnpackedFloat.normalize, Int.compare_eq_gt.mpr positive]
    exact (rounds_round .positive (by omega) e).isNaN_unpack_pack

/-- The sum of two numbers is defined, if it is in the range or not. -/
theorem HasForm.isNaN_add (first : HasForm form s) (second : HasForm form' t) :
    (UnpackedFloat.unpack .binary64
      (UnpackedFloat.pack .binary64 (UnpackedFloat.add .binary64 form form'))).isNaN = false := by
  cases first with
  | zero sign =>
    cases second with
    | zero sign' => cases sign <;> cases sign' <;> rfl
    | finite sign' nonzero' canonical' most' =>
      have self := HasForm.finite sign' nonzero' canonical' most'
      exact (congrArg UnpackedFloat.isNaN self.unpack_pack).trans self.isNaN_eq
  | finite sign nonzero canonical most =>
    cases second with
    | zero sign' =>
      have self := HasForm.finite sign nonzero canonical most
      exact (congrArg UnpackedFloat.isNaN self.unpack_pack).trans self.isNaN_eq
    | finite sign' => exact isNaN_normalize _ _ _

/-- A count is a number or, if it is out of range, the positive infinity. -/
theorem hasForm_ofNat_or_infinity (n : ℕ) :
    (∃ s, HasForm (Float.ofNat n).toModel.unpack s) ∨
      (Float.ofNat n).toModel.unpack = .infinity .positive := by
  by_cases fits : rounded n < 2 ^ 1024
  · exact .inl ⟨_, (hasValue_ofNat fits).hasForm⟩
  · exact .inr (unpack_ofNat_of_not_lt fits)

/-- The sum of two counts is defined, for neither of them is the negative infinity. -/
theorem isNaN_ofNat_add_ofNat (m n : ℕ) : (Float.ofNat m + Float.ofNat n).isNaN = false := by
  change (UnpackedFloat.unpack .binary64 (UnpackedFloat.pack .binary64 (UnpackedFloat.add .binary64
    (Float.ofNat m).toModel.unpack (Float.ofNat n).toModel.unpack))).isNaN = false
  have first := hasForm_ofNat_or_infinity m
  have second := hasForm_ofNat_or_infinity n
  generalize (Float.ofNat m).toModel.unpack = form at first ⊢
  generalize (Float.ofNat n).toModel.unpack = form' at second ⊢
  have infinite := congrArg UnpackedFloat.isNaN (unpack_packedInfinity .positive)
  rcases first with ⟨s, first⟩ | rfl
  · rcases second with ⟨t, second⟩ | rfl
    · exact first.isNaN_add second
    · cases first <;> exact infinite
  · rcases second with ⟨t, second⟩ | rfl
    · cases second <;> exact infinite
    · exact infinite

end LinkQuality.Binary64
