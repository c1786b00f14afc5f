import LinkQuality.Proofs.Binary64.Undefined
import Mathlib.Order.WithBot

/-!
# Double precision as a line

The numbers of double precision lie on a line that ends in two infinities. Comparing two of them
compares their places on it, and only undefined values have none. So they are ordered as numbers
should be, infinite ones included.

Rounding keeps signs. No product or quotient of numbers that are not below zero is below zero, and
adding one of them to another does not make it less, even where the result is out of range.

## Main definitions

* `HasPlace`: the place of a number on the line

## Main results

* `HasPlace.lt_iff`, `HasPlace.le_iff`, `exists_hasPlace_iff`: the order of places
* `not_mul_lt_zero`, `not_div_lt_zero`, `le_add_right`: the signs of results
* `one_le_of_whole_beq`: whole parts that are equal
-/

namespace LinkQuality.Binary64

open Float.Model UnpackedFloat

variable {x y z : Float} {form form' : UnpackedFloat} {s t : ℚ} {p q : WithBot (WithTop ℚ)}

/-! ### Places -/

/-- The place of a number on the line from one infinity to the other. -/
inductive HasPlace (x : Float) : WithBot (WithTop ℚ) → Prop
  | least (infinite : x.toModel.unpack = .infinity .negative) : HasPlace x ⊥
  | greatest (infinite : x.toModel.unpack = .infinity .positive) : HasPlace x ⊤
  | value {s : ℚ} (hasValue : HasValue x s) : HasPlace x ((s : WithTop ℚ) : WithBot (WithTop ℚ))

/-- Comparing numbers compares their places. -/
theorem HasPlace.lt_iff (hx : HasPlace x p) (hy : HasPlace y q) : x < y ↔ p < q := by
  rw [Binary64.lt_iff]
  cases hx with
  | least infinite =>
    rw [infinite]
    cases hy with
    | least infinite' =>
      rw [infinite']
      exact iff_of_false (by decide) (lt_irrefl _)
    | greatest infinite' =>
      rw [infinite']
      exact iff_of_true rfl (by decide)
    | value hasValue =>
      rw [compare_swap, hasValue.hasForm.compare_infinity.1]
      exact iff_of_true rfl (WithBot.bot_lt_coe _)
  | greatest infinite =>
    rw [infinite]
    cases hy with
    | least infinite' =>
      rw [infinite']
      exact iff_of_false (by decide) not_lt_bot
    | greatest infinite' =>
      rw [infinite']
      exact iff_of_false (by decide) (lt_irrefl _)
    | value hasValue =>
      rw [hasValue.hasForm.compare_infinity.2]
      exact iff_of_false (by decide) not_top_lt
  | value hasValue =>
    cases hy with
    | least infinite' =>
      rw [infinite', hasValue.hasForm.compare_infinity.1]
      exact iff_of_false (by decide) not_lt_bot
    | greatest infinite' =>
      rw [infinite', compare_swap, hasValue.hasForm.compare_infinity.2]
      exact iff_of_true rfl (WithBot.coe_lt_coe.mpr (WithTop.coe_lt_top _))
    | value hasValue' =>
      rw [hasValue.hasForm.compare_eq_lt hasValue'.hasForm, WithBot.coe_lt_coe, WithTop.coe_lt_coe]

/-- Every number has a place, unless it is undefined. -/
theorem exists_hasPlace_iff : (∃ p, HasPlace x p) ↔ x.isNaN = false := by
  constructor
  · rintro ⟨p, infinite | infinite | hasValue⟩
    · exact congrArg UnpackedFloat.isNaN infinite
    · exact congrArg UnpackedFloat.isNaN infinite
    · exact hasValue.isNaN_eq
  · intro defined
    cases form : x.toModel.unpack with
    | notANumber =>
      have undefined : x.isNaN = true := congrArg UnpackedFloat.isNaN form
      exact Bool.noConfusion (defined.symm.trans undefined)
    | infinity sign =>
      cases sign with
      | negative => exact ⟨_, .least form⟩
      | positive => exact ⟨_, .greatest form⟩
    | zero sign => exact ⟨_, .value (congrArg value? form)⟩
    | finite sign => exact ⟨_, .value (congrArg value? form)⟩

theorem HasPlace.isNaN_eq (hx : HasPlace x p) : x.isNaN = false :=
  exists_hasPlace_iff.mp ⟨p, hx⟩

theorem HasPlace.le_iff (hx : HasPlace x p) (hy : HasPlace y q) : x ≤ y ↔ p ≤ q := by
  rw [le_iff_not_lt, hy.lt_iff hx, not_lt]
  exact and_iff_left ⟨hy.isNaN_eq, hx.isNaN_eq⟩

theorem exists_hasPlace_of_le (x_le_y : x ≤ y) :
    ∃ p q, HasPlace x p ∧ HasPlace y q ∧ p ≤ q := by
  obtain ⟨-, defined', defined⟩ := le_iff_not_lt.mp x_le_y
  obtain ⟨p, hx⟩ := exists_hasPlace_iff.mpr defined
  obtain ⟨q, hy⟩ := exists_hasPlace_iff.mpr defined'
  exact ⟨p, q, hx, hy, (hx.le_iff hy).mp x_le_y⟩

protected theorem le_trans (x_le_y : x ≤ y) (y_le_z : y ≤ z) : x ≤ z := by
  obtain ⟨p, q, hx, hy, p_le_q⟩ := exists_hasPlace_of_le x_le_y
  obtain ⟨-, r, -, hz, -⟩ := exists_hasPlace_of_le y_le_z
  exact (hx.le_iff hz).mpr (p_le_q.trans ((hy.le_iff hz).mp y_le_z))

protected theorem le_total (definedX : x.isNaN = false) (definedY : y.isNaN = false) :
    x ≤ y ∨ y ≤ x := by
  obtain ⟨p, hx⟩ := exists_hasPlace_iff.mpr definedX
  obtain ⟨q, hy⟩ := exists_hasPlace_iff.mpr definedY
  rw [hx.le_iff hy, hy.le_iff hx]
  exact LinearOrder.le_total p q

protected theorem lt_iff_not_le : x < y ↔ ¬ y ≤ x ∧ x.isNaN = false ∧ y.isNaN = false := by
  rw [le_iff_not_lt]
  constructor
  · intro below
    have incomparable : x.toModel.unpack.compare y.toModel.unpack = none ↔
        x.isNaN = true ∨ y.isNaN = true := compare_eq_none_iff
    have defined : ¬ (x.isNaN = true ∨ y.isNaN = true) := by
      rw [← incomparable, Binary64.lt_iff.mp below]
      exact Option.some_ne_none _
    rw [not_or, Bool.not_eq_true, Bool.not_eq_true] at defined
    exact ⟨fun atMost => atMost.1 below, defined⟩
  · rintro ⟨notAtMost, defined⟩
    by_contra notBelow
    exact notAtMost ⟨notBelow, defined⟩

theorem le_of_beq (same : (x == y) = true) : x ≤ y := by
  have equal : x.toModel.unpack.compare y.toModel.unpack = some .eq := eq_of_beq same
  rw [le_iff, equal]
  rfl

theorem ge_of_beq (same : (x == y) = true) : y ≤ x := by
  have equal : x.toModel.unpack.compare y.toModel.unpack = some .eq := eq_of_beq same
  rw [le_iff, compare_swap, equal]
  rfl

/-! ### Signs -/

/-- The unpacked forms of what is not below zero. -/
inductive IsNotBelow : UnpackedFloat → Prop
  | notANumber : IsNotBelow .notANumber
  | infinity : IsNotBelow (.infinity .positive)
  | zero (sign : Sign) : IsNotBelow (.zero sign)
  | finite {m : ℕ} {e : ℤ} (nonzero : 0 < m) (canonical : IsCanonical m e) :
      IsNotBelow (.finite .positive m e nonzero)

theorem not_lt_zero_iff : ¬ x < 0 ↔ IsNotBelow x.toModel.unpack := by
  change ¬ x < Float.ofNat 0 ↔ _
  rw [lt_iff, unpack_zero]
  cases form : x.toModel.unpack with
  | notANumber => exact iff_of_true (by decide) .notANumber
  | zero sign => exact iff_of_true (by cases sign <;> decide) (.zero sign)
  | infinity sign =>
    cases sign with
    | negative =>
      exact iff_of_false (fun notBelow => notBelow rfl) fun isNotBelow => nomatch isNotBelow
    | positive => exact iff_of_true (fun below => nomatch below) .infinity
  | finite sign m e nonzero =>
    cases sign with
    | negative =>
      exact iff_of_false (fun notBelow => notBelow rfl) fun isNotBelow => nomatch isNotBelow
    | positive =>
      have canonical := (isCanonical_of_unpack form).1
      exact iff_of_true (fun below => nomatch below) (.finite nonzero canonical)

/-- What a magnitude is rounded to is not below zero. -/
theorem Rounds.isNotBelow (rounds : Rounds .positive s form) : IsNotBelow form := by
  cases form with
  | notANumber | infinity => exact rounds.elim
  | zero sign => exact .zero sign
  | finite sign m e nonzero =>
    obtain ⟨rfl, -, canonical⟩ := rounds
    exact .finite nonzero canonical

namespace IsNotBelow

/-- Packing keeps the sign, also of a number that is out of range. -/
theorem unpack_pack (notBelow : IsNotBelow form) :
    IsNotBelow (UnpackedFloat.unpack .binary64 (UnpackedFloat.pack .binary64 form)) := by
  cases notBelow with
  | notANumber => exact .notANumber
  | infinity =>
    rw [unpack_packedInfinity]
    exact .infinity
  | zero sign =>
    rw [unpack_pack_zero]
    exact .zero sign
  | finite nonzero canonical =>
    rename_i m e
    -- An exponent that is too large makes the number infinite, with the same sign.
    by_cases most : e ≤ 971
    · rw [canonical.unpack_pack .positive nonzero most]
      exact .finite nonzero canonical
    · rw [unpack_pack_infinity .positive nonzero (by omega)]
      exact .infinity

theorem mul (first : IsNotBelow form) (second : IsNotBelow form') :
    IsNotBelow (UnpackedFloat.mul .binary64 form form') := by
  -- Only two finite numbers are multiplied and rounded, the other products are fixed.
  cases first with
  | notANumber => exact .notANumber
  | infinity =>
    cases second with
    | notANumber | zero => exact .notANumber
    | infinity | finite => exact .infinity
  | zero sign =>
    cases second with
    | notANumber | infinity => exact .notANumber
    | zero sign' => exact .zero (sign * sign')
    | finite => exact .zero (sign * .positive)
  | finite nonzero canonical =>
    cases second with
    | notANumber => exact .notANumber
    | infinity => exact .infinity
    | zero sign' => exact .zero (.positive * sign')
    | finite nonzero' canonical' =>
      exact (rounds_mul .positive nonzero nonzero' canonical canonical').isNotBelow

theorem div (first : IsNotBelow form) (second : IsNotBelow form')
    (nonzero : ∀ sign, form' ≠ .zero sign) :
    IsNotBelow (UnpackedFloat.div .binary64 form form') := by
  -- The divisor decides: an infinite one leaves zero, and zero is ruled out.
  cases second with
  | notANumber => cases first <;> exact .notANumber
  | zero sign => exact absurd rfl (nonzero sign)
  | infinity =>
    cases first with
    | notANumber | infinity => exact .notANumber
    | zero sign => exact .zero (sign / .positive)
    | finite => exact .zero .positive
  | finite nonzero' canonical' =>
    cases first with
    | notANumber => exact .notANumber
    | infinity => exact .infinity
    | zero sign => exact .zero (sign / .positive)
    | finite positive canonical =>
      exact (rounds_divCore .positive positive canonical.width nonzero').isNotBelow

end IsNotBelow

theorem not_mul_lt_zero (hx : ¬ x < 0) (hy : ¬ y < 0) : ¬ x * y < 0 :=
  not_lt_zero_iff.mpr ((not_lt_zero_iff.mp hx).mul (not_lt_zero_iff.mp hy)).unpack_pack

theorem not_div_lt_zero (hx : ¬ x < 0) (hy : 0 < y) : ¬ x / y < 0 := by
  have nonzero (sign : Sign) : y.toModel.unpack ≠ .zero sign := by
    intro isZero
    change Float.ofNat 0 < y at hy
    rw [lt_iff, unpack_zero, isZero] at hy
    cases hy
  have notBelow := not_lt_zero_iff.mp (lt_asymm hy)
  exact not_lt_zero_iff.mpr ((not_lt_zero_iff.mp hx).div notBelow nonzero).unpack_pack

/-! ### Sums -/

/-- A whole number of some unit is normalized to an infinity if it is out of range. -/
theorem unpack_normalize_of_not_fits (n e : ℤ) (sign : Sign) (nonneg : (0 : ℚ) ≤ n * 2 ^ e)
    (large : ¬ Fits (n * 2 ^ e)) :
    UnpackedFloat.unpack .binary64
        (UnpackedFloat.pack .binary64 (UnpackedFloat.normalize .binary64 n e sign)) =
      .infinity .positive := by
  have n_nonneg : (0 : ℚ) ≤ n := nonneg_of_mul_nonneg_left nonneg (two_zpow_pos e)
  obtain ⟨m, rfl⟩ := Int.eq_ofNat_of_zero_le (Int.cast_nonneg_iff.mp n_nonneg)
  have nonzero : 0 < m := by
    by_contra isZero
    obtain rfl : m = 0 := by omega
    exact large (by simpa using hasValue_zero.hasForm.fits)
  rw [UnpackedFloat.normalize, Int.compare_eq_gt.mpr (by omega), Int.toNat_natCast]
  rw [Int.cast_natCast, Fits, abs_of_pos (magnitude_pos nonzero e)] at large
  exact (rounds_round .positive nonzero e).unpack_pack_of_not_lt large

/-- A sum that is not negative and out of range is infinite. -/
theorem HasForm.unpack_add_of_not_fits (first : HasForm form s) (second : HasForm form' t)
    (nonneg : 0 ≤ s + t) (large : ¬ Fits (s + t)) :
    UnpackedFloat.unpack .binary64
        (UnpackedFloat.pack .binary64 (UnpackedFloat.add .binary64 form form')) =
      .infinity .positive := by
  cases first with
  | zero sign => exact absurd (by simpa using second.fits) large
  | finite sign nonzero canonical most =>
    cases second with
    | zero sign' =>
      exact absurd (by simpa using (HasForm.finite sign nonzero canonical most).fits) large
    | finite sign' nonzero' canonical' most' =>
      rw [signed_add_signed] at nonneg large
      exact unpack_normalize_of_not_fits _ _ .positive nonneg large

theorem HasForm.add_infinity (hasForm : HasForm form s) (sign : Sign) :
    UnpackedFloat.add .binary64 form (.infinity sign) = .infinity sign ∧
      UnpackedFloat.add .binary64 (.infinity sign) form = .infinity sign := by
  cases hasForm <;> exact ⟨rfl, rfl⟩

/-- A number of at least zero is finite, or the positive infinity. -/
theorem hasValue_or_infinity (nonneg : 0 ≤ x) :
    (∃ s, HasValue x s ∧ 0 ≤ s) ∨ x.toModel.unpack = .infinity .positive := by
  obtain ⟨p, q, -, hx, -⟩ := exists_hasPlace_of_le nonneg
  cases hx with
  | value hasValue => exact .inl ⟨_, hasValue, (hasValue_zero.le_iff hasValue).mp nonneg⟩
  | greatest infinite => exact .inr infinite
  | least infinite =>
    have isLeast := ((HasPlace.value hasValue_zero).le_iff (.least infinite)).mp nonneg
    exact absurd isLeast (WithBot.not_coe_le_bot _)

/-- Adding a number that is not below zero to another one does not make that less. -/
protected theorem le_add_right (hx : 0 ≤ x) (hy : 0 ≤ y) : x ≤ x + y := by
  have sum : (x + y).toModel.unpack = UnpackedFloat.unpack .binary64 (UnpackedFloat.pack .binary64
    (UnpackedFloat.add .binary64 x.toModel.unpack y.toModel.unpack)) := rfl
  have ofInfinite (infinite : UnpackedFloat.unpack .binary64 (UnpackedFloat.pack .binary64
      (UnpackedFloat.add .binary64 x.toModel.unpack y.toModel.unpack)) = .infinity .positive) :
      x ≤ x + y := by
    obtain ⟨-, p, -, place, -⟩ := exists_hasPlace_of_le hx
    exact (place.le_iff (.greatest (sum.trans infinite))).mpr le_top
  -- If one of the two is infinite, or the sum is too large, the sum is infinite.
  rcases hasValue_or_infinity hx with ⟨s, hasValue, s_nonneg⟩ | infinite
  · rcases hasValue_or_infinity hy with ⟨t, hasValue', t_nonneg⟩ | infinite'
    · have nonneg : 0 ≤ s + t := add_nonneg s_nonneg t_nonneg
      by_cases fits : Fits (s + t)
      · rw [hasValue.le_iff (hasValue.add hasValue' fits), nearest_of_nonneg nonneg]
        calc s = rounded s := by rw [← nearest_of_nonneg s_nonneg, hasValue.hasForm.nearest_eq]
          _ ≤ rounded (s + t) := rounded_mono s_nonneg (le_add_of_nonneg_right t_nonneg)
      · exact ofInfinite
          (hasValue.hasForm.unpack_add_of_not_fits hasValue'.hasForm nonneg fits)
    · apply ofInfinite
      rw [infinite', (hasValue.hasForm.add_infinity .positive).1]
      exact unpack_packedInfinity .positive
  · apply ofInfinite
    rcases hasValue_or_infinity hy with ⟨t, hasValue', -⟩ | infinite'
    · rw [infinite, (hasValue'.hasForm.add_infinity .positive).2]
      exact unpack_packedInfinity .positive
    · rw [infinite, infinite']
      exact unpack_packedInfinity .positive

protected theorem zero_le_one : (0 : Float) ≤ 1 :=
  (hasValue_zero.le_iff hasValue_one).mpr (zero_le_one' ℚ)

theorem sub_one_nonneg (one_le : 1 ≤ x) : 0 ≤ x - 1 := by
  have x_nonneg : 0 ≤ x := Binary64.le_trans Binary64.zero_le_one one_le
  rcases hasValue_or_infinity x_nonneg with ⟨s, hasValue, -⟩ | infinite
  · have one_le_s : 1 ≤ s := (hasValue_one.le_iff hasValue).mp one_le
    have nonneg : 0 ≤ s - 1 := sub_nonneg.mpr one_le_s
    have fits : Fits (s - 1) := hasValue.fits_sub_one (zero_lt_one.trans_le one_le_s)
    rw [hasValue_zero.le_iff (hasValue.sub hasValue_one fits), nearest_of_nonneg nonneg]
    exact rounded_nonneg nonneg
  · have difference := hasValue_one.infinity_sub infinite
    exact ((HasPlace.value hasValue_zero).le_iff (.greatest difference)).mpr le_top

/-! ### Whole parts -/

theorem whole_of_infinity {sign : Sign} (infinite : x.toModel.unpack = .infinity sign) :
    Scalar.whole .towardZero x = x := by
  have reading := parts_eq x
  rw [infinite] at reading
  change whole .towardZero x = x
  rw [whole, reading]
  rfl

theorem HasValue.whole_eq_zero (hasValue : HasValue x s) (nonneg : 0 ≤ s) (below : s < 1) :
    HasValue (Scalar.whole .towardZero x) 0 := by
  have reading := parts_eq x
  have hasForm := hasValue.hasForm
  generalize x.toModel.unpack = form at reading hasForm
  change HasValue (whole .towardZero x) 0
  rw [whole, reading]
  cases hasForm with
  | zero sign =>
    have magnitude : Parts.wholeMagnitude ⟨sign == .negative, 0, -1074⟩ .towardZero = 0 :=
      Nat.zero_div _
    simp only [Parts.ofUnpacked?, magnitude]
    split_ifs with isWhole isNegative
    · exact absurd isWhole (by decide)
    · rw [← neg_zero]
      exact hasValue_zero.neg
    · exact hasValue_zero
  | finite sign nonzero canonical most =>
    rename_i m e
    cases sign with
    | negative => exact absurd nonneg (neg_neg_of_pos (magnitude_pos nonzero e)).not_ge
    | positive =>
      have magnitude := wholeMagnitude_eq_zero nonzero below false
      have hasFraction : ¬ 0 ≤ e := by
        intro whole
        rw [Parts.wholeMagnitude, if_pos whole] at magnitude
        exact absurd magnitude (Nat.mul_pos nonzero (Nat.two_pow_pos _)).ne'
      change HasValue (if 0 ≤ e then x
        else Float.ofNat (Parts.wholeMagnitude ⟨false, m, e⟩ .towardZero)) 0
      rw [if_neg hasFraction, magnitude]
      exact hasValue_zero

theorem HasValue.one_le_whole (hasValue : HasValue x s) (one_le : 1 ≤ s) :
    1 ≤ Scalar.whole .towardZero x := by
  have reading := parts_eq x
  have hasForm := hasValue.hasForm
  generalize x.toModel.unpack = form at reading hasForm
  change 1 ≤ whole .towardZero x
  rw [whole, reading]
  cases hasForm with
  | zero sign => exact absurd one_le (not_le.mpr zero_lt_one)
  | finite sign nonzero canonical most =>
    rename_i m e
    cases sign with
    | negative =>
      have := magnitude_pos nonzero e
      exact absurd one_le (by rw [signed]; linarith)
    | positive =>
      change 1 ≤ if 0 ≤ e then x else Float.ofNat (Parts.wholeMagnitude ⟨false, m, e⟩ .towardZero)
      split_ifs with whole
      · exact (hasValue_one.le_iff hasValue).mpr one_le
      · have magnitude : Parts.wholeMagnitude ⟨false, m, e⟩ .towardZero = m / 2 ^ (-e).toNat := by
          rw [Parts.wholeMagnitude, if_neg whole]
          rfl
        have unit : (2 : ℚ) ^ e = (2 ^ (-e).toNat)⁻¹ := by
          rw [← zpow_natCast, ← zpow_neg]
          congr 1
          omega
        have atLeast : 2 ^ (-e).toNat ≤ m := by
          rw [signed, unit, ← div_eq_mul_inv, one_le_div (by positivity)] at one_le
          exact_mod_cast one_le
        have small : m / 2 ^ (-e).toNat < 2 ^ 53 := (Nat.div_le_self _ _).trans_lt canonical.width
        rw [magnitude, hasValue_one.le_iff (hasValue_ofNat_of_lt small)]
        exact_mod_cast Nat.div_pos atLeast (Nat.two_pow_pos _)

/-- A number of at least zero whose whole part is that of a number of at least one is itself at
least one. -/
theorem one_le_of_whole_beq (nonneg : 0 ≤ x) (one_le : 1 ≤ y)
    (same : (Scalar.whole .towardZero x == Scalar.whole .towardZero y) = true) : 1 ≤ x := by
  have atLeast : 1 ≤ Scalar.whole .towardZero y := by
    have y_nonneg : 0 ≤ y := Binary64.le_trans Binary64.zero_le_one one_le
    rcases hasValue_or_infinity y_nonneg with ⟨t, hasValue, -⟩ | infinite
    · exact hasValue.one_le_whole ((hasValue_one.le_iff hasValue).mp one_le)
    · rwa [whole_of_infinity infinite]
  rcases hasValue_or_infinity nonneg with ⟨s, hasValue, s_nonneg⟩ | infinite
  · rw [hasValue_one.le_iff hasValue]
    by_contra below
    have isZero := hasValue.whole_eq_zero s_nonneg (not_le.mp below)
    have one_le_zero := (hasValue_one.le_iff isZero).mp (Binary64.le_trans atLeast (ge_of_beq same))
    exact one_le_zero.not_gt zero_lt_one
  · exact ((HasPlace.value hasValue_one).le_iff (.greatest infinite)).mpr le_top

end LinkQuality.Binary64
