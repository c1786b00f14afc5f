import LinkQuality.Proofs.Binary64.Values

/-!
# What the operations of double precision compute

A sum, a difference, a product or a quotient of two numbers is the exact result, rounded, unless
that is too large. What is divided by an infinity is zero. A whole number is converted to the number
that it is rounded to; the largest ones are converted to infinity.

Sums are taken at the smaller of the two exponents, where both significands are whole. Products have
enough bits to be rounded, as one factor has a significand of full width or both are tiny. Quotients
are taken of a significand that was shifted up for that.

## Main results

* `HasValue.add`, `HasValue.sub`, `HasValue.mul`, `HasValue.div`: the value of the exact result,
  rounded
* `HasValue.div_infinity`, `HasValue.infinity_sub`: operations with infinities
* `hasValue_ofNat`, `unpack_ofNat_of_not_lt`: conversions of whole numbers
* `HasValue.add_intCast`: sums of whole numbers that fit are exact
-/

namespace LinkQuality.Binary64

open Float.Model UnpackedFloat

variable {form form' : UnpackedFloat} {s t : ℚ}

/-! ### Signs -/

theorem signed_mul_signed (sign sign' : Sign) (q r : ℚ) :
    signed sign q * signed sign' r = signed (sign * sign') (q * r) := by
  cases sign <;> cases sign'
  · exact neg_mul_neg q r
  · exact neg_mul q r
  · exact mul_neg q r
  · rfl

theorem signed_div_signed (sign sign' : Sign) (q r : ℚ) :
    signed sign q / signed sign' r = signed (sign / sign') (q / r) := by
  cases sign <;> cases sign'
  · exact neg_div_neg_eq q r
  · exact neg_div r q
  · exact div_neg q
  · rfl

/-- The magnitude of a number that fits is not rounded to one out of range. -/
theorem Fits.rounded_lt {sign : Sign} {q : ℚ} (nonneg : 0 ≤ q) (fits : Fits (signed sign q)) :
    rounded q < 2 ^ 1024 := by
  rwa [Fits, abs_signed sign nonneg] at fits

/-- What a magnitude is rounded to is packed with the value that the number is rounded to. -/
theorem Rounds.value?_eq_nearest {sign : Sign} {q : ℚ} (rounds : Rounds sign q form)
    (positive : 0 < q) (fits : Fits (signed sign q)) :
    value? (UnpackedFloat.unpack .binary64 (UnpackedFloat.pack .binary64 form)) =
      some (nearest (signed sign q)) := by
  rw [rounds.value?_unpack_pack (fits.rounded_lt positive.le), nearest_signed sign positive]

/-! ### Sums -/

/-- A whole number of some unit is normalized to what it is rounded to. -/
theorem value?_normalize (n e : ℤ) (sign : Sign) (fits : Fits (n * 2 ^ e)) :
    value? (UnpackedFloat.unpack .binary64
        (UnpackedFloat.pack .binary64 (UnpackedFloat.normalize .binary64 n e sign))) =
      some (nearest (n * 2 ^ e)) := by
  rcases lt_trichotomy n 0 with negative | rfl | positive
  · obtain ⟨m, rfl⟩ := Int.exists_eq_neg_ofNat negative.le
    have nonzero : 0 < m := by omega
    have signs : ((-(m : ℤ) : ℤ) : ℚ) * 2 ^ e = signed .negative (m * 2 ^ e) := by
      rw [Int.cast_neg, Int.cast_natCast, signed, neg_mul]
    rw [UnpackedFloat.normalize, Int.compare_eq_lt.mpr negative, neg_neg, Int.toNat_natCast]
    rw [signs] at fits ⊢
    exact (rounds_round .negative nonzero e).value?_eq_nearest (magnitude_pos nonzero e) fits
  · rw [Int.cast_zero, zero_mul, nearest_of_nonneg le_rfl, rounded_zero]
    exact (HasForm.zero sign).value?_unpack_pack
  · obtain ⟨m, rfl⟩ := Int.eq_ofNat_of_zero_le positive.le
    have nonzero : 0 < m := by omega
    rw [UnpackedFloat.normalize, Int.compare_eq_gt.mpr positive, Int.toNat_natCast]
    rw [Int.cast_natCast] at fits ⊢
    exact (rounds_round .positive nonzero e).value?_eq_nearest (magnitude_pos nonzero e) fits

theorem apply_decreaseExponent (sign : Sign) (m : ℕ) {e smaller : ℤ} (atMost : smaller ≤ e) :
    ((sign.apply ((decreaseExponent m e smaller).1 : ℤ) : ℤ) : ℚ) * 2 ^ smaller =
      signed sign (m * 2 ^ e) := by
  obtain ⟨k, isShift⟩ := Int.eq_ofNat_of_zero_le (sub_nonneg.mpr atMost)
  have shifted : (decreaseExponent m e smaller).1 = m * 2 ^ k := by
    rw [decreaseExponent, isShift]
    exact Nat.shiftLeft_eq m k
  have exponent : e = k + smaller := by omega
  have magnitude : ((m * 2 ^ k : ℕ) : ℚ) * 2 ^ smaller = m * 2 ^ e := by
    rw [exponent, zpow_add₀ two_ne_zero, zpow_natCast]
    push_cast
    ring
  rw [shifted, ← magnitude]
  cases sign
  · simp [Sign.apply, signed]
  · simp [Sign.apply, signed]

/-- At the smaller exponent both significands are whole, and so is their sum. -/
theorem signed_add_signed (sign sign' : Sign) (m n : ℕ) (e f : ℤ) :
    signed sign (m * 2 ^ e) + signed sign' (n * 2 ^ f) =
      ((sign.apply ((decreaseExponent m e (min e f)).1 : ℤ) +
        sign'.apply ((decreaseExponent n f (min e f)).1 : ℤ) : ℤ) : ℚ) * 2 ^ min e f := by
  rw [Int.cast_add, add_mul, apply_decreaseExponent sign m (min_le_left e f),
    apply_decreaseExponent sign' n (min_le_right e f)]

theorem HasForm.value?_add (first : HasForm form s) (second : HasForm form' t)
    (fits : Fits (s + t)) :
    value? (UnpackedFloat.unpack .binary64
        (UnpackedFloat.pack .binary64 (UnpackedFloat.add .binary64 form form'))) =
      some (nearest (s + t)) := by
  cases first with
  | zero sign =>
    rw [zero_add, second.nearest_eq]
    cases second with
    | zero sign' => cases sign <;> cases sign' <;> rfl
    | finite sign' nonzero' canonical' most' =>
      exact (HasForm.finite sign' nonzero' canonical' most').value?_unpack_pack
  | finite sign nonzero canonical most =>
    cases second with
    | zero sign' =>
      have self := HasForm.finite sign nonzero canonical most
      rw [add_zero, self.nearest_eq]
      exact self.value?_unpack_pack
    | finite sign' nonzero' canonical' most' =>
      rw [signed_add_signed] at fits ⊢
      exact value?_normalize _ _ .positive fits

theorem sub_eq_add (form form' : UnpackedFloat) :
    UnpackedFloat.sub .binary64 form form' = UnpackedFloat.add .binary64 form form'.neg := by
  cases form <;> cases form' <;> try rfl
  rename_i sign m e nonzero sign' n f nonzero'
  have changed (k : ℤ) : -sign'.apply k = (-sign').apply k := by
    cases sign'
    · exact neg_neg k
    · rfl
  simp only [UnpackedFloat.sub, UnpackedFloat.neg, UnpackedFloat.add, Int.sub_eq_add_neg, changed]

theorem HasForm.neg (hasForm : HasForm form s) : HasForm form.neg (-s) := by
  cases hasForm with
  | zero sign =>
    rw [neg_zero]
    exact .zero (-sign)
  | finite sign nonzero canonical most =>
    rw [← signed_neg]
    exact .finite (-sign) nonzero canonical most

/-! ### Products -/

/-- A product of significands has enough bits to be rounded: one of full width is enough, and if
there is none, both numbers are tiny. -/
theorem rounds_mul (sign : Sign) {m n : ℕ} {e f : ℤ} (nonzero : 0 < m) (nonzero' : 0 < n)
    (first : IsCanonical m e) (second : IsCanonical n f) :
    Rounds sign (((m * n : ℕ) : ℚ) * 2 ^ (e + f))
      (roundWithAccuracy .binary64 sign (m * n) (e + f) .exact) := by
  have positive : 0 < m * n := Nat.mul_pos nonzero nonzero'
  have enough : 52 ≤ (m * n).log2 ∨ e + f ≤ -1074 := by
    rcases first.full with full | rfl
    · refine .inl ((Nat.le_log2 positive.ne').mpr ?_)
      exact full.trans (Nat.le_mul_of_pos_right m nonzero')
    · rcases second.full with full' | rfl
      · refine .inl ((Nat.le_log2 positive.ne').mpr ?_)
        exact full'.trans (Nat.le_mul_of_pos_left n nonzero)
      · exact .inr (by decide)
  exact rounds_roundWithAccuracy sign (standsFor_exact (m * n)) (Nat.cast_pos.mpr positive) enough

theorem HasForm.value?_mul (first : HasForm form s) (second : HasForm form' t)
    (fits : Fits (s * t)) :
    value? (UnpackedFloat.unpack .binary64
        (UnpackedFloat.pack .binary64 (UnpackedFloat.mul .binary64 form form'))) =
      some (nearest (s * t)) := by
  cases first with
  | zero sign =>
    rw [zero_mul, nearest_of_nonneg le_rfl, rounded_zero]
    cases second with
    | zero sign' => exact (HasForm.zero (sign * sign')).value?_unpack_pack
    | finite sign' => exact (HasForm.zero (sign * sign')).value?_unpack_pack
  | finite sign nonzero canonical most =>
    rename_i m e
    cases second with
    | zero sign' =>
      rw [mul_zero, nearest_of_nonneg le_rfl, rounded_zero]
      exact (HasForm.zero (sign * sign')).value?_unpack_pack
    | finite sign' nonzero' canonical' most' =>
      rename_i n f
      have product : signed sign (m * 2 ^ e) * signed sign' (n * 2 ^ f) =
          signed (sign * sign') (((m * n : ℕ) : ℚ) * 2 ^ (e + f)) := by
        rw [signed_mul_signed, zpow_add₀ two_ne_zero]
        push_cast
        ring_nf
      rw [product] at fits ⊢
      exact (rounds_mul (sign * sign') nonzero nonzero' canonical canonical').value?_eq_nearest
        (magnitude_pos (Nat.mul_pos nonzero nonzero') _) fits

/-! ### Quotients -/

/-- A significand that is shifted up to 53 bits more than the divisor has leaves a quotient of at
least 53 bits. -/
theorem two_pow_le_div {m n k : ℕ} (nonzero : 0 < m) (nonzero' : 0 < n)
    (bits : m.log2 + k = n.log2 + 53) : 2 ^ 52 ≤ m * 2 ^ k / n := by
  rw [Nat.le_div_iff_mul_le nonzero']
  calc 2 ^ 52 * n ≤ 2 ^ 52 * 2 ^ (n.log2 + 1) := Nat.mul_le_mul_left _ Nat.lt_log2_self.le
    _ = 2 ^ m.log2 * 2 ^ k := by
        rw [← Nat.pow_add, ← Nat.pow_add, bits]
        congr 1
        omega
    _ ≤ m * 2 ^ k := Nat.mul_le_mul_right _ (Nat.log2_self_le nonzero.ne')

/-- A quotient of significands is given with enough bits. -/
theorem rounds_divCore (sign : Sign) {m n : ℕ} {e f : ℤ} (nonzero : 0 < m) (width : m < 2 ^ 53)
    (nonzero' : 0 < n) :
    let core := divCore .binary64 m e n f
    Rounds sign (m * 2 ^ e / (n * 2 ^ f))
      (roundWithAccuracy .binary64 sign core.1 core.2.1 core.2.2) := by
  intro core
  obtain ⟨target, isTarget⟩ : ∃ target, min (e - f) (Format.binary64.targetExponent
      (totalExponent m e - totalExponent n f)) = target := ⟨_, rfl⟩
  have target_eq : target =
      min (e - f) (max ((m.log2 : ℤ) + e - (n.log2 + f) - 53) (-1074)) := by
    rw [← isTarget]
    simp only [Format.targetExponent, totalExponent, Format.mantissaBits, Format.minExponent]
    omega
  obtain ⟨k, isShift⟩ := Int.eq_ofNat_of_zero_le (show 0 ≤ e - f - target by omega)
  have coreEq : core = (m * 2 ^ k / n, target, accuracyOfFraction (m * 2 ^ k % n) n) := by
    simp only [core, divCore, isTarget, isShift, Int.toNat_natCast, Nat.shiftLeft_eq]
  have positive : (0 : ℚ) < ((m * 2 ^ k : ℕ) : ℚ) / n :=
    div_pos (Nat.cast_pos.mpr (Nat.mul_pos nonzero (Nat.two_pow_pos k)))
      (Nat.cast_pos.mpr nonzero')
  have enough : 52 ≤ (m * 2 ^ k / n).log2 ∨ target ≤ -1074 := by
    by_cases tiny : target ≤ -1074
    · exact .inr tiny
    · have short : m.log2 < 53 := (Nat.log2_lt nonzero.ne').mpr width
      have quotient := two_pow_le_div nonzero nonzero' (show m.log2 + k = n.log2 + 53 by omega)
      exact .inl ((Nat.le_log2 (by omega)).mpr quotient)
  have same : (m : ℚ) * 2 ^ e / (n * 2 ^ f) = ((m * 2 ^ k : ℕ) : ℚ) / n * 2 ^ target := by
    have exponent : e = k + target + f := by omega
    have unit_ne_zero := (two_zpow_pos f).ne'
    rw [exponent, zpow_add₀ two_ne_zero, zpow_add₀ two_ne_zero, zpow_natCast]
    push_cast
    field_simp
  rw [coreEq, same]
  exact rounds_roundWithAccuracy sign (standsFor_quotient _ nonzero') positive enough

theorem HasForm.value?_div (first : HasForm form s) (second : HasForm form' t) (nonzero : t ≠ 0)
    (fits : Fits (s / t)) :
    value? (UnpackedFloat.unpack .binary64
        (UnpackedFloat.pack .binary64 (UnpackedFloat.div .binary64 form form'))) =
      some (nearest (s / t)) := by
  cases second with
  | zero sign' => exact absurd rfl nonzero
  | finite sign' nonzero' canonical' most' =>
    rename_i n f
    cases first with
    | zero sign =>
      rw [zero_div, nearest_of_nonneg le_rfl, rounded_zero]
      exact (HasForm.zero (sign / sign')).value?_unpack_pack
    | finite sign positive canonical most =>
      rename_i m e
      have rounds := rounds_divCore (sign / sign') (e := e) (f := f) positive canonical.width
        nonzero'
      rw [signed_div_signed] at fits ⊢
      exact rounds.value?_eq_nearest
        (div_pos (magnitude_pos positive e) (magnitude_pos nonzero' f)) fits

/-! ### Operations on numbers -/

variable {x y : Float}

theorem HasValue.add (hx : HasValue x s) (hy : HasValue y t) (fits : Fits (s + t)) :
    HasValue (x + y) (nearest (s + t)) :=
  hx.hasForm.value?_add hy.hasForm fits

theorem HasValue.sub (hx : HasValue x s) (hy : HasValue y t) (fits : Fits (s - t)) :
    HasValue (x - y) (nearest (s - t)) := by
  change value? (UnpackedFloat.unpack .binary64 (UnpackedFloat.pack .binary64
    (UnpackedFloat.sub .binary64 x.toModel.unpack y.toModel.unpack))) = _
  rw [sub_eq_add]
  rw [sub_eq_add_neg] at fits ⊢
  exact hx.hasForm.value?_add hy.hasForm.neg fits

theorem HasValue.neg (hx : HasValue x s) : HasValue (-x) (-s) :=
  hx.hasForm.neg.value?_unpack_pack

theorem HasValue.mul (hx : HasValue x s) (hy : HasValue y t) (fits : Fits (s * t)) :
    HasValue (x * y) (nearest (s * t)) :=
  hx.hasForm.value?_mul hy.hasForm fits

theorem HasValue.div (hx : HasValue x s) (hy : HasValue y t) (nonzero : t ≠ 0)
    (fits : Fits (s / t)) : HasValue (x / y) (nearest (s / t)) :=
  hx.hasForm.value?_div hy.hasForm nonzero fits

theorem HasValue.div_infinity {sign : Sign} (hx : HasValue x s)
    (infinite : y.toModel.unpack = .infinity sign) : HasValue (x / y) 0 := by
  change value? (UnpackedFloat.unpack .binary64 (UnpackedFloat.pack .binary64
    (UnpackedFloat.div .binary64 x.toModel.unpack y.toModel.unpack))) = _
  have hasForm := hx.hasForm
  generalize x.toModel.unpack = form at hasForm
  rw [infinite]
  cases hasForm with
  | zero sign' => exact (HasForm.zero (sign' / sign)).value?_unpack_pack
  | finite sign' => exact (HasForm.zero (sign' / sign)).value?_unpack_pack

/-- An infinity stays what it is if a number is subtracted. -/
theorem HasValue.infinity_sub {sign : Sign} (hy : HasValue y t)
    (infinite : x.toModel.unpack = .infinity sign) :
    (x - y).toModel.unpack = .infinity sign := by
  change UnpackedFloat.unpack .binary64 (UnpackedFloat.pack .binary64
    (UnpackedFloat.sub .binary64 x.toModel.unpack y.toModel.unpack)) = _
  have hasForm := hy.hasForm
  generalize y.toModel.unpack = form at hasForm
  rw [infinite]
  cases hasForm <;> exact unpack_packedInfinity sign

/-! ### Whole numbers -/

variable {n : ℕ}

theorem hasValue_ofNat_of_lt (small : n < 2 ^ 53) : HasValue (Float.ofNat n) n := by
  rcases Nat.eq_zero_or_pos n with rfl | nonzero
  · rfl
  · have size : n.log2 < 53 := (Nat.log2_lt nonzero.ne').mpr small
    have value : ((n * 2 ^ (52 - n.log2) : ℕ) : ℚ) * 2 ^ ((n.log2 : ℤ) - 52) = n := by
      have exponent : (n.log2 : ℤ) - 52 = -((52 - n.log2 : ℕ) : ℤ) := by omega
      rw [exponent, zpow_neg, zpow_natCast]
      push_cast
      field_simp
    rw [HasValue, unpack_ofNat nonzero small, value?, signed, value]

/-- A whole number of more than 53 bits is multiplied by one, and the product is rounded. -/
theorem exists_unpack_ofNat (large : 2 ^ 53 ≤ n) :
    ∃ form, Rounds .positive n form ∧ (Float.ofNat n).toModel.unpack =
      UnpackedFloat.unpack .binary64 (UnpackedFloat.pack .binary64 form) := by
  have nonzero : 0 < n := by omega
  have slow : (Float.ofNat n).toModel.unpack = UnpackedFloat.unpack .binary64
      (UnpackedFloat.pack .binary64 (UnpackedFloat.ofScientific .binary64 n 0)) := by
    have notExact : ¬ (n < 2 ^ 53 ∧ 0 ≤ 22) := fun isExact => by omega
    change (Float.ofScientific n false 0).toModel.unpack = _
    rw [Float.ofScientific, dif_neg notExact]
    rfl
  have product : UnpackedFloat.ofScientific .binary64 n 0 =
      roundWithAccuracy .binary64 .positive (n * 2 ^ 53) (-53) .exact := by
    have inRange : ¬ (0 : ℤ) < -(2 ^ Format.binary64.exponentBits + n.log2) :=
      not_lt.mpr (neg_nonpos.mpr (by positivity))
    rw [UnpackedFloat.ofScientific, dif_neg nonzero.ne', if_neg (by decide), if_neg inRange,
      if_pos le_rfl]
    change roundWithAccuracy .binary64 .positive (n <<< 53 * 1) (-53) .exact = _
    rw [Nat.mul_one, Nat.shiftLeft_eq]
  have value : (n : ℚ) = ((n * 2 ^ 53 : ℕ) : ℚ) * 2 ^ (-53 : ℤ) := by
    rw [Nat.cast_mul, mul_assoc, zpow_neg]
    norm_num
  have enough : 52 ≤ (n * 2 ^ 53).log2 := by
    rw [log2_mul_two_pow nonzero]
    omega
  refine ⟨_, ?_, slow⟩
  rw [product, value]
  exact rounds_roundWithAccuracy .positive (standsFor_exact _)
    (Nat.cast_pos.mpr (Nat.mul_pos nonzero (Nat.two_pow_pos 53))) (.inl enough)

theorem rounded_natCast (small : n < 2 ^ 53) : rounded n = n := by
  simpa using rounded_eq_self (e := 0) small (by decide)

theorem hasValue_ofNat (fits : rounded n < 2 ^ 1024) : HasValue (Float.ofNat n) (rounded n) := by
  by_cases small : n < 2 ^ 53
  · rw [rounded_natCast small]
    exact hasValue_ofNat_of_lt small
  · obtain ⟨form, rounds, unpacked⟩ := exists_unpack_ofNat (Nat.le_of_not_lt small)
    rw [HasValue, unpacked]
    exact rounds.value?_unpack_pack fits

/-- A whole number that is rounded out of range is converted to infinity. -/
theorem unpack_ofNat_of_not_lt (large : ¬ rounded n < 2 ^ 1024) :
    (Float.ofNat n).toModel.unpack = .infinity .positive := by
  have atLeast : 2 ^ 53 ≤ n := by
    by_contra small
    have less : (n : ℚ) < 2 ^ 53 := by exact_mod_cast Nat.lt_of_not_le small
    rw [rounded_natCast (Nat.lt_of_not_le small)] at large
    exact large (less.trans_le (pow_le_pow_right₀ one_le_two (by decide)))
  obtain ⟨form, rounds, unpacked⟩ := exists_unpack_ofNat atLeast
  rw [unpacked]
  exact rounds.unpack_pack_of_not_lt large

theorem hasValue_ofInt {n : ℤ} (small : |n| < 2 ^ 53) : HasValue (Scalar.ofInt n) n := by
  cases n with
  | ofNat n => exact_mod_cast hasValue_ofNat_of_lt (by simpa using small)
  | negSucc n =>
    have size : n + 1 < 2 ^ 53 := by
      rw [Int.negSucc_eq, abs_neg] at small
      exact_mod_cast (le_abs_self _).trans_lt small
    rw [Int.cast_negSucc]
    exact (hasValue_ofNat_of_lt size).neg

/-- The sum of two integers is exact if it has at most 53 bits. -/
theorem HasValue.add_intCast {m n : ℤ} (hx : HasValue x m) (hy : HasValue y n)
    (small : |m + n| < 2 ^ 53) : HasValue (x + y) (m + n : ℤ) := by
  have total := (hasValue_ofInt small).hasForm
  rw [← total.nearest_eq, Int.cast_add]
  exact hx.add hy (by simpa using total.fits)

theorem hasValue_zero : HasValue (0 : Float) 0 := rfl

theorem hasValue_one : HasValue (1 : Float) 1 := hasValue_ofNat_of_lt (by decide)

theorem rounded_le_one {q : ℚ} (nonneg : 0 ≤ q) (atMost : q ≤ 1) : rounded q ≤ 1 := by
  calc rounded q ≤ rounded 1 := rounded_mono nonneg atMost
    _ = 1 := by simpa using rounded_natCast (n := 1) (by decide)

theorem fits_of_abs_le_one {q : ℚ} (atMost : |q| ≤ 1) : Fits q :=
  hasValue_one.hasForm.fits.mono (by rwa [abs_one])

theorem HasValue.fits_sub_one (hasValue : HasValue x s) (positive : 0 < s) : Fits (s - 1) := by
  rcases le_or_gt 1 s with one_le | less
  · refine hasValue.hasForm.fits.mono ?_
    rw [abs_of_nonneg (sub_nonneg.mpr one_le), abs_of_pos positive]
    exact sub_le_self s zero_le_one
  · refine fits_of_abs_le_one ?_
    rw [abs_of_neg (sub_neg.mpr less), neg_sub]
    exact sub_le_self 1 positive.le

/-- What is converted from a whole number, an infinity included, is not below zero. -/
theorem not_ofNat_lt_zero (n : ℕ) : ¬ Float.ofNat n < Float.ofNat 0 := by
  by_cases fits : rounded n < 2 ^ 1024
  · have zero : HasValue (Float.ofNat 0) 0 := hasValue_zero
    rw [(hasValue_ofNat fits).lt_iff zero, not_lt]
    exact rounded_nonneg (Nat.cast_nonneg n)
  · rw [lt_iff, unpack_ofNat_of_not_lt fits, unpack_zero]
    decide

/-- The integer part of a number that is clamped between zero and a bound is not negative. -/
theorem toInt32_clamp_nonneg {upper : ℤ} (nonneg : 0 ≤ upper) (x : Float) :
    0 ≤ Scalar.toInt32 (Scalar.clamp 0 (Scalar.ofInt upper) x) := by
  obtain ⟨n, rfl⟩ := Int.eq_ofNat_of_zero_le nonneg
  change 0 ≤ Scalar.toInt32 (Scalar.clamp (Float.ofNat 0) (Float.ofNat n) x)
  unfold Scalar.clamp
  split_ifs with below above
  · exact toInt32_nonneg (not_lt_self _)
  · exact toInt32_nonneg (not_ofNat_lt_zero n)
  · exact toInt32_nonneg below

end LinkQuality.Binary64
