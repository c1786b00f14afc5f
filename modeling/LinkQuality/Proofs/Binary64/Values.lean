import LinkQuality.Proofs.Binary64.Rounding

/-!
# The values of numbers of double precision

A number that is neither infinite nor undefined has a rational value. It is kept in one form only,
so comparing two such numbers compares their values, and a number that is rounded to another one
within the range is packed with the value of that.

## Main definitions

* `nearest`, `Fits`: rounding numbers of either sign, and which of them stay within the range
* `HasValue`: the value of a number
* `HasForm`: the forms that finite numbers are unpacked to, with their values

## Main results

* `Rounds.value?_unpack_pack`, `Rounds.unpack_pack_of_not_lt`: packing what was rounded
* `HasValue.lt_iff`, `HasValue.le_iff`, `exists_hasValue_of_le`: the order of numbers
* `HasValue.toInt32_nonneg`, `toInt32_nonneg`: integer parts that are not negative
-/

namespace LinkQuality.Binary64

open Float.Model UnpackedFloat

variable {sign : Sign} {significand m₁ m₂ : ℕ} {exponent e₁ e₂ : ℤ}

/-! ### Rounding numbers of either sign -/

/-- The number that double precision rounds to. -/
def nearest (q : ℚ) : ℚ := if q < 0 then -rounded (-q) else rounded q

/-- Whether the number that double precision rounds to is within its range. -/
def Fits (q : ℚ) : Prop := rounded |q| < 2 ^ 1024

theorem nearest_of_nonneg {q : ℚ} (nonneg : 0 ≤ q) : nearest q = rounded q :=
  if_neg nonneg.not_gt

theorem nearest_neg_of_pos {q : ℚ} (positive : 0 < q) : nearest (-q) = -rounded q := by
  rw [nearest, if_pos (neg_neg_of_pos positive), neg_neg]

theorem rounded_zero : rounded 0 = 0 := by simp [rounded, Exact.nearestEven]

/-- A magnitude that is rounded to one within the range may be replaced by a smaller one. -/
theorem Fits.mono {q r : ℚ} (fits : Fits r) (atMost : |q| ≤ |r|) : Fits q :=
  lt_of_le_of_lt (rounded_mono (abs_nonneg q) atMost) fits

/-- A sign, applied to a magnitude. -/
def signed (sign : Sign) (q : ℚ) : ℚ :=
  match sign with
  | .negative => -q
  | .positive => q

@[simp] theorem signed_zero (sign : Sign) : signed sign 0 = 0 := by cases sign <;> simp [signed]

@[simp] theorem signed_neg (sign : Sign) (q : ℚ) : signed (-sign) q = -signed sign q := by
  cases sign
  · exact (neg_neg q).symm
  · rfl

theorem abs_signed (sign : Sign) {q : ℚ} (nonneg : 0 ≤ q) : |signed sign q| = q := by
  cases sign
  · rw [signed, abs_neg, abs_of_nonneg nonneg]
  · exact abs_of_nonneg nonneg

theorem nearest_signed (sign : Sign) {q : ℚ} (positive : 0 < q) :
    nearest (signed sign q) = signed sign (rounded q) := by
  cases sign
  · exact nearest_neg_of_pos positive
  · exact nearest_of_nonneg positive.le

/-! ### Packing -/

theorem IsCanonical.log2_eq (canonical : IsCanonical significand exponent)
    (full : 2 ^ 52 ≤ significand) : significand.log2 = 52 :=
  (Nat.log2_eq_iff (by omega)).mpr ⟨full, canonical.width⟩

/-- The form that double precision unpacks to is canonical. -/
theorem isCanonical_of_unpack {x : Float} {nonzero : 0 < significand}
    (unpacked : x.toModel.unpack = .finite sign significand exponent nonzero) :
    IsCanonical significand exponent ∧ exponent ≤ 971 := by
  have reading := parts_eq x
  rw [unpacked] at reading
  unfold parts at reading
  dsimp only at reading
  split_ifs at reading with full empty
  · simp [Parts.ofUnpacked?] at reading
  · simp only [Parts.ofUnpacked?, Option.some.injEq, Parts.mk.injEq] at reading
    obtain ⟨-, rfl, rfl⟩ := reading
    exact ⟨⟨by omega, le_rfl, .inr rfl⟩, by omega⟩
  · simp only [Parts.ofUnpacked?, Option.some.injEq, Parts.mk.injEq] at reading
    obtain ⟨-, rfl, rfl⟩ := reading
    exact ⟨⟨by omega, by omega, .inl (by omega)⟩, by omega⟩

/-- A short significand survives packing with the least exponent. -/
theorem unpack_pack_subnormal (sign : Sign) (nonzero : 0 < significand)
    (short : significand < 2 ^ 52) :
    UnpackedFloat.unpack .binary64
        (UnpackedFloat.pack .binary64 (.finite sign significand (-1074) nonzero)) =
      .finite sign significand (-1074) nonzero := by
  have log : significand.log2 < 52 := (Nat.log2_lt (Nat.ne_of_gt nonzero)).mpr short
  have isShort : ¬ significand.log2 + 1 = Format.binary64.mantissaBits := by
    simp only [Format.mantissaBits]
    omega
  -- Such a number is packed with an empty exponent, and nothing is cut off its significand.
  have packed : UnpackedFloat.pack .binary64 (.finite sign significand (-1074) nonzero) =
      packComponents .binary64 sign 0#11 (BitVec.ofNat 52 significand) := by
    rw [UnpackedFloat.pack]
    exact (if_neg (by decide)).trans (if_neg isShort)
  have toNat_fraction : (BitVec.ofNat 52 significand).toNat = significand := by
    rw [BitVec.toNat_ofNat]
    exact Nat.mod_eq_of_lt short
  have notEmpty : BitVec.ofNat 52 significand ≠ 0#52 := by
    intro empty
    rw [empty] at toNat_fraction
    exact Nat.ne_of_lt nonzero toNat_fraction
  rw [packed]
  simp only [UnpackedFloat.unpack, unpackMantissa_packComponents, unpackExponent_packComponents,
    unpackSign_packComponents, Sign.ofBitVec_toBitVec]
  rw [if_neg (by decide), if_pos trivial, dif_neg notEmpty]
  simp only [toNat_fraction]
  rfl

/-- A canonical form survives packing if its exponent is within the range. -/
theorem IsCanonical.unpack_pack (canonical : IsCanonical significand exponent) (sign : Sign)
    (nonzero : 0 < significand) (most : exponent ≤ 971) :
    UnpackedFloat.unpack .binary64
        (UnpackedFloat.pack .binary64 (.finite sign significand exponent nonzero)) =
      .finite sign significand exponent nonzero := by
  by_cases full : 2 ^ 52 ≤ significand
  · exact Binary64.unpack_pack sign nonzero (canonical.log2_eq full) canonical.least most
  · obtain rfl := canonical.full.resolve_left full
    exact unpack_pack_subnormal sign nonzero (Nat.lt_of_not_le full)

theorem unpack_packedInfinity (sign : Sign) :
    UnpackedFloat.unpack .binary64 (UnpackedFloat.pack .binary64 (.infinity sign)) =
      .infinity sign := by
  cases sign <;> rfl

/-- A number whose exponent is out of range is packed as an infinity. -/
theorem unpack_pack_infinity (sign : Sign) (nonzero : 0 < significand) (large : 972 ≤ exponent) :
    UnpackedFloat.unpack .binary64
        (UnpackedFloat.pack .binary64 (.finite sign significand exponent nonzero)) =
      .infinity sign := by
  have overflow : 2 ^ Format.binary64.exponentBits ≤ (exponent +
      (Format.binary64.exponentBias : ℤ) +
        (Format.binary64.mantissaBitsWithoutImplicit : ℤ)).toNat + 1 := by
    simp only [Format.exponentBias]
    omega
  have packed : UnpackedFloat.pack .binary64 (.finite sign significand exponent nonzero) =
      packedInfinity .binary64 sign := by
    rw [UnpackedFloat.pack]
    exact if_pos overflow
  rw [packed]
  exact unpack_packedInfinity sign

theorem unpack_pack_zero (sign : Sign) :
    UnpackedFloat.unpack .binary64 (UnpackedFloat.pack .binary64 (.zero sign)) = .zero sign := by
  cases sign <;> rfl

theorem unpack_pack_notANumber :
    UnpackedFloat.unpack .binary64 (UnpackedFloat.pack .binary64 .notANumber) = .notANumber := rfl

/-! ### Values -/

/-- The value of a number in unpacked form. Infinities and undefined values have none. -/
def value? : UnpackedFloat → Option ℚ
  | .zero _ => some 0
  | .finite sign significand exponent _ => some (signed sign (significand * 2 ^ exponent))
  | .infinity _ | .notANumber => none

/-- Whether a number has a given value. -/
def HasValue (x : Float) (q : ℚ) : Prop := value? x.toModel.unpack = some q

/-- What rounds to a number within the range is packed with its value. -/
theorem Rounds.value?_unpack_pack {q : ℚ} {form : UnpackedFloat} (rounds : Rounds sign q form)
    (fits : rounded q < 2 ^ 1024) :
    value? (UnpackedFloat.unpack .binary64 (UnpackedFloat.pack .binary64 form)) =
      some (signed sign (rounded q)) := by
  cases form with
  | infinity sign' => exact rounds.elim
  | notANumber => exact rounds.elim
  | zero sign' =>
    obtain ⟨rfl, isZero⟩ := rounds
    rw [unpack_pack_zero, isZero, signed_zero]
    rfl
  | finite sign' significand exponent nonzero =>
    obtain ⟨rfl, isRounded, canonical⟩ := rounds
    have most : exponent ≤ 971 := by
      by_contra large
      -- With that exponent the significand has the full width, so the value is out of range.
      have full : 2 ^ 52 ≤ significand := canonical.full.resolve_right (by omega)
      have outOfRange : (2 : ℚ) ^ 1024 ≤ significand * 2 ^ exponent := by
        calc (2 : ℚ) ^ 1024 = 2 ^ 52 * 2 ^ 972 := pow_add 2 52 972
          _ = 2 ^ 52 * 2 ^ (972 : ℤ) := rfl
          _ ≤ (significand : ℚ) * 2 ^ exponent := by
            refine mul_le_mul (by exact_mod_cast full) ?_ (two_zpow_pos _).le (Nat.cast_nonneg _)
            exact zpow_le_zpow_right₀ one_le_two (by omega)
      rw [isRounded] at outOfRange
      exact absurd fits outOfRange.not_gt
    rw [canonical.unpack_pack sign' nonzero most, value?, isRounded]

/-- What rounds to a number out of range is packed as an infinity. -/
theorem Rounds.unpack_pack_of_not_lt {q : ℚ} {form : UnpackedFloat} (rounds : Rounds sign q form)
    (large : ¬ rounded q < 2 ^ 1024) :
    UnpackedFloat.unpack .binary64 (UnpackedFloat.pack .binary64 form) = .infinity sign := by
  cases form with
  | infinity sign' => exact rounds.elim
  | notANumber => exact rounds.elim
  | zero sign' =>
    rw [rounds.2] at large
    exact absurd (by positivity) large
  | finite sign' significand exponent nonzero =>
    obtain ⟨rfl, isRounded, canonical⟩ := rounds
    refine unpack_pack_infinity sign' nonzero ?_
    -- A significand has 53 bits, so a number in range is below the bound.
    by_contra small
    refine large (isRounded ▸ ?_)
    calc (significand : ℚ) * 2 ^ exponent < 2 ^ 53 * 2 ^ exponent :=
          mul_lt_mul_of_pos_right (by exact_mod_cast canonical.width) (two_zpow_pos _)
      _ ≤ 2 ^ 53 * 2 ^ (971 : ℤ) := by
          refine mul_le_mul_of_nonneg_left ?_ (by positivity)
          exact zpow_le_zpow_right₀ one_le_two (by omega)
      _ = 2 ^ 1024 := (pow_add 2 53 971).symm

/-! ### Order -/

/-- Of two canonical forms the one with the smaller exponent is smaller, and of two with one
exponent the one with the smaller significand. -/
theorem IsCanonical.lt_iff (first : IsCanonical m₁ e₁) (second : IsCanonical m₂ e₂) :
    (m₁ : ℚ) * 2 ^ e₁ < m₂ * 2 ^ e₂ ↔ e₁ < e₂ ∨ e₁ = e₂ ∧ m₁ < m₂ := by
  -- A larger exponent is not the least one, so its significand has the full width.
  have smaller {m n : ℕ} {e f : ℤ} (left : IsCanonical m e) (right : IsCanonical n f)
      (less : e < f) : (m : ℚ) * 2 ^ e < n * 2 ^ f := by
    have full : 2 ^ 52 ≤ n := right.full.resolve_right (by have := left.least; omega)
    calc (m : ℚ) * 2 ^ e < 2 ^ 53 * 2 ^ e :=
          mul_lt_mul_of_pos_right (by exact_mod_cast left.width) (two_zpow_pos e)
      _ = 2 ^ 52 * 2 ^ (e + 1) := by
          rw [zpow_add_one₀ two_ne_zero]
          ring
      _ ≤ (n : ℚ) * 2 ^ f := by
          refine mul_le_mul (by exact_mod_cast full) ?_ (two_zpow_pos _).le (Nat.cast_nonneg n)
          exact zpow_le_zpow_right₀ one_le_two less
  rcases lt_trichotomy e₁ e₂ with less | rfl | greater
  · exact iff_of_true (smaller first second less) (.inl less)
  · rw [mul_lt_mul_iff_of_pos_right (two_zpow_pos e₁), Nat.cast_lt]
    simp
  · have reverse := smaller second first greater
    exact iff_of_false reverse.not_gt (by omega)

theorem IsCanonical.compare_eq_lt (first : IsCanonical m₁ e₁) (second : IsCanonical m₂ e₂) :
    (compare e₁ e₂).then (compare m₁ m₂) = .lt ↔ (m₁ : ℚ) * 2 ^ e₁ < m₂ * 2 ^ e₂ := by
  rw [first.lt_iff second, Ordering.then_eq_lt, Int.compare_eq_lt, Int.compare_eq_eq,
    Nat.compare_eq_lt]

theorem magnitude_pos (nonzero : 0 < significand) (exponent : ℤ) :
    (0 : ℚ) < significand * 2 ^ exponent :=
  mul_pos (Nat.cast_pos.mpr nonzero) (two_zpow_pos exponent)

/-- The forms that finite numbers are unpacked to, with their values: zeros, and canonical forms
within the range. -/
inductive HasForm : UnpackedFloat → ℚ → Prop
  | zero (sign : Sign) : HasForm (.zero sign) 0
  | finite (sign : Sign) {m : ℕ} {e : ℤ} (nonzero : 0 < m) (canonical : IsCanonical m e)
      (most : e ≤ 971) : HasForm (.finite sign m e nonzero) (signed sign (m * 2 ^ e))

section Forms

variable {form form' : UnpackedFloat} {s t : ℚ}

theorem HasForm.value?_eq (hasForm : HasForm form s) : value? form = some s := by
  cases hasForm <;> rfl

/-- A form that stands for a number of double precision survives packing. -/
theorem HasForm.unpack_pack (hasForm : HasForm form s) :
    UnpackedFloat.unpack .binary64 (UnpackedFloat.pack .binary64 form) = form := by
  cases hasForm with
  | zero sign => exact unpack_pack_zero sign
  | finite sign nonzero canonical most => exact canonical.unpack_pack sign nonzero most

theorem HasForm.value?_unpack_pack (hasForm : HasForm form s) :
    value? (UnpackedFloat.unpack .binary64 (UnpackedFloat.pack .binary64 form)) = some s := by
  rw [hasForm.unpack_pack, hasForm.value?_eq]

theorem HasForm.nearest_eq (hasForm : HasForm form s) : nearest s = s := by
  cases hasForm with
  | zero sign => rw [nearest_of_nonneg le_rfl, rounded_zero]
  | finite sign nonzero canonical most =>
    rw [nearest_signed sign (magnitude_pos nonzero _),
      rounded_eq_self canonical.width canonical.least]

theorem HasForm.fits (hasForm : HasForm form s) : Fits s := by
  unfold Fits
  cases hasForm with
  | zero sign =>
    rw [abs_zero, rounded_zero]
    positivity
  | finite sign nonzero canonical most =>
    rename_i m e
    rw [abs_signed sign (magnitude_pos nonzero e).le,
      rounded_eq_self canonical.width canonical.least]
    calc (m : ℚ) * 2 ^ e < 2 ^ 53 * 2 ^ e :=
          mul_lt_mul_of_pos_right (by exact_mod_cast canonical.width) (two_zpow_pos _)
      _ ≤ 2 ^ 53 * 2 ^ (971 : ℤ) := by
          refine mul_le_mul_of_nonneg_left ?_ (by positivity)
          exact zpow_le_zpow_right₀ one_le_two most
      _ = 2 ^ 1024 := (pow_add 2 53 971).symm

theorem HasForm.compare_eq_lt (first : HasForm form s) (second : HasForm form' t) :
    form.compare form' = some .lt ↔ s < t := by
  cases first with
  | zero sign =>
    cases second with
    | zero sign' => exact iff_of_false (by cases sign <;> cases sign' <;> decide) (lt_irrefl 0)
    | finite sign' nonzero' canonical' most' =>
      rename_i n f
      have positive := magnitude_pos nonzero' f
      cases sign'
      · exact iff_of_false (fun less => nomatch less) (neg_neg_of_pos positive).not_gt
      · exact iff_of_true rfl positive
  | finite sign nonzero canonical most =>
    rename_i m e
    have positive := magnitude_pos nonzero e
    cases second with
    | zero sign' =>
      cases sign
      · exact iff_of_true rfl (neg_neg_of_pos positive)
      · exact iff_of_false (fun less => nomatch less) positive.not_gt
    | finite sign' nonzero' canonical' most' =>
      rename_i n f
      have positive' := magnitude_pos nonzero' f
      cases sign <;> cases sign'
      · -- Of two negative numbers the one of larger magnitude is smaller.
        rw [signed, signed, neg_lt_neg_iff, ← canonical'.compare_eq_lt canonical]
        change some ((compare e f).then (compare m n)).swap = some .lt ↔ _
        rw [Ordering.swap_then, Int.compare_swap, Nat.compare_swap, Option.some_inj]
      · exact iff_of_true rfl ((neg_neg_of_pos positive).trans positive')
      · exact iff_of_false (fun less => nomatch less)
          ((neg_neg_of_pos positive').trans positive).not_gt
      · rw [signed, signed, ← canonical.compare_eq_lt canonical']
        exact Option.some_inj

theorem HasForm.isNaN_eq (hasForm : HasForm form s) : form.isNaN = false := by
  cases hasForm <;> rfl

theorem HasForm.compare_infinity (hasForm : HasForm form s) :
    form.compare (.infinity .negative) = some .gt ∧
      (infinity .positive).compare form = some .gt := by
  cases hasForm with
  | zero sign => cases sign <;> exact ⟨rfl, rfl⟩
  | finite sign => cases sign <;> exact ⟨rfl, rfl⟩

end Forms

variable {x y : Float} {s t : ℚ}

theorem HasValue.hasForm (hasValue : HasValue x s) : HasForm x.toModel.unpack s := by
  unfold HasValue at hasValue
  cases unpacked : x.toModel.unpack with
  | infinity sign => simp [unpacked, value?] at hasValue
  | notANumber => simp [unpacked, value?] at hasValue
  | zero sign =>
    rw [unpacked] at hasValue
    obtain rfl := Option.some.inj hasValue
    exact .zero sign
  | finite sign significand exponent nonzero =>
    obtain ⟨canonical, most⟩ := isCanonical_of_unpack unpacked
    rw [unpacked] at hasValue
    obtain rfl := Option.some.inj hasValue
    exact .finite sign nonzero canonical most

theorem HasValue.lt_iff (hx : HasValue x s) (hy : HasValue y t) : x < y ↔ s < t := by
  rw [Binary64.lt_iff]
  exact hx.hasForm.compare_eq_lt hy.hasForm

theorem HasValue.isNaN_eq (hasValue : HasValue x s) : x.isNaN = false :=
  hasValue.hasForm.isNaN_eq

/-- The finite numbers are those that have a value. -/
theorem isFinite_iff : x.isFinite = true ↔ ∃ q, HasValue x q := by
  unfold HasValue
  change x.toModel.unpack.isFinite = true ↔ _
  cases x.toModel.unpack with
  | notANumber | infinity => simp [UnpackedFloat.isFinite, value?]
  | zero | finite => simp [UnpackedFloat.isFinite, value?]

theorem HasValue.le_iff (hx : HasValue x s) (hy : HasValue y t) : x ≤ y ↔ s ≤ t := by
  rw [le_iff_not_lt, hy.lt_iff hx, not_lt]
  exact and_iff_left ⟨hy.isNaN_eq, hx.isNaN_eq⟩

theorem HasValue.beq_of_eq (hx : HasValue x s) (hy : HasValue y s) : (x == y) = true := by
  have notLess : x.toModel.unpack.compare y.toModel.unpack ≠ some .lt := by
    rw [Ne, hx.hasForm.compare_eq_lt hy.hasForm]
    exact lt_irrefl s
  have notGreater : y.toModel.unpack.compare x.toModel.unpack ≠ some .lt := by
    rw [Ne, hy.hasForm.compare_eq_lt hx.hasForm]
    exact lt_irrefl s
  rw [compare_swap] at notGreater
  change (x.toModel.unpack.compare y.toModel.unpack == some .eq) = true
  -- Neither below the other and both defined, they can only be equal.
  cases compared : x.toModel.unpack.compare y.toModel.unpack with
  | none =>
    have undefined := compare_eq_none_iff.mp compared
    rw [hx.hasForm.isNaN_eq, hy.hasForm.isNaN_eq] at undefined
    simp at undefined
  | some order =>
    rw [compared] at notLess notGreater
    cases order <;> simp_all

/-- A number between two that have values has one. -/
theorem exists_hasValue_of_le {z : Float} {r : ℚ} (hx : HasValue x s) (hz : HasValue z r)
    (x_le_y : x ≤ y) (y_le_z : y ≤ z) : ∃ q, HasValue y q := by
  unfold HasValue
  cases unpacked : y.toModel.unpack with
  | zero sign => exact ⟨_, rfl⟩
  | finite sign significand exponent nonzero => exact ⟨_, rfl⟩
  | notANumber =>
    have defined := (le_iff_not_lt.mp x_le_y).2.1
    have undefined : y.isNaN = true := congrArg UnpackedFloat.isNaN unpacked
    rw [defined] at undefined
    exact Bool.noConfusion undefined
  | infinity sign =>
    -- Either infinity is beyond one of the two bounds.
    rw [Binary64.le_iff, unpacked] at x_le_y y_le_z
    cases sign with
    | negative =>
      rw [hx.hasForm.compare_infinity.1] at x_le_y
      exact Bool.noConfusion x_le_y
    | positive =>
      rw [hz.hasForm.compare_infinity.2] at y_le_z
      exact Bool.noConfusion y_le_z

/-! ### Integer parts -/

theorem wholeMagnitude_eq_zero {m : ℕ} {e : ℤ} (nonzero : 0 < m) (below : (m : ℚ) * 2 ^ e < 1)
    (isNegative : Bool) : Parts.wholeMagnitude ⟨isNegative, m, e⟩ .towardZero = 0 := by
  have hasFraction : ¬ 0 ≤ e := by
    intro whole
    have one_le : (1 : ℚ) ≤ m := by exact_mod_cast nonzero
    have unit : (1 : ℚ) ≤ 2 ^ e := one_le_zpow₀ one_le_two whole
    exact absurd (one_le_mul_of_one_le_of_one_le one_le unit) below.not_ge
  have unit : (2 : ℚ) ^ e = (2 ^ (-e).toNat)⁻¹ := by
    rw [← zpow_natCast, ← zpow_neg]
    congr 1
    omega
  rw [unit, ← div_eq_mul_inv, div_lt_one (by positivity)] at below
  rw [Parts.wholeMagnitude, if_neg hasFraction]
  change m / 2 ^ (-e).toNat = 0
  exact Nat.div_eq_of_lt (by exact_mod_cast below)

theorem HasValue.toInt32_nonneg (hasValue : HasValue x s) (above : -1 < s) :
    0 ≤ Scalar.toInt32 x := by
  change 0 ≤ toInt (-0x80000000) 0x7FFFFFFF x
  have reading := parts_eq x
  have hasForm := hasValue.hasForm
  generalize x.toModel.unpack = form at reading hasForm
  rw [toInt, reading]
  cases hasForm with
  | zero sign =>
    have magnitude : Parts.wholeMagnitude ⟨sign == .negative, 0, -1074⟩ .towardZero = 0 :=
      Nat.zero_div _
    rw [Parts.ofUnpacked?]
    simp only [magnitude, Parts.signed]
    split_ifs <;> omega
  | finite sign nonzero canonical most =>
    rename_i m e
    rw [Parts.ofUnpacked?]
    cases sign with
    | positive =>
      change 0 ≤ max (-0x80000000) (min 0x7FFFFFFF (Parts.wholeMagnitude _ _ : ℤ))
      omega
    -- Between minus one and zero nothing is left of the number.
    | negative =>
      have magnitude := wholeMagnitude_eq_zero nonzero (neg_lt_neg_iff.mp above) true
      change 0 ≤ max (-0x80000000) (min 0x7FFFFFFF (-(Parts.wholeMagnitude ⟨true, m, e⟩ _ : ℤ)))
      rw [magnitude]
      decide

/-- The integer part of a number that does not compare below zero, infinite and undefined ones
included. -/
theorem toInt32_nonneg (notBelow : ¬ x < Float.ofNat 0) : 0 ≤ Scalar.toInt32 x := by
  have noParts (none : parts x = none) : 0 ≤ Scalar.toInt32 x := by
    change 0 ≤ toInt (-0x80000000) 0x7FFFFFFF x
    rw [toInt, none]
    dsimp only
    -- Without a value the integer is zero, or a bound of the integers.
    split_ifs with isNaN below
    · exact le_rfl
    · exact absurd below notBelow
    · decide
  have zero : HasValue (Float.ofNat 0) 0 := rfl
  have reading := parts_eq x
  cases form : x.toModel.unpack with
  | zero sign =>
    have hasValue : HasValue x 0 := congrArg value? form
    exact hasValue.toInt32_nonneg (by norm_num)
  | finite sign m e nonzero =>
    have hasValue : HasValue x (signed sign (m * 2 ^ e)) := congrArg value? form
    rw [hasValue.lt_iff zero, not_lt] at notBelow
    exact hasValue.toInt32_nonneg (by linarith)
  | infinity sign =>
    rw [form] at reading
    exact noParts reading
  | notANumber =>
    rw [form] at reading
    exact noParts reading

end LinkQuality.Binary64
