import Mathlib
import LinkQuality.Proofs.Binary64.Order

/-!
# Whole numbers in floating point

A whole number of at most 53 bits is its own floating-point number: its significand is shifted up to
the full width, and neither the conversion from a word nor the multiplication by one that comes with
a literal rounds anything away.

So clamping is exact where it matters. Whatever number is clamped between zero and a whole number,
infinite and undefined ones too, its integer part lies between the two.

## Main definitions

* `Parts.ofUnpacked?`: the parts of a number in unpacked form

## Main results

* `unpack_ofNat`: the form of a whole number
* `parts_eq`: reading the parts off the bits is unpacking
* `toInt32_clamp_range`: the integer part of a clamped number
-/

namespace LinkQuality.Binary64

open Float.Model UnpackedFloat

variable {significand : ℕ} {exponent : ℤ}

/-! ### Rounding that changes nothing -/

theorem log2_mul_two_pow {n : ℕ} (nonzero : 0 < n) (k : ℕ) :
    (n * 2 ^ k).log2 = n.log2 + k := by
  have size := (Nat.log2_eq_iff (Nat.ne_of_gt nonzero)).mp rfl
  refine (Nat.log2_eq_iff (Nat.ne_of_gt (Nat.mul_pos nonzero (Nat.two_pow_pos k)))).mpr ⟨?_, ?_⟩
  · rw [Nat.pow_add]
    exact Nat.mul_le_mul_right _ size.1
  · rw [Nat.add_right_comm, Nat.pow_add]
    exact Nat.mul_lt_mul_of_pos_right size.2 (Nat.two_pow_pos k)

/-- Halving a multiple of a power of two as often as that leaves no remainder. -/
theorem shiftRight_mul_two_pow (significand k : ℕ) :
    (⟨significand * 2 ^ k, false, false⟩ : ExtendedMantissa) >>> k =
      ⟨significand, false, false⟩ := by
  change k.repeat ExtendedMantissa.shiftRightOne _ = _
  induction k generalizing significand with
  | zero => simp [Nat.repeat]
  | succ k ih =>
    -- The last halving is the outermost one, so the others halve a multiple of two.
    have even : significand * 2 ^ (k + 1) = significand * 2 * 2 ^ k := by
      rw [Nat.pow_succ, Nat.mul_assoc, Nat.mul_comm 2]
    rw [Nat.repeat, even, ih]
    simp [ExtendedMantissa.shiftRightOne]

theorem shiftToTargetExponent_exact (full : significand.log2 = 52) (least : -1074 ≤ exponent)
    (k : ℕ) :
    shiftToTargetExponent .binary64 (significand * 2 ^ k) (exponent - k) .exact =
      (⟨significand, false, false⟩, exponent) := by
  have nonzero : 0 < significand := Nat.pos_of_ne_zero fun zero => by simp [zero] at full
  have target : Format.binary64.targetExponent
      (totalExponent (significand * 2 ^ k) (exponent - k)) = exponent := by
    simp only [totalExponent, log2_mul_two_pow nonzero, full, Format.targetExponent,
      Format.mantissaBits, Format.minExponent]
    omega
  have shift : (exponent - (exponent - k)).toNat = k := by omega
  rw [shiftToTargetExponent, target, shiftToExponent, shift]
  exact Prod.ext (shiftRight_mul_two_pow significand k) (by dsimp only; omega)

/-- A significand of full width that is followed by zeros only is rounded to itself. -/
theorem roundWithAccuracy_exact (sign : Sign) (nonzero : 0 < significand)
    (full : significand.log2 = 52) (least : -1074 ≤ exponent) (k : ℕ) :
    roundWithAccuracy .binary64 sign (significand * 2 ^ k) (exponent - k) .exact =
      .finite sign significand exponent nonzero := by
  have again := shiftToTargetExponent_exact full least 0
  rw [Nat.pow_zero, Nat.mul_one, Int.natCast_zero, Int.sub_zero] at again
  simp only [roundWithAccuracy, shiftToTargetExponent_exact full least k,
    ExtendedMantissa.roundedMantissa, ExtendedMantissa.accuracy, Accuracy.roundToNearestEven, again]
  exact dif_neg (Nat.ne_of_gt nonzero)

/-! ### Bits -/

theorem toNat_one_append (fraction : BitVec 52) :
    (1#1 ++ fraction).toNat = 2 ^ 52 + fraction.toNat := by
  rw [BitVec.toNat_append, ← Nat.shiftLeft_add_eq_or_of_lt fraction.isLt]
  simp [Nat.shiftLeft_eq]

/-- A significand of full width survives packing if its exponent is within the range. -/
theorem unpack_pack (sign : Sign) (nonzero : 0 < significand) (full : significand.log2 = 52)
    (least : -1074 ≤ exponent) (most : exponent ≤ 971) :
    UnpackedFloat.unpack .binary64
        (UnpackedFloat.pack .binary64 (.finite sign significand exponent nonzero)) =
      .finite sign significand exponent nonzero := by
  have size := (Nat.log2_eq_iff (Nat.ne_of_gt nonzero)).mp full
  obtain ⟨biased, isBiased, biased_pos, biased_lt⟩ :
      ∃ biased : ℕ, (biased : ℤ) = exponent + 1075 ∧ 0 < biased ∧ biased < 2047 :=
    ⟨(exponent + 1075).toNat, by omega, by omega, by omega⟩
  have packed : UnpackedFloat.pack .binary64 (.finite sign significand exponent nonzero) =
      packComponents .binary64 sign (BitVec.ofNat 11 biased) (BitVec.ofNat 52 significand) := by
    have field : (exponent + (Format.binary64.exponentBias : ℤ) +
        (Format.binary64.mantissaBitsWithoutImplicit : ℤ)).toNat = biased := by
      simp only [Format.exponentBias]
      omega
    have noOverflow : ¬ 2 ^ 11 ≤ biased + 1 := by omega
    rw [UnpackedFloat.pack, field, full]
    exact (if_neg noOverflow).trans (if_pos rfl)
  -- The biased exponent is neither that of infinities nor that of numbers with a short significand.
  have toNat_biased : (BitVec.ofNat 11 biased).toNat = biased := by
    rw [BitVec.toNat_ofNat]
    omega
  have isNot (field : BitVec 11) (differs : field.toNat ≠ biased) :
      BitVec.ofNat 11 biased ≠ field := by
    rintro rfl
    exact differs toNat_biased
  have isFinite := isNot (-1#11) (Nat.ne_of_gt biased_lt)
  have isNormal := isNot 0#11 (Nat.ne_of_lt biased_pos)
  have sameSignificand : (1#1 ++ BitVec.ofNat 52 significand).toNat = significand := by
    rw [toNat_one_append, BitVec.toNat_ofNat]
    omega
  have sameExponent : ((BitVec.ofNat 11 biased).toNat : ℤ) -
      (Format.binary64.exponentBias + Format.binary64.mantissaBitsWithoutImplicit) = exponent := by
    rw [toNat_biased, isBiased]
    simp only [Format.exponentBias]
    omega
  rw [packed]
  simp only [UnpackedFloat.unpack, unpackMantissa_packComponents, unpackExponent_packComponents,
    unpackSign_packComponents, Sign.ofBitVec_toBitVec, isFinite, isNormal, if_false,
    sameSignificand, sameExponent]

section Fields

variable (bits : BitVec Format.binary64.numBits)

theorem toNat_unpackMantissa : (unpackMantissa bits).toNat = bits.toNat % 0x10000000000000 := by
  simp [unpackMantissa]

theorem toNat_unpackExponent :
    (unpackExponent bits).toNat = bits.toNat / 0x10000000000000 % 0x800 := by
  simp [unpackExponent, Nat.shiftRight_eq_div_pow]

theorem toNat_unpackSign : (unpackSign bits).toNat = bits.toNat / 0x8000000000000000 := by
  have inRange : bits.toNat < 2 ^ 64 := bits.isLt
  simp only [unpackSign, BitVec.toNat_cast, BitVec.extractLsb_toNat, Nat.shiftRight_eq_div_pow]
  omega

/-- The sign bit is set in negative numbers. -/
theorem isNegative_eq :
    (bits.toNat / 0x8000000000000000 == 1) = (Sign.ofBitVec (unpackSign bits) == .negative) := by
  rw [← toNat_unpackSign]
  generalize unpackSign bits = sign
  revert sign
  decide

end Fields

/-! ### Parts -/

/-- The parts of a number in unpacked form. -/
def Parts.ofUnpacked? : UnpackedFloat → Option Parts
  | .infinity _ | .notANumber => none
  | .zero sign => some ⟨sign == .negative, 0, -1074⟩
  | .finite sign significand exponent _ => some ⟨sign == .negative, significand, exponent⟩

/-- The parts that are read off the bits are those of the unpacked form. -/
theorem parts_eq (x : Float) : parts x = Parts.ofUnpacked? x.toModel.unpack := by
  let bits : BitVec Format.binary64.numBits := x.toModel.toBits.toBitVec
  have read : parts x =
      if bits.toNat / 0x10000000000000 % 0x800 = 2047 then none
      else if bits.toNat / 0x10000000000000 % 0x800 = 0 then
        some ⟨bits.toNat / 0x8000000000000000 == 1, bits.toNat % 0x10000000000000, -1074⟩
      else some ⟨bits.toNat / 0x8000000000000000 == 1,
        0x10000000000000 + bits.toNat % 0x10000000000000,
        (bits.toNat / 0x10000000000000 % 0x800 : ℕ) - 1075⟩ := rfl
  -- The three fields are read off as numbers there, and compared as bits here.
  have isFull : unpackExponent bits = -1#11 ↔ bits.toNat / 0x10000000000000 % 0x800 = 2047 := by
    rw [← toNat_unpackExponent, ← BitVec.toNat_inj]
    rfl
  have isLeast : unpackExponent bits = 0#11 ↔ bits.toNat / 0x10000000000000 % 0x800 = 0 := by
    rw [← toNat_unpackExponent, ← BitVec.toNat_inj]
    rfl
  have isEmpty : unpackMantissa bits = 0#52 ↔ bits.toNat % 0x10000000000000 = 0 := by
    rw [← toNat_unpackMantissa, ← BitVec.toNat_inj]
    rfl
  change _ = Parts.ofUnpacked? (UnpackedFloat.unpack .binary64 bits)
  rw [read, UnpackedFloat.unpack, isNegative_eq]
  simp only [isFull, isLeast, isEmpty]
  split_ifs with full empty least empty
  · rfl
  · rfl
  · rw [empty]
    rfl
  · simp only [Parts.ofUnpacked?, toNat_unpackMantissa, toNat_unpackExponent, least]
    rfl
  · simp only [Parts.ofUnpacked?, toNat_one_append, toNat_unpackMantissa, toNat_unpackExponent]
    rfl

theorem significand_lt {x : Float} {p : Parts} (isFinite : parts x = some p) :
    p.significand < 2 ^ 53 := by
  unfold parts at isFinite
  dsimp only at isFinite
  split_ifs at isFinite
  · obtain rfl := Option.some.inj isFinite
    dsimp only
    omega
  · obtain rfl := Option.some.inj isFinite
    dsimp only
    omega

/-! ### Whole numbers -/

theorem unpack_zero : (Float.ofNat 0).toModel.unpack = .zero .positive := rfl

variable {n : ℕ}

/-- The significand of a whole number, shifted up to the full width. -/
theorem log2_shifted (nonzero : 0 < n) (small : n < 2 ^ 53) :
    (n * 2 ^ (52 - n.log2)).log2 = 52 := by
  have size : n.log2 < 53 := (Nat.log2_lt (Nat.ne_of_gt nonzero)).mpr small
  rw [log2_mul_two_pow nonzero]
  omega

/-- The form of a whole number that is converted from a word. -/
theorem unpack_toFloat (nonzero : 0 < n) (small : n < 2 ^ 53) :
    n.toUInt64.toFloat.toModel.unpack = .finite .positive (n * 2 ^ (52 - n.log2))
      ((n.log2 : ℤ) - 52) (Nat.mul_pos nonzero (Nat.two_pow_pos _)) := by
  have size : n.log2 < 53 := (Nat.log2_lt (Nat.ne_of_gt nonzero)).mpr small
  have full := log2_shifted nonzero small
  have inWord : n.toUInt64.toNat = n := by
    rw [Nat.toUInt64, UInt64.toNat_ofNat']
    omega
  -- The significand is shifted up to full width, which leaves nothing to round.
  have target : Format.binary64.targetExponent (totalExponent n 0) = (n.log2 : ℤ) - 52 := by
    simp only [totalExponent, Format.targetExponent, Format.mantissaBits, Format.minExponent]
    omega
  have shift : (0 - ((n.log2 : ℤ) - 52)).toNat = 52 - n.log2 := by omega
  have shifted : (0 : ℤ) - (52 - n.log2 : ℕ) = (n.log2 : ℤ) - 52 := by omega
  have rounded := roundWithAccuracy_exact .positive (Nat.mul_pos nonzero (Nat.two_pow_pos _)) full
    (show -1074 ≤ (n.log2 : ℤ) - 52 by omega) 0
  rw [Nat.pow_zero, Nat.mul_one, Int.natCast_zero, Int.sub_zero] at rounded
  change UnpackedFloat.unpack .binary64 (UnpackedFloat.pack .binary64
    (UnpackedFloat.ofInt .binary64 (n.toUInt64.toNat : ℤ))) = _
  rw [inWord, UnpackedFloat.ofInt, UnpackedFloat.normalize, Int.compare_eq_gt.mpr (by omega)]
  simp only [Int.toNat_natCast, UnpackedFloat.round, target, decreaseExponent, shift, shifted,
    Nat.shiftLeft_eq, rounded]
  exact unpack_pack _ _ full (by omega) (by omega)

/-- The form of a whole number. It is the word that holds it times one, and the product is exact. -/
theorem unpack_ofNat (nonzero : 0 < n) (small : n < 2 ^ 53) :
    (Float.ofNat n).toModel.unpack = .finite .positive (n * 2 ^ (52 - n.log2))
      ((n.log2 : ℤ) - 52) (Nat.mul_pos nonzero (Nat.two_pow_pos _)) := by
  have size : n.log2 < 53 := (Nat.log2_lt (Nat.ne_of_gt nonzero)).mpr small
  have full := log2_shifted nonzero small
  -- One has the significand of full width and 52 zeros, which the product drops again.
  have product : Float.ofNat n = n.toUInt64.toFloat * Float.ofBits 0x3FF0000000000000 := by
    have isExact : n < 2 ^ 53 ∧ 0 ≤ 22 := ⟨small, by decide⟩
    change Float.ofScientific n false 0 = _
    rw [Float.ofScientific, dif_pos isExact]
    rfl
  have one : (Float.ofBits 0x3FF0000000000000).toModel.unpack =
      .finite .positive (2 ^ 52) (-52) (by decide) := rfl
  have exponents : (n.log2 : ℤ) - 52 + -52 = (n.log2 : ℤ) - 52 - (52 : ℕ) := by omega
  rw [product]
  change UnpackedFloat.unpack .binary64 (UnpackedFloat.pack .binary64 (UnpackedFloat.mul .binary64
    n.toUInt64.toFloat.toModel.unpack (Float.ofBits 0x3FF0000000000000).toModel.unpack)) = _
  rw [unpack_toFloat nonzero small, one]
  change UnpackedFloat.unpack .binary64 (UnpackedFloat.pack .binary64 (roundWithAccuracy .binary64
    .positive (n * 2 ^ (52 - n.log2) * 2 ^ 52) ((n.log2 : ℤ) - 52 + -52) .exact)) = _
  rw [exponents, roundWithAccuracy_exact .positive (Nat.mul_pos nonzero (Nat.two_pow_pos _)) full
    (by omega) 52]
  exact unpack_pack _ _ full (by omega) (by omega)

/-! ### Clamping -/

theorem zero_le_ofNat (small : n < 2 ^ 53) : (Float.ofNat 0) ≤ Float.ofNat n := by
  rw [le_iff, unpack_zero]
  rcases Nat.eq_zero_or_pos n with rfl | nonzero
  · rfl
  · rw [unpack_ofNat nonzero small]
    rfl

theorem zero_le_ofInt {upper : ℤ} (nonneg : 0 ≤ upper) (small : upper < 2 ^ 53) :
    (Scalar.ofInt 0 : Float) ≤ Scalar.ofInt upper := by
  obtain ⟨n, rfl⟩ := Int.eq_ofNat_of_zero_le nonneg
  exact zero_le_ofNat (by omega)

/-- A positive number that does not compare above a whole one has a smaller exponent, or the same
exponent and no larger significand. -/
theorem le_of_not_above (nonzero : 0 < n) (small : n < 2 ^ 53) {pos : 0 < significand}
    (notAbove : ¬ ((Float.ofNat n).toModel.unpack.compare
      (.finite .positive significand exponent pos)) = some .lt) :
    exponent < n.log2 - 52 ∨
      exponent = n.log2 - 52 ∧ significand ≤ n * 2 ^ (52 - n.log2) := by
  rw [unpack_ofNat nonzero small] at notAbove
  change ¬ some ((compare ((n.log2 : ℤ) - 52) exponent).then
    (compare (n * 2 ^ (52 - n.log2)) significand)) = some .lt at notAbove
  rw [Option.some_inj, Ordering.then_eq_lt, Int.compare_eq_lt, Int.compare_eq_eq,
    Nat.compare_eq_lt] at notAbove
  omega

/-- A number that does not compare above a whole one has no larger integer part. A smaller exponent
takes at least one bit from a significand that has at most one more than the number. -/
theorem wholeMagnitude_le (nonzero : 0 < n) (small : n < 2 ^ 52) {isNegative : Bool}
    (width : significand < 2 ^ 53)
    (notAbove : exponent < n.log2 - 52 ∨
      exponent = n.log2 - 52 ∧ significand ≤ n * 2 ^ (52 - n.log2)) :
    Parts.wholeMagnitude ⟨isNegative, significand, exponent⟩ .towardZero ≤ n := by
  have size : n.log2 < 52 := (Nat.log2_lt (Nat.ne_of_gt nonzero)).mpr small
  have hasFraction : ¬ 0 ≤ exponent := by omega
  have magnitude : Parts.wholeMagnitude ⟨isNegative, significand, exponent⟩ .towardZero =
      significand / 2 ^ (-exponent).toNat := by
    rw [Parts.wholeMagnitude, if_neg hasFraction]
    rfl
  rw [magnitude]
  -- A smaller exponent drops more bits than the bound has left over.
  rcases notAbove with less | ⟨rfl, atMost⟩
  · have dropped : 53 - n.log2 ≤ (-exponent).toNat := by omega
    have bits : n.log2 + (53 - n.log2) = 53 := by omega
    calc significand / 2 ^ (-exponent).toNat
        ≤ significand / 2 ^ (53 - n.log2) :=
          Nat.div_le_div_left (Nat.pow_le_pow_right (by decide) dropped) (Nat.two_pow_pos _)
      _ ≤ 2 ^ n.log2 := by
          refine Nat.le_of_lt ((Nat.div_lt_iff_lt_mul (Nat.two_pow_pos _)).mpr ?_)
          rw [← Nat.pow_add, bits]
          exact width
      _ ≤ n := Nat.log2_self_le (Nat.ne_of_gt nonzero)
  · have dropped : (-((n.log2 : ℤ) - 52)).toNat = 52 - n.log2 := by omega
    rw [dropped]
    exact Nat.div_le_of_le_mul (by rw [Nat.mul_comm]; exact atMost)

/-- The integer part of a number that is not below zero and not above a whole number. The number may
be undefined, and then its integer part is zero. -/
theorem toInt32_range (small : n < 2 ^ 52) {x : Float} (notBelow : ¬ x < Float.ofNat 0)
    (notAbove : ¬ Float.ofNat n < x) : 0 ≤ Scalar.toInt32 x ∧ Scalar.toInt32 x ≤ n := by
  have reading := parts_eq x
  rw [lt_iff, unpack_zero] at notBelow
  rw [lt_iff] at notAbove
  change 0 ≤ toInt (-0x80000000) 0x7FFFFFFF x ∧ toInt (-0x80000000) 0x7FFFFFFF x ≤ n
  -- Undefined and zero give zero, and of the others only positive finite numbers are left.
  cases unpacked : x.toModel.unpack with
  | infinity sign =>
    rw [unpacked] at notBelow notAbove
    cases sign with
    | negative => exact absurd rfl notBelow
    | positive =>
      rcases Nat.eq_zero_or_pos n with rfl | nonzero
      · exact absurd rfl notAbove
      · rw [unpack_ofNat nonzero (by omega)] at notAbove
        exact absurd rfl notAbove
  | notANumber =>
    have isNaN : x.isNaN = true := congrArg UnpackedFloat.isNaN unpacked
    rw [unpacked] at reading
    rw [toInt, reading, Parts.ofUnpacked?]
    dsimp only
    rw [if_pos isNaN]
    exact ⟨Int.le_refl 0, Int.natCast_nonneg n⟩
  | zero sign =>
    rw [unpacked] at reading
    have magnitude : Parts.wholeMagnitude ⟨sign == .negative, 0, -1074⟩ .towardZero = 0 :=
      Nat.zero_div _
    rw [toInt, reading, Parts.ofUnpacked?]
    simp only [magnitude, Parts.signed]
    split_ifs <;> omega
  | finite sign significand exponent nonzero =>
    rw [unpacked] at reading notBelow notAbove
    cases sign with
    | negative => exact absurd rfl notBelow
    | positive =>
      rcases Nat.eq_zero_or_pos n with rfl | nonzero
      · exact absurd rfl notAbove
      · have isFinite : parts x = some ⟨false, significand, exponent⟩ := reading
        have atMost : Parts.wholeMagnitude ⟨false, significand, exponent⟩ .towardZero ≤ n :=
          wholeMagnitude_le nonzero small (significand_lt isFinite)
            (le_of_not_above nonzero (by omega) notAbove)
        rw [toInt, isFinite]
        simp only [Parts.signed, Bool.false_eq_true, if_false]
        omega

/-- The integer part of a number that is clamped between zero and a whole number lies between the
two. -/
theorem toInt32_clamp_range {upper : ℤ} (nonneg : 0 ≤ upper) (small : upper < 2 ^ 52) (x : Float) :
    0 ≤ Scalar.toInt32 (Scalar.clamp 0 (Scalar.ofInt upper) x) ∧
      Scalar.toInt32 (Scalar.clamp 0 (Scalar.ofInt upper) x) ≤ upper := by
  obtain ⟨n, rfl⟩ := Int.eq_ofNat_of_zero_le nonneg
  have small' : n < 2 ^ 52 := by omega
  have atLeast : ¬ Float.ofNat n < Float.ofNat 0 := not_lt_of_le (zero_le_ofNat (by omega))
  change 0 ≤ Scalar.toInt32 (Scalar.clamp (Float.ofNat 0) (Float.ofNat n) x) ∧
    Scalar.toInt32 (Scalar.clamp (Float.ofNat 0) (Float.ofNat n) x) ≤ n
  unfold Scalar.clamp
  split_ifs with below above
  · exact toInt32_range small' (not_lt_self _) atLeast
  · exact toInt32_range small' atLeast (not_lt_self _)
  · exact toInt32_range small' below above

end LinkQuality.Binary64
