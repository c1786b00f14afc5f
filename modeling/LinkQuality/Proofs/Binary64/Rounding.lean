import LinkQuality.Proofs.Binary64.Whole
import LinkQuality.Proofs.Exact

/-!
# Rounding to double precision

Every operation on numbers of double precision computes an exact result and rounds it: to the last
place that double precision keeps of a magnitude of that size, to the nearest multiple of it, and to
the even one of two that are equally near. What rounding is, and that it keeps the order and leaves
alone what can be held exactly, is said here of rational numbers.

The operations themselves do not see the exact result. They shift a significand to the last place
and keep two bits of what is shifted out, whether it is as much as one half, and whether there is
anything else. Those say on which side of one half the rest lies, and that is all that is needed to
round.

## Main definitions

* `lastPlace`, `rounded`: rounding a magnitude
* `StandsFor`: what a significand with its two bits says of a number
* `IsCanonical`: the form in which double precision keeps a number
* `Rounds`: whether a number in unpacked form is what another one is rounded to

## Main results

* `rounded_mono`, `rounded_eq_self`: rounding keeps the order, and what can be held
* `StandsFor.shiftRight`, `StandsFor.roundedMantissa_eq`: the two bits are enough
* `rounds_roundWithAccuracy`, `rounds_round`: the model of floating point rounds
-/

namespace LinkQuality.Binary64

open Float.Model UnpackedFloat

/-! ### Rounding magnitudes -/

/-- The exponent of the last place that double precision keeps of a magnitude. -/
def lastPlace (q : ℚ) : ℤ := max (Int.log 2 q - 52) (-1074)

/-- The multiple of the last place that is nearest to a magnitude, and the even one of two that are
equally near. -/
def rounded (q : ℚ) : ℚ := Exact.nearestEven (q / 2 ^ lastPlace q) * 2 ^ lastPlace q

variable {q r : ℚ}

theorem two_zpow_pos (e : ℤ) : (0 : ℚ) < 2 ^ e := zpow_pos two_pos e

theorem lt_of_lastPlace (q : ℚ) : q < 2 ^ (lastPlace q + 53) := by
  calc q < 2 ^ (Int.log 2 q + 1) := Int.lt_zpow_succ_log_self one_lt_two q
    _ ≤ 2 ^ (lastPlace q + 53) := by
      apply zpow_le_zpow_right₀ one_le_two
      unfold lastPlace
      omega

theorem le_of_lastPlace (positive : 0 < q) (normal : -1074 < lastPlace q) :
    2 ^ (lastPlace q + 52) ≤ q := by
  have exponent : lastPlace q + 52 = Int.log 2 q := by
    unfold lastPlace at normal ⊢
    omega
  rw [exponent]
  exact Int.zpow_log_le_self one_lt_two positive

theorem lastPlace_mono (positive : 0 < q) (q_le_r : q ≤ r) : lastPlace q ≤ lastPlace r :=
  max_le_max_right _ (sub_le_sub_right (Int.log_mono_right positive q_le_r) _)

theorem rounded_nonneg (nonneg : 0 ≤ q) : 0 ≤ rounded q := by
  have quotient_nonneg : 0 ≤ q / 2 ^ lastPlace q := div_nonneg nonneg (two_zpow_pos _).le
  have floor_nonneg : 0 ≤ ⌊q / 2 ^ lastPlace q⌋ := Int.floor_nonneg.mpr quotient_nonneg
  have rounded_nonneg := floor_nonneg.trans (Exact.floor_le_nearestEven _)
  exact mul_nonneg (by exact_mod_cast rounded_nonneg) (two_zpow_pos _).le

/-- A magnitude is at most `2 ^ 53` of its last place. -/
theorem nearestEven_le (q : ℚ) :
    Exact.nearestEven (q / 2 ^ lastPlace q) ≤ 2 ^ 53 := by
  have quotient_le : q / 2 ^ lastPlace q ≤ ((2 ^ 53 : ℤ) : ℚ) := by
    rw [div_le_iff₀ (two_zpow_pos _)]
    calc q ≤ 2 ^ (lastPlace q + 53) := (lt_of_lastPlace q).le
      _ = ((2 ^ 53 : ℤ) : ℚ) * 2 ^ lastPlace q := by
        rw [add_comm, zpow_add₀ two_ne_zero]
        norm_num
  calc Exact.nearestEven (q / 2 ^ lastPlace q)
      ≤ Exact.nearestEven (((2 ^ 53 : ℤ) : ℚ)) := Exact.nearestEven_mono quotient_le
    _ = 2 ^ 53 := Exact.nearestEven_intCast _

/-- Above the range of the smallest numbers, it is at least `2 ^ 52` of them. -/
theorem le_nearestEven (positive : 0 < q) (normal : -1074 < lastPlace q) :
    2 ^ 52 ≤ Exact.nearestEven (q / 2 ^ lastPlace q) := by
  have le_quotient : ((2 ^ 52 : ℤ) : ℚ) ≤ q / 2 ^ lastPlace q := by
    rw [le_div_iff₀ (two_zpow_pos _)]
    calc ((2 ^ 52 : ℤ) : ℚ) * 2 ^ lastPlace q = 2 ^ (lastPlace q + 52) := by
          rw [add_comm, zpow_add₀ two_ne_zero]
          norm_num
      _ ≤ q := le_of_lastPlace positive normal
  calc 2 ^ 52 = Exact.nearestEven (((2 ^ 52 : ℤ) : ℚ)) := (Exact.nearestEven_intCast _).symm
    _ ≤ Exact.nearestEven (q / 2 ^ lastPlace q) := Exact.nearestEven_mono le_quotient

theorem rounded_mono (nonneg : 0 ≤ q) (q_le_r : q ≤ r) : rounded q ≤ rounded r := by
  rcases nonneg.eq_or_lt with rfl | positive
  · have zero : rounded 0 = 0 := by simp [rounded, Exact.nearestEven]
    rw [zero]
    exact rounded_nonneg q_le_r
  rcases (lastPlace_mono positive q_le_r).lt_or_eq with less | same
  · -- A power of two lies between the magnitudes, and rounding passes it in neither direction.
    have normal : -1074 < lastPlace r := lt_of_le_of_lt (le_max_right _ _) less
    have below : (Exact.nearestEven (q / 2 ^ lastPlace q) : ℚ) ≤ 2 ^ 53 := by
      exact_mod_cast nearestEven_le q
    have above : (2 : ℚ) ^ 52 ≤ Exact.nearestEven (r / 2 ^ lastPlace r) := by
      exact_mod_cast le_nearestEven (positive.trans_le q_le_r) normal
    calc rounded q ≤ 2 ^ 53 * 2 ^ lastPlace q :=
          mul_le_mul_of_nonneg_right below (two_zpow_pos _).le
      _ = 2 ^ 52 * 2 ^ (lastPlace q + 1) := by
          rw [zpow_add_one₀ two_ne_zero]
          ring
      _ ≤ 2 ^ 52 * 2 ^ lastPlace r := by
          have place_le : lastPlace q + 1 ≤ lastPlace r := less
          exact mul_le_mul_of_nonneg_left (zpow_le_zpow_right₀ one_le_two place_le) (by positivity)
      _ ≤ rounded r := mul_le_mul_of_nonneg_right above (two_zpow_pos _).le
  · unfold rounded
    rw [same]
    have quotient_le := div_le_div_of_nonneg_right q_le_r (two_zpow_pos (lastPlace r)).le
    exact mul_le_mul_of_nonneg_right (Int.cast_le.mpr (Exact.nearestEven_mono quotient_le))
      (two_zpow_pos _).le

/-- A multiple of a power of two that double precision can hold is rounded to itself. -/
theorem rounded_eq_self {m : ℕ} {e : ℤ} (width : m < 2 ^ 53) (least : -1074 ≤ e) :
    rounded (m * 2 ^ e) = m * 2 ^ e := by
  rcases Nat.eq_zero_or_pos m with rfl | nonzero
  · simp [rounded, Exact.nearestEven]
  have positive : (0 : ℚ) < m * 2 ^ e := mul_pos (Nat.cast_pos.mpr nonzero) (two_zpow_pos e)
  have place_le : lastPlace (m * 2 ^ e) ≤ e := by
    have below : ((m : ℚ) * 2 ^ e) < 2 ^ (53 + e) := by
      rw [zpow_add₀ two_ne_zero]
      exact mul_lt_mul_of_pos_right (by exact_mod_cast width) (two_zpow_pos e)
    have log_lt : Int.log 2 ((m : ℚ) * 2 ^ e) < 53 + e :=
      (Int.lt_zpow_iff_log_lt one_lt_two positive).mp below
    unfold lastPlace
    omega
  obtain ⟨k, isShift⟩ := Int.eq_ofNat_of_zero_le (sub_nonneg.mpr place_le)
  have whole : (m * 2 ^ e : ℚ) / 2 ^ lastPlace (m * 2 ^ e) = ((m * 2 ^ k : ℕ) : ℚ) := by
    rw [mul_div_assoc, ← zpow_sub₀ two_ne_zero, isShift]
    push_cast
    rfl
  rw [rounded, whole, Exact.nearestEven_natCast, Int.cast_natCast, ← whole,
    div_mul_cancel₀ _ (two_zpow_pos _).ne']


/-! ### Shifting -/

/-- Whether a significand with a round bit and a sticky bit stands for a number: the bits say
whether anything follows the significand, and on which side of one half it lies. -/
def StandsFor (m : ExtendedMantissa) (x : ℚ) : Prop :=
  ∃ rest : ℚ, x = m.mantissa + rest ∧
    match m.roundBit, m.stickyBit with
    | false, false => rest = 0
    | false, true => 0 < rest ∧ rest < 1 / 2
    | true, false => rest = 1 / 2
    | true, true => 1 / 2 < rest ∧ rest < 1

variable {m : ExtendedMantissa} {x : ℚ}

/-- Shifting halves the number. -/
theorem StandsFor.shiftRightOne (standsFor : StandsFor m x) :
    StandsFor m.shiftRightOne (x / 2) := by
  obtain ⟨mantissa, roundBit, stickyBit⟩ := m
  obtain ⟨rest, rfl, bits⟩ := standsFor
  -- The bit that is shifted out of the significand becomes half of the new rest.
  have halves : (mantissa : ℚ) = 2 * (mantissa / 2 : ℕ) + (mantissa % 2 : ℕ) := by
    exact_mod_cast (Nat.div_add_mod mantissa 2).symm
  refine ⟨(rest + (mantissa % 2 : ℕ)) / 2, ?_, ?_⟩
  · simp only [ExtendedMantissa.shiftRightOne]
    rw [halves]
    ring
  · rcases Nat.mod_two_eq_zero_or_one mantissa with even | odd
    · simp only [ExtendedMantissa.shiftRightOne, even]
      cases roundBit <;> cases stickyBit <;> simp at bits ⊢
      · exact bits
      · constructor <;> linarith
      · constructor <;> linarith
      · constructor <;> linarith
    · simp only [ExtendedMantissa.shiftRightOne, odd]
      cases roundBit <;> cases stickyBit <;> simp at bits ⊢
      · linarith
      · constructor <;> linarith
      · constructor <;> linarith
      · constructor <;> linarith

theorem StandsFor.shiftRight (standsFor : StandsFor m x) (n : ℕ) :
    StandsFor (m >>> n) (x / 2 ^ n) := by
  induction n with
  | zero =>
    change StandsFor m _
    simpa using standsFor
  | succ n ih =>
    change StandsFor (m >>> n).shiftRightOne _
    rw [pow_succ, ← div_div]
    exact ih.shiftRightOne

/-- What the bits say is enough to round to the nearest integer. -/
theorem StandsFor.roundedMantissa_eq (standsFor : StandsFor m x) :
    (m.roundedMantissa : ℤ) = Exact.nearestEven x := by
  obtain ⟨mantissa, roundBit, stickyBit⟩ := m
  obtain ⟨rest, rfl, bits⟩ := standsFor
  have rest_range : 0 ≤ rest ∧ rest < 1 := by
    cases roundBit <;> cases stickyBit <;> simp at bits <;> constructor <;> linarith
  have floor : ⌊(mantissa : ℚ) + rest⌋ = mantissa := by
    rw [Int.floor_eq_iff]
    push_cast
    constructor <;> linarith
  have fract : Int.fract ((mantissa : ℚ) + rest) = rest := by
    rw [Int.fract, floor]
    push_cast
    ring
  have even : Even (mantissa : ℤ) ↔ mantissa % 2 = 0 := by
    rw [Int.even_coe_nat, Nat.even_iff]
  rw [Exact.nearestEven]
  simp only [floor, fract, even]
  cases roundBit <;> cases stickyBit <;>
    simp [ExtendedMantissa.roundedMantissa, ExtendedMantissa.accuracy,
      Accuracy.roundToNearestEven] at bits ⊢
  · simp [bits]
  · intro atLeast
    exact absurd bits.2 atLeast.not_gt
  · rw [bits]
    norm_num
    split_ifs <;> omega
  · rw [if_neg (by linarith), if_pos bits.1]

theorem standsFor_exact (n : ℕ) : StandsFor (.ofMantissaAndAccuracy n .exact) n :=
  ⟨0, (add_zero _).symm, rfl⟩

/-- A quotient of whole numbers and what is left over. -/
theorem standsFor_quotient (n : ℕ) {d : ℕ} (positive : 0 < d) :
    StandsFor (.ofMantissaAndAccuracy (n / d) (accuracyOfFraction (n % d) d)) (n / d : ℚ) := by
  have positive' : (0 : ℚ) < d := Nat.cast_pos.mpr positive
  have split : (n : ℚ) / d = (n / d : ℕ) + ((n % d : ℕ) : ℚ) / d := by
    have parts : (n : ℚ) = d * (n / d : ℕ) + (n % d : ℕ) := by
      exact_mod_cast (Nat.div_add_mod n d).symm
    field_simp
    linarith
  have less : ((n % d : ℕ) : ℚ) / d < 1 := by
    rw [div_lt_one positive']
    exact_mod_cast Nat.mod_lt n positive
  unfold accuracyOfFraction
  split_ifs with nothing
  · refine ⟨0, ?_, rfl⟩
    rw [split, nothing]
    simp [ExtendedMantissa.ofMantissaAndAccuracy]
  · have something : 0 < ((n % d : ℕ) : ℚ) / d :=
      div_pos (Nat.cast_pos.mpr (Nat.pos_of_ne_zero nothing)) positive'
    cases side : compare (2 * (n % d)) d with
    | lt =>
      rw [Nat.compare_eq_lt] at side
      refine ⟨((n % d : ℕ) : ℚ) / d, split, something, ?_⟩
      rw [div_lt_div_iff₀ positive' two_pos]
      exact_mod_cast (by omega : n % d * 2 < 1 * d)
    | eq =>
      rw [Nat.compare_eq_eq] at side
      refine ⟨((n % d : ℕ) : ℚ) / d, split, ?_⟩
      show _ = _
      rw [div_eq_div_iff positive'.ne' two_ne_zero]
      exact_mod_cast (by omega : n % d * 2 = 1 * d)
    | gt =>
      rw [Nat.compare_eq_gt] at side
      refine ⟨((n % d : ℕ) : ℚ) / d, split, ?_, less⟩
      rw [div_lt_div_iff₀ two_pos positive']
      exact_mod_cast (by omega : 1 * d < n % d * 2)


/-! ### Rounding -/

theorem StandsFor.bounds (standsFor : StandsFor m x) : m.mantissa ≤ x ∧ x < m.mantissa + 1 := by
  obtain ⟨mantissa, roundBit, stickyBit⟩ := m
  obtain ⟨rest, rfl, bits⟩ := standsFor
  cases roundBit <;> cases stickyBit <;> simp at bits ⊢ <;> constructor <;> linarith

@[simp] theorem mantissa_ofMantissaAndAccuracy (n : ℕ) (accuracy : Accuracy) :
    (ExtendedMantissa.ofMantissaAndAccuracy n accuracy).mantissa = n := by
  rcases accuracy with _ | (_ | _ | _) <;> rfl

/-- A number whose integer part has as many bits as double precision can hold, or whose unit is no
larger than the smallest place, is rounded at the exponent that its integer part asks for. -/
theorem targetExponent_eq {n : ℕ} {e : ℤ} {x : ℚ} (bounds : n ≤ x ∧ x < n + 1)
    (positive : 0 < x) (enough : 52 ≤ n.log2 ∨ e ≤ -1074) :
    Format.binary64.targetExponent (totalExponent n e) = lastPlace (x * 2 ^ e) := by
  have positive' : 0 < x * 2 ^ e := mul_pos positive (two_zpow_pos e)
  have target : Format.binary64.targetExponent (totalExponent n e) =
      max ((n.log2 : ℤ) + e - 52) (-1074) := by
    simp only [Format.targetExponent, totalExponent, Format.mantissaBits, Format.minExponent]
    omega
  rw [target, lastPlace]
  rcases Nat.eq_zero_or_pos n with rfl | nonzero
  · -- Below the unit there is nothing but what is below the smallest place.
    have small : x * 2 ^ e < 2 ^ e := by
      have less : x < 1 := by simpa using bounds.2
      exact mul_lt_of_lt_one_left (two_zpow_pos e) less
    have log_lt := (Int.lt_zpow_iff_log_lt one_lt_two positive').mp small
    simp only [Nat.log2_zero] at enough ⊢
    omega
  · have size := (Nat.log2_eq_iff (Nat.ne_of_gt nonzero)).mp rfl
    have lower : (2 : ℚ) ^ ((n.log2 : ℤ) + e) ≤ x * 2 ^ e := by
      rw [zpow_add₀ two_ne_zero, zpow_natCast]
      refine mul_le_mul_of_nonneg_right (le_trans ?_ bounds.1) (two_zpow_pos e).le
      exact_mod_cast size.1
    have upper : x * 2 ^ e < (2 : ℚ) ^ ((n.log2 : ℤ) + e + 1) := by
      rw [add_right_comm, zpow_add₀ two_ne_zero, ← Nat.cast_add_one, zpow_natCast]
      refine mul_lt_mul_of_pos_right (lt_of_lt_of_le bounds.2 ?_) (two_zpow_pos e)
      exact_mod_cast size.2
    have le_log := (Int.zpow_le_iff_le_log one_lt_two positive').mp lower
    have log_lt := (Int.lt_zpow_iff_log_lt one_lt_two positive').mp upper
    omega

/-- The form in which double precision keeps a number: with a significand of full width, unless the
number is too small for that. -/
structure IsCanonical (significand : ℕ) (exponent : ℤ) : Prop where
  width : significand < 2 ^ 53
  least : -1074 ≤ exponent
  full : 2 ^ 52 ≤ significand ∨ exponent = -1074

/-- Whether a number in unpacked form has a given sign and the magnitude that another one is rounded
to. Its exponent may be too large for double precision. -/
def Rounds (sign : Sign) (q : ℚ) : UnpackedFloat → Prop
  | .zero sign' => sign' = sign ∧ rounded q = 0
  | .finite sign' significand exponent _ =>
    sign' = sign ∧ significand * 2 ^ exponent = rounded q ∧ IsCanonical significand exponent
  | .infinity _ | .notANumber => False

/-- A significand of one bit more than the full width is shifted, and any other one is kept. -/
theorem shiftToTargetExponent_rounded {n : ℕ} {e : ℤ} (width : n ≤ 2 ^ 53) (least : -1074 ≤ e) :
    shiftToTargetExponent .binary64 n e .exact =
      if n = 2 ^ 53 then (⟨2 ^ 52, false, false⟩, e + 1) else (⟨n, false, false⟩, e) := by
  have target : Format.binary64.targetExponent (totalExponent n e) =
      max ((n.log2 : ℤ) + e - 52) (-1074) := by
    simp only [Format.targetExponent, totalExponent, Format.mantissaBits, Format.minExponent]
    omega
  rw [shiftToTargetExponent, target, shiftToExponent]
  split_ifs with carried
  · have log : n.log2 = 53 := by rw [carried, Nat.log2_two_pow]
    have shift : (max ((n.log2 : ℤ) + e - 52) (-1074) - e).toNat = 1 := by omega
    rw [shift, carried]
    rfl
  · have log : n.log2 ≤ 52 := by
      rcases Nat.eq_zero_or_pos n with rfl | nonzero
      · simp
      · have := (Nat.log2_lt (Nat.ne_of_gt nonzero)).mpr (show n < 2 ^ 53 by omega)
        omega
    have shift : (max ((n.log2 : ℤ) + e - 52) (-1074) - e).toNat = 0 := by omega
    rw [shift]
    exact Prod.ext rfl (add_zero e)

/-- The number that a shifted significand and its exponent make. -/
def assemble (sign : Sign) (shifted : ExtendedMantissa × ℤ) : UnpackedFloat :=
  if zero : shifted.1.mantissa = 0 then .zero sign
  else .finite sign shifted.1.mantissa shifted.2 (Nat.pos_of_ne_zero zero)

/-- Rounding shifts, rounds the significand, and shifts again if it has become too wide. -/
theorem roundWithAccuracy_eq (sign : Sign) (n : ℕ) (e : ℤ) (accuracy : Accuracy) :
    roundWithAccuracy .binary64 sign n e accuracy =
      let first := shiftToTargetExponent .binary64 n e accuracy
      assemble sign (shiftToTargetExponent .binary64 first.1.roundedMantissa first.2 .exact) := rfl

/-- A whole number of the last place, as a number in unpacked form. -/
theorem rounds_assemble (sign : Sign) {q : ℚ} (positive : 0 < q) {n : ℕ}
    (nearest : (n : ℤ) = Exact.nearestEven (q / 2 ^ lastPlace q)) :
    Rounds sign q
      (assemble sign (shiftToTargetExponent .binary64 n (lastPlace q) .exact)) := by
  have least : -1074 ≤ lastPlace q := le_max_right _ _
  have isRounded : (n : ℚ) * 2 ^ lastPlace q = rounded q := by
    rw [rounded, ← nearest, Int.cast_natCast]
  have width : n ≤ 2 ^ 53 := by
    have := nearestEven_le q
    omega
  rw [shiftToTargetExponent_rounded width least]
  by_cases carried : n = 2 ^ 53
  · rw [if_pos carried, assemble, dif_neg (by simp)]
    refine ⟨rfl, ?_, by simp, by dsimp only; omega, by simp⟩
    rw [← isRounded, carried, zpow_add_one₀ two_ne_zero]
    push_cast
    ring
  · rw [if_neg carried, assemble]
    split_ifs with empty
    · refine ⟨rfl, ?_⟩
      have nothing : n = 0 := empty
      rw [← isRounded, nothing, Nat.cast_zero, zero_mul]
    · refine ⟨rfl, isRounded, by dsimp only; omega, least, ?_⟩
      by_cases normal : -1074 < lastPlace q
      · have := le_nearestEven positive normal
        exact .inl (by dsimp only; omega)
      · exact .inr (by dsimp only; omega)

/-- Rounding a number that is given with enough bits. -/
theorem rounds_roundWithAccuracy (sign : Sign) {n : ℕ} {e : ℤ} {accuracy : Accuracy} {x : ℚ}
    (standsFor : StandsFor (.ofMantissaAndAccuracy n accuracy) x) (positive : 0 < x)
    (enough : 52 ≤ n.log2 ∨ e ≤ -1074) :
    Rounds sign (x * 2 ^ e) (roundWithAccuracy .binary64 sign n e accuracy) := by
  have bounds := standsFor.bounds
  rw [mantissa_ofMantissaAndAccuracy] at bounds
  have target := targetExponent_eq bounds positive enough
  have e_le : e ≤ lastPlace (x * 2 ^ e) := by
    rw [← target]
    simp only [Format.targetExponent, totalExponent, Format.mantissaBits, Format.minExponent]
    omega
  obtain ⟨k, isShift⟩ := Int.eq_ofNat_of_zero_le (sub_nonneg.mpr e_le)
  have place : e + (k : ℤ) = lastPlace (x * 2 ^ e) := by omega
  have first : shiftToTargetExponent .binary64 n e accuracy =
      (ExtendedMantissa.ofMantissaAndAccuracy n accuracy >>> k, lastPlace (x * 2 ^ e)) := by
    rw [shiftToTargetExponent, target, shiftToExponent, isShift]
    exact Prod.ext rfl place
  -- After the first shift, the unit of the significand is the last place.
  have quotient : x / 2 ^ k = x * 2 ^ e / 2 ^ lastPlace (x * 2 ^ e) := by
    have unit_ne_zero := (two_zpow_pos e).ne'
    rw [← place, zpow_add₀ two_ne_zero, zpow_natCast]
    field_simp
  have nearest := (standsFor.shiftRight k).roundedMantissa_eq
  rw [quotient] at nearest
  rw [roundWithAccuracy_eq, first]
  exact rounds_assemble sign (mul_pos positive (two_zpow_pos e)) nearest

/-- Rounding a whole number of some unit. It is given with enough bits once the unit is no larger
than the place to round to. -/
theorem rounds_round (sign : Sign) {n : ℕ} (nonzero : 0 < n) (e : ℤ) :
    Rounds sign (n * 2 ^ e) (UnpackedFloat.round .binary64 sign n e) := by
  obtain ⟨target, isTarget⟩ :
      ∃ t, Format.binary64.targetExponent (totalExponent n e) = t := ⟨_, rfl⟩
  have target_eq : target = max ((n.log2 : ℤ) + e - 52) (-1074) := by
    rw [← isTarget]
    simp only [Format.targetExponent, totalExponent, Format.mantissaBits, Format.minExponent]
    omega
  obtain ⟨k, isShift⟩ : ∃ k, (e - target).toNat = k := ⟨_, rfl⟩
  have shifted : UnpackedFloat.round .binary64 sign n e =
      roundWithAccuracy .binary64 sign (n * 2 ^ k) (e - k) .exact := by
    simp only [UnpackedFloat.round, isTarget, decreaseExponent, isShift, Nat.shiftLeft_eq]
  have same : (n : ℚ) * 2 ^ e = ((n * 2 ^ k : ℕ) : ℚ) * 2 ^ (e - k) := by
    rw [zpow_sub₀ two_ne_zero, zpow_natCast]
    push_cast
    field_simp
  rw [shifted, same]
  refine rounds_roundWithAccuracy sign (standsFor_exact _) ?_ ?_
  · exact_mod_cast Nat.mul_pos nonzero (Nat.two_pow_pos k)
  · rw [log2_mul_two_pow nonzero]
    omega

end LinkQuality.Binary64
