import Mathlib.Algebra.Order.Floor.Ring
import Mathlib.Algebra.Order.Field.Basic
import Mathlib.Data.Rat.Floor
import Mathlib.Tactic.Positivity
import Mathlib.Tactic.Linarith
import LinkQuality.Duration

/-!
# Exact numbers

Scalars without rounding: the elements of an ordered field, together with one value that stands for
no number. Operations on numbers are those of the field. What has no result, a quotient by zero or
anything computed from the undefined value, is undefined, and no comparison holds of it. So a
hypothesis such as `1 ≤ x` also says that `x` is a number.

The field is left open. Over the rationals the rules can be evaluated, over the reals there are
roots and exponentials, and what is proved here holds of both.

## Main definitions

* `Exact`: a number of a field, or none
* the `Scalar` instance of `Exact K`
* `Duration.inSeconds`: a length of time as an element of the field

## Main results

* `Exact.le_iff`, `Exact.lt_iff`: comparisons hold between numbers only
* `Exact.wholePart_mono`: rounding keeps the order
* `Exact.clamp_number`, `Exact.toCount_number`: numbers that are kept within bounds
* `Exact.seconds_eq`: lengths of time are numbers
-/

namespace LinkQuality

/-- A number of a field, or a value that stands for none. -/
inductive Exact (K : Type) where
  | number (x : K)
  | undefined
  deriving DecidableEq, Repr

namespace Exact

section Operations

variable {K : Type}

/-- Applies an operation to two numbers. -/
def map₂ (operation : K → K → Exact K) : Exact K → Exact K → Exact K
  | number x, number y => operation x y
  | _, _ => undefined

/-- Whether two values are numbers in a given relation. -/
def Related (relation : K → K → Prop) : Exact K → Exact K → Prop
  | number x, number y => relation x y
  | _, _ => False

instance (relation : K → K → Prop) [DecidableRel relation] :
    DecidableRel (Related relation) := fun x y =>
  match x, y with
  | number a, number b => inferInstanceAs (Decidable (relation a b))
  | number _, undefined => inferInstanceAs (Decidable False)
  | undefined, _ => inferInstanceAs (Decidable False)

variable [Field K] [LinearOrder K] [FloorRing K]

/-- The whole number that a number is rounded to. -/
def wholePart (x : K) : Rounding → ℤ
  | .towardZero => if 0 ≤ x then ⌊x⌋ else ⌈x⌉
  | .down => ⌊x⌋
  | .up => ⌈x⌉
  | .halfAway => if 0 ≤ x then ⌊x + 1 / 2⌋ else ⌈x - 1 / 2⌉

/-- The integer nearest to a number, and the even one of two equally near. -/
def nearestEven (x : K) : ℤ :=
  if Int.fract x < 1 / 2 then ⌊x⌋
  else if 1 / 2 < Int.fract x then ⌊x⌋ + 1
  else if Even ⌊x⌋ then ⌊x⌋ else ⌊x⌋ + 1

instance : Scalar (Exact K) where
  add := map₂ fun x y => number (x + y)
  sub := map₂ fun x y => number (x - y)
  mul := map₂ fun x y => number (x * y)
  div := map₂ fun x y => if y = 0 then undefined else number (x / y)
  neg
    | number x => number (-x)
    | undefined => undefined
  lt := Related (· < ·)
  le := Related (· ≤ ·)
  beq x y := decide (Related (· = ·) x y)
  ofScientific digits isNegative exponent :=
    number (OfScientific.ofScientific digits isNegative exponent)
  decidableLT := inferInstanceAs (DecidableRel (Related (· < ·)))
  decidableLE := inferInstanceAs (DecidableRel (Related (· ≤ ·)))
  ofInt n := number n
  isUndefined
    | number _ => false
    | undefined => true
  isFinite
    | number _ => true
    | undefined => false
  whole rounding
    | number x => number (wholePart x rounding)
    | undefined => undefined
  toInt lower upper
    | number x => max lower (min upper (wholePart x .towardZero))
    | undefined => 0
  nearestMultiple factor
    | number x => nearestEven (factor * x)
    | undefined => 0

instance : Undefined (Exact K) := ⟨.undefined⟩

/-! ### Numbers -/

theorem ofNat_eq (n : ℕ) [n.AtLeastTwo] :
    (ofNat(n) : Exact K) = number ofNat(n) :=
  congrArg number (Int.cast_natCast n)

@[simp] theorem ofScientific_eq (digits : ℕ) (isNegative : Bool) (exponent : ℕ) :
    (OfScientific.ofScientific digits isNegative exponent : Exact K) =
      number (OfScientific.ofScientific digits isNegative exponent) := rfl

theorem half_eq : (0.5 : Exact K) = number (1 / 2) := by
  refine congrArg number ?_
  norm_num

@[simp] theorem zero_eq : (0 : Exact K) = number 0 := congrArg number Int.cast_zero

@[simp] theorem one_eq : (1 : Exact K) = number 1 := congrArg number Int.cast_one

@[simp] theorem ofInt_eq (n : ℤ) : (Scalar.ofInt n : Exact K) = number (n : K) := rfl

@[simp] theorem scalarOfNat_eq (n : ℕ) : (Scalar.ofNat n : Exact K) = number (n : K) :=
  congrArg number (Int.cast_natCast n)

@[simp] theorem number_add (x y : K) : number x + number y = number (x + y) := rfl

@[simp] theorem number_sub (x y : K) : number x - number y = number (x - y) := rfl

@[simp] theorem number_mul (x y : K) : number x * number y = number (x * y) := rfl

@[simp] theorem neg_number (x : K) : -number x = number (-x) := rfl

@[simp] theorem undefined_add (x : Exact K) : undefined + x = undefined := rfl

@[simp] theorem undefined_mul (x : Exact K) : undefined * x = undefined := rfl

@[simp] theorem mul_undefined (x : Exact K) : x * undefined = undefined := by
  cases x <;> rfl

theorem number_div {x y : K} (divisor : y ≠ 0) : number x / number y = number (x / y) :=
  if_neg divisor

/-- Quotients by one number can be added, also those by zero. -/
theorem number_add_div (x y : K) (z : Exact K) :
    number (x + y) / z = number x / z + number y / z := by
  cases z with
  | undefined => rfl
  | number z =>
    by_cases divisor : z = 0
    · have noResult (x : K) : number x / number z = undefined := if_pos divisor
      rw [noResult, noResult, undefined_add]
    · rw [number_div divisor, number_div divisor, number_div divisor, number_add, add_div]

@[simp] theorem number_beq (x y : K) : (number x == number y) = decide (x = y) := rfl

theorem beq_number_iff {x : Exact K} {y : K} : (x == number y) = true ↔ x = number y := by
  cases x with
  | number x => simp
  | undefined => exact iff_of_false Bool.false_ne_true (fun equal => nomatch equal)

omit [Field K] [LinearOrder K] [FloorRing K] in
theorem ne_undefined_iff {x : Exact K} : x ≠ undefined ↔ ∃ a, x = number a := by
  cases x with
  | number a => exact iff_of_true (fun equal => nomatch equal) ⟨a, rfl⟩
  | undefined => exact iff_of_false (not_not.mpr rfl) fun ⟨_, equal⟩ => nomatch equal

theorem mul_ne_undefined_iff {x y : Exact K} :
    x * y ≠ undefined ↔ x ≠ undefined ∧ y ≠ undefined := by
  cases x <;> cases y <;> simp

theorem one_sub_ne_undefined_iff {x : Exact K} : 1 - x ≠ undefined ↔ x ≠ undefined := by
  cases x with
  | number x => simp
  | undefined => exact iff_of_false (not_not.mpr rfl) (not_not.mpr rfl)

@[simp] theorem isUndefined_number (x : K) : Scalar.isUndefined (number x) = false := rfl

@[simp] theorem whole_number (rounding : Rounding) (x : K) :
    Scalar.whole rounding (number x) = number (wholePart x rounding : K) := rfl

@[simp] theorem toInt_number (lower upper : ℤ) (x : K) :
    Scalar.toInt lower upper (number x) = max lower (min upper (wholePart x .towardZero)) := rfl

/-- A number that is not negative is rounded towards zero by dropping its fraction. -/
theorem wholePart_towardZero {x : K} (nonneg : 0 ≤ x) : wholePart x .towardZero = ⌊x⌋ :=
  if_pos nonneg

@[simp] theorem wholePart_intCast [IsStrictOrderedRing K] (n : ℤ) (rounding : Rounding) :
    wholePart (n : K) rounding = n := by
  cases rounding with
  | towardZero => simp [wholePart]
  | down => simp [wholePart]
  | up => simp [wholePart]
  | halfAway =>
    have floor : ⌊(n : K) + 1 / 2⌋ = n := Int.floor_eq_iff.mpr ⟨by linarith, by linarith⟩
    have ceil : ⌈(n : K) - 1 / 2⌉ = n := Int.ceil_eq_iff.mpr ⟨by linarith, by linarith⟩
    rw [wholePart, floor, ceil, ite_self]

omit [FloorRing K] in
/-- What is not positive below zero and not negative from there on keeps the order if it does so on
either side. -/
theorem ite_nonneg_mono {below above : K → ℤ} (below_mono : ∀ x y, x ≤ y → below x ≤ below y)
    (above_mono : ∀ x y, x ≤ y → above x ≤ above y) (nonpos : ∀ x < 0, below x ≤ 0)
    (nonneg : ∀ x, 0 ≤ x → 0 ≤ above x) {x y : K} (x_le_y : x ≤ y) :
    (if 0 ≤ x then above x else below x) ≤ if 0 ≤ y then above y else below y := by
  split_ifs with x_nonneg y_nonneg y_nonneg
  · exact above_mono x y x_le_y
  · exact absurd (x_nonneg.trans x_le_y) y_nonneg
  · exact (nonpos x (not_le.mp x_nonneg)).trans (nonneg y y_nonneg)
  · exact below_mono x y x_le_y

theorem wholePart_mono [IsStrictOrderedRing K] {x y : K} (x_le_y : x ≤ y) (rounding : Rounding) :
    wholePart x rounding ≤ wholePart y rounding := by
  cases rounding with
  | towardZero =>
    refine ite_nonneg_mono (fun _ _ le => Int.ceil_mono le) (fun _ _ le => Int.floor_mono le)
      (fun x negative => Int.ceil_le.mpr ?_) (fun x nonneg => Int.floor_nonneg.mpr nonneg) x_le_y
    rw [Int.cast_zero]
    exact negative.le
  | down => exact Int.floor_mono x_le_y
  | up => exact Int.ceil_mono x_le_y
  | halfAway =>
    -- Half is taken away below zero and added from there on, which keeps either side where it is.
    refine ite_nonneg_mono (fun _ _ le => Int.ceil_mono (sub_le_sub_right le _))
      (fun _ _ le => Int.floor_mono (add_le_add_left le _))
      (fun x negative => Int.ceil_le.mpr ?_) (fun x nonneg => Int.floor_nonneg.mpr ?_) x_le_y
    · rw [Int.cast_zero]
      linarith
    · linarith

/-- A number is rounded to a nearest integer. -/
theorem abs_wholePart_halfAway_sub_le [IsStrictOrderedRing K] (x : K) :
    |(wholePart x .halfAway : K) - x| ≤ 1 / 2 := by
  rw [wholePart, abs_le]
  split_ifs
  · have floor_le := Int.floor_le (x + 1 / 2)
    have lt_floor := Int.lt_floor_add_one (x + 1 / 2)
    exact ⟨by linarith, by linarith⟩
  · have le_ceil := Int.le_ceil (x - 1 / 2)
    have ceil_lt := Int.ceil_lt_add_one (x - 1 / 2)
    exact ⟨by linarith, by linarith⟩

/-! ### Rounding to the nearest integer -/

theorem floor_le_nearestEven (x : K) : ⌊x⌋ ≤ nearestEven x := by
  unfold nearestEven
  split_ifs <;> omega

theorem nearestEven_le_floor_add_one (x : K) : nearestEven x ≤ ⌊x⌋ + 1 := by
  unfold nearestEven
  split_ifs <;> omega

@[simp] theorem nearestEven_intCast [IsStrictOrderedRing K] (n : ℤ) : nearestEven (n : K) = n := by
  simp [nearestEven]

@[simp] theorem nearestEven_natCast [IsStrictOrderedRing K] (n : ℕ) : nearestEven (n : K) = n := by
  exact_mod_cast nearestEven_intCast (K := K) n

/-- Rounding to the nearest integer keeps the order. -/
theorem nearestEven_mono [IsStrictOrderedRing K] {x y : K} (x_le_y : x ≤ y) :
    nearestEven x ≤ nearestEven y := by
  rcases (Int.floor_mono x_le_y).lt_or_eq with less | same
  · calc nearestEven x ≤ ⌊x⌋ + 1 := nearestEven_le_floor_add_one x
      _ ≤ ⌊y⌋ := less
      _ ≤ nearestEven y := floor_le_nearestEven y
  · -- Between two integers only the fraction counts.
    have fract_le : Int.fract x ≤ Int.fract y := by
      rw [Int.fract, Int.fract, same]
      exact sub_le_sub_right x_le_y _
    unfold nearestEven
    rw [same]
    split_ifs <;> first | omega | (exfalso; linarith)

/-! ### Comparisons -/

@[simp] theorem number_lt_number {x y : K} : number x < number y ↔ x < y := Iff.rfl

@[simp] theorem number_le_number {x y : K} : number x ≤ number y ↔ x ≤ y := Iff.rfl

theorem lt_iff {x y : Exact K} : x < y ↔ ∃ a b, x = number a ∧ y = number b ∧ a < b := by
  constructor
  · intro below
    match x, y, below with
    | number a, number b, below => exact ⟨a, b, rfl, rfl, below⟩
  · rintro ⟨a, b, rfl, rfl, below⟩
    exact below

theorem le_iff {x y : Exact K} : x ≤ y ↔ ∃ a b, x = number a ∧ y = number b ∧ a ≤ b := by
  constructor
  · intro atMost
    match x, y, atMost with
    | number a, number b, atMost => exact ⟨a, b, rfl, rfl, atMost⟩
  · rintro ⟨a, b, rfl, rfl, atMost⟩
    exact atMost

theorem pos_iff {x : Exact K} : 0 < x ↔ ∃ a, x = number a ∧ 0 < a := by
  simp [lt_iff]

theorem nonneg_iff {x : Exact K} : 0 ≤ x ↔ ∃ a, x = number a ∧ 0 ≤ a := by
  simp [le_iff]

theorem one_le_iff {x : Exact K} : 1 ≤ x ↔ ∃ a, x = number a ∧ 1 ≤ a := by
  simp [le_iff]

theorem pos_of_one_le [IsStrictOrderedRing K] {x : Exact K} (one_le : 1 ≤ x) : 0 < x := by
  obtain ⟨a, rfl, one_le_a⟩ := one_le_iff.mp one_le
  exact pos_iff.mpr ⟨a, rfl, zero_lt_one.trans_le one_le_a⟩

theorem le_trans {x y z : Exact K} (first : x ≤ y) (second : y ≤ z) : x ≤ z := by
  obtain ⟨a, b, rfl, rfl, a_le_b⟩ := le_iff.mp first
  obtain ⟨c, rfl, b_le_c⟩ : ∃ c, z = number c ∧ b ≤ c := by simpa [le_iff] using second
  simpa using a_le_b.trans b_le_c

theorem neg_le_neg [IsStrictOrderedRing K] {x y : Exact K} (atMost : x ≤ y) : -y ≤ -x := by
  obtain ⟨a, b, rfl, rfl, a_le_b⟩ := le_iff.mp atMost
  simpa using a_le_b

/-- What is left of a quantity without a share of it is between zero and all of it. -/
theorem mul_one_sub_mem [IsStrictOrderedRing K] {x share : Exact K} (nonneg : 0 ≤ x)
    (isShare : 0 ≤ share ∧ share ≤ 1) : 0 ≤ x * (1 - share) ∧ x * (1 - share) ≤ x := by
  obtain ⟨a, rfl, a_nonneg⟩ := nonneg_iff.mp nonneg
  obtain ⟨s, rfl, s_nonneg⟩ := nonneg_iff.mp isShare.1
  have s_le_one : s ≤ 1 := by simpa using isShare.2
  simp only [zero_eq, one_eq, number_sub, number_mul, number_le_number]
  exact ⟨mul_nonneg a_nonneg (sub_nonneg.mpr s_le_one),
    mul_le_of_le_one_right a_nonneg (sub_le_self 1 s_nonneg)⟩

/-! ### Numbers within bounds -/

theorem greater_zero (x : K) : Scalar.greater (number x) (0 : Exact K) = number (max x 0) := by
  rw [Scalar.greater, zero_eq]
  simp only [number_lt_number, isUndefined_number, Bool.false_eq_true, if_false]
  split_ifs with below
  · rw [max_eq_right below.le]
  · rw [max_eq_left (not_lt.mp below)]

theorem lesser_number (x y : K) : Scalar.lesser (number x) (number y) = number (min x y) := by
  simp only [Scalar.lesser, number_lt_number, isUndefined_number, Bool.false_eq_true, if_false]
  split_ifs with below
  · rw [min_eq_right below.le]
  · rw [min_eq_left (not_lt.mp below)]

theorem clamp_number {lower upper : K} (inOrder : lower ≤ upper) (x : K) :
    Scalar.clamp (number lower) (number upper) (number x) =
      number (max lower (min upper x)) := by
  simp only [Scalar.clamp, number_lt_number]
  split_ifs with below above
  · rw [min_eq_right (below.le.trans inOrder), max_eq_left below.le]
  · rw [min_eq_left above.le, max_eq_right inOrder]
  · rw [min_eq_right (not_lt.mp above), max_eq_right (not_lt.mp below)]

theorem toInt32_intCast [IsStrictOrderedRing K] {n : ℤ}
    (fits : -0x80000000 ≤ n ∧ n ≤ 0x7FFFFFFF) : Scalar.toInt32 (number (n : K)) = n := by
  rw [Scalar.toInt32, toInt_number, wholePart_intCast]
  omega

/-- The integer part of a whole number that is clamped between zero and another one. -/
theorem toInt32_clamp_intCast [IsStrictOrderedRing K] {upper : ℤ} (nonneg : 0 ≤ upper)
    (fits : upper ≤ 0x7FFFFFFF) (n : ℤ) :
    Scalar.toInt32 (Scalar.clamp 0 (Scalar.ofInt upper) (number (n : K))) =
      max 0 (min upper n) := by
  have whole : max 0 (min (upper : K) n) = ((max 0 (min upper n) : ℤ) : K) := by push_cast; rfl
  rw [zero_eq, ofInt_eq, clamp_number (Int.cast_nonneg nonneg), whole]
  exact toInt32_intCast ⟨by omega, by omega⟩

/-- The count that a number comes to is its whole part, up to the largest count. -/
theorem toCount_number {x : K} (nonneg : 0 ≤ x) :
    Scalar.toCount (number x) = min ⌊x⌋₊ (2 ^ 64 - 1) := by
  rw [Scalar.toCount, toInt_number, wholePart_towardZero nonneg, ← Int.floor_toNat]
  have floor_nonneg := Int.floor_nonneg.mpr nonneg
  omega

theorem toCount_ofNat [IsStrictOrderedRing K] (n : ℕ) :
    Scalar.toCount (Scalar.ofNat n : Exact K) = min n (2 ^ 64 - 1) := by
  rw [scalarOfNat_eq, toCount_number n.cast_nonneg, Nat.floor_natCast]

theorem toCount_whole_up [IsStrictOrderedRing K] {x : K} (nonneg : 0 ≤ x) :
    Scalar.toCount (Scalar.whole .up (number x)) = min ⌈x⌉₊ (2 ^ 64 - 1) := by
  have ceil_nonneg : (0 : K) ≤ ⌈x⌉ := Int.cast_nonneg (Int.ceil_nonneg nonneg)
  rw [whole_number, wholePart, toCount_number ceil_nonneg, ← Int.floor_toNat, Int.floor_intCast,
    Int.ceil_toNat]

end Operations

end Exact

/-! ### Lengths of time -/

variable {K : Type} [Field K]

/-- A length of time in seconds. -/
def Duration.inSeconds (duration : Duration) : K := duration.nanoseconds / 1000000000

/-- The whole seconds of a length of time and the rest add up to it. -/
theorem Exact.seconds_eq [LinearOrder K] [FloorRing K] (duration : Duration) :
    (duration.seconds : Exact K) = .number duration.inSeconds := by
  have billion : (1000000000 : K) ≠ 0 := by norm_num
  have parts : (duration.nanoseconds : K) =
      1000000000 * (duration.nanoseconds / 1000000000 : ℕ) +
        (duration.nanoseconds % 1000000000 : ℕ) := by
    exact_mod_cast (Nat.div_add_mod duration.nanoseconds 1000000000).symm
  rw [Duration.seconds, scalarOfNat_eq, scalarOfNat_eq, ofNat_eq 1000000000, number_div billion,
    number_add, Duration.inSeconds, parts, add_div, mul_div_cancel_left₀ _ billion]

end LinkQuality
