import Mathlib.Analysis.Real.Sqrt
import LinkQuality.Proofs.Exact
import LinkQuality.Summary

/-!
# What a summary says

A summary describes each feature by three numbers: its last value, its mean and its standard
deviation over the history. Values that could not be measured are replaced before the deviation is
taken, so what it says is not read off its definition. Here it is said in terms of the measured
values alone, in exact arithmetic over the reals: an undefined value counts in the number of
intervals that the deviation is divided by, and nowhere else.

Each of the 45 numbers is then centred and scaled by the statistics of its own place. These are
numbers, and no scale is zero, wherever the statistics were accepted. So a summary has no undefined
value, whatever the history is.

## Main definitions

* `Exact.value?`: the number that a value is, if it is one
* `Feature.place`: where the numbers of a feature stand in a summary
* `History.measured`: the measured values of a feature
* `History.latestOr`, `Summary.meanOr`, `History.spread`: the last value, mean and deviation

## Main results

* `Normalization.exists_of_ofLists`: accepted statistics are numbers, and no scale is zero
* `Summary.meanOfDefined_eq`, `Summary.deviation_eq`: mean and deviation of the measured values
* `History.summary?_of_accepted`: what a summary says
-/

namespace LinkQuality

/-! ### Measured values -/

namespace Exact

variable {K : Type}

/-- The number that a value is, if it is one. -/
def value? : Exact K → Option K
  | number x => some x
  | undefined => none

@[simp] theorem value?_number (x : K) : (number x).value? = some x := rfl

@[simp] theorem value?_undefined : (undefined : Exact K).value? = none := rfl

/-- A list of numbers is given by the numbers at its places. -/
theorem exists_eq_ofFn {n : ℕ} {P : K → Prop} {xs : List (Exact K)} (length : xs.length = n)
    (numbers : ∀ x ∈ xs, ∃ a, x = number a ∧ P a) :
    ∃ value : Fin n → K, xs = List.ofFn (fun place => number (value place)) ∧
      ∀ place, P (value place) := by
  subst length
  choose value isNumber holds using
    fun place : Fin xs.length => numbers xs[place] (List.getElem_mem _)
  refine ⟨value, List.ext_getElem (by simp) fun i inside _ => ?_, holds⟩
  rw [List.getElem_ofFn]
  exact isNumber ⟨i, inside⟩

variable [Field K] [LinearOrder K] [FloorRing K]

/-- The defined values of a list are its numbers. -/
theorem filter_defined (column : List (Exact K)) :
    (column.filter fun x => !Scalar.isUndefined x) = (column.filterMap value?).map number := by
  induction column with
  | nil => rfl
  | cons x column ih =>
    cases x with
    | number x => exact congrArg (number x :: ·) ih
    | undefined => exact ih

theorem foldl_add_number (start : K) (numbers : List K) :
    (numbers.map number).foldl (· + ·) (number start) = number (start + numbers.sum) := by
  induction numbers generalizing start with
  | nil => simp
  | cons x numbers ih =>
    rw [List.map_cons, List.foldl_cons, number_add, ih, List.sum_cons, add_assoc]

theorem total_number (numbers : List K) :
    Scalar.total (numbers.map number) = number numbers.sum := by
  rw [Scalar.total, zero_eq, neg_number, foldl_add_number, neg_zero, zero_add]

/-- Over the reals the square root of a number that is not negative is defined. -/
noncomputable instance : SquareRoot (Exact ℝ) where
  sqrt
    | number x => if 0 ≤ x then number √x else undefined
    | undefined => undefined

theorem sqrt_number {x : ℝ} (nonneg : 0 ≤ x) : SquareRoot.sqrt (number x) = number √x :=
  if_pos nonneg

end Exact

/-! ### Statistics that were accepted -/

namespace Normalization

variable {K : Type} [Field K] [LinearOrder K] [FloorRing K]

/-- What is finite is a number. -/
theorem exists_of_isFinite {x : Exact K} (isFinite : Scalar.isFinite x = true) :
    ∃ a, x = .number a := by
  cases x with
  | number a => exact ⟨a, rfl⟩
  | undefined => exact Bool.noConfusion isFinite

/-- What can be divided by is a number other than zero. -/
theorem exists_of_isDivisor {x : Exact K} (divisor : isDivisor x = true) :
    ∃ a, x = .number a ∧ a ≠ 0 := by
  rw [isDivisor, Bool.and_eq_true] at divisor
  obtain ⟨a, rfl⟩ := exists_of_isFinite divisor.1
  exact ⟨a, rfl, by simpa using divisor.2⟩

/-- The statistics that numbers give. -/
def ofNumbers (center scale : Fin 45 → K) : Normalization (Exact K) where
  means := .ofFn fun place => .number (center place)
  stds := .ofFn fun place => .number (scale place)

omit [Field K] [LinearOrder K] [FloorRing K] in
theorem mk_ofFn (center scale : Fin 45 → K)
    (means_size : (List.ofFn fun place => Exact.number (center place)).toArray.size = 45)
    (stds_size : (List.ofFn fun place => Exact.number (scale place)).toArray.size = 45) :
    (⟨⟨_, means_size⟩, ⟨_, stds_size⟩⟩ : Normalization (Exact K)) = ofNumbers center scale :=
  congrArg₂ Normalization.mk
    (Vector.toArray_inj.mp (List.toArray_ofFn.trans Vector.toArray_ofFn.symm))
    (Vector.toArray_inj.mp (List.toArray_ofFn.trans Vector.toArray_ofFn.symm))

/-- Numbers are accepted if no scale is zero. -/
theorem ofLists_of_numbers {center scale : Fin 45 → K} (nonzero : ∀ place, scale place ≠ 0) :
    ofLists (List.ofFn fun place => .number (center place))
      (List.ofFn fun place => .number (scale place)) = .ok (ofNumbers center scale) := by
  have finite : (List.ofFn fun place => Exact.number (center place)).findIdx?
      (fun x => !Scalar.isFinite x) = none := by
    rw [List.findIdx?_eq_none_iff]
    intro x listed
    obtain ⟨place, rfl⟩ := List.mem_ofFn.mp listed
    rfl
  have divisors : (List.ofFn fun place => Exact.number (scale place)).zipIdx.find?
      (fun entry => !isDivisor entry.1) = none := by
    rw [List.find?_eq_none]
    intro entry listed
    obtain ⟨place, isScale⟩ := List.mem_ofFn.mp (List.fst_mem_of_mem_zipIdx listed)
    rw [← isScale]
    simpa [isDivisor, Scalar.isFinite] using nonzero place
  unfold ofLists
  rw [dif_pos List.length_ofFn, dif_pos List.length_ofFn, finite, divisors]
  exact congrArg Except.ok (mk_ofFn center scale _ _)

/-- Accepted statistics are the lists that were given. All of them are numbers, and no scale is
zero. -/
theorem exists_of_ofLists {means stds : List (Exact K)} {norm : Normalization (Exact K)}
    (accepted : ofLists means stds = .ok norm) :
    ∃ center scale : Fin 45 → K,
      means = List.ofFn (fun place => .number (center place)) ∧
      stds = List.ofFn (fun place => .number (scale place)) ∧ (∀ place, scale place ≠ 0) ∧
      norm = ofNumbers center scale := by
  unfold ofLists at accepted
  split_ifs at accepted with means_length stds_length
  split at accepted
  case h_1 => cases accepted
  case h_2 _ finite =>
    split at accepted
    case h_1 => cases accepted
    case h_2 _ divisors =>
      rw [List.findIdx?_eq_none_iff] at finite
      rw [List.find?_eq_none] at divisors
      -- The means only have to be finite, the deviations also not to be zero.
      have centers (x : Exact K) (listed : x ∈ means) : ∃ a, x = .number a ∧ True := by
        obtain ⟨a, isNumber⟩ := exists_of_isFinite (by simpa using finite x listed)
        exact ⟨a, isNumber, trivial⟩
      have scales (x : Exact K) (listed : x ∈ stds) : ∃ a, x = .number a ∧ a ≠ 0 := by
        obtain ⟨i, inside, rfl⟩ := List.mem_iff_getElem.mp listed
        have atPlace : (stds[i], i) ∈ stds.zipIdx :=
          List.mk_mem_zipIdx_iff_getElem?.mpr (List.getElem?_eq_getElem inside)
        exact exists_of_isDivisor (by simpa using divisors _ atPlace)
      obtain ⟨center, rfl, -⟩ := Exact.exists_eq_ofFn means_length centers
      obtain ⟨scale, rfl, nonzero⟩ := Exact.exists_eq_ofFn stds_length scales
      refine ⟨center, scale, rfl, rfl, nonzero, ?_⟩
      rw [← Except.ok.inj accepted]
      exact mk_ofFn center scale _ _

theorem standardize_ofNumbers {center scale : Fin 45 → K} (nonzero : ∀ place, scale place ≠ 0)
    (place : Fin 45) (x : K) :
    (ofNumbers center scale).standardize place (.number x) =
      .number ((x - center place) / scale place) := by
  have mean : (ofNumbers center scale).means[place] = .number (center place) :=
    Vector.getElem_ofFn _
  have std : (ofNumbers center scale).stds[place] = .number (scale place) := Vector.getElem_ofFn _
  rw [standardize, mean, std, Exact.number_sub, Exact.number_div (nonzero place)]

end Normalization

/-! ### Mean and deviation -/

namespace Summary

variable {K : Type} [Field K]

/-- The mean of some numbers, or a given number if there are none. -/
def meanOr (otherwise : K) : List K → K
  | [] => otherwise
  | numbers => numbers.sum / numbers.length

variable [LinearOrder K] [FloorRing K]

/-- The mean of the defined values is that of the measured ones. -/
theorem meanOfDefined_eq (column : List (Exact K)) (otherwise : K) :
    meanOfDefined column (.number otherwise) =
      .number (meanOr otherwise (column.filterMap Exact.value?)) := by
  rw [meanOfDefined, Exact.filter_defined]
  cases column.filterMap Exact.value? with
  | nil => rfl
  | cons x numbers =>
    have some : ((x :: numbers).length : K) ≠ 0 := Nat.cast_ne_zero.mpr (Nat.succ_ne_zero _)
    change ((x :: numbers).map Exact.number).foldl (· + ·) 0 /
      Scalar.ofNat ((x :: numbers).map Exact.number).length = _
    rw [Exact.zero_eq, Exact.foldl_add_number, zero_add, List.length_map, Exact.scalarOfNat_eq,
      Exact.number_div some]
    rfl

theorem impute_eq (mean : K) (x : Exact K) :
    impute (.number mean) x = .number (x.value?.getD mean) := by
  cases x <;> rfl

omit [LinearOrder K] [FloorRing K] in
/-- What was replaced lies on the mean, so only what was measured adds to the deviation. -/
theorem sum_squares_eq (mean : K) (column : List (Exact K)) :
    ((column.map fun x => x.value?.getD mean).map fun v => (v - mean) ^ 2).sum =
      ((column.filterMap Exact.value?).map fun v => (v - mean) ^ 2).sum := by
  induction column with
  | nil => rfl
  | cons x column ih =>
    cases x with
    | number x => simpa using ih
    | undefined =>
      -- What takes its place is the mean itself, and the square of nothing is left out.
      rw [List.filterMap_cons_none Exact.value?_undefined]
      simpa using ih

/-- The deviation is that of the measured values, divided by the number of all. -/
theorem deviation_eq {column : List (Exact ℝ)} (nonempty : column ≠ []) (mean : ℝ) :
    deviation (.number mean) column = .number
      √(((column.filterMap Exact.value?).map fun v => (v - mean) ^ 2).sum / column.length) := by
  have squares : (column.map fun x =>
      (impute (.number mean) x - .number mean) * (impute (.number mean) x - .number mean)) =
      ((column.map fun x => x.value?.getD mean).map fun v => (v - mean) ^ 2).map .number := by
    simp only [impute_eq, Exact.number_sub, Exact.number_mul, List.map_map, Function.comp_def, sq]
  have some : (column.length : ℝ) ≠ 0 := by
    simpa using nonempty
  rw [deviation, squares, Exact.total_number, sum_squares_eq, Exact.scalarOfNat_eq,
    Exact.number_div some]
  -- A sum of squares is not negative, so the root is defined.
  apply Exact.sqrt_number
  apply div_nonneg _ (Nat.cast_nonneg _)
  apply List.sum_nonneg
  intro square isSquare
  obtain ⟨v, -, rfl⟩ := List.mem_map.mp isSquare
  exact sq_nonneg _

end Summary

/-! ### Places -/

namespace Feature

/-- The place of a feature in one of the three blocks of a summary. -/
def place (f : Feature) (block : Fin 3) : Fin 45 := ⟨15 * block + f.index, by omega⟩

/-- There are no other places. -/
theorem exists_place (p : Fin 45) : ∃ f block, place f block = p := by
  refine ⟨.ofIndex ⟨p % 15, by omega⟩, ⟨p / 15, by omega⟩, Fin.ext ?_⟩
  simpa [place] using Nat.div_add_mod p 15

/-- A feature stands in the first block where its index says. -/
theorem place_zero (f : Feature) : f.place 0 = f.index.castLE (by decide) :=
  Fin.ext (Nat.zero_add _)

theorem get_map_all {α : Type} (value : Feature → α) (f : Feature) :
    (all.map value).get f.index = value f :=
  (Vector.getElem_map value f.index.isLt).trans (congrArg value (ofIndex_index f))

end Feature

namespace Summary

variable {α : Type}

/-- The three blocks of a summary follow each other. -/
theorem toVector_place (summary : Summary α) (f : Feature) :
    summary.toVector.get (f.place 0) = summary.last.get f.index ∧
      summary.toVector.get (f.place 1) = summary.mean.get f.index ∧
      summary.toVector.get (f.place 2) = summary.std.get f.index := by
  let blocks := summary.last ++ summary.mean ++ summary.std
  have inside := f.index.isLt
  have last : blocks[15 * 0 + f.index.val] = summary.last[f.index] := by
    rw [Vector.getElem_append_left (by omega), Vector.getElem_append_left (by omega)]
    simp
  have mean : blocks[15 * 1 + f.index.val] = summary.mean[f.index] := by
    rw [Vector.getElem_append_left (by omega), Vector.getElem_append_right (by omega) (by omega)]
    simp
  have std : blocks[15 * 2 + f.index.val] = summary.std[f.index] := by
    rw [Vector.getElem_append_right (by omega) (by omega)]
    simp
  exact ⟨last, mean, std⟩

/-- Every block is normalized by the statistics of its own places. -/
theorem toVector_normalize [Scalar α] (summary : Summary α) (norm : Normalization α)
    (f : Feature) :
    (summary.normalize norm).toVector.get (f.place 0) =
        norm.standardize (f.place 0) (summary.last.get f.index) ∧
      (summary.normalize norm).toVector.get (f.place 1) =
        norm.standardize (f.place 1) (summary.mean.get f.index) ∧
      (summary.normalize norm).toVector.get (f.place 2) =
        norm.standardize (f.place 2) (summary.std.get f.index) := by
  obtain ⟨last, mean, std⟩ := (summary.normalize norm).toVector_place f
  rw [last, mean, std, Feature.place_zero]
  exact ⟨Vector.getElem_ofFn f.index.isLt, Vector.getElem_ofFn f.index.isLt,
    Vector.getElem_ofFn f.index.isLt⟩

end Summary

/-! ### What a summary says -/

namespace History

variable {K : Type}

/-- The values of a feature that were measured, oldest first. -/
def measured (history : History (Exact K)) (f : Feature) : List K :=
  history.intervals.filterMap fun interval => (interval.feature f).value?

/-- The mean of the measured values, or a given number if there are none. -/
def meanOr [Field K] (history : History (Exact K)) (f : Feature) (otherwise : K) : K :=
  Summary.meanOr otherwise (history.measured f)

/-- The value of a feature in the last interval, or a given number if it was not measured. -/
def latestOr (history : History (Exact K)) (f : Feature) (otherwise : K) : K :=
  (history.last?.bind fun last => (last.feature f).value?).getD otherwise

/-- How far the measured values lie from a number, with the root mean square taken over all
intervals. -/
noncomputable def spread (history : History (Exact ℝ)) (f : Feature) (mean : ℝ) : ℝ :=
  √(((history.measured f).map fun v => (v - mean) ^ 2).sum / history.intervals.length)

end History

/-- Whether a summary says of each feature what its last value, mean and deviation were, centred and
scaled by given numbers. -/
structure Summary.Describes (summary : Summary (Exact ℝ)) (history : History (Exact ℝ))
    (center scale : Fin 45 → ℝ) : Prop where
  last_eq (f : Feature) : summary.toVector.get (f.place 0) = .number
    ((history.latestOr f (history.meanOr f (center (f.place 0))) - center (f.place 0)) /
      scale (f.place 0))
  mean_eq (f : Feature) : summary.toVector.get (f.place 1) = .number
    ((history.meanOr f (center (f.place 0)) - center (f.place 1)) / scale (f.place 1))
  spread_eq (f : Feature) : summary.toVector.get (f.place 2) = .number
    ((history.spread f (history.meanOr f (center (f.place 0))) - center (f.place 2)) /
      scale (f.place 2))

namespace Summary

variable {summary : Summary (Exact ℝ)} {history : History (Exact ℝ)} {center scale : Fin 45 → ℝ}

/-- What is said of all features leaves no value undefined. -/
theorem Describes.ne_undefined (describes : summary.Describes history center scale)
    (place : Fin 45) : summary.toVector.get place ≠ .undefined := by
  obtain ⟨f, block, rfl⟩ := Feature.exists_place place
  match block with
  | 0 => exact Exact.ne_undefined_iff.mpr ⟨_, describes.last_eq f⟩
  | 1 => exact Exact.ne_undefined_iff.mpr ⟨_, describes.mean_eq f⟩
  | 2 => exact Exact.ne_undefined_iff.mpr ⟨_, describes.spread_eq f⟩

end Summary

namespace History

variable {center scale : Fin 45 → ℝ}

/-- The numbers of a column are the values that were measured. -/
theorem filterMap_column {K : Type} [Field K] [LinearOrder K] [FloorRing K]
    (history : History (Exact K)) (f : Feature) :
    (history.column f).filterMap Exact.value? = history.measured f :=
  List.filterMap_map

/-- The mean of a feature, the center of its first place standing in for values that are missing. -/
theorem mean_ofNumbers (history : History (Exact ℝ)) (f : Feature) :
    history.mean (.ofNumbers center scale) f = .number (history.meanOr f (center (f.place 0))) := by
  have isMean : (Normalization.ofNumbers center scale).featureMean f =
      .number (center (f.place 0)) := by
    rw [Feature.place_zero]
    exact Vector.getElem_ofFn _
  rw [mean, isMean, Summary.meanOfDefined_eq, filterMap_column]
  rfl

/-- A history that is not empty has a summary, and it describes the history. -/
theorem exists_describes (history : History (Exact ℝ)) (nonempty : history.intervals ≠ [])
    (nonzero : ∀ place, scale place ≠ 0) :
    ∃ summary, history.summary? (.ofNumbers center scale) = some summary ∧
      summary.Describes history center scale := by
  obtain ⟨last, isLast⟩ : ∃ last, history.last? = some last :=
    ⟨_, List.getLast?_eq_some_getLast nonempty⟩
  let norm : Normalization (Exact ℝ) := .ofNumbers center scale
  let raw : Summary (Exact ℝ) :=
    { last := Feature.all.map fun f => Summary.impute (history.mean norm f) (last.feature f)
      mean := Feature.all.map fun f => history.mean norm f
      std := Feature.all.map fun f => Summary.deviation (history.mean norm f) (history.column f) }
  have isSummary : history.summary? norm = some (raw.normalize norm) := by
    rw [summary?, isLast]
    rfl
  refine ⟨_, isSummary, fun f => ?_, fun f => ?_, fun f => ?_⟩
  -- Each block is read at the place of a feature, where it holds a number to be normalized.
  · rw [(raw.toVector_normalize norm f).1, Feature.get_map_all, mean_ofNumbers,
      Summary.impute_eq, Normalization.standardize_ofNumbers nonzero, latestOr, isLast,
      Option.bind_some]
  · rw [(raw.toVector_normalize norm f).2.1, Feature.get_map_all, mean_ofNumbers,
      Normalization.standardize_ofNumbers nonzero]
  · have column_nonempty : history.column f ≠ [] := mt List.map_eq_nil_iff.mp nonempty
    have column_length : (history.column f).length = history.intervals.length := List.length_map _
    rw [(raw.toVector_normalize norm f).2.2, Feature.get_map_all, mean_ofNumbers,
      Summary.deviation_eq column_nonempty, Normalization.standardize_ofNumbers nonzero,
      filterMap_column, column_length, spread]

/-- With accepted statistics every history that is not empty has a summary. All of its 45 values are
defined. They are the last value, the mean and the deviation of each feature, centred and scaled by
the statistics of their own places. -/
theorem summary?_of_accepted {means stds : List (Exact ℝ)} {norm : Normalization (Exact ℝ)}
    (accepted : Normalization.ofLists means stds = .ok norm) :
    ∃ center scale : Fin 45 → ℝ,
      means = List.ofFn (fun place => .number (center place)) ∧
      stds = List.ofFn (fun place => .number (scale place)) ∧ (∀ place, scale place ≠ 0) ∧
      ∀ history : History (Exact ℝ),
        (history.intervals = [] → history.summary? norm = none) ∧
        (history.intervals ≠ [] → ∃ summary, history.summary? norm = some summary ∧
          summary.Describes history center scale ∧
          ∀ place : Fin 45, summary.toVector.get place ≠ .undefined) := by
  obtain ⟨center, scale, means_eq, stds_eq, nonzero, rfl⟩ :=
    Normalization.exists_of_ofLists accepted
  refine ⟨center, scale, means_eq, stds_eq, nonzero, fun history => ⟨fun isEmpty => ?_,
    fun nonempty => ?_⟩⟩
  · rw [summary?, last?, isEmpty]
    rfl
  · obtain ⟨summary, isSummary, describes⟩ := history.exists_describes nonempty nonzero
    exact ⟨summary, isSummary, describes, describes.ne_undefined⟩

/-- The last of five intervals lacks a value. It is replaced by the mean of the other four, counts
among the five that the deviation is divided by, and adds nothing to it. -/
theorem summary?_of_accepted_last_missing :
    let value (x : Exact ℝ) : Interval (Exact ℝ) := .ofFeatures {} fun _ => x
    let history : History (Exact ℝ) :=
      ⟨0, [value (.number 1), value (.number 7), value (.number 3), value (.number 5),
        value .undefined]⟩
    let norm : Normalization (Exact ℝ) := .ofNumbers (fun _ => 10) (fun _ => 2)
    Normalization.ofLists (List.ofFn fun _ : Fin 45 => .number 10)
        (List.ofFn fun _ : Fin 45 => .number 2) = .ok norm ∧
      ∃ summary, history.summary? norm = some summary ∧ ∀ f : Feature,
        summary.toVector.get (f.place 0) = .number ((4 - 10) / 2) ∧
        summary.toVector.get (f.place 1) = .number ((4 - 10) / 2) ∧
        summary.toVector.get (f.place 2) = .number ((2 - 10) / 2) := by
  intro value history norm
  have accepted : Normalization.ofLists (List.ofFn fun _ : Fin 45 => Exact.number (10 : ℝ))
      (List.ofFn fun _ : Fin 45 => .number 2) = .ok norm :=
    Normalization.ofLists_of_numbers fun _ => two_ne_zero
  obtain ⟨center, scale, means_eq, stds_eq, -, holds⟩ := summary?_of_accepted accepted
  have center_eq (place : Fin 45) : center place = 10 :=
    (Exact.number.inj (congrFun (List.ofFn_injective means_eq) place)).symm
  have scale_eq (place : Fin 45) : scale place = 2 :=
    (Exact.number.inj (congrFun (List.ofFn_injective stds_eq) place)).symm
  obtain ⟨summary, isSummary, describes, -⟩ := (holds history).2 (List.cons_ne_nil _ _)
  -- Four values were measured, and the last one is missing.
  have measured (f : Feature) : history.measured f = [1, 7, 3, 5] := by
    simp [History.measured, history, value]
  have meanOr (f : Feature) : history.meanOr f 10 = 4 := by
    rw [History.meanOr, measured]
    change ([1, 7, 3, 5] : List ℝ).sum / ([1, 7, 3, 5] : List ℝ).length = 4
    norm_num
  have latestOr (f : Feature) : history.latestOr f 4 = 4 := by
    simp [History.latestOr, last?, history, value]
  have spread (f : Feature) : history.spread f 4 = 2 := by
    have variance : ((history.measured f).map fun v => (v - 4) ^ 2).sum /
        history.intervals.length = (2 : ℝ) ^ 2 := by
      rw [measured]
      norm_num [history]
    rw [History.spread, variance, Real.sqrt_sq zero_le_two]
  refine ⟨accepted, summary, isSummary, fun f => ⟨?_, ?_, ?_⟩⟩
  · rw [describes.last_eq f, center_eq, scale_eq, meanOr, latestOr]
  · rw [describes.mean_eq f, center_eq, center_eq, scale_eq, meanOr]
  · rw [describes.spread_eq f, center_eq, center_eq, scale_eq, meanOr, spread]

end History

end LinkQuality
