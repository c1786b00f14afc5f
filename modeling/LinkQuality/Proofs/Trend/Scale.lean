import LinkQuality.Proofs.Summary
import LinkQuality.Proofs.Trend.Operations

/-!
# The filter on another scale

Readings can be given on another scale, with another unit and another zero. The filter follows: on
the new scale its value is the old one converted, its velocity has the new unit, and so has where
the trend leads. How certain it is comes from the times of the readings alone, and does not change
at all. So a gain is never computed from a reading, and a reading is always weighed against the
prediction for it.

A scale may also have a unit of zero, and then everything reads the same. So readings of one value
are the readings of any run on such a scale, and they leave the value there and the velocity at
zero.

## Main definitions

* `Trend.Scale`: another scale, and what values, changes and operations are on it
* `Trend.Filter.IsOnScale`: whether a filter is another one on a scale
* `Trend.Filter.IsDefined`: whether the value and the velocity of a filter are numbers

## Main results

* `Trend.Scale.convert_add`, `Trend.Scale.convert_sub_convert`: values and changes on a scale
* `Trend.Filter.IsOnScale.apply`, `Trend.Filter.isOnScale_run`: one operation, and a run
* `Trend.Filter.isDefined_run`: readings that are numbers leave numbers
* `Trend.Filter.run_onScale`: all of this for a filter of inexact readings
-/

namespace LinkQuality.Trend

/-! ### Scales -/

/-- Another scale for readings: how many of its units go into one, and where the old zero is. -/
structure Scale (K : Type) where
  unit : K
  origin : K

/-- The reading of an operation, if it takes one. -/
def Filter.Operation.reading? {α : Type} : Filter.Operation α → Option α
  | .start reading => some reading
  | .update reading _ => some reading
  | .predict _ => none
  | .reset => none

namespace Scale

variable {K : Type} [Field K] [LinearOrder K] [FloorRing K] (scale : Scale K)

/-- A value on the scale. -/
def convert (x : Exact K) : Exact K := .number scale.unit * x + .number scale.origin

/-- A change of a value on the scale. -/
def convertChange (x : Exact K) : Exact K := .number scale.unit * x

/-- An operation whose reading is given on the scale. -/
def onOperation : Filter.Operation (Exact K) → Filter.Operation (Exact K)
  | .start reading => .start (scale.convert reading)
  | .predict seconds => .predict seconds
  | .update reading seconds => .update (scale.convert reading) seconds
  | .reset => .reset

/-- A value that has changed. -/
theorem convert_add (x change : Exact K) :
    scale.convert (x + change) = scale.convert x + scale.convertChange change := by
  cases x with
  | undefined => rfl
  | number x =>
    cases change with
    | undefined => rfl
    | number change =>
      simp only [convert, convertChange, Exact.number_mul, Exact.number_add, Exact.number.injEq]
      ring

/-- The change from one value to another. -/
theorem convert_sub_convert (x y : Exact K) :
    scale.convert x - scale.convert y = scale.convertChange (x - y) := by
  cases x with
  | undefined => rfl
  | number x =>
    cases y with
    | undefined => rfl
    | number y =>
      simp only [convert, convertChange, Exact.number_mul, Exact.number_add, Exact.number_sub,
        Exact.number.injEq]
      ring

theorem convertChange_add (first second : Exact K) :
    scale.convertChange (first + second) =
      scale.convertChange first + scale.convertChange second := by
  cases first with
  | undefined => rfl
  | number first =>
    cases second with
    | undefined => rfl
    | number second =>
      simp only [convertChange, Exact.number_mul, Exact.number_add, Exact.number.injEq]
      ring

theorem convertChange_mul (share change : Exact K) :
    scale.convertChange (share * change) = share * scale.convertChange change := by
  cases share with
  | undefined => rfl
  | number share =>
    cases change with
    | undefined => rfl
    | number change =>
      simp only [convertChange, Exact.number_mul, Exact.number.injEq]
      ring

/-- What a change comes to in some time. -/
theorem convertChange_mul_time (change seconds : Exact K) :
    scale.convertChange (change * seconds) = scale.convertChange change * seconds := by
  cases change with
  | undefined => rfl
  | number change =>
    cases seconds with
    | undefined => rfl
    | number seconds =>
      simp only [convertChange, Exact.number_mul, Exact.number.injEq]
      ring

/-- On a scale with a unit of zero everything reads as its origin. -/
theorem onOperation_eq_self {x : K} {operation : Filter.Operation (Exact K)}
    (constant : ∀ reading ∈ operation.reading?, reading = .number x) :
    (⟨0, x⟩ : Scale K).onOperation operation = operation := by
  have fixed : (⟨0, x⟩ : Scale K).convert (.number x) = .number x := by simp [convert]
  cases operation with
  | start reading =>
    obtain rfl := constant reading rfl
    rw [onOperation, fixed]
  | predict seconds => rfl
  | update reading seconds =>
    obtain rfl := constant reading rfl
    rw [onOperation, fixed]
  | reset => rfl

end Scale

namespace Filter

variable {K : Type} [Field K] [LinearOrder K] [FloorRing K] {scale : Scale K}
  {noise : Noise (Exact K)} {filter converted : Filter (Exact K)}

/-! ### Runs on a scale -/

/-- Whether a filter is another one on a scale. What it is certain of does not depend on the scale,
and until it has started it has no value that could be converted. -/
structure IsOnScale (scale : Scale K) (filter converted : Filter (Exact K)) : Prop where
  hasStarted : converted.hasStarted = filter.hasStarted
  valueVariance : converted.valueVariance = filter.valueVariance
  covariance : converted.covariance = filter.covariance
  velocityVariance : converted.velocityVariance = filter.velocityVariance
  value : filter.hasStarted = true → converted.value = scale.convert filter.value
  velocity : filter.hasStarted = true → converted.velocity = scale.convertChange filter.velocity

theorem isOnScale_blank : IsOnScale scale blank blank :=
  ⟨rfl, rfl, rfl, rfl, nofun, nofun⟩

theorem isOnScale_start (noise : Noise (Exact K)) (reading : Exact K) :
    IsOnScale scale (start noise reading) (start noise (scale.convert reading)) := by
  refine ⟨rfl, rfl, rfl, rfl, fun _ => rfl, fun _ => ?_⟩
  simp [start, Scale.convertChange]

/-- Where the trend leads on a scale is where it leads, converted. -/
theorem IsOnScale.ahead (onScale : IsOnScale scale filter converted)
    (started : filter.hasStarted = true) (seconds : Exact K) :
    converted.ahead seconds = scale.convert (filter.ahead seconds) := by
  rw [Filter.ahead, Filter.ahead, onScale.value started, onScale.velocity started,
    scale.convert_add, scale.convertChange_mul_time]

theorem IsOnScale.predict (onScale : IsOnScale scale filter converted)
    (noise : Noise (Exact K)) (seconds : Exact K) :
    IsOnScale scale (filter.predict noise seconds) (converted.predict noise seconds) := by
  constructor
  · exact onScale.hasStarted
  · simp only [Filter.predict, onScale.valueVariance, onScale.covariance,
      onScale.velocityVariance]
  · simp only [Filter.predict, onScale.covariance, onScale.velocityVariance]
  · simp only [Filter.predict, onScale.velocityVariance]
  · exact fun started => onScale.ahead started seconds
  · exact onScale.velocity

/-- A reading is weighed in the same way, since the gains do not depend on the scale. -/
theorem IsOnScale.correct (onScale : IsOnScale scale filter converted)
    (started : filter.hasStarted = true) (noise : Noise (Exact K)) (reading : Exact K) :
    IsOnScale scale (filter.correct noise reading)
      (converted.correct noise (scale.convert reading)) := by
  constructor
  · exact onScale.hasStarted
  · simp only [Filter.correct, onScale.valueVariance]
  · simp only [Filter.correct, onScale.valueVariance, onScale.covariance]
  · simp only [Filter.correct, onScale.valueVariance, onScale.covariance,
      onScale.velocityVariance]
  · intro _
    simp only [Filter.correct, onScale.valueVariance, onScale.value started,
      scale.convert_sub_convert, scale.convert_add, scale.convertChange_mul]
  · intro _
    simp only [Filter.correct, onScale.valueVariance, onScale.covariance, onScale.value started,
      onScale.velocity started, scale.convert_sub_convert, scale.convertChange_add,
      scale.convertChange_mul]

theorem IsOnScale.apply (onScale : IsOnScale scale filter converted) (noise : Noise (Exact K))
    (operation : Operation (Exact K)) :
    IsOnScale scale (operation.apply noise filter)
      ((scale.onOperation operation).apply noise converted) := by
  cases operation with
  | start reading => exact isOnScale_start noise reading
  | predict seconds => exact onScale.predict noise seconds
  | update reading seconds =>
    dsimp only [Scale.onOperation, Operation.apply, Filter.update]
    rw [onScale.hasStarted]
    split_ifs with started
    · exact (onScale.predict noise seconds).correct started noise reading
    · exact isOnScale_start noise reading
  | reset => exact isOnScale_blank

theorem IsOnScale.foldl (onScale : IsOnScale scale filter converted) (noise : Noise (Exact K))
    (operations : List (Operation (Exact K))) :
    IsOnScale scale (operations.foldl (Operation.apply noise) filter)
      ((operations.map scale.onOperation).foldl (Operation.apply noise) converted) := by
  induction operations generalizing filter converted with
  | nil => exact onScale
  | cons operation operations ih => exact ih (onScale.apply noise operation)

/-- Operations on another scale lead to the filter on that scale. -/
theorem isOnScale_run (scale : Scale K) (noise : Noise (Exact K))
    (operations : List (Operation (Exact K))) :
    IsOnScale scale (run noise operations) (run noise (operations.map scale.onOperation)) :=
  isOnScale_blank.foldl noise operations

/-! ### Runs of numbers -/

/-- Whether the value and the velocity of a filter are numbers. -/
structure IsDefined (filter : Filter (Exact K)) : Prop where
  value : ∃ x, filter.value = .number x
  velocity : ∃ v, filter.velocity = .number v

theorem isDefined_blank : (blank : Filter (Exact K)).IsDefined :=
  ⟨⟨0, Exact.zero_eq⟩, ⟨0, Exact.zero_eq⟩⟩

theorem isDefined_start (noise : Noise (Exact K)) (x : K) : (start noise (.number x)).IsDefined :=
  ⟨⟨x, rfl⟩, ⟨0, Exact.zero_eq⟩⟩

theorem IsDefined.predict (defined : filter.IsDefined) (noise : Noise (Exact K)) (seconds : K) :
    (filter.predict noise (.number seconds)).IsDefined := by
  obtain ⟨⟨x, value⟩, ⟨v, velocity⟩⟩ := defined
  refine ⟨⟨x + v * seconds, ?_⟩, ⟨v, velocity⟩⟩
  rw [Filter.predict, value, velocity, Exact.number_mul, Exact.number_add]

variable [IsStrictOrderedRing K] {operations : List (Operation (Exact K))}

/-- A reading is weighed with numbers, since there is no variance of zero to divide by. -/
theorem IsDefined.correct (defined : filter.IsDefined) (has : filter.HasSoundCovariance)
    (proper : noise.IsProper) (reading : K) :
    (filter.correct noise (.number reading)).IsDefined := by
  obtain ⟨⟨x, value⟩, ⟨v, velocity⟩⟩ := defined
  obtain ⟨P, has, sound⟩ := has
  obtain ⟨r, isNumber, r_pos⟩ := proper.reading
  have total := (sound.total_pos r_pos).ne'
  -- Both gains have the same divisor, the variance of the value and of the reading together.
  constructor
  · refine ⟨x + P.value / (P.value + r) * (reading - x), ?_⟩
    simp [Filter.correct, value, has.value, isNumber, Exact.number_div total]
  · refine ⟨v + P.cross / (P.value + r) * (reading - x), ?_⟩
    simp [Filter.correct, value, velocity, has.value, has.cross, isNumber, Exact.number_div total]

theorem IsDefined.apply (defined : filter.IsDefined) (has : filter.HasSoundCovariance)
    (proper : noise.IsProper) {operation : Operation (Exact K)} (forward : operation.IsForward)
    (measured : ∀ reading ∈ operation.reading?, ∃ x, reading = .number x) :
    (operation.apply noise filter).IsDefined := by
  cases operation with
  | start reading =>
    obtain ⟨x, rfl⟩ := measured reading rfl
    exact isDefined_start noise x
  | predict seconds =>
    obtain ⟨s, rfl, -⟩ := Exact.nonneg_iff.mp forward
    exact defined.predict noise s
  | update reading seconds =>
    obtain ⟨x, rfl⟩ := measured reading rfl
    obtain ⟨s, rfl, -⟩ := Exact.nonneg_iff.mp forward
    rw [Operation.apply, Filter.update]
    -- An update starts the filter if nothing else has.
    split_ifs with started
    · exact (defined.predict noise s).correct (has.predict proper forward) proper x
    · exact isDefined_start noise x
  | reset => exact isDefined_blank

/-- Readings that are numbers leave a filter with numbers. -/
theorem isDefined_run (proper : noise.IsProper)
    (forward : ∀ operation ∈ operations, operation.IsForward)
    (measured : ∀ operation ∈ operations, ∀ reading ∈ operation.reading?,
      ∃ x, reading = .number x) : (run noise operations).IsDefined := by
  induction operations using List.reverseRecOn with
  | nil => exact isDefined_blank
  | append_singleton operations operation ih =>
    rw [List.forall_mem_append, List.forall_mem_singleton] at forward measured
    rw [run, List.foldl_append]
    exact (ih forward.1 measured.1).apply (hasSoundCovariance_run proper forward.1) proper
      forward.2 measured.2

/-- Where all is read as one value, the filter has come to rest there: the readings are their own
conversion to a scale with a unit of zero. -/
theorem value_run_of_constant (proper : noise.IsProper) {x : K}
    (forward : ∀ operation ∈ operations, operation.IsForward)
    (constant : ∀ operation ∈ operations, ∀ reading ∈ operation.reading?, reading = .number x)
    (started : (run noise operations).hasStarted = true) :
    (run noise operations).value = .number x ∧ (run noise operations).velocity = .number 0 := by
  have measured : ∀ operation ∈ operations, ∀ reading ∈ operation.reading?,
      ∃ x, reading = .number x :=
    fun operation mem reading isReading => ⟨x, constant operation mem reading isReading⟩
  obtain ⟨⟨y, value⟩, ⟨v, velocity⟩⟩ := isDefined_run proper forward measured
  have unchanged : operations.map (Scale.mk 0 x).onOperation = operations := by
    refine (List.map_congr_left fun operation mem => ?_).trans (List.map_id' operations)
    exact Scale.onOperation_eq_self (constant operation mem)
  have onScale := isOnScale_run ⟨0, x⟩ noise operations
  rw [unchanged] at onScale
  constructor
  · rw [onScale.value started, value, Scale.convert, Exact.number_mul, Exact.number_add, zero_mul,
      zero_add]
  · rw [onScale.velocity started, velocity, Scale.convertChange, Exact.number_mul, zero_mul]

/-- A filter of inexact readings, and another one whose readings are given on another scale: after
any operations they are equally certain, and once they have started, the value, the velocity and
where the trend leads are those of the first on that scale. Numbers leave numbers, and readings of
one value leave the value there and the velocity at zero. -/
theorem run_onScale [SquareRoot (Exact K)] {readingStd : K} (positive : 0 < readingStd)
    (accelerationStd : K) (scale : Scale K)
    (forward : ∀ operation ∈ operations, operation.IsForward) :
    let noise := Noise.ofStds (.number readingStd) (.number accelerationStd)
    let filter := run noise operations
    let converted := run noise (operations.map scale.onOperation)
    IsOnScale scale filter converted ∧ converted.uncertainty = filter.uncertainty ∧
      (filter.hasStarted = true →
        ∀ seconds, converted.ahead seconds = scale.convert (filter.ahead seconds)) ∧
      ((∀ operation ∈ operations, ∀ reading ∈ operation.reading?, ∃ x, reading = .number x) →
        filter.IsDefined) ∧
      ∀ x, (∀ operation ∈ operations, ∀ reading ∈ operation.reading?, reading = .number x) →
        filter.hasStarted = true → filter.value = .number x ∧ filter.velocity = .number 0 := by
  intro noise filter converted
  have proper : noise.IsProper := Noise.isProper_ofStds positive accelerationStd
  have onScale : IsOnScale scale filter converted := isOnScale_run scale noise operations
  exact ⟨onScale, congrArg SquareRoot.sqrt onScale.valueVariance, onScale.ahead,
    isDefined_run proper forward, fun x => value_run_of_constant proper forward⟩

/-- A filter that starts twice and is left to predict in between, on a scale that runs the other way
round. -/
theorem run_onScale_turned :
    let noise : Noise (Exact ℝ) := Noise.ofStds (.number 2) (.number (1 / 50))
    let scale : Scale ℝ := ⟨-2, 5⟩
    let operations : List (Operation (Exact ℝ)) := [.update (.number (-70)) (.number 0),
      .update (.number (-74)) (.number 3), .reset, .predict (.number 4),
      .start (.number (-60)), .predict (.number (1 / 2)), .update (.number (-63)) (.number 0)]
    let filter := run noise operations
    let converted := run noise (operations.map scale.onOperation)
    IsOnScale scale filter converted ∧ converted.uncertainty = filter.uncertainty ∧
      (∀ seconds, converted.ahead seconds = scale.convert (filter.ahead seconds)) ∧
      filter.IsDefined := by
  intro noise scale operations filter converted
  have forward : ∀ operation ∈ operations, operation.IsForward := by
    simp [operations, Operation.IsForward]
  have measured : ∀ operation ∈ operations, ∀ reading ∈ operation.reading?,
      ∃ x, reading = .number x := by
    simp [operations, Operation.reading?]
  obtain ⟨onScale, uncertainty, ahead, defined, -⟩ :=
    run_onScale two_pos (1 / 50) scale forward
  exact ⟨onScale, uncertainty, ahead rfl, defined measured⟩

end Filter

end LinkQuality.Trend
