import LinkQuality.Proofs.Binary64.Operations
import LinkQuality.Proofs.Settings.Sound

/-!
# What loading settings reports

Loading a text of settings ends with settings or with a fault of the text: it is no document, it
asks for another version, or one of its settings is refused. The text can be anything, and so can
the values of its keys, within the widths that the reader allows.

There is one value that every check lets pass and that cannot be represented. A horizon is given in
seconds, and a duration holds less than 2 ^ 64 of them. The check of the horizon asks for a finite
number that is not negative and does not ask for more, so a longer one stops the program. It does so
in every document that gets that far, and nothing else does.

## Main definitions

* `Settings.IsReported`: the outcomes of loading that are reported
* `Settings.IsReadAs`: what a text is read as, if it is a document
* `Settings.Overrides.PassesToHorizon`: the checks that come before that of the horizon

## Main results

* `Settings.Overrides.resolve_eq_horizonOverflow_iff`: which documents stop the program
* `Settings.isReported_iff`: which texts are loaded or refused with a report
-/

namespace LinkQuality.Settings

section Outcomes

variable {α : Type}

/-- The outcomes of loading that are reported. -/
inductive IsReported : Except (Fault α) (Settings α) → Prop
  | accepted (settings : Settings α) : IsReported (.ok settings)
  | unreadable : IsReported (.error .unreadable)
  | unsupportedVersion (version : ℕ) : IsReported (.error (.unsupportedVersion version))
  | invalid (setting : Setting) (reason : Reason α) : IsReported (.error (.invalid setting reason))

/-- All of them are, but for one. -/
theorem isReported_iff_ne {outcome : Except (Fault α) (Settings α)} :
    IsReported outcome ↔ outcome ≠ .error .horizonOverflow := by
  constructor
  · rintro (settings | _ | version | ⟨setting, reason⟩) <;> simp
  · intro reported
    cases outcome with
    | ok settings => exact .accepted settings
    | error fault =>
      cases fault with
      | unreadable => exact .unreadable
      | unsupportedVersion version => exact .unsupportedVersion version
      | invalid setting reason => exact .invalid setting reason
      | horizonOverflow => exact absurd rfl reported

theorem bind_eq_error_iff {ε β γ : Type} {first : Except ε β} {second : β → Except ε γ}
    {fault : ε} :
    (first >>= second) = .error fault ↔
      first = .error fault ∨ ∃ value, first = .ok value ∧ second value = .error fault := by
  cases first with
  | error earlier => simp [bind, Except.bind]
  | ok value => simp [bind, Except.bind]

/-- A check that fails refuses its own setting. -/
theorem require_eq_error_iff {condition : Bool} {setting : Setting} {reason : Reason α}
    {fault : Fault α} :
    require condition setting reason = .error fault ↔
      condition = false ∧ fault = .invalid setting reason := by
  unfold require
  split_ifs with holds
  · simp [holds]
  · simp [holds, eq_comm]

end Outcomes

/-! ### Documents -/

section Documents

variable {α : Type} [Scalar α]

/-- A horizon is longer than any duration if it is a number that its check lets pass, of 2 ^ 64
seconds or more. -/
theorem horizonOf_eq_horizonOverflow_iff {given : Option α} :
    horizonOf given = .error .horizonOverflow ↔
      ∃ seconds, given = some seconds ∧ Scalar.isFinite seconds = true ∧ 0 ≤ seconds ∧
        ¬ seconds < 18446744073709551616 := by
  cases given with
  | none => simp [horizonOf]
  | some seconds =>
    simp only [horizonOf]
    split_ifs with passes short
    · simp [short]
    · simp [passes, short]
    · simp only [Except.error.injEq, reduceCtorEq, false_iff]
      rintro ⟨given, same, isFinite, nonneg, -⟩
      obtain rfl := Option.some.inj same
      exact passes ⟨isFinite, nonneg⟩

namespace Overrides

/-- Whether a document passes the checks that come before that of the horizon. -/
structure PassesToHorizon (o : Overrides α) : Prop where
  version : o.version = 0 ∨ o.version = Settings.version
  interval : o.polling.complete.interval.nanoseconds ≠ 0
  threshold : 0 < o.hysteresis.complete.threshold
  margin : ¬ o.hysteresis.complete.margin < 0
  maxScore : ¬ o.hysteresis.complete.maxScore < o.hysteresis.complete.transitionScore

/-- A document stops the program exactly if it gets as far as its horizon, and that is longer than
any duration. -/
theorem resolve_eq_horizonOverflow_iff {o : Overrides α} :
    o.resolve = .error .horizonOverflow ↔
      o.PassesToHorizon ∧ horizonOf o.trend.horizonSeconds = .error .horizonOverflow := by
  rw [resolve]
  split_ifs with outdated
  · -- The version is refused before anything else.
    simp only [bind_eq_error_iff, Except.error.injEq, reduceCtorEq, false_and, exists_false,
      or_self, false_iff]
    rintro ⟨passes, -⟩
    exact passes.version.elim outdated.1 outdated.2
  · have version : o.version = 0 ∨ o.version = Settings.version := by omega
    -- No check fails with this fault, so all those before the horizon succeed.
    simp only [bind_eq_error_iff, require_eq_error_iff, require_eq_ok_iff, exists_const, pure,
      Except.pure, reduceCtorEq, and_false, false_or, or_false, bne_iff_ne,
      decide_eq_true_eq, Bool.not_eq_true', decide_eq_false_iff_not]
    constructor
    · rintro ⟨interval, threshold, margin, maxScore, overflows⟩
      exact ⟨⟨version, interval, threshold, margin, maxScore⟩, overflows⟩
    · rintro ⟨passes, overflows⟩
      exact ⟨passes.interval, passes.threshold, passes.margin, passes.maxScore, overflows⟩

end Overrides

end Documents

/-! ### Texts -/

/-- Whether a text is read as a document. A blank text is not read at all. -/
def IsReadAs (text : String) (document : Overrides Float) : Prop :=
  Text.allBlank text.toList = false ∧
    (Toml.readChars? text.toList).bind Overrides.ofEntries? = some document

/-- A text stops the program only through the document that it is read as. -/
theorem ofText_eq_horizonOverflow_iff {text : String} :
    ofText text = .error .horizonOverflow ↔
      ∃ document, IsReadAs text document ∧ document.resolve = .error .horizonOverflow := by
  unfold ofText ofChars IsReadAs
  split_ifs with blank
  · -- A blank text asks for the defaults.
    simp [blank]
  · cases (Toml.readChars? text.toList).bind Overrides.ofEntries? with
    | none => simp
    | some document => simp [blank]

/-- In floating point, the horizons longer than any duration are the numbers of 2 ^ 64 and more. -/
theorem horizonOf_eq_horizonOverflow_iff_le {given : Option Float} :
    horizonOf given = .error .horizonOverflow ↔
      ∃ seconds value, given = some seconds ∧ Binary64.HasValue seconds value ∧
        2 ^ 64 ≤ value := by
  have zero : Binary64.HasValue (0 : Float) 0 := Binary64.hasValue_zero
  have bound : Binary64.HasValue (Scalar.ofInt 18446744073709551616) (2 ^ 64) := by
    have unpacked : (Float.ofNat 18446744073709551616).toModel.unpack =
        .finite .positive (2 ^ 52) 12 (by decide) := rfl
    change Binary64.value? (Float.ofNat 18446744073709551616).toModel.unpack = _
    rw [unpacked, Binary64.value?, Binary64.signed]
    norm_num
  -- Both bounds are numbers of double precision, so comparing is comparing values.
  rw [horizonOf_eq_horizonOverflow_iff]
  constructor
  · rintro ⟨seconds, given, isFinite, -, notShort⟩
    obtain ⟨value, hasValue⟩ := Binary64.isFinite_iff.mp isFinite
    exact ⟨seconds, value, given, hasValue, not_lt.mp ((hasValue.lt_iff bound).not.mp notShort)⟩
  · rintro ⟨seconds, value, given, hasValue, long⟩
    refine ⟨seconds, given, Binary64.isFinite_iff.mpr ⟨value, hasValue⟩, ?_, ?_⟩
    · exact (zero.le_iff hasValue).mpr ((by positivity : (0 : ℚ) ≤ 2 ^ 64).trans long)
    · exact (hasValue.lt_iff bound).not.mpr (not_lt.mpr long)

/-- **Loading reports.** A text is loaded, or refused with a report, unless it is a document that
gets to its horizon and asks there for 2 ^ 64 seconds or more. -/
theorem isReported_iff (text : String) :
    IsReported (ofText text) ↔
      ∀ document seconds value, IsReadAs text document → document.PassesToHorizon →
        document.trend.horizonSeconds = some seconds → Binary64.HasValue seconds value →
        value < 2 ^ 64 := by
  rw [isReported_iff_ne, Ne, ofText_eq_horizonOverflow_iff]
  constructor
  · intro reported document seconds value isRead passes given hasValue
    by_contra long
    exact reported ⟨document, isRead, Overrides.resolve_eq_horizonOverflow_iff.mpr ⟨passes,
      horizonOf_eq_horizonOverflow_iff_le.mpr ⟨seconds, value, given, hasValue, not_lt.mp long⟩⟩⟩
  · rintro short ⟨document, isRead, stops⟩
    obtain ⟨passes, overflows⟩ := Overrides.resolve_eq_horizonOverflow_iff.mp stops
    obtain ⟨seconds, value, given, hasValue, long⟩ :=
      horizonOf_eq_horizonOverflow_iff_le.mp overflows
    exact (short document seconds value isRead passes given hasValue).not_ge long

/-- A horizon of more seconds than a duration holds is not refused. -/
theorem not_forall_isReported : ¬ ∀ text, IsReported (ofText text) := by
  intro allReported
  have evaluated : (match ofText "[velocity]\nhorizon_secs = 1e20" with
      | .error .horizonOverflow => true
      | _ => false) = true := by
    decide +kernel
  split at evaluated
  next stops => exact isReported_iff_ne.mp (allReported _) stops
  next => exact Bool.false_ne_true evaluated

end LinkQuality.Settings
