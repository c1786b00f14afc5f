import Mathlib.Analysis.Complex.Exponential
import LinkQuality.Proofs.Exact

/-!
# Exponential decay

What is kept of a quantity after some time is the exponential of that time, counted backwards in
time constants. No more is asked of the function than what decay means: a share of the quantity is
kept, all of it at first, and never more later than earlier. Where not even time matters, it is
enough that a share is kept. Where times are divided, it has to be a decay without memory, which
keeps over two times together a share of what it keeps over the first.

Over the reals the exponential function is such a function.

## Main definitions

* `Exact.KeepsShares`: whether what is kept is a share
* `Exact.Decays`: whether what is kept becomes less in time
* `Exact.IsMemoryless`: whether decay goes on the same from wherever it is

## Main results

* `Exact.Decays.keepsShares`: what decays leaves shares
* `Exact.decays_real`, `Exact.isMemoryless_real`: the exponential function over the reals
-/

namespace LinkQuality.Exact

section Field

variable (K : Type) [Field K] [LinearOrder K] [FloorRing K] [Exponential (Exact K)]

/-- Whether the exponential function keeps a share of everything, over any time that passes. -/
def KeepsShares : Prop :=
  ∀ x : Exact K, x ≤ 0 → 0 ≤ Exponential.exp x ∧ Exponential.exp x ≤ 1

/-- Whether the exponential function is one of decay: from one towards zero as time passes. -/
structure Decays : Prop where
  exp_zero : Exponential.exp (0 : Exact K) = 1
  exp_nonneg : ∀ x : Exact K, x ≤ 0 → 0 ≤ Exponential.exp x
  exp_mono : ∀ x y : Exact K, x ≤ y → y ≤ 0 → Exponential.exp x ≤ Exponential.exp y

/-- Whether decay has no memory: over a further time it keeps the same share of whatever is left. -/
def IsMemoryless : Prop :=
  ∀ x y : Exact K, Exponential.exp (x + y) = Exponential.exp x * Exponential.exp y

variable {K}

/-- What decays leaves shares: never less than nothing, and at most all, which is left at first. -/
theorem Decays.keepsShares (decays : Decays K) : KeepsShares K := by
  intro x past
  refine ⟨decays.exp_nonneg x past, ?_⟩
  rw [← decays.exp_zero]
  exact decays.exp_mono x 0 past (by simp)

end Field

/-- The exponential function over the reals. -/
noncomputable instance : Exponential (Exact ℝ) where
  exp
    | number x => number (Real.exp x)
    | undefined => undefined

theorem decays_real : Decays ℝ where
  exp_zero := by
    rw [zero_eq, one_eq]
    exact congrArg number Real.exp_zero
  exp_nonneg x past := by
    obtain ⟨a, -, rfl, -, -⟩ := le_iff.mp past
    exact nonneg_iff.mpr ⟨Real.exp a, rfl, Real.exp_nonneg a⟩
  exp_mono x y earlier _ := by
    obtain ⟨a, b, rfl, rfl, a_le_b⟩ := le_iff.mp earlier
    exact number_le_number.mpr (Real.exp_le_exp.mpr a_le_b)

theorem isMemoryless_real : IsMemoryless ℝ := by
  intro x y
  cases x with
  | undefined => rfl
  | number x =>
    cases y with
    | undefined => rfl
    | number y => exact congrArg number (Real.exp_add x y)

end LinkQuality.Exact
