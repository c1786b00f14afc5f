import LinkQuality.Proofs.Decay
import LinkQuality.Trend.Boundary
import Mathlib.Tactic.Ring

/-!
# When probes are asked for

After a probe at a low score the bar for the next one starts below that score, and rises towards the
transition as what is kept of the difference decays. After five time constants the rest of it is
dropped, and the bar is the transition. That is a jump, but one upwards.

So the bar is never above the transition and never below where it starts, and it never falls in
time. A clock that runs backwards counts as one that stands still. The more eagerly is probed, the
higher the bar starts, and the less is missing from it at any time.

The time constant may be any. If it is less than a millisecond, no time is a number of time
constants, and the bar is the transition from the first.

## Main definitions

* `Trend.Boundary.barStart`: where the bar starts after a probe
* `Trend.Boundary.IsLowered`: whether the bar is still lowered

## Main results

* `Trend.Boundary.bar_of_isLowered`, `Trend.Boundary.bar_of_not_isLowered`: the bar while it is
  lowered, and when it is not
* `Trend.Boundary.barStart_le_bar`, `Trend.Boundary.bar_le_transition`: its bounds
* `Trend.Boundary.bar_mono`: the bar later, and when probing more eagerly
* `Trend.Boundary.probes_monotone`: which scores ask for a probe
-/

namespace LinkQuality.Trend.Boundary

variable {K : Type} [Field K] [LinearOrder K] [FloorRing K]

/-- The time since a probe, in time constants. -/
def age (rules : Settings.Trend (Exact K)) (probe : Probe) (nowMs : ℕ) : Exact K :=
  Scalar.ofNat (nowMs - probe.timeMs) / Scalar.ofNat rules.probeTimeConstant.millis

/-- Whether the bar is still lowered after a probe: its score was low, and it is not five time
constants ago. -/
def IsLowered (rules : Settings.Trend (Exact K)) (probe : Probe) (nowMs : ℕ) : Prop :=
  probe.score < rules.transitionScore ∧ age rules probe nowMs < 5

/-- Where the bar starts after a probe at a low score. -/
def barStart (rules : Settings.Trend (Exact K)) (probe : Probe) : K :=
  probe.score - (11 - rules.probeKnob)

variable {rules : Settings.Trend (Exact K)} {probe : Probe} {nowMs laterMs knob : ℕ}
  {transition : ℤ}

/-! ### Time since a probe -/

theorem age_eq (nonzero : (rules.probeTimeConstant.millis : K) ≠ 0) (nowMs : ℕ) :
    age rules probe nowMs =
      .number (((nowMs - probe.timeMs : ℕ) : K) / (rules.probeTimeConstant.millis : K)) := by
  rw [age, Exact.scalarOfNat_eq, Exact.scalarOfNat_eq, Exact.number_div nonzero]

/-- The bar is lowered only if time is counted, for which there has to be a time constant. -/
theorem IsLowered.millis_ne_zero (lowered : IsLowered rules probe nowMs) :
    (rules.probeTimeConstant.millis : K) ≠ 0 := by
  intro none
  have noAge : age rules probe nowMs = .undefined := by
    rw [age, Exact.scalarOfNat_eq, Exact.scalarOfNat_eq, none]
    exact if_pos rfl
  obtain ⟨a, -, isNumber, -, -⟩ := Exact.lt_iff.mp lowered.2
  cases noAge.symm.trans isNumber

variable [IsStrictOrderedRing K]

/-- While the bar is lowered, the time since the probe has been as long or shorter before. -/
theorem IsLowered.age_le (lowered : IsLowered rules probe laterMs) (notEarlier : nowMs ≤ laterMs) :
    age rules probe nowMs ≤ age rules probe laterMs := by
  have elapsed_le : ((nowMs - probe.timeMs : ℕ) : K) ≤ (laterMs - probe.timeMs : ℕ) := by
    exact_mod_cast Nat.sub_le_sub_right notEarlier _
  rw [age_eq lowered.millis_ne_zero, age_eq lowered.millis_ne_zero, Exact.number_le_number]
  gcongr

/-- A bar that is lowered at some time was lowered before. -/
theorem IsLowered.of_le (lowered : IsLowered rules probe laterMs) (notEarlier : nowMs ≤ laterMs) :
    IsLowered rules probe nowMs := by
  refine ⟨lowered.1, ?_⟩
  obtain ⟨a, b, isNow, isLater, a_le_b⟩ := Exact.le_iff.mp (lowered.age_le notEarlier)
  obtain ⟨b', c, isLater', isFive, below⟩ := Exact.lt_iff.mp lowered.2
  obtain rfl : b = b' := Exact.number.inj (isLater.symm.trans isLater')
  rw [isNow, isFive]
  exact a_le_b.trans_lt below

/-- No time is left to pass before now. -/
theorem IsLowered.neg_age_nonpos (lowered : IsLowered rules probe nowMs) :
    -age rules probe nowMs ≤ 0 := by
  rw [age_eq lowered.millis_ne_zero, Exact.neg_number, Exact.zero_eq, Exact.number_le_number,
    neg_nonpos]
  positivity

/-! ### The bar -/

theorem barStart_le_transition (knob_le : rules.probeKnob ≤ 10)
    (atNominal : rules.transitionScore ≤ transition) (low : probe.score < rules.transitionScore) :
    barStart rules probe ≤ (transition : K) := by
  have knob_le : (rules.probeKnob : K) ≤ 10 := by exact_mod_cast knob_le
  have below : (probe.score : K) ≤ transition := by exact_mod_cast (low.trans_le atNominal).le
  unfold barStart
  linarith

variable [Exponential (Exact K)]

omit [IsStrictOrderedRing K] in
/-- When the bar is no longer lowered, it is the transition. -/
theorem bar_of_not_isLowered (notLowered : ¬ IsLowered rules probe nowMs) :
    bar rules (some probe) nowMs transition = Exact.number (transition : K) :=
  if_neg notLowered

/-- While the bar is lowered, a share of the way from the transition to where it starts is left. -/
theorem bar_of_isLowered (keeps : Exact.KeepsShares K) (lowered : IsLowered rules probe nowMs) :
    ∃ share : K, Exponential.exp (-age rules probe nowMs) = .number share ∧ 0 ≤ share ∧ share ≤ 1 ∧
      bar rules (some probe) nowMs transition =
        .number (transition - share * (transition - barStart rules probe)) := by
  obtain ⟨nonneg, le_one⟩ := keeps _ lowered.neg_age_nonpos
  obtain ⟨share, isShare, share_nonneg⟩ := Exact.nonneg_iff.mp nonneg
  rw [isShare] at le_one
  refine ⟨share, isShare, share_nonneg, by simpa using le_one, ?_⟩
  -- The mix is read from the transition: what is left of the way down is the share that is kept.
  have mixed : bar rules (some probe) nowMs transition =
      Exponential.exp (-age rules probe nowMs) *
          (Scalar.ofInt probe.score - (11 - Scalar.ofNat rules.probeKnob)) +
        (1 - Exponential.exp (-age rules probe nowMs)) * Scalar.ofInt transition :=
    if_pos lowered
  have mix : share * (probe.score - (11 - rules.probeKnob)) + (1 - share) * (transition : K) =
      transition - share * (transition - barStart rules probe) := by
    unfold barStart
    ring
  rw [mixed, isShare, ← mix]
  simp [Exact.ofNat_eq]

theorem bar_le_transition (keeps : Exact.KeepsShares K) (knob_le : rules.probeKnob ≤ 10)
    (atNominal : rules.transitionScore ≤ transition) (lastProbe : Option Probe) (nowMs : ℕ) :
    bar rules lastProbe nowMs transition ≤ Exact.number (transition : K) := by
  cases lastProbe with
  | none => exact le_refl (transition : K)
  | some probe =>
    by_cases lowered : IsLowered rules probe nowMs
    · obtain ⟨share, -, share_nonneg, -, isBar⟩ := bar_of_isLowered keeps lowered
      have way := sub_nonneg.mpr (barStart_le_transition (K := K) knob_le atNominal lowered.1)
      rw [isBar, Exact.number_le_number]
      exact sub_le_self _ (mul_nonneg share_nonneg way)
    · rw [bar_of_not_isLowered lowered]
      exact le_refl (transition : K)

/-- After a probe at a low score the bar is never below where it starts. -/
theorem barStart_le_bar (keeps : Exact.KeepsShares K) (knob_le : rules.probeKnob ≤ 10)
    (atNominal : rules.transitionScore ≤ transition) (low : probe.score < rules.transitionScore)
    (nowMs : ℕ) :
    Exact.number (barStart rules probe) ≤ bar rules (some probe) nowMs transition := by
  have atMost := barStart_le_transition (K := K) knob_le atNominal low
  by_cases lowered : IsLowered rules probe nowMs
  · obtain ⟨share, -, -, share_le_one, isBar⟩ := bar_of_isLowered keeps lowered
    rw [isBar, Exact.number_le_number, le_sub_comm]
    exact mul_le_of_le_one_left (sub_nonneg.mpr atMost) share_le_one
  · rw [bar_of_not_isLowered lowered]
    exact atMost

/-- The bar does not fall in time, and is not lower when probing more eagerly. -/
theorem bar_mono (decays : Exact.Decays K) (knob_ge : rules.probeKnob ≤ knob) (knob_le : knob ≤ 10)
    (atNominal : rules.transitionScore ≤ transition) (lastProbe : Option Probe)
    (notEarlier : nowMs ≤ laterMs) :
    bar rules lastProbe nowMs transition ≤
      bar { rules with probeKnob := knob } lastProbe laterMs transition := by
  have atMost := bar_le_transition decays.keepsShares (knob_ge.trans knob_le) atNominal lastProbe
    nowMs
  cases lastProbe with
  | none => exact le_refl (transition : K)
  | some probe =>
    by_cases lowered : IsLowered { rules with probeKnob := knob } probe laterMs
    · -- Less is left of a way that is not longer.
      have loweredNow : IsLowered rules probe nowMs := lowered.of_le notEarlier
      obtain ⟨now, isNow, now_nonneg, -, isBar⟩ := bar_of_isLowered decays.keepsShares loweredNow
      obtain ⟨later, isLater, -, -, isLaterBar⟩ := bar_of_isLowered decays.keepsShares lowered
      have later_le_now : later ≤ now := by
        rw [← Exact.number_le_number, ← isNow, ← isLater]
        exact decays.exp_mono _ _ (Exact.neg_le_neg (lowered.age_le notEarlier))
          loweredNow.neg_age_nonpos
      have way_le : transition - barStart { rules with probeKnob := knob } probe ≤
          (transition - barStart rules probe : K) := by
        have eager : (rules.probeKnob : K) ≤ knob := by exact_mod_cast knob_ge
        simp only [barStart]
        linarith
      have way_nonneg : 0 ≤ (transition - barStart { rules with probeKnob := knob } probe : K) :=
        sub_nonneg.mpr (barStart_le_transition knob_le atNominal lowered.1)
      rw [isBar, isLaterBar, Exact.number_le_number]
      exact sub_le_sub_left (mul_le_mul later_le_now way_le way_nonneg now_nonneg) _
    · -- Later the rest of the way is dropped, and the transition is not below any bar.
      rw [bar_of_not_isLowered lowered]
      exact atMost

/-! ### Scores that ask for a probe -/

omit [IsStrictOrderedRing K] in
/-- A score asks for a probe if it does not reach the bar, unless none is ever asked for. -/
theorem wantsProbe_iff {boundary : Boundary} {score : ℤ} :
    boundary.wantsProbe rules nowMs transition score = true ↔
      rules.probeKnob ≠ 0 ∧
        ¬ bar rules boundary.lastProbe nowMs transition ≤ Exact.number (score : K) := by
  simp [wantsProbe]

/-- With any way of probing but never, from the same last probe, and on a link whose transition is
at least the nominal one: the bar lies between where it starts and the transition, and is not lower
later or when probing more eagerly. So what asks for a probe is below the transition, and a score
that is no higher asks for one as well, also later and when probing more eagerly. -/
theorem probes_monotone (decays : Exact.Decays K) (knob_pos : 1 ≤ rules.probeKnob)
    (knob_ge : rules.probeKnob ≤ knob) (knob_le : knob ≤ 10)
    (atNominal : rules.transitionScore ≤ transition) (boundary : Boundary)
    (notEarlier : nowMs ≤ laterMs) {score lower : ℤ} (notAbove : lower ≤ score) :
    let eager := { rules with probeKnob := knob }
    let now : Exact K := bar rules boundary.lastProbe nowMs transition
    now ≤ bar eager boundary.lastProbe laterMs transition ∧ now ≤ Scalar.ofInt transition ∧
      (∀ probe, boundary.lastProbe = some probe → probe.score < rules.transitionScore →
        Scalar.ofInt probe.score - (11 - Scalar.ofNat rules.probeKnob) ≤ now) ∧
      (boundary.wantsProbe rules nowMs transition score = true →
        boundary.wantsProbe eager laterMs transition lower = true ∧ score < transition) := by
  intro eager now
  have rises : now ≤ bar eager boundary.lastProbe laterMs transition :=
    bar_mono decays knob_ge knob_le atNominal boundary.lastProbe notEarlier
  have atMost : now ≤ Exact.number (transition : K) :=
    bar_le_transition decays.keepsShares (knob_ge.trans knob_le) atNominal boundary.lastProbe nowMs
  refine ⟨rises, atMost, ?_, ?_⟩
  · intro probe isLast low
    have atLeast := barStart_le_bar decays.keepsShares (knob_ge.trans knob_le) atNominal low nowMs
    rw [← isLast] at atLeast
    simpa [barStart, Exact.ofNat_eq] using atLeast
  · intro wants
    -- What reaches the bar later, or reaches the transition, reaches it now.
    have notReached := (wantsProbe_iff.mp wants).2
    have probes : knob ≠ 0 := by omega
    refine ⟨wantsProbe_iff.mpr ⟨probes, ?_⟩, ?_⟩
    · intro reached
      have lower_le : Exact.number (lower : K) ≤ .number score := by
        rw [Exact.number_le_number]
        exact_mod_cast notAbove
      exact notReached (Exact.le_trans (Exact.le_trans rises reached) lower_le)
    · by_contra above
      have transition_le : Exact.number (transition : K) ≤ .number score := by
        rw [Exact.number_le_number]
        exact_mod_cast Int.not_lt.mp above
      exact notReached (Exact.le_trans atMost transition_le)

/-- After a probe at forty, and with a clock that then runs backwards, thirty-six asks for another
one. So does thirty five time constants later, with the knob at its end. -/
theorem probes_monotone_clock_backwards :
    let rules : Settings.Trend (Exact ℝ) := .defaults
    let eager := { rules with probeKnob := 10 }
    let boundary : Boundary := ⟨none, some ⟨3000, 40⟩⟩
    boundary.wantsProbe rules 0 55 36 = true ∧ boundary.wantsProbe eager 153000 55 30 = true := by
  intro rules eager boundary
  obtain ⟨-, -, atLeast, asks⟩ := @probes_monotone ℝ _ _ _ rules 0 153000 10 55 _ _
    Exact.decays_real (by decide) (by decide) le_rfl (by decide) boundary (by decide) 36 30
    (by decide)
  have wants : boundary.wantsProbe rules 0 55 36 = true := by
    refine wantsProbe_iff.mpr ⟨by decide, ?_⟩
    intro reached
    have start_le := Exact.le_trans (atLeast ⟨3000, 40⟩ rfl (by decide)) reached
    have knob : rules.probeKnob = 8 := rfl
    simp only [knob, Exact.ofInt_eq, Exact.scalarOfNat_eq, Exact.ofNat_eq 11, Exact.number_sub,
      Exact.number_le_number] at start_le
    norm_num at start_le
  exact ⟨wants, (asks wants).1⟩

end LinkQuality.Trend.Boundary
