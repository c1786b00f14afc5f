import LinkQuality.Settings.Basic

/-!
# Rules at the transition score

A score near the transition is not taken as it comes. A link that still works is not given up for
one low score, and a link that was given up is not taken back at once.

A low score also asks for a probe of the next hop. After a probe the bar for the next one is lower,
and rises back to the transition score in time.

## Main definitions

* `Trend.Boundary`: when the score fell below the transition last, and the last probe
* `Boundary.settle`: the rules for a score
* `Boundary.bar`, `Boundary.wantsProbe`: when to probe
-/

namespace LinkQuality.Trend

open Settings (Trend)

/-- What was seen of a link, as far as the rules ask for it. -/
structure Signs (α : Type) where
  /-- The score that was settled before. -/
  previous : Int
  /-- Successful transmissions per second. -/
  txRate : α
  /-- Successful receptions per second. -/
  rxRate : α
  filteredRssi : α
  rssi? : Option Int
  /-- The level at which links of the band are entered. -/
  entryDbm : Int
  deriving Repr

/-- A request to probe the next hop. -/
structure Probe where
  timeMs : Nat
  score : Int
  deriving DecidableEq, Repr

/-- What the rules remember. -/
structure Boundary where
  /-- When the score fell below the transition last. -/
  lastFallMs : Option Nat
  lastProbe : Option Probe
  deriving DecidableEq, Repr

namespace Boundary

/-- Nothing to remember. -/
def blank : Boundary := ⟨none, none⟩

variable {α : Type} [Scalar α]

/-- Whether a link carries traffic in both directions. -/
def isBusy (rules : Trend α) (signs : Signs α) : Bool :=
  decide (rules.busyRate ≤ signs.txRate) && decide (rules.busyRate ≤ signs.rxRate)

/-- Whether the signal is as strong as that of links that are entered. -/
def isEnterable (signs : Signs α) : Bool :=
  decide (Scalar.ofInt signs.entryDbm ≤ signs.filteredRssi) ||
    signs.rssi?.any fun rssi => decide (signs.entryDbm ≤ rssi)

/-- Whether the score fell so recently that it stays below the transition. -/
def isHeld (rules : Trend α) (boundary : Boundary) (nowMs : Nat) : Bool :=
  boundary.lastFallMs.any fun fallMs => decide (nowMs - fallMs < rules.holdBelow.clockMillis)

/-- Whether there is a reason not to give up a link for one low score. -/
def isSpared (rules : Trend α) (signs : Signs α) : Bool := isBusy rules signs || isEnterable signs

/-- The score that is settled on. A score that falls to the transition or below it stays above if
the link is spared, and one that rises to the transition keeps its old value while it is held. -/
def settle (rules : Trend α) (boundary : Boundary) (signs : Signs α) (nowMs : Nat)
    (transition score : Int) : Int :=
  if transition < signs.previous ∧ score ≤ transition ∧ isSpared rules signs then
    transition + 1
  else if signs.previous < transition ∧ transition ≤ score ∧ boundary.isHeld rules nowMs then
    signs.previous
  else score

/-- Remembers a fall below the transition. -/
def recordFall (boundary : Boundary) (previous settled transition : Int) (nowMs : Nat) : Boundary :=
  if transition ≤ previous ∧ settled < transition then { boundary with lastFallMs := some nowMs }
  else boundary

/-- The score that another one has to fall below to ask for a probe. It is the transition, except
after a probe at a score below the nominal transition: then it starts below the score of the probe,
the less so the more eagerly is probed, and rises to the transition in time. -/
def bar [Exponential α] (rules : Trend α) (lastProbe : Option Probe) (nowMs : Nat)
    (transition : Int) : α :=
  match lastProbe with
  | none => Scalar.ofInt transition
  | some probe =>
    -- From five time constants on so little of the drop is left that it is ignored.
    let age : α := Scalar.ofNat (nowMs - probe.timeMs) /
      Scalar.ofNat rules.probeTimeConstant.millis
    let drop : α := 11 - Scalar.ofNat rules.probeKnob
    if probe.score < rules.transitionScore ∧ age < 5 then
      let weight := Exponential.exp (-age)
      weight * (Scalar.ofInt probe.score - drop) + (1 - weight) * Scalar.ofInt transition
    else Scalar.ofInt transition

/-- Whether a score asks for a probe. -/
def wantsProbe [Exponential α] (rules : Trend α) (boundary : Boundary) (nowMs : Nat)
    (transition score : Int) : Bool :=
  -- The knob at zero turns probes off.
  rules.probeKnob != 0 &&
    !decide (bar rules boundary.lastProbe nowMs transition ≤ Scalar.ofInt score)

/-- Remembers a probe, if the score asks for one. -/
def probe [Exponential α] (rules : Trend α) (boundary : Boundary) (nowMs : Nat)
    (transition score : Int) : Boundary :=
  if boundary.wantsProbe rules nowMs transition score then
    { boundary with lastProbe := some ⟨nowMs, score⟩ }
  else boundary

end Boundary

end LinkQuality.Trend
