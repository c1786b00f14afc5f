import LinkQuality.Settings.Basic
import LinkQuality.Verdict

/-!
# The standing of a link

A scored link has a standing: its last scores and what is recommended about it. A new raw score is
brought to the scale of adjusted scores, on which the transition score parts usable links from
unusable ones, and then moves the standing.

A breach is a crossing of the transition score. An upward one always counts, a downward one only
while the signal is weak. What is recommended changes only some time after the last breach, unless
the link was sliding down already or its signal is so weak that waiting makes no sense.

## Main definitions

* `Standing`: what is remembered of a link
* `Standing.Reading`: what a standing is moved by
* `Standing.adjustedScore`: the adjusted score of a raw one
* `Standing.adjust`: the standing after a reading
-/

namespace LinkQuality

/-- What is remembered of a scored link, and recommended about it. -/
structure Standing (α : Type) where
  /-- The last adjusted score. -/
  score : α
  /-- The last raw score. -/
  rawScore : α
  /-- When the transition score was crossed last. -/
  lastBreachMs : Option Nat
  /-- Whether the last downward breach began on a score that was healthy no more. -/
  isSliding : Bool
  isRecommended : Bool
  isBlocked : Bool
  /-- Whether the last raw score fell below the level at which a scan is asked for. -/
  fellToScan : Bool
  deriving BEq, Repr

namespace Standing

open Settings (Hysteresis)

/-- A raw score and what has to be known to judge it. -/
structure Reading (α : Type) where
  raw : α
  /-- Whether the score is of the link that the standing is of. -/
  isSameLink : Bool
  rssi? : Option Int
  /-- The raw score that becomes the transition score. -/
  threshold : α
  /-- What is added to the threshold while the link is below the transition score. -/
  margin : α
  nowMs : Nat

variable {α : Type} [Scalar α]

/-- The standing of a new link: the best scores, and recommended. -/
def fresh (rules : Hysteresis α) : Standing α where
  score := rules.maxScore
  rawScore := rules.maxScore
  lastBreachMs := none
  isSliding := false
  isRecommended := true
  isBlocked := false
  fellToScan := false

/-- The threshold that holds after a given score. It is raised while the link is below the
transition score, so that climbing back takes more than falling did. -/
def thresholdAfter (rules : Hysteresis α) (score threshold margin : α) : α :=
  -- The mark of an unclassified sample is below every transition score, and raises nothing.
  if !(score == unclassified) && decide (score < rules.transitionScore) then threshold + margin
  else threshold

/-- Brings a raw score to the scale on which the threshold becomes the transition score. -/
def scale (rules : Hysteresis α) (threshold raw : α) : α :=
  Scalar.lesser (rules.transitionScore / threshold * raw) rules.maxScore

/-- Moves a score whose whole part is that of the transition score by one, upwards if the score
before it was above the transition score and downwards if not. -/
def keepOff (transition previous score : α) : α :=
  if Scalar.whole .towardZero score == Scalar.whole .towardZero transition then
    if transition < previous then score + 1 else score - 1
  else score

/-- The adjusted score of a raw score, given the adjusted score before it. -/
def adjustedScore (rules : Hysteresis α) (previous raw threshold margin : α) : α :=
  keepOff rules.transitionScore previous
    (scale rules (thresholdAfter rules previous threshold margin) raw)

/-- Whether a raw score falls to where a scan is asked for. -/
def fallsToScan (rules : Hysteresis α) (previousRaw raw : α) : Bool :=
  Scalar.belowLimit rules.scanThreshold raw && decide (rules.scanThreshold ≤ previousRaw)

/-- Whether the transition score is crossed upwards. -/
def breachesUp (rules : Hysteresis α) (previous score : α) : Bool :=
  Scalar.belowLimit rules.transitionScore previous && decide (rules.transitionScore ≤ score)

/-- Whether the transition score is crossed downwards. -/
def breachesDown (rules : Hysteresis α) (previous score : α) : Bool :=
  Scalar.belowLimit rules.transitionScore score && decide (rules.transitionScore ≤ previous)

/-- Whether a signal is weak. -/
def isWeak (rules : Hysteresis α) (rssi : Int) : Bool := decide (rssi < rules.breachRssiDbm)

/-- The time since the last breach. -/
def sinceBreach? (standing : Standing α) (nowMs : Nat) : Option Nat :=
  standing.lastBreachMs.map fun breachMs => nowMs - breachMs

/-- Records a downward breach at a weak signal. -/
def recordFall (rules : Hysteresis α) (score : α) (rssi : Int) (nowMs : Nat)
    (standing : Standing α) : Standing α :=
  if isWeak rules rssi && breachesDown rules standing.score score then
    { standing with
      isSliding := decide (standing.score < rules.maxHealthScore)
      lastBreachMs := some nowMs }
  else standing

/-- Whether the link is recommended after a score. -/
def recommends (rules : Hysteresis α) (standing : Standing α) (score : α) (rssi : Int)
    (nowMs : Nat) : Bool :=
  match standing.sinceBreach? nowMs with
  | none => standing.isRecommended
  | some elapsedMs =>
    let hasWaited := decide (rules.debounce.clockMillis < elapsedMs)
    -- Only giving up can be urgent. To be taken back, a link has to wait in any case.
    let isUrgent := hasWaited || standing.isSliding || decide (rssi ≤ rules.urgentRssiDbm)
    if hasWaited && decide (rules.transitionScore < score) then true
    else if isUrgent && isWeak rules rssi && decide (score < rules.transitionScore) then false
    else standing.isRecommended

/-- Whether the access point is blocked after a score. -/
def blocks (rules : Hysteresis α) (standing : Standing α) (score : α) (rssi : Int)
    (nowMs : Nat) : Bool :=
  decide (score < rules.transitionScore) && isWeak rules rssi &&
    match standing.sinceBreach? nowMs with
    | none => false
    | some elapsedMs => decide (rules.blockWait.clockMillis < elapsedMs)

/-- What a score at a signal strength changes about the recommendations. Without a signal strength
nothing is blocked and nothing else changes. -/
def recommend (rules : Hysteresis α) (score : α) (rssi? : Option Int) (nowMs : Nat)
    (standing : Standing α) : Standing α :=
  match rssi? with
  | none => { standing with isBlocked := false }
  | some rssi =>
    -- The fall is recorded before anything is decided, so the waiting times count from it.
    let standing := standing.recordFall rules score rssi nowMs
    { standing with
      isRecommended := standing.recommends rules score rssi nowMs
      isBlocked := standing.blocks rules score rssi nowMs }

/-- The standing after a reading. A reading of another link begins a new standing, with the best
raw score. -/
def adjust (rules : Hysteresis α) (standing : Standing α) (reading : Reading α) : Standing α :=
  let standing := if reading.isSameLink then standing else fresh rules
  let raw := if reading.isSameLink then reading.raw else rules.maxScore
  let score := adjustedScore rules standing.score raw reading.threshold reading.margin
  -- A rise is recorded at any signal, and without one as well.
  let lastBreachMs :=
    if breachesUp rules standing.score score then some reading.nowMs else standing.lastBreachMs
  let moved := { standing with lastBreachMs }.recommend rules score reading.rssi? reading.nowMs
  { moved with
    score
    rawScore := raw
    fellToScan := fallsToScan rules standing.rawScore raw }

end Standing

end LinkQuality
