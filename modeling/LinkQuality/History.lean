import LinkQuality.Interval

/-!
# Histories

The last few intervals of one link, oldest first. A history is only extended with a sample that
continues it: one of the same link, no earlier than the last and not too long after it. Any other
sample begins a new history.
-/

namespace LinkQuality

/-- How a sample relates to the history before it. -/
inductive Continuity where
  /-- It continues the history. -/
  | continuous
  /-- It was taken on another link. -/
  | handover
  /-- It comes too late after the last sample, or time went backwards. -/
  | stale
  deriving DecidableEq, Repr

/-- The last intervals of a link. -/
structure History (α : Type) where
  /-- The longest time between two samples that follow each other. -/
  maxGapMs : Nat
  /-- The intervals, oldest first. -/
  intervals : List (Interval α)

namespace History

variable {α : Type}

/-- The least number of intervals that are scored. -/
def leastCount : Nat := 1

/-- The greatest number of intervals that are kept. -/
def capacity : Nat := 5

/-- A history of no intervals. -/
def empty (maxGapMs : Nat) : History α := ⟨maxGapMs, []⟩

/-- The last interval. -/
def last? (history : History α) : Option (Interval α) := history.intervals.getLast?

/-- Whether there are enough intervals to be scored. -/
def isReady (history : History α) : Bool := decide (leastCount ≤ history.intervals.length)

/-- How a sample relates to the history. Every sample continues an empty one. -/
def continuity (history : History α) (sample : Sample) : Continuity :=
  match history.last? with
  | none => .continuous
  | some last =>
    if last.sample.accessPoint ≠ sample.accessPoint then .handover
    else match sample.gapSince? last.sample with
      | some gap => if gap ≤ history.maxGapMs then .continuous else .stale
      | none => .stale

/-- Appends an interval and forgets the oldest ones beyond the capacity. -/
def push (history : History α) (interval : Interval α) : History α :=
  let intervals := history.intervals ++ [interval]
  { history with intervals := intervals.drop (intervals.length - capacity) }

/-- The interval that was pushed is the last one. -/
@[simp] theorem last?_push (history : History α) (interval : Interval α) :
    (history.push interval).last? = some interval := by
  have kept : history.intervals.length + 1 - capacity ≤ history.intervals.length := by
    simp only [capacity]
    omega
  simp [last?, push, List.drop_append_of_le_length kept]

/-- One interval is enough. -/
@[simp] theorem isReady_push (history : History α) (interval : Interval α) :
    (history.push interval).isReady = true := by
  simp only [isReady, push, leastCount, capacity, List.length_drop, List.length_append,
    List.length_singleton, decide_eq_true_eq]
  omega

/-- Forgets all intervals. -/
def clear (history : History α) : History α := { history with intervals := [] }

end History

end LinkQuality
