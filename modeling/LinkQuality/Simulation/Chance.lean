import LinkQuality.Scalar

/-!
# Chance

Numbers that look random and follow from a seed. The state is a counter that is advanced by an odd
number, and what is drawn is the counter with its bits well mixed.
-/

namespace LinkQuality.Simulation

/-- The state of a source of numbers. -/
structure Chance where
  state : UInt64
  deriving DecidableEq, Repr

/-- Something drawn by chance. -/
abbrev Draw := StateM Chance

namespace Chance

/-- The source with a seed. -/
def ofSeed (seed : Nat) : Chance := ⟨UInt64.ofNat seed⟩

/-- Mixes the bits of a word. -/
def mix (word : UInt64) : UInt64 :=
  let word := (word ^^^ (word >>> 30)) * 0xBF58476D1CE4E5B9
  let word := (word ^^^ (word >>> 27)) * 0x94D049BB133111EB
  word ^^^ (word >>> 31)

/-- Draws a word. -/
def word : Draw UInt64 := fun chance =>
  let state := chance.state + 0x9E3779B97F4A7C15
  (mix state, ⟨state⟩)

/-- Draws a number from zero to one, without one itself. -/
def uniform {α : Type} [Scalar α] : Draw α := do
  let word ← word
  -- As many bits as a significand has, so that every draw is a floating-point number.
  pure (Scalar.ofNat (word >>> 11).toNat / Scalar.ofNat 0x20000000000000)

/-- Tosses a coin. -/
def coin : Draw Bool := do
  let word ← word
  pure (word >>> 63 == 1)

/-- Draws a number of either sign below a limit; zero if the limit is not positive. -/
def signed {α : Type} [Scalar α] (limit : α) : Draw α := do
  if limit ≤ 0 then pure 0
  else
    let share ← uniform
    let isPositive ← coin
    pure (if isPositive then share * limit else -(share * limit))

end Chance

end LinkQuality.Simulation
