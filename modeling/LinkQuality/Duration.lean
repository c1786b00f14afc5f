import LinkQuality.Scalar

/-!
# Durations

A length of time as a whole number of nanoseconds.
-/

namespace LinkQuality

/-- A length of time. -/
structure Duration where
  nanoseconds : Nat
  deriving DecidableEq, Repr, Inhabited

namespace Duration

/-- A number of seconds. -/
def ofSeconds (n : Nat) : Duration := ⟨n * 1000000000⟩

/-- A number of milliseconds. -/
def ofMillis (n : Nat) : Duration := ⟨n * 1000000⟩

/-- A number of microseconds. -/
def ofMicros (n : Nat) : Duration := ⟨n * 1000⟩

instance : Add Duration := ⟨fun a b => ⟨a.nanoseconds + b.nanoseconds⟩⟩

/-- The whole milliseconds of a duration. -/
def millis (d : Duration) : Nat := d.nanoseconds / 1000000

/-- The whole milliseconds of a duration as a clock of 64 bits counts them. After the largest count
it starts over. -/
def clockMillis (d : Duration) : Nat := d.millis % 0x10000000000000000

/-- A number of milliseconds that such a clock can show. -/
def ofCount (n : UInt64) : Duration := ofMillis n.toNat

theorem millis_ofMillis (n : Nat) : (ofMillis n).millis = n :=
  Nat.mul_div_cancel n (by decide)

theorem clockMillis_of_lt {d : Duration} (fits : d.millis < 0x10000000000000000) :
    d.clockMillis = d.millis :=
  Nat.mod_eq_of_lt fits

theorem clockMillis_ofCount (n : UInt64) : (ofCount n).clockMillis = n.toNat := by
  rw [clockMillis_of_lt, ofCount, millis_ofMillis]
  rw [ofCount, millis_ofMillis]
  exact n.toNat_lt

/-- A duration in seconds: the whole seconds and the rest, each rounded to the nearest number. -/
def seconds {α : Type} [Scalar α] (d : Duration) : α :=
  Scalar.ofNat (d.nanoseconds / 1000000000) +
    Scalar.ofNat (d.nanoseconds % 1000000000) / 1000000000

end Duration

end LinkQuality
