import LinkQuality.Telemetry.Bssid

/-!
# Access points and radio bands

A link is the connection to one access point on one channel. A change of either is a handover, and
what was measured before it says nothing about the link after it.
-/

namespace LinkQuality

/-- A radio band. -/
inductive Band where
  | twoGhz
  | fiveGhz
  | sixGhz
  deriving DecidableEq, Repr

/-- The band of a channel with the given center frequency. -/
def Band.ofFrequency (frequencyMhz : Nat) : Option Band :=
  if 2400 ≤ frequencyMhz ∧ frequencyMhz ≤ 2500 then some .twoGhz
  else if 4900 ≤ frequencyMhz ∧ frequencyMhz ≤ 5900 then some .fiveGhz
  else if 5925 ≤ frequencyMhz ∧ frequencyMhz ≤ 7125 then some .sixGhz
  else none

/-- An access point and the channel it is heard on. -/
structure AccessPoint where
  bssid : Bssid
  frequencyMhz : Nat
  deriving DecidableEq, Repr

namespace AccessPoint

/-- The access point that stands for none. -/
def unknown : AccessPoint := ⟨.zero, 0⟩

instance : Inhabited AccessPoint := ⟨unknown⟩

/-- The band of the channel. -/
def band (point : AccessPoint) : Option Band := Band.ofFrequency point.frequencyMhz

/-- The written form: the address, an at sign and the frequency. -/
def text (point : AccessPoint) : String := s!"{point.bssid.text}@{point.frequencyMhz}MHz"

end AccessPoint

end LinkQuality
