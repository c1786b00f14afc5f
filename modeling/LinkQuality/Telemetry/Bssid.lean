import LinkQuality.Text.Blank
import LinkQuality.Text.Octet

/-!
# Hardware addresses of access points

An access point is named by six octets, written in hexadecimal and separated by colons. Reading
ignores blank characters around the address and accepts every spelling of an octet; the address is
written with two lower-case digits for each.

Parts are read in order, so a text with several faults is refused for the first of them.
-/

namespace LinkQuality

/-- The address of an access point. -/
structure Bssid where
  octets : Vector (Fin 256) 6
  deriving DecidableEq, Repr

namespace Bssid

/-- The address that stands for none. -/
def zero : Bssid := ⟨Vector.replicate 6 0⟩

instance : Inhabited Bssid := ⟨zero⟩

/-- The locally administered address with a given last octet. -/
def ofLastOctet (last : Nat) : Bssid := ⟨#v[2, 0, 0, 0, 0, Fin.ofNat 256 last]⟩

/-- Why a text is no address. -/
inductive Fault where
  | tooFewOctets
  | tooManyOctets
  | invalidOctet (part : String) (cause : Text.Octet.Fault)
  deriving DecidableEq, Repr

/-- The text of a fault in the given input. -/
def Fault.message (input : String) : Fault → String
  | .tooFewOctets => s!"BSSID `{input}` has fewer than 6 octets"
  | .tooManyOctets => s!"BSSID `{input}` has more than 6 octets"
  | .invalidOctet part cause =>
    s!"BSSID `{input}` has invalid octet `{part}`: {cause.message}"

/-- Reads the first `count` parts as octets and returns them with the parts that are left. -/
def readOctets : (count : Nat) → List (List Char) →
    Except Fault (Vector (Fin 256) count × List (List Char))
  | 0, parts => .ok (#v[], parts)
  | _ + 1, [] => .error .tooFewOctets
  | count + 1, part :: parts =>
    match Text.Octet.read part with
    | .error cause => .error (.invalidOctet (String.ofList part) cause)
    | .ok octet =>
      match readOctets count parts with
      | .error fault => .error fault
      | .ok (octets, rest) => .ok ((#v[octet] ++ octets).cast (Nat.add_comm 1 count), rest)

/-- Reads an address from characters. -/
def ofChars (input : List Char) : Except Fault Bssid :=
  match readOctets 6 (Text.cutAt ':' (Text.trim input)) with
  | .error fault => .error fault
  | .ok (octets, []) => .ok ⟨octets⟩
  | .ok (_, _ :: _) => .error .tooManyOctets

/-- Reads an address. -/
def read (input : String) : Except Fault Bssid := ofChars input.toList

/-- The characters of the written form. -/
def toChars (bssid : Bssid) : List Char :=
  [':'].intercalate (bssid.octets.toList.map Text.Octet.text)

/-- The written form. -/
def text (bssid : Bssid) : String := String.ofList bssid.toChars

end Bssid

end LinkQuality
