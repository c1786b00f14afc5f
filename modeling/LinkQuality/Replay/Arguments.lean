import LinkQuality.Simulation.Walk

/-!
# Arguments of the replay command

The command takes options in any order, each at most once: files with settings, a model bundle and
a trace, the name of a made-up trace and its seed, and a switch that makes the link a secondary one.
A value follows its option or is attached to it by an equals sign. A value that follows must not
look like an option; one that is attached may.

Every value is checked, whether it is used in the end or not.

## Main definitions

* `Replay.Script`: the made-up traces
* `Replay.Arguments`: what the command is asked to do
* `Arguments.ofList?`: reading it
-/

namespace LinkQuality.Replay

/-- A made-up trace. -/
inductive Script where
  | stable
  | walkAway
  | idleWeak
  | busyWeak
  | roam
  | random
  deriving DecidableEq, Repr

namespace Script

/-- All made-up traces. -/
def all : List Script := [stable, walkAway, idleWeak, busyWeak, roam, random]

/-- The name of a made-up trace. -/
def name : Script → String
  | stable => "stable"
  | walkAway => "walk-away"
  | idleWeak => "idle-weak"
  | busyWeak => "busy-weak"
  | roam => "roam"
  | random => "random"

/-- The made-up trace with a name. -/
def ofName? (name : String) : Option Script := all.find? fun script => script.name == name

open Simulation in
/-- The samples of a made-up trace. Only the random one depends on the seed. -/
def samples (α : Type) [Scalar α] (seed : Nat) : Script → List Sample
  | stable => (Stable.defaults : Stable α).samples
  | walkAway => WalkAway.defaults.samples α
  | idleWeak => Weak.defaults.samples (Conditions.idle : Int → Conditions α)
  | busyWeak => Weak.defaults.samples (Conditions.busy : Int → Conditions α)
  | roam => Roam.defaults.samples α
  | random => ({ RandomTrace.defaults with seed } : RandomTrace α).samples?.getD []

end Script

/-- What the command is asked to do. -/
structure Arguments where
  settingsPath : Option String
  bundlePath : Option String
  tracePath : Option String
  script : Script
  seed : Nat
  isSecondary : Bool
  deriving DecidableEq, Repr

/-- An option that takes a value. -/
inductive Key where
  | settings
  | bundle
  | trace
  | script
  | seed
  deriving DecidableEq, Repr

namespace Key

/-- All options that take a value. -/
def all : List Key := [settings, bundle, trace, script, seed]

/-- The name of an option. -/
def name : Key → String
  | settings => "config"
  | bundle => "model"
  | trace => "trace"
  | script => "scenario"
  | seed => "seed"

/-- The option with a name. -/
def ofName? (name : String) : Option Key := all.find? fun key => key.name == name

end Key

/-- What a single argument is. -/
inductive Argument where
  /-- The end of the options. -/
  | ending
  /-- The switch for secondary links. -/
  | secondary
  /-- An option whose value follows. -/
  | named (key : Key)
  /-- An option with its value attached. -/
  | assignment (key : Key) (value : String)
  /-- Anything else. -/
  | other
  deriving DecidableEq, Repr

/-- What a name of an option stands for, with the value that is attached to it. -/
def Argument.ofOption (name : String) (value : Option String) : Argument :=
  match Key.ofName? name, value with
  | some key, none => .named key
  | some key, some value => .assignment key value
  | none, none => if name = "secondary" then .secondary else .other
  | none, some _ => .other

/-- What an argument stands for. -/
def Argument.ofChars : List Char → Argument
  | ['-', '-'] => .ending
  | '-' :: '-' :: text =>
    let name := String.ofList (text.takeWhile (· != '='))
    match text.dropWhile (· != '=') with
    | [] => .ofOption name none
    | _ :: value => .ofOption name (some (String.ofList value))
  | _ => .other

/-- Whether an argument looks like an option where a value is expected. A single dash is a value. -/
def looksLikeOption : List Char → Bool
  | '-' :: _ :: _ => true
  | _ => false

/-- The options that are given. -/
structure Given where
  values : List (Key × String) := []
  isSecondary : Bool := false
  deriving DecidableEq, Repr

namespace Given

/-- The value of an option. -/
def value? (given : Given) (key : Key) : Option String := given.values.lookup key

/-- Adds the value of an option, unless it is there already. -/
def put? (given : Given) (key : Key) (value : String) : Option Given :=
  if (given.value? key).isSome then none
  else some { given with values := (key, value) :: given.values }

/-- Collects options. -/
def collect? (given : Given) : List String → Option Given
  | [] => some given
  | argument :: rest =>
    match Argument.ofChars argument.toList with
    | .ending => if rest.isEmpty then some given else none
    | .secondary =>
      if given.isSecondary then none else collect? { given with isSecondary := true } rest
    | .assignment key value => (given.put? key value).bind fun given => given.collect? rest
    | .named key =>
      match rest with
      | [] => none
      | value :: rest =>
        if looksLikeOption value.toList then none
        else (given.put? key value).bind fun given => given.collect? rest
    | .other => none

end Given

/-- Appends one digit to a value read so far, as long as it fits 64 bits. -/
def extendSeed? (value : Nat) (c : Char) : Option Nat :=
  if c.isDigit then
    let extended := value * 10 + (c.toNat - '0'.toNat)
    if extended < 0x10000000000000000 then some extended else none
  else none

/-- Reads a seed: decimal digits, with a plus sign in front of them or without. -/
def seed? (text : String) : Option Nat :=
  let digits := match text.toList with
    | '+' :: digits => digits
    | digits => digits
  if digits.isEmpty then none else digits.foldlM extendSeed? 0

/-- Reads the path of a file. It must not be empty. -/
def path? (text : String) : Option String := if text.isEmpty then none else some text

/-- Reads the value of an option that may be absent. -/
def Given.read? {β : Type} (given : Given) (key : Key) (read : String → Option β) :
    Option (Option β) :=
  match given.value? key with
  | none => some none
  | some text => (read text).map some

namespace Arguments

/-- What options ask for. -/
def ofGiven? (given : Given) : Option Arguments := do
  let settingsPath ← given.read? .settings path?
  let bundlePath ← given.read? .bundle path?
  let tracePath ← given.read? .trace path?
  let script ← given.read? .script Script.ofName?
  let seed ← given.read? .seed seed?
  some
    { settingsPath, bundlePath, tracePath
      script := script.getD .walkAway
      seed := seed.getD 42
      isSecondary := given.isSecondary }

/-- What a list of arguments asks for. -/
def ofList? (arguments : List String) : Option Arguments :=
  (Given.collect? {} arguments).bind ofGiven?

end Arguments

end LinkQuality.Replay
