import LinkQuality.Forest.Wire
import LinkQuality.Json.Printer
import LinkQuality.Replay.Arguments
import LinkQuality.Replay.Files
import LinkQuality.Scorer
import LinkQuality.Settings.Document
import LinkQuality.Telemetry.Wire
import LinkQuality.Text.Blank

/-!
# Replaying traces

A trace is scored sample by sample, and for every sample a line of JSON is written that says what
it was and what the verdict is. Nothing is written unless everything can be read: settings first,
then the bundle, then the trace.

A trace file has a sample on each line. Blank lines are skipped, but they count.

## Main definitions

* `Replay.readTrace`: the samples of a trace file
* `Replay.run`, `Replay.output`: the lines of a replay, and the text that is written for them
* `Replay.Fault`: why there are none
-/

namespace LinkQuality

/-- The JSON form of a verdict, members in alphabetical order. -/
def Verdict.toJson (verdict : Verdict) : Json :=
  .record
    [("adjusted_score", .int verdict.adjustedScore),
     ("is_link_usable", .bool verdict.isUsable),
     ("score", .int verdict.score),
     ("should_block_access_point", .bool verdict.wantsBlock),
     ("should_check_reachability", .bool verdict.wantsProbe),
     ("should_trigger_scan", .bool verdict.wantsScan)]

namespace Replay

/-- Why nothing is replayed. -/
inductive Fault where
  | arguments
  | settingsUnreadable (path : String)
  | settingsRefused (path : String)
  /-- The settings ask for a horizon beyond all durations. -/
  | horizonOverflow
  | bundleUnreadable (path : String)
  | bundleRefused (path : String)
  | traceUnreadable (path : String)
  | traceIsFolder
  | sampleRefused (path : String) (line : Nat)
  deriving DecidableEq, Repr

/-- The text of a fault, where it has one of its own. -/
def Fault.message? : Fault → Option String
  | .arguments | .horizonOverflow => none
  | .settingsUnreadable path => some s!"reading scorer config {path}"
  | .settingsRefused path => some s!"resolving scorer config {path}"
  | .bundleUnreadable path => some s!"reading model bundle {path}"
  | .bundleRefused path => some s!"parsing model bundle {path}"
  | .traceUnreadable path => some s!"opening trace {path}"
  | .traceIsFolder => some "Is a directory (os error 21)"
  | .sampleRefused path line => some s!"{path}:{line}: invalid sample"

/-- What is written for one sample. -/
structure Line where
  sample : Sample
  verdict : Verdict
  deriving DecidableEq, Repr

/-- The JSON form of a line, members in alphabetical order. -/
def Line.toJson (line : Line) : Json :=
  .record
    [("link", .text line.sample.accessPoint.text),
     ("result", line.verdict.toJson),
     ("rssi_dbm", .int line.sample.rssiDbm),
     ("timestamp_ms", .nat line.sample.timestampMs)]

/-- The text of a line. -/
def Line.text (line : Line) : String := line.toJson.print

/-- What is written for lines: the text of each, with a line feed after it. -/
def output (lines : List Line) : String :=
  String.ofList (lines.flatMap fun line => line.text.toList ++ ['\n'])

/-- The sample on a line. -/
def sample? (line : List Char) : Option Sample := (Json.readChars? line).bind Sample.ofJson?

/-- The samples on lines, the first of which has a given number. The first line that is neither
blank nor a sample is reported by its number. -/
def readLines (number : Nat) : List (List Char) → Except Nat (List Sample)
  | [] => .ok []
  | line :: lines =>
    if Text.allBlank line then readLines (number + 1) lines
    else match sample? line with
      | none => .error number
      | some sample => (readLines (number + 1) lines).map (sample :: ·)

/-- The samples of a trace file. -/
def readTrace (text : List Char) : Except Nat (List Sample) := readLines 1 (Text.lines text)

/-- The settings of a file; without one they are the defaults. -/
def settings (files : Files) : (path : Option String) → Except Fault (Settings Float)
  | none => .ok .defaults
  | some path =>
    match files.text? path with
    | none => .error (.settingsUnreadable path)
    | some text =>
      match Settings.ofText text with
      | .ok settings => .ok settings
      | .error .horizonOverflow => .error .horizonOverflow
      | .error _ => .error (.settingsRefused path)

/-- The bundle of a file, if one is given. -/
def bundle (files : Files) : (path : Option String) → Except Fault (Option (Bundle Float))
  | none => .ok none
  | some path =>
    match files.text? path with
    | none => .error (.bundleUnreadable path)
    | some text =>
      match Bundle.read? text with
      | some bundle => .ok (some bundle)
      | none => .error (.bundleRefused path)

/-- The samples to replay: those of a file or, without one, those of a made-up trace. -/
def samples (files : Files) (arguments : Arguments) : Except Fault (List Sample) :=
  match arguments.tracePath with
  | none => .ok (arguments.script.samples Float arguments.seed)
  | some path =>
    match files path with
    | .nothing => .error (.traceUnreadable path)
    | .folder => .error .traceIsFolder
    | .text text =>
      match readTrace text.toList with
      | .ok samples => .ok samples
      | .error line => .error (.sampleRefused path line)

/-- The lines for the samples of a trace. -/
def lines (scorer : Scorer Float) (isPrimary : Bool) (samples : List Sample) : List Line :=
  List.zipWith Line.mk samples (scorer.replay isPrimary samples)

/-- Does what it is asked to do. -/
def perform (files : Files) (arguments : Arguments) : Except Fault (List Line) := do
  let settings ← settings files arguments.settingsPath
  let bundle? ← bundle files arguments.bundlePath
  let samples ← samples files arguments
  pure (lines (.ofSettings settings bundle?) (!arguments.isSecondary) samples)

/-- Does what a list of arguments asks for. -/
def run (files : Files) (arguments : List String) : Except Fault (List Line) :=
  match Arguments.ofList? arguments with
  | none => .error .arguments
  | some arguments => perform files arguments

end Replay

end LinkQuality
