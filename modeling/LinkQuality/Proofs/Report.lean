import LinkQuality.Proofs.Json.Records
import LinkQuality.Replay.Basic

/-!
# Reports

Each line of a replay is a JSON text that reports on one sample. Whoever reads the text finds the
link, the verdict, the signal strength and the time under their names, with the values that were
written. The text has no line end inside, so the lines of the output are these texts.

Numbers are read in full, however long they are.

## Main definitions

* `Numeral.integer?`, `Json.integer?`, `Json.bool?`: reading values
* `Verdict.ofJson?`: reading a verdict
* `Replay.Report`, `Replay.Report.read?`: what a line of output says, and reading it

## Main results

* `Verdict.ofJson?_toJson`: a verdict survives its JSON form
* `Replay.Line.read?_chars`: what is read from the text of a line
* `Replay.lines_output`: the output is made of these texts
-/

namespace LinkQuality

/-! ### Values -/

/-- The integer that is written. Numbers with a point or an exponent are none. -/
def Numeral.integer? (n : Numeral) : Option ℤ :=
  if n.isWhole then some (if n.negative then -n.whole else n.whole) else none

theorem Numeral.integer?_ofInt (n : ℤ) : (ofInt n).integer? = some n := by
  have isWhole : (ofInt n).isWhole = true := rfl
  rw [integer?, if_pos isWhole, ofInt]
  by_cases negative : n < 0
  · have magnitude : -(n.natAbs : ℤ) = n := by omega
    simp only [negative, decide_true, if_true, magnitude]
  · have magnitude : (n.natAbs : ℤ) = n := by omega
    simp only [negative, decide_false, Bool.false_eq_true, if_false, magnitude]

namespace Json

/-- Reads an integer, however long it is. -/
def integer? : Json → Option ℤ
  | .number value => value.integer?
  | _ => none

/-- Reads a truth value. -/
def bool? : Json → Option Bool
  | .bool value => some value
  | _ => none

theorem integer?_int (n : ℤ) : (int n).integer? = some n := Numeral.integer?_ofInt n

theorem integer?_nat (n : ℕ) : (nat n).integer? = some (n : ℤ) := Numeral.integer?_ofInt n

end Json

open Json

/-! ### Verdicts -/

namespace Verdict

/-- The names of the members, in order. -/
def names : List String :=
  ["adjusted_score", "is_link_usable", "score", "should_block_access_point",
    "should_check_reachability", "should_trigger_scan"]

/-- Reads a verdict. -/
def ofJson? (json : Json) : Option Verdict := do
  let fields ← json.fields? names
  let adjustedScore ← fields.required "adjusted_score" integer?
  let isUsable ← fields.required "is_link_usable" bool?
  let score ← fields.required "score" integer?
  let wantsBlock ← fields.required "should_block_access_point" bool?
  let wantsProbe ← fields.required "should_check_reachability" bool?
  let wantsScan ← fields.required "should_trigger_scan" bool?
  some { score, adjustedScore, isUsable, wantsScan, wantsProbe, wantsBlock }

/-- The members of the JSON form of a verdict. -/
def members (verdict : Verdict) : Fields :=
  [("adjusted_score", .int verdict.adjustedScore),
   ("is_link_usable", .bool verdict.isUsable),
   ("score", .int verdict.score),
   ("should_block_access_point", .bool verdict.wantsBlock),
   ("should_check_reachability", .bool verdict.wantsProbe),
   ("should_trigger_scan", .bool verdict.wantsScan)]

/-- A verdict survives its JSON form. -/
theorem ofJson?_toJson (verdict : Verdict) : ofJson? verdict.toJson = some verdict := by
  have fields : verdict.toJson.fields? names = some verdict.members :=
    fields?_record_of_names (by decide) rfl
  have score : verdict.members.required "score" integer? = some verdict.score := integer?_int _
  have adjustedScore : verdict.members.required "adjusted_score" integer? =
      some verdict.adjustedScore := integer?_int _
  rw [ofJson?, fields]
  simp only [Option.bind_eq_bind, Option.bind_some, adjustedScore, score]
  rfl

theorem isPrintable_toJson (verdict : Verdict) : verdict.toJson.IsPrintable := by
  refine isPrintable_record ?_
  simp only [List.forall_mem_cons]
  exact ⟨isPrintable_int _, trivial, isPrintable_int _, trivial, trivial, trivial,
    List.forall_mem_nil _⟩

end Verdict

/-! ### Lines -/

namespace Replay

/-- What a line of output says. -/
structure Report where
  link : String
  verdict : Verdict
  rssiDbm : ℤ
  timestampMs : ℤ
  deriving DecidableEq, Repr

/-- The report of a line. -/
def Line.report (line : Line) : Report where
  link := line.sample.accessPoint.text
  verdict := line.verdict
  rssiDbm := line.sample.rssiDbm
  timestampMs := line.sample.timestampMs

namespace Report

/-- The names of the members, in order. -/
def names : List String := ["link", "result", "rssi_dbm", "timestamp_ms"]

/-- Reads a report. -/
def ofJson? (json : Json) : Option Report := do
  let fields ← json.fields? names
  let link ← fields.required "link" text?
  let verdict ← fields.required "result" Verdict.ofJson?
  let rssiDbm ← fields.required "rssi_dbm" integer?
  let timestampMs ← fields.required "timestamp_ms" integer?
  some { link, verdict, rssiDbm, timestampMs }

/-- Reads the text of a report. -/
def read? (text : List Char) : Option Report := (readChars? text).bind ofJson?

end Report

namespace Line

/-- The members of the JSON form of a line. -/
def members (line : Line) : Fields :=
  [("link", .text line.sample.accessPoint.text),
   ("result", line.verdict.toJson),
   ("rssi_dbm", .int line.sample.rssiDbm),
   ("timestamp_ms", .nat line.sample.timestampMs)]

/-- The report of a line survives its JSON form. -/
theorem ofJson?_toJson (line : Line) : Report.ofJson? line.toJson = some line.report := by
  have fields : line.toJson.fields? Report.names = some line.members :=
    fields?_record_of_names (by decide) rfl
  have link : line.members.required "link" text? = some line.sample.accessPoint.text := rfl
  have verdict : line.members.required "result" Verdict.ofJson? = some line.verdict :=
    line.verdict.ofJson?_toJson
  have rssi : line.members.required "rssi_dbm" integer? = some line.sample.rssiDbm :=
    integer?_int _
  have timestamp : line.members.required "timestamp_ms" integer? =
      some (line.sample.timestampMs : ℤ) := integer?_nat _
  rw [Report.ofJson?, fields]
  simp only [Option.bind_eq_bind, Option.bind_some, link, verdict, rssi, timestamp]
  rfl

theorem isPrintable_toJson (line : Line) : line.toJson.IsPrintable := by
  refine isPrintable_record ?_
  simp only [List.forall_mem_cons]
  exact ⟨rfl, line.verdict.isPrintable_toJson, isPrintable_int _, isPrintable_nat _,
    List.forall_mem_nil _⟩

/-- What is read from the text of a line is its report. -/
theorem read?_chars (line : Line) : Report.read? line.toJson.chars = some line.report := by
  rw [Report.read?, readChars?_chars line.isPrintable_toJson, Option.bind_some, ofJson?_toJson]

/-- The text of a line holds no line end. -/
theorem not_mem_chars_toJson (line : Line) :
    '\n' ∉ line.toJson.chars ∧ '\r' ∉ line.toJson.chars := by
  have noControls := hasNoControls_chars line.toJson
  exact ⟨fun isIn => absurd (noControls _ isIn) (by decide),
    fun isIn => absurd (noControls _ isIn) (by decide)⟩

end Line

/-! ### Outputs -/

/-- What is printed is the text of each line, on a line of its own. -/
theorem lines_output (printed : List Line) :
    Text.lines (output printed).toList = printed.map fun line => line.toJson.chars := by
  have written : (output printed).toList =
      (printed.map fun line => line.toJson.chars).flatMap fun line => line ++ ['\n'] := by
    simp [output, Line.text, Json.print, List.flatMap_map]
  rw [written]
  refine Text.lines_flatMap fun part isPart => ?_
  obtain ⟨line, -, rfl⟩ := List.mem_map.mp isPart
  exact line.not_mem_chars_toJson

/-- What is printed for the first lines is where the output for all begins. -/
theorem output_prefix {earlier printed : List Line} (begins : earlier <+: printed) :
    (output earlier).toList <+: (output printed).toList := by
  obtain ⟨later, rfl⟩ := begins
  simp [output]

end Replay

end LinkQuality
