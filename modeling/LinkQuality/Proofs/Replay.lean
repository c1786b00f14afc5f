import LinkQuality.Proofs.Report

/-!
# Replays are faithful

A replay of a trace file is a run of the scorer on the samples in the file, each at its own time.
The reader passes over blank lines and changes nothing else, so they matter only for the number by
which a faulty line is reported; and since a scorer never looks ahead, a trace that ends earlier
gives a part of the same output.

## Main definitions

* `Sample.call`: the call that scores a sample at its own time
* `Replay.writtenLines`, `Replay.isFaulty`: the lines that are not blank, and those of them that
  are no sample
* `Replay.Replays`: a command that replays a trace file, and what it finds there

## Main results

* `Replay.readLines_eq_ok_iff`, `Replay.readLines_eq_error_iff`: what reading a trace gives
* `Scorer.verdicts_map_call`: a replay is a run
* `Replay.Replays.isFaithful`: what is printed for a trace
-/

namespace LinkQuality

/-! ### Runs -/

/-- The call that scores a sample at its own time. -/
def Sample.call (isPrimary : Bool) (sample : Sample) : Call :=
  .score sample sample.timestampMs isPrimary

namespace Scorer

variable {α : Type} [Scalar α] [Undefined α] [SquareRoot α] [Exponential α] (scorer : Scorer α)

/-- A call is answered with the verdict on its sample. -/
theorem step_call (memory : scorer.Memory) (isPrimary : Bool) (sample : Sample) :
    scorer.step memory (sample.call isPrimary) =
      ((scorer.verdict memory sample sample.timestampMs isPrimary).1,
        some (scorer.verdict memory sample sample.timestampMs isPrimary).2) := by
  cases scorer <;> rfl

/-- A replay is a run of calls, each at the time of its sample. -/
theorem verdicts_map_call (isPrimary : Bool) (samples : List Sample) :
    scorer.verdicts (samples.map (Sample.call isPrimary)) =
      (scorer.replay isPrimary samples).map some := by
  have answered (memory : scorer.Memory) :
      answers scorer.step memory (samples.map (Sample.call isPrimary)) =
        (answers (fun memory sample => scorer.verdict memory sample sample.timestampMs isPrimary)
          memory samples).map some := by
    induction samples generalizing memory with
    | nil => rfl
    | cons sample samples ih =>
      rw [List.map_cons, answers, answers, step_call, List.map_cons, ih]
  exact answered scorer.start

end Scorer

namespace Replay

/-! ### Reading traces -/

/-- The lines of a text that are not blank. -/
def writtenLines (text : List Char) : List (List Char) :=
  (Text.lines text).filter fun line => !Text.allBlank line

/-- Whether a line is neither blank nor a sample. -/
def isFaulty (line : List Char) : Bool := !Text.allBlank line && (sample? line).isNone

/-- Lines are read as samples if all that are not blank are these samples. -/
theorem readLines_eq_ok_iff {number : ℕ} {lines : List (List Char)} {samples : List Sample} :
    readLines number lines = .ok samples ↔
      (lines.filter fun line => !Text.allBlank line).map sample? = samples.map some := by
  induction lines generalizing number samples with
  | nil => cases samples <;> simp [readLines]
  | cons line lines ih =>
    by_cases blank : Text.allBlank line = true
    · -- A blank line is passed over on both sides, but it is counted.
      rw [readLines, if_pos blank, ih, List.filter_cons_of_neg (by simp [blank])]
    · rw [readLines, if_neg blank, List.filter_cons_of_pos (by simp [blank]), List.map_cons]
      cases sampleEq : sample? line with
      | none => cases samples <;> simp
      | some sample =>
        cases samples with
        | nil => cases readLines (number + 1) lines <;> simp [Except.map]
        | cons first samples =>
          simp only [List.map_cons, List.cons.injEq, Option.some.injEq]
          rw [← @ih (number + 1) samples]
          cases readLines (number + 1) lines <;> simp [Except.map]

/-- A line is reported if it is the first that is neither blank nor a sample. -/
theorem readLines_eq_error_iff {number reported : ℕ} {lines : List (List Char)} :
    readLines number lines = .error reported ↔
      ∃ index, lines.findIdx? isFaulty = some index ∧ reported = number + index := by
  induction lines generalizing number with
  | nil => simp [readLines]
  | cons line lines ih =>
    -- A line that is passed over moves what is reported by one.
    have passed (fine : isFaulty line = false) :
        readLines (number + 1) lines = .error reported ↔
          ∃ index, (line :: lines).findIdx? isFaulty = some index ∧ reported = number + index := by
      rw [ih, List.findIdx?_cons, fine, if_neg Bool.false_ne_true]
      constructor
      · rintro ⟨index, first, rfl⟩
        exact ⟨index + 1, by rw [first]; rfl, by omega⟩
      · rintro ⟨_, first, rfl⟩
        obtain ⟨index, found, rfl⟩ := Option.map_eq_some_iff.mp first
        exact ⟨index, found, by omega⟩
    by_cases blank : Text.allBlank line = true
    · rw [readLines, if_pos blank]
      exact passed (by simp [isFaulty, blank])
    · cases sampleEq : sample? line with
      | none =>
        have faulty : isFaulty line = true := by simp [isFaulty, blank, sampleEq]
        rw [readLines, if_neg blank, sampleEq, List.findIdx?_cons, faulty, if_pos rfl]
        simp [eq_comm]
      | some sample =>
        rw [← passed (by simp [isFaulty, sampleEq]), readLines, if_neg blank, sampleEq]
        cases readLines (number + 1) lines <;> simp [Except.map]

/-- Lines that all are samples are those of a list of samples. -/
theorem exists_samples {lines : List (List Char)} (valid : ∀ line ∈ lines, (sample? line).isSome) :
    ∃ samples : List Sample, lines.map sample? = samples.map some := by
  induction lines with
  | nil => exact ⟨[], rfl⟩
  | cons line lines ih =>
    obtain ⟨first, others⟩ := List.forall_mem_cons.mp valid
    obtain ⟨sample, isSample⟩ := Option.isSome_iff_exists.mp first
    obtain ⟨samples, read⟩ := ih others
    exact ⟨sample :: samples, by rw [List.map_cons, List.map_cons, isSample, read]⟩

/-! ### Lines -/

/-- Whether lines are what a run of a scorer gives for a trace with certain lines: one for each,
with its sample, and with the answer to the call that scores the sample at its own time. -/
structure IsRun (scorer : Scorer Float) (isPrimary : Bool) (written : List (List Char))
    (printed : List Line) : Prop where
  samples : written.map sample? = printed.map fun line => some line.sample
  verdicts : printed.map (fun line => some line.verdict) =
    scorer.verdicts (printed.map fun line => line.sample.call isPrimary)

section Lines

variable (scorer : Scorer Float) (isPrimary : Bool)

/-- There is a verdict on each sample. -/
theorem length_replay (samples : List Sample) :
    (scorer.replay isPrimary samples).length = samples.length :=
  length_answers _ _ _

theorem map_sample_lines (samples : List Sample) :
    (lines scorer isPrimary samples).map Line.sample = samples := by
  have firsts := List.map_fst_zip (length_replay scorer isPrimary samples).ge
  rw [List.map_zip_eq_zipWith] at firsts
  rw [lines, List.map_zipWith]
  exact firsts

theorem map_verdict_lines (samples : List Sample) :
    (lines scorer isPrimary samples).map Line.verdict = scorer.replay isPrimary samples := by
  have seconds := List.map_snd_zip (length_replay scorer isPrimary samples).le
  rw [List.map_zip_eq_zipWith] at seconds
  rw [lines, List.map_zipWith]
  exact seconds

/-- The first samples of a trace give the first lines: a verdict does not depend on later samples.
-/
theorem lines_prefix {earlier samples : List Sample} (begins : earlier <+: samples) :
    lines scorer isPrimary earlier <+: lines scorer isPrimary samples := by
  obtain ⟨later, rfl⟩ := begins
  rw [lines, lines, Scorer.replay, Scorer.replay, answers_append,
    List.zipWith_append (length_answers _ _ _).symm]
  exact List.prefix_append _ _

variable {scorer isPrimary}

/-- The lines for samples are those of a run. -/
theorem isRun_lines {written : List (List Char)} {samples : List Sample}
    (read : written.map sample? = samples.map some) :
    IsRun scorer isPrimary written (lines scorer isPrimary samples) := by
  have samplesOf := map_sample_lines scorer isPrimary samples
  have verdictsOf := map_verdict_lines scorer isPrimary samples
  constructor
  · rw [read, ← samplesOf, List.map_map, samplesOf]
    rfl
  · have calls : (lines scorer isPrimary samples).map (fun line => line.sample.call isPrimary) =
        samples.map (Sample.call isPrimary) := by
      rw [← samplesOf, List.map_map, samplesOf]
      rfl
    rw [calls, scorer.verdicts_map_call, ← verdictsOf, List.map_map]
    rfl

end Lines

/-! ### Replays of trace files -/

/-- A command that replays a trace file: what its arguments mean, and what is found in the files
that they name. -/
structure Replays (files : Files) (command : List String) (arguments : Arguments)
    (settings : Settings Float) (bundle? : Option (Bundle Float)) (path text : String) : Prop where
  understood : Arguments.ofList? command = some arguments
  hasSettings : Replay.settings files arguments.settingsPath = .ok settings
  hasBundle : Replay.bundle files arguments.bundlePath = .ok bundle?
  namesTrace : arguments.tracePath = some path
  hasTrace : files path = .text text

namespace Replays

variable {files : Files} {command : List String} {arguments : Arguments}
  {settings : Settings Float} {bundle? : Option (Bundle Float)} {path text : String}

/-- What a replay gives depends on how its trace is read. -/
theorem run_eq (replays : Replays files command arguments settings bundle? path text) :
    run files command = ((readTrace text.toList).mapError (.sampleRefused path)).map
      (lines (.ofSettings settings bundle?) (!arguments.isSecondary)) := by
  have finds : samples files arguments =
      (readTrace text.toList).mapError (.sampleRefused path) := by
    rw [samples, replays.namesTrace]
    simp only [replays.hasTrace]
    cases readTrace text.toList <;> rfl
  rw [run, replays.understood]
  simp only [perform, replays.hasSettings, replays.hasBundle, finds]
  cases readTrace text.toList <;> rfl

theorem run_eq_ok (replays : Replays files command arguments settings bundle? path text)
    {samples : List Sample} (valid : (writtenLines text.toList).map sample? = samples.map some) :
    run files command =
      .ok (lines (.ofSettings settings bundle?) (!arguments.isSecondary) samples) := by
  have read : readTrace text.toList = .ok samples := readLines_eq_ok_iff.mpr valid
  rw [replays.run_eq, read]
  rfl

/-- The first line of a trace that is faulty is reported by its number. -/
theorem run_eq_error (replays : Replays files command arguments settings bundle? path text)
    {index : ℕ} (first : (Text.lines text.toList).findIdx? isFaulty = some index) :
    run files command = .error (.sampleRefused path (index + 1)) := by
  have read : readTrace text.toList = .error (index + 1) :=
    readLines_eq_error_iff.mpr ⟨index, first, Nat.add_comm index 1⟩
  rw [replays.run_eq, read]
  rfl

/-- **Replays are faithful.** If every line of a trace that is not blank is a sample, there is a
line of output for each, in which one reads the sample's link, signal and time, and the verdict of a
run on the samples, each at its own time. A trace whose lines are the first of these, whatever blank
lines are between them, gives the first lines of the output, and the same output if the lines are
all the same. If some line is neither blank nor a sample, nothing is printed, and the first one is
reported by its number among all lines. -/
theorem isFaithful (replays : Replays files command arguments settings bundle? path text) :
    ((∀ line ∈ writtenLines text.toList, (sample? line).isSome) →
      ∃ printed, run files command = .ok printed ∧
        IsRun (.ofSettings settings bundle?) (!arguments.isSecondary) (writtenLines text.toList)
          printed ∧
        Text.lines (output printed).toList = printed.map (fun line => line.toJson.chars) ∧
        (∀ line ∈ printed, Report.read? line.toJson.chars = some line.report) ∧
        ∀ files' text', Replays files' command arguments settings bundle? path text' →
          writtenLines text'.toList <+: writtenLines text.toList →
            ∃ printed', run files' command = .ok printed' ∧ printed' <+: printed ∧
              (output printed').toList <+: (output printed).toList ∧
              (writtenLines text'.toList = writtenLines text.toList → printed' = printed)) ∧
      ∀ index, (Text.lines text.toList).findIdx? isFaulty = some index →
        run files command = .error (.sampleRefused path (index + 1)) ∧
          (Fault.sampleRefused path (index + 1)).message? =
            some s!"{path}:{index + 1}: invalid sample" := by
  constructor
  · intro valid
    obtain ⟨samples, read⟩ := exists_samples valid
    refine ⟨_, replays.run_eq_ok read, isRun_lines read, lines_output _,
      fun line _ => line.read?_chars, ?_⟩
    intro files' text' replays' begins
    -- The samples of the lines that are left are the first samples.
    obtain ⟨earlier, read'⟩ := exists_samples fun line isIn => valid line (begins.subset isIn)
    have first : earlier <+: samples := by
      have mapped := begins.map sample?
      rw [read, read'] at mapped
      exact (List.prefix_map_iff_of_injective (Option.some_injective Sample)).mp mapped
    have printed := lines_prefix (Scorer.ofSettings settings bundle?) (!arguments.isSecondary) first
    refine ⟨_, replays'.run_eq_ok read', printed, output_prefix printed, ?_⟩
    intro same
    rw [same, read] at read'
    rw [List.map_injective_iff.mpr (Option.some_injective Sample) read']
  · intro index first
    exact ⟨replays.run_eq_error first, rfl⟩

/-- Two samples with blank lines around them are scored on a secondary link; in another trace the
third line is no sample. -/
theorem isFaithful_two_samples :
    (∃ printed,
      run (fun _ => .text "\n\x7b\"rssi_dbm\": -60\x7d\n \t\n[5]") ["--trace=t", "--secondary"] =
          .ok printed ∧
        (Text.lines (output printed).toList).length = 2) ∧
      run (fun _ => .text "\n[5]\n[5]]\n[") ["--trace=t", "--secondary"] =
        .error (.sampleRefused "t" 3) := by
  have replays (text : String) : Replays (fun _ => .text text) ["--trace=t", "--secondary"]
      ⟨none, none, some "t", .walkAway, 42, true⟩ .defaults none "t" text :=
    ⟨by decide +kernel, rfl, rfl, rfl, rfl⟩
  constructor
  · obtain ⟨printed, ran, isRun, onLines, -⟩ :=
      (isFaithful (replays "\n\x7b\"rssi_dbm\": -60\x7d\n \t\n[5]")).1 (by decide +kernel)
    have two := congrArg List.length isRun.samples
    rw [List.length_map, List.length_map] at two
    refine ⟨printed, ran, ?_⟩
    rw [onLines, List.length_map, ← two]
    decide +kernel
  · exact ((isFaithful (replays _)).2 2 (by decide +kernel)).1

end Replays

end Replay

end LinkQuality
