import ProbeCheck.Proofs.GateEndings
import ProbeCheck.Proofs.ReleaseNewlines
import ProbeCheck.Proofs.SuppliedInputs

namespace ProbeCheck

namespace CommandLine

def Options.withText (options : Options) (release : Text) : Options :=
  { options with release := .given (.text release) }

def Options.withFile (options : Options) (name : Text) : Options :=
  { options with release := .file (.text name) }

end CommandLine

-- Whether a file can be written does not depend on what is written.
theorem FileTree.write_anything (tree : FileTree) (path : Path) (content other : Bytes) :
    (tree.write path content).map (fun _ => ()) = (tree.write path other).map (fun _ => ()) := by
  unfold write
  cases tree.locate path with
  | error fault => rfl
  | ok place =>
    simp only [bind, Except.bind]
    split <;> rfl

theorem Recorder.path_label {recorder : Recorder} {record other : RunRecord}
    (label : record.label = other.label) (moment : Moment) :
    recorder.path record moment = recorder.path other moment := by
  simp [path, fileName, label]

theorem Recorder.write_label {recorder : Recorder} {record other : RunRecord}
    (label : record.label = other.label) (writable : record.Writable) (otherWritable : other.Writable)
    (tree : FileTree) (moment : Moment) :
    (recorder.write tree record moment).2 = (recorder.write tree other moment).2 := by
  have whole := recorder.draft_fault writable moment
  have otherWhole := recorder.draft_fault otherWritable moment
  unfold write
  split
  · rfl
  · rename_i grown _
    have writes := grown.write_anything (recorder.path other moment)
      (Utf8.encode (recorder.draft record moment).text) (Utf8.encode (recorder.draft other moment).text)
    simp only [path_label label, whole, otherWhole]
    generalize grown.write _ (Utf8.encode (recorder.draft record moment).text) = one at writes ⊢
    generalize grown.write _ (Utf8.encode (recorder.draft other moment).text) = two at writes ⊢
    cases one with
    | error fault =>
      cases two with
      | error other => cases writes; rfl
      | ok left => cases writes
    | ok left =>
      cases two with
      | error fault => cases writes
      | ok other => rfl

namespace Gate
open CommandLine (Options)
open KernelRelease (version?)

def Decision.gist : Decision → Except FailureType Bool
  | .verdict finding _ => .ok finding.verdict.passed
  | .abort reason => .error reason.type

theorem Decision.label_gist (decision : Decision) : decision.record.label =
    match decision.gist with
    | .ok passed => if passed then "PASS" else "FAIL"
    | .error _ => "ERROR" := by
  cases decision <;> rfl

theorem Decision.recorded_gist (decision : Decision) (path? : Option Path) :
    (decision.recorded path?).exitCode =
      match decision.gist with
      | .ok passed => if passed then 0 else FailureType.verification.exitCode
      | .error type => type.exitCode := by
  cases decision <;> rfl

theorem Decision.unrecorded_gist (decision : Decision) (fault : FileFault) :
    (decision.unrecorded fault).exitCode =
      match decision.gist with
      | .ok _ => FailureType.internal.exitCode
      | .error type => type.exitCode := by
  cases decision <;> rfl

theorem conclude_gist {decision other : Decision} (same : decision.gist = other.gist)
    (written : Option (Except RecordFault Path)) :
    (decision.conclude written).map Reply.exitCode = (other.conclude written).map Reply.exitCode := by
  cases written with
  | none => simp [Decision.conclude, Except.map, Decision.recorded_gist, same]
  | some outcome =>
    cases outcome with
    | ok path => simp [Decision.conclude, Except.map, Decision.recorded_gist, same]
    | error fault =>
      cases fault with
      | numeral fault => rfl
      | file fault =>
        cases fault with
        | nul => rfl
        | tooDeep => rfl
        | refused refusal path =>
          simp [Decision.conclude, Except.map, Decision.unrecorded_gist, same]

theorem finish_gist {decision other : Decision} (same : decision.gist = other.gist)
    (writable : decision.record.Writable) (otherWritable : other.record.Writable)
    (kept : Option Recorder) (now : Moment) (tree : FileTree) :
    (finish decision kept now tree).map (·.1.exitCode) =
      (finish other kept now tree).map (·.1.exitCode) := by
  have paired (concluded : Except Escape Reply) (left : FileTree) :
      (concluded.map (·, left)).map (·.1.exitCode) = concluded.map Reply.exitCode := by
    cases concluded <;> rfl
  cases kept with
  | none => simpa only [finish, paired] using conclude_gist same none
  | some recorder =>
    have label : decision.record.label = other.record.label := by
      simp only [Decision.label_gist, same]
    have written := recorder.write_label label writable otherWritable tree now
    simp only [finish, paired, written]
    exact conclude_gist same _

theorem carried_gist {first second : Except Escape Decision}
    (same : first.map Decision.gist = second.map Decision.gist)
    (writable : ∀ decision, first = .ok decision → decision.record.Writable)
    (otherWritable : ∀ decision, second = .ok decision → decision.record.Writable)
    (kept : Option Recorder) (now : Moment) (tree : FileTree) :
    (first.bind fun decision => finish decision kept now tree).map (·.1.exitCode) =
      (second.bind fun decision => finish decision kept now tree).map (·.1.exitCode) := by
  cases first with
  | error escape =>
    cases second with
    | error other => cases same; rfl
    | ok decision => cases same
  | ok decision =>
    cases second with
    | error escape => cases same
    | ok other =>
      have gist : decision.gist = other.gist := by simpa [Except.map] using same
      exact finish_gist gist (writable _ rfl) (otherWritable _ rfl) kept now tree

theorem ofRefusal_type (refusal : KernelRelease.Refusal) : (Abort.ofRefusal refusal).type =
    match refusal.numeral? with
    | none => .parse
    | some _ => .internal := by
  cases refusal <;> rfl

theorem decide_gist (options : Options) {release other : Text} (log : Text)
    (alike : (version? release).mapError KernelRelease.Refusal.numeral? =
      (version? other).mapError KernelRelease.Refusal.numeral?) :
    (decide options (.ok ⟨.text release, log⟩)).map Decision.gist =
      (decide options (.ok ⟨.text other, log⟩)).map Decision.gist := by
  cases first : version? release with
  | error refusal =>
    cases second : version? other with
    | error otherRefusal =>
      have type : (Abort.ofRefusal refusal).type = (Abort.ofRefusal otherRefusal).type := by
        simp_all [ofRefusal_type, Except.mapError]
      simp [decide, judge, judgeText, first, second, Except.map, Decision.gist, type]
    | ok version => simp [first, second, Except.mapError] at alike
  | ok version =>
    cases second : version? other with
    | error refusal => simp [first, second, Except.mapError] at alike
    | ok otherVersion =>
      obtain rfl : version = otherVersion := by simpa [first, second, Except.mapError] using alike
      simp only [decide, judge, judgeText, first, second]
      cases catalog? options.arch version.code with
      | error reason => rfl
      | ok catalog =>
        simp only [Except.map, Summary.text?]
        cases Numeral.write? version.code <;> rfl

def resume (options : Options) (now : Moment) (uuid : Text) (tree : FileTree) :
    Except Escape (Reply × FileTree) :=
  (decide options (readInputs tree.read options)).bind fun decision =>
    finish decision (recorder? options now uuid) now tree

section
variable {options : Options} {release name : Text} {tree : FileTree}

theorem readInputs_withText (read : Path → Except FileFault Bytes) :
    readInputs read (options.withText release) = (readNamed read options.logFile).map fun content =>
      ⟨.text release, Text.unifyNewlines (Utf8.decodeLossy content)⟩ := by
  cases found : readNamed read options.logFile <;>
    simp [readInputs, Options.withText, readRelease, found, Except.map]

theorem readInputs_withFile (held : tree.read (.ofText name) = .ok (Utf8.encode release)) :
    readInputs tree.read (options.withFile name) =
      readInputs tree.read (options.withText (Text.unifyNewlines release)) := by
  have released := readRelease_ok_iff.mpr (.file held)
  unfold readInputs
  rw [Options.withFile, released]
  rfl

theorem resume_withFile (held : tree.read (.ofText name) = .ok (Utf8.encode release)) (now : Moment)
    (uuid : Text) : resume (options.withFile name) now uuid tree =
      resume (options.withText (Text.unifyNewlines release)) now uuid tree := by
  unfold resume
  rw [readInputs_withFile held]
  rfl

theorem resume_unifyNewlines (options : Options) (release : Text) (now : Moment) (uuid : Text)
    (tree : FileTree) :
    (resume (options.withText (Text.unifyNewlines release)) now uuid tree).map (·.1.exitCode) =
      (resume (options.withText release) now uuid tree).map (·.1.exitCode) := by
  have alike := KernelRelease.version?_unifyNewlines release
  have gist : (decide (options.withText (Text.unifyNewlines release))
        (readInputs tree.read (options.withText (Text.unifyNewlines release)))).map Decision.gist =
      (decide (options.withText release)
        (readInputs tree.read (options.withText release))).map Decision.gist := by
    rw [readInputs_withText, readInputs_withText]
    cases readNamed tree.read options.logFile with
    | error fault => rfl
    | ok content => exact decide_gist options _ alike
  exact carried_gist gist (fun _ => decide_writable) (fun _ => decide_writable) _ now tree

end

inductive SameOutcome :
    Except Escape (Ending × FileTree) → Except Escape (Ending × FileTree) → Prop
  | returned {reply other : Reply} {left otherLeft : FileTree}
      (code : reply.exitCode = other.exitCode) :
      SameOutcome (.ok (.finished reply, left)) (.ok (.finished other, otherLeft))
  | escaped (escape : Escape) : SameOutcome (.error escape) (.error escape)

section
variable {options other : Options} {arguments otherArguments : List Text} {now : Moment} {uuid : Text}
  {tree : FileTree}

theorem run_resume (parsed : CommandLine.parse arguments = .ok options) :
    run arguments now uuid tree =
      (resume options now uuid tree).map fun (reply, left) => (.finished reply, left) := by
  rw [run_parsed parsed, resume]
  cases decide options (readInputs tree.read options) <;> rfl

theorem sameOutcome_of_resume (parsed : CommandLine.parse arguments = .ok options)
    (otherParsed : CommandLine.parse otherArguments = .ok other)
    (code : (resume options now uuid tree).map (·.1.exitCode) =
      (resume other now uuid tree).map (·.1.exitCode)) :
    SameOutcome (run arguments now uuid tree) (run otherArguments now uuid tree) := by
  rw [run_resume parsed, run_resume otherParsed]
  cases one : resume options now uuid tree with
  | error escape =>
    cases two : resume other now uuid tree with
    | error otherEscape =>
      obtain rfl : escape = otherEscape := by simpa [one, two, Except.map] using code
      exact .escaped escape
    | ok answer => simp [one, two, Except.map] at code
  | ok answer =>
    cases two : resume other now uuid tree with
    | error escape => simp [one, two, Except.map] at code
    | ok otherAnswer =>
      have same : answer.1.exitCode = otherAnswer.1.exitCode := by
        simpa [one, two, Except.map] using code
      exact .returned same

end

-- A release may be given as a text or as a file that holds it, in any order of the settings. Without a
-- return in it the two runs are one. With returns they still end alike, because the release that is read
-- from the file has the same version or none.
theorem sources_interchange {options : Options} {release name : Text} {tree : FileTree}
    (held : tree.read (.ofText name) = .ok (Utf8.encode release))
    (spellable : (options.withText release).Spellable) (named : (options.withFile name).Spellable)
    {byText byFile : List Text} (textOrder : byText.Perm (options.withText release).arguments)
    (fileOrder : byFile.Perm (options.withFile name).arguments) (now : Moment) (uuid : Text) :
    ('\r' ∉ release → run byText now uuid tree = run byFile now uuid tree) ∧
      SameOutcome (run byText now uuid tree) (run byFile now uuid tree) ∧
      ∀ version, version? release = .ok version ↔
        version? (Text.unifyNewlines release) = .ok version := by
  have parsed := CommandLine.parse_arguments spellable textOrder
  have fileParsed := CommandLine.parse_arguments named fileOrder
  refine ⟨fun returnless => ?_, ?_, fun version => ?_⟩
  · have same := @resume_withFile options release name tree held now uuid
    rw [Text.unifyNewlines_of_returnless returnless] at same
    rw [run_resume parsed, run_resume fileParsed, same]
  · apply sameOutcome_of_resume parsed fileParsed
    rw [resume_withFile held, resume_unifyNewlines]
  · have alike := KernelRelease.version?_unifyNewlines release
    cases one : version? release <;> cases two : version? (Text.unifyNewlines release) <;>
      simp_all [Except.mapError]

def twoSources : FileTree :=
  { entries := [(⟨.above 0, ["log"]⟩, .file []), (⟨.above 0, ["plain"]⟩, .file (Utf8.encode "5.4\n")),
      (⟨.above 0, ["returned"]⟩, .file (Utf8.encode "5.4\r\n"))] }

def twoSourcesOptions : Options := ⟨.text "x", .given .nothing, .text "log", some "runs"⟩

def bySource (source : Text) : List Text := ["--runs-dir=runs", source, "--log-file=log", "--arch=x"]

theorem twoSources_interchange :
    (run (bySource "--kernel-release=5.4\n") epoch [] twoSources =
        run (bySource "--kernel-release-file=plain") epoch [] twoSources ∧
      EndsWith (run (bySource "--kernel-release-file=plain") epoch [] twoSources) 2) ∧
    SameOutcome (run (bySource "--kernel-release=5.4\r\n") epoch [] twoSources)
        (run (bySource "--kernel-release-file=returned") epoch [] twoSources) ∧
      EndsWith (run (bySource "--kernel-release-file=returned") epoch [] twoSources) 2 := by
  have plain := @sources_interchange twoSourcesOptions "5.4\n" "plain" twoSources (by decide +kernel)
    (by decide +kernel) (by decide +kernel) (bySource "--kernel-release=5.4\n")
    (bySource "--kernel-release-file=plain") (by decide +kernel) (by decide +kernel) epoch []
  have returned := @sources_interchange twoSourcesOptions "5.4\r\n" "returned" twoSources
    (by decide +kernel) (by decide +kernel) (by decide +kernel) (bySource "--kernel-release=5.4\r\n")
    (bySource "--kernel-release-file=returned") (by decide +kernel) (by decide +kernel) epoch []
  exact ⟨⟨plain.1 (by decide +kernel), by decide +kernel⟩, returned.2.1, by decide +kernel⟩

end Gate
end ProbeCheck
