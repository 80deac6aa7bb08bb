import ProbeCheck.Gate
import ProbeCheck.Proofs.WritableNumbers

namespace ProbeCheck.Gate
open CommandLine (Options)

variable {read : Path → Except FileFault Bytes} {options : Options}

theorem readNamed_noPath_iff (given : Given) :
    readNamed read given = .error .noPath ↔ given = .nothing := by
  cases given with
  | nothing => exact ⟨fun _ => rfl, fun _ => rfl⟩
  | text name =>
    refine ⟨fun failed => ?_, fun equal => by cases equal⟩
    unfold readNamed at failed
    dsimp only at failed
    split at failed <;> cases failed

theorem readRelease_file_error_iff {name : Given} {fault : InputFault}
    (decoded : ∀ malformed, fault ≠ .notUtf8 malformed) :
    readRelease read (.file name) = .error fault ↔ readNamed read name = .error fault := by
  unfold readRelease
  dsimp only
  cases readNamed read name with
  | error unread => simp
  | ok content =>
    dsimp only
    split
    · rename_i malformed _
      simpa using (decoded malformed).symm
    · simp

theorem readRelease_noPath_iff (source : CommandLine.ReleaseSource) :
    readRelease read source = .error .noPath ↔ source = .file .nothing := by
  cases source with
  | given release => simp [readRelease]
  | file name => rw [readRelease_file_error_iff (by simp), readNamed_noPath_iff]; simp

theorem readInputs_ok_iff {inputs : Inputs} :
    readInputs read options = .ok inputs ↔
      ∃ content, readRelease read options.release = .ok inputs.release ∧
        readNamed read options.logFile = .ok content ∧
        inputs.log = Text.unifyNewlines (Utf8.decodeLossy content) := by
  unfold readInputs
  constructor
  · intro supplied
    split at supplied
    · cases supplied
    · rename_i release released
      split at supplied
      · cases supplied
      · rename_i content found
        cases supplied
        exact ⟨content, released, found, rfl⟩
  · rintro ⟨content, released, found, log⟩
    obtain ⟨release, text⟩ := inputs
    dsimp only at released log
    rw [released, found, log]

theorem readInputs_error_iff {fault : InputFault} :
    readInputs read options = .error fault ↔ readRelease read options.release = .error fault ∨
      ∃ release, readRelease read options.release = .ok release ∧
        readNamed read options.logFile = .error fault := by
  unfold readInputs
  constructor
  · intro failed
    split at failed
    · rename_i unreleased
      cases failed
      exact .inl unreleased
    · rename_i release released
      split at failed
      · rename_i unread
        cases failed
        exact .inr ⟨release, released, unread⟩
      · cases failed
  · rintro (unreleased | ⟨release, released, unread⟩)
    · rw [unreleased]
    · rw [released, unread]

theorem judge_ok_iff {inputs : Inputs} {finding : Finding} :
    judge options inputs = .ok finding ↔ ∃ release version catalog,
      inputs.release = .text release ∧ KernelRelease.version? release = .ok version ∧
      catalog? options.arch version.code = .ok catalog ∧
      finding = ⟨options.arch, release, version.code,
        Check.verify Marker.loaded catalog inputs.log⟩ := by
  obtain ⟨given, log⟩ := inputs
  cases given with
  | nothing =>
    constructor
    · intro judged; cases judged
    · rintro ⟨release, version, catalog, equal, -⟩
      cases equal
  | text release =>
    constructor
    · intro judged
      cases accepted : KernelRelease.version? release with
      | error refusal => simp [judge, judgeText, accepted] at judged
      | ok version =>
        cases found : catalog? options.arch version.code with
        | error reason => simp [judge, judgeText, accepted, found, Except.map] at judged
        | ok catalog =>
          simp only [judge, judgeText, accepted, found, Except.map, Except.ok.injEq] at judged
          exact ⟨release, version, catalog, rfl, accepted, found, judged.symm⟩
    · rintro ⟨text, version, catalog, equal, accepted, found, rfl⟩
      cases equal
      simp only [judge, judgeText, accepted, found, Except.map]

theorem summary_error_iff (verdict : Verdict) (arch release : Text) (code : Int) :
    (∃ fault, Summary.text? verdict arch release code = .error fault) ↔
      Numeral.bound ≤ code.natAbs := by
  unfold Summary.text?
  by_cases short : code.natAbs < Numeral.bound
  · rw [Numeral.write?_ok short]
    constructor
    · rintro ⟨fault, failed⟩; cases failed
    · intro long; omega
  · have long : Numeral.bound ≤ code.natAbs := by omega
    rw [Numeral.write?_error long]
    exact ⟨fun _ => long, fun _ => ⟨_, rfl⟩⟩

theorem short_of_summary {verdict : Verdict} {arch release summary : Text} {code : Int}
    (written : Summary.text? verdict arch release code = .ok summary) :
    code.natAbs < Numeral.bound := by
  refine Nat.lt_of_not_le fun long => ?_
  obtain ⟨fault, failed⟩ := (summary_error_iff verdict arch release code).mpr long
  rw [failed] at written
  cases written

-- What a decision was made from, one case for each way `decide` can go.
inductive Decided (options : Options) : Except InputFault Inputs → Except Escape Decision → Prop
  | noPath : Decided options (.error .noPath) (.error .noPath)
  | nul : Decided options (.error (.file .nul)) (.error .nul)
  | tooDeep : Decided options (.error (.file .tooDeep)) (.error .tooDeep)
  | unread {fault : InputFault} (given : fault ≠ .noPath) (nulFree : fault ≠ .file .nul)
      (shallow : fault ≠ .file .tooDeep) : Decided options (.error fault) (.ok (.abort (.input fault)))
  | refused {inputs : Inputs} {reason : Abort} (judged : judge options inputs = .error reason) :
      Decided options (.ok inputs) (.ok (.abort reason))
  | unshown {inputs : Inputs} {finding : Finding} {fault : Numeral.Fault}
      (judged : judge options inputs = .ok finding)
      (unwritten : Summary.text? finding.verdict finding.arch.shown finding.release finding.code =
        .error fault) :
      Decided options (.ok inputs) (.error (.numeral fault))
  | reached {inputs : Inputs} {finding : Finding} {summary : Text}
      (judged : judge options inputs = .ok finding)
      (written : Summary.text? finding.verdict finding.arch.shown finding.release finding.code =
        .ok summary) :
      Decided options (.ok inputs) (.ok (.verdict finding summary))

theorem decided (options : Options) (supplied : Except InputFault Inputs) :
    Decided options supplied (decide options supplied) := by
  unfold decide
  split
  · exact .noPath
  · exact .nul
  · exact .tooDeep
  · rename_i given nulFree shallow
    exact .unread given nulFree shallow
  · split
    · rename_i judged
      exact .refused judged
    · rename_i judged
      split
      · rename_i unwritten
        exact .unshown judged unwritten
      · rename_i written
        exact .reached judged written

theorem decide_judged {inputs : Inputs} {finding : Finding}
    (judged : judge options inputs = .ok finding) : decide options (.ok inputs) =
      ((Summary.text? finding.verdict finding.arch.shown finding.release finding.code).map
        (Decision.verdict finding)).mapError Escape.numeral := by
  unfold decide
  dsimp only
  rw [judged]
  dsimp only
  cases Summary.text? finding.verdict finding.arch.shown finding.release finding.code <;> rfl

theorem exists_verdict {inputs : Inputs} {finding : Finding} (judged : judge options inputs = .ok finding)
    (short : finding.code.natAbs < Numeral.bound) :
    ∃ summary, decide options (.ok inputs) = .ok (.verdict finding summary) := by
  cases written : Summary.text? finding.verdict finding.arch.shown finding.release finding.code with
  | error fault =>
    have long := (summary_error_iff ..).mp ⟨fault, written⟩
    omega
  | ok summary =>
    refine ⟨summary, ?_⟩
    rw [decide_judged judged, written]
    rfl

theorem decide_verdict {supplied : Except InputFault Inputs} {finding : Finding} {summary : Text}
    (decision : decide options supplied = .ok (.verdict finding summary)) :
    (∃ inputs, supplied = .ok inputs ∧ judge options inputs = .ok finding) ∧
      Summary.text? finding.verdict finding.arch.shown finding.release finding.code = .ok summary := by
  have ways := decided options supplied
  rw [decision] at ways
  cases ways with
  | reached judged written => exact ⟨⟨_, rfl, judged⟩, written⟩

theorem decide_writable {supplied : Except InputFault Inputs} {decision : Decision}
    (reached : decide options supplied = .ok decision) : decision.record.Writable := by
  have ways := decided options supplied
  rw [reached] at ways
  cases ways with
  | unread => trivial
  | refused => trivial
  | reached judged written => exact short_of_summary written

inductive Finished (decision : Decision) (now : Moment) (tree : FileTree) :
    Option Recorder → Reply × FileTree → Prop
  | unkept : Finished decision now tree none (decision.recorded none, tree)
  | kept {recorder : Recorder} {left : FileTree} {path : Path}
      (written : recorder.write tree decision.record now = (left, .ok path)) :
      Finished decision now tree (some recorder) (decision.recorded (some path), left)
  | refused {recorder : Recorder} {left : FileTree} {refusal : Refusal} {path : Path}
      (unwritten : recorder.write tree decision.record now =
        (left, .error (.file (.refused refusal path)))) :
      Finished decision now tree (some recorder) (decision.unrecorded (.refused refusal path), left)

theorem finished {decision : Decision} {kept : Option Recorder} {now : Moment} {tree : FileTree}
    {answer : Reply × FileTree} (ended : finish decision kept now tree = .ok answer) :
    Finished decision now tree kept answer := by
  cases kept with
  | none => cases ended; exact .unkept
  | some recorder =>
    unfold finish at ended
    dsimp only at ended
    cases outcome : recorder.write tree decision.record now with
    | mk left written =>
      rw [outcome] at ended
      cases written with
      | ok path => cases ended; exact .kept outcome
      | error fault =>
        cases fault with
        | numeral fault => cases ended
        | file fault =>
          cases fault with
          | nul => cases ended
          | tooDeep => cases ended
          | refused refusal path => cases ended; exact .refused outcome

theorem Finished.reply {decision : Decision} {now : Moment} {tree left : FileTree}
    {kept : Option Recorder} {reply : Reply}
    (carried : Finished decision now tree kept (reply, left)) :
    (∃ path?, reply = decision.recorded path?) ∨ ∃ fault, reply = decision.unrecorded fault := by
  cases carried with
  | unkept => exact .inl ⟨none, rfl⟩
  | kept => exact .inl ⟨some _, rfl⟩
  | refused => exact .inr ⟨_, rfl⟩

theorem Finished.abort_exitCode {reason : Abort} {now : Moment} {tree left : FileTree}
    {kept : Option Recorder} {reply : Reply}
    (carried : Finished (.abort reason) now tree kept (reply, left)) :
    reply.exitCode = reason.type.exitCode := by
  cases carried <;> rfl

theorem recorder?_eq_some_iff {now : Moment} {uuid : Text} {recorder : Recorder} :
    recorder? options now uuid = some recorder ↔ ∃ runsDir, options.runsDir = some runsDir ∧
      runsDir ≠ [] ∧ recorder = ⟨.ofText runsDir, runId now uuid⟩ := by
  unfold recorder?
  split
  · rename_i absent
    simp [absent]
  · rename_i empty
    simp [empty]
  · rename_i name nonempty asked
    constructor
    · intro kept
      cases kept
      exact ⟨name, asked, nonempty, rfl⟩
    · rintro ⟨runsDir, given, -, rfl⟩
      cases asked.symm.trans given
      rfl

def EndsWith (ended : Except Escape (Ending × FileTree)) (code : Nat) : Prop :=
  ∃ reply left, ended = .ok (.finished reply, left) ∧ reply.exitCode = code

theorem endsWith_finished {reply : Reply} {left : FileTree} {code : Nat} :
    EndsWith (.ok (.finished reply, left)) code ↔ reply.exitCode = code := by
  constructor
  · rintro ⟨other, tree, equal, ends⟩
    cases equal
    exact ends
  · exact fun ends => ⟨reply, left, rfl, ends⟩

theorem not_endsWith_escape {escape : Escape} {code : Nat} : ¬ EndsWith (.error escape) code :=
  nofun

instance (ended : Except Escape (Ending × FileTree)) (code : Nat) : Decidable (EndsWith ended code) :=
  match ended with
  | .ok (.finished _, _) => decidable_of_iff _ endsWith_finished.symm
  | .ok (.stopped _, _) => .isFalse fun ⟨_, _, equal, _⟩ => by cases equal
  | .error _ => .isFalse not_endsWith_escape

theorem run_parsed {arguments : List Text} (parsed : CommandLine.parse arguments = .ok options)
    (now : Moment) (uuid : Text) (tree : FileTree) :
    run arguments now uuid tree = (decide options (readInputs tree.read options)).bind fun decision =>
      (finish decision (recorder? options now uuid) now tree).map fun (reply, left) =>
        (.finished reply, left) := by
  unfold run
  rw [parsed]
  dsimp only
  cases decide options (readInputs tree.read options) <;> rfl

theorem run_finished_iff {arguments : List Text}
    (parsed : CommandLine.parse arguments = .ok options) {now : Moment} {uuid : Text}
    {tree left : FileTree} {reply : Reply} :
    run arguments now uuid tree = .ok (.finished reply, left) ↔
      ∃ decision, decide options (readInputs tree.read options) = .ok decision ∧
        finish decision (recorder? options now uuid) now tree = .ok (reply, left) := by
  rw [run_parsed parsed]
  cases decide options (readInputs tree.read options) with
  | error escape => simp [Except.bind]
  | ok decision =>
    simp only [Except.bind, Except.ok.injEq, exists_eq_left']
    cases finish decision (recorder? options now uuid) now tree with
    | error escape => simp [Except.map]
    | ok answer =>
      obtain ⟨given, kept⟩ := answer
      simp [Except.map]

theorem run_unkept {arguments : List Text} {tree : FileTree} {decision : Decision}
    (parsed : CommandLine.parse arguments = .ok options) (unkept : options.runsDir = none)
    (reached : decide options (readInputs tree.read options) = .ok decision) (now : Moment)
    (uuid : Text) : run arguments now uuid tree = .ok (.finished (decision.recorded none), tree) := by
  have unrecorded : recorder? options now uuid = none := by rw [recorder?, unkept]
  refine (run_finished_iff parsed).mpr ⟨decision, reached, ?_⟩
  rw [unrecorded]
  rfl

end ProbeCheck.Gate
