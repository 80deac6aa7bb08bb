import ProbeCheck.Proofs.LogBytes
import ProbeCheck.Proofs.StrictDecoding

namespace ProbeCheck

namespace Check

theorem check_error_iff {marker : Marker} {arch release log : Text} {refusal : KernelRelease.Refusal} :
    check marker arch release log = .error refusal ↔ KernelRelease.version? release = .error refusal := by
  cases accepted : KernelRelease.version? release with
  | error other => simp [check, accepted, bind, Except.bind]
  | ok version => simp [check_ok accepted]

theorem check_congr {log other : Text} (same : Text.lines log = Text.lines other) (marker : Marker)
    (arch release : Text) : check marker arch release log = check marker arch release other := by
  simp only [check, verify, Log.extract, same]

end Check

namespace Gate
open CommandLine (Options joined)

structure Answers (tree : FileTree) (arch release : Text)
    (outcome : Except KernelRelease.Refusal Verdict) (ended : Except Escape (Ending × FileTree)) :
    Prop where
  refused : EndsWith ended 2 ↔ ∃ error, outcome = .error (.release error)
  overlong : EndsWith ended 4 ↔
    ∃ digits, Numeral.limit < digits ∧ outcome = .error (.numeral (.tooLongToRead digits))
  judged : ∀ verdict, outcome = .ok verdict → ∃ version, KernelRelease.version? release = .ok version ∧
    ((Numeral.digits version.code.natAbs).length ≤ Numeral.limit →
      ∃ summary, Summary.text? verdict arch release version.code = .ok summary ∧
        ended = .ok (.finished ⟨if verdict.passed then 0 else 1, summary ++ ['\n'], []⟩, tree))

def plainOptions (arch release logFile : Text) : Options :=
  ⟨.text arch, .given (.text release), .text logFile, none⟩

theorem judge_text (options : Options) (release log : Text) {arch : Text} (named : options.arch = .text arch) :
    judge options ⟨.text release, log⟩ =
      match KernelRelease.version? release with
      | .error refusal => .error (.ofRefusal refusal)
      | .ok version => .ok ⟨.text arch, release, version.code,
          Check.verify .loaded (.expected arch version.code) log⟩ := by
  rw [judge]
  dsimp only
  rw [judgeText, named]
  cases KernelRelease.version? release <;> rfl

section
variable {arch release logFile log : Text} {arguments : List Text} {tree : FileTree}
  (parsed : CommandLine.parse arguments = .ok (plainOptions arch release logFile))
  (supplied : readInputs tree.read (plainOptions arch release logFile) = .ok ⟨.text release, log⟩)
  (now : Moment) (uuid : Text)
include parsed supplied

theorem run_refused {refusal : KernelRelease.Refusal}
    (refused : KernelRelease.version? release = .error refusal) :
    run arguments now uuid tree =
      .ok (.finished ((Decision.abort (.ofRefusal refusal)).recorded none), tree) := by
  refine run_unkept parsed rfl ?_ now uuid
  rw [supplied, decide, judge_text _ _ _ rfl, refused]

theorem run_accepted {version : Version} (accepted : KernelRelease.version? release = .ok version) :
    (∃ escape, run arguments now uuid tree = .error escape ∧ Numeral.bound ≤ version.code.natAbs) ∨
    ∃ summary, Summary.text? (Check.verify .loaded (.expected arch version.code) log) arch release
        version.code = .ok summary ∧
      run arguments now uuid tree =
        .ok (.finished ⟨if (Check.verify .loaded (.expected arch version.code) log).passed then 0 else 1,
          summary ++ ['\n'], []⟩, tree) := by
  have judged : judge (plainOptions arch release logFile) ⟨.text release, log⟩ =
      .ok ⟨.text arch, release, version.code, Check.verify .loaded (.expected arch version.code) log⟩ := by
    rw [judge_text _ _ _ rfl, accepted]
  have decided := decide_judged judged
  rw [← supplied] at decided
  cases written : Summary.text? (Check.verify .loaded (.expected arch version.code) log) arch release
      version.code with
  | error fault =>
    refine .inl ⟨.numeral fault, ?_, (summary_error_iff ..).mp ⟨fault, written⟩⟩
    rw [run_parsed parsed, decided]
    dsimp only [Given.shown]
    rw [written]
    rfl
  | ok summary =>
    refine .inr ⟨summary, rfl, ?_⟩
    dsimp only [Given.shown] at decided
    rw [written] at decided
    exact run_unkept parsed rfl decided now uuid

theorem run_answers_check :
    Answers tree arch release (Check.check .loaded arch release log) (run arguments now uuid tree) := by
  cases read : KernelRelease.version? release with
  | error refusal =>
    rw [Check.check_error_iff.mpr read, run_refused parsed supplied now uuid read]
    cases refusal with
    | release error =>
      refine ⟨?_, ?_, nofun⟩
      · exact endsWith_finished.trans ⟨fun _ => ⟨error, rfl⟩, fun _ => rfl⟩
      · exact endsWith_finished.trans ⟨nofun, nofun⟩
    | numeral fault =>
      obtain ⟨digits, long, rfl⟩ := KernelRelease.version?_numeral read
      refine ⟨?_, ?_, nofun⟩
      · exact endsWith_finished.trans ⟨nofun, nofun⟩
      · exact endsWith_finished.trans ⟨fun _ => ⟨digits, long, rfl⟩, fun _ => rfl⟩
  | ok version =>
    rw [Check.check_ok read]
    rcases run_accepted parsed supplied now uuid read with ⟨escape, escaped, long⟩ | ⟨summary, written, ended⟩
    · rw [escaped]
      refine ⟨?_, ?_, fun verdict given => ⟨version, read, fun short => ?_⟩⟩
      · exact iff_of_false not_endsWith_escape nofun
      · exact iff_of_false not_endsWith_escape nofun
      · have below := (Numeral.digits_length_le_iff _).mp short
        omega
    · rw [ended]
      refine ⟨?_, ?_, fun verdict given => ⟨version, read, fun _ => ?_⟩⟩
      · refine iff_of_false (fun ends => ?_) nofun
        have code := endsWith_finished.mp ends
        split at code <;> cases code
      · refine iff_of_false (fun ends => ?_) nofun
        have code := endsWith_finished.mp ends
        split at code <;> cases code
      · cases given
        exact ⟨summary, written, rfl⟩

end

-- Whatever the command line spells, a run on these options answers as the check does on the unified log,
-- and on the log itself where no return stands alone.
theorem run_answers_as_check {arch release logFile log : Text} {tree : FileTree}
    (held : tree.read (.ofText logFile) = .ok (Utf8.encode log)) :
    (arch ≠ ['-', '-'] → release ≠ ['-', '-'] → logFile ≠ ['-', '-'] →
      CommandLine.parse [joined .arch arch, joined .kernelRelease release, joined .logFile logFile] =
        .ok (plainOptions arch release logFile)) ∧
    ∀ arguments now uuid, CommandLine.parse arguments = .ok (plainOptions arch release logFile) →
      Answers tree arch release (Check.check .loaded arch release (Text.unifyNewlines log))
        (run arguments now uuid tree) ∧
      (Text.ReturnsPaired log →
        Answers tree arch release (Check.check .loaded arch release log)
          (run arguments now uuid tree)) := by
  refine ⟨CommandLine.parse_joined, fun arguments now uuid parsed => ?_⟩
  have found : readNamed tree.read (.text logFile) = .ok (Utf8.encode log) := by rw [readNamed, held]
  have supplied : readInputs tree.read (plainOptions arch release logFile) =
      .ok ⟨.text release, Text.unifyNewlines log⟩ :=
    readInputs_ok_iff.mpr ⟨_, rfl, found, by rw [Utf8.decodeLossy_encode]⟩
  have answers := run_answers_check parsed supplied now uuid
  refine ⟨answers, fun paired => ?_⟩
  rwa [Check.check_congr (Text.lines_unifyNewlines_of_paired paired)] at answers

def startupTree : FileTree :=
  { entries := [(⟨.above 0, ["log"]⟩, .file (Utf8.encode Check.startupLog))] }

def startupArguments : List Text :=
  [joined .arch "amd64", joined .kernelRelease "5.4.0-42-generic", joined .logFile "log"]

theorem startupTree_answered :
    startupTree.read (.ofText "log") = .ok (Utf8.encode Check.startupLog) ∧
    ∃ verdict summary, Check.check .loaded "amd64" "5.4.0-42-generic" Check.startupLog = .ok verdict ∧
      Summary.text? verdict "amd64" "5.4.0-42-generic" 50400 = .ok summary ∧
      run startupArguments epoch [] startupTree =
        .ok (.finished ⟨0, summary ++ ['\n'], []⟩, startupTree) := by
  have held : startupTree.read (.ofText "log") = .ok (Utf8.encode Check.startupLog) := by decide +kernel
  have paired : Text.ReturnsPaired Check.startupLog := by decide +kernel
  have accepted : KernelRelease.version? ("5.4.0-42-generic" : Text) = .ok ⟨5, 4, 0⟩ := by
    rw [Text.ofString_eq]
    rfl
  have checked := Check.check_ok accepted .loaded "amd64" Check.startupLog
  have passed : (Check.verify .loaded (.expected "amd64" 50400) Check.startupLog).passed = true := by
    rw [Check.verify_passed_iff]
    exact (sortTexts_perm _).trans (by decide +kernel)
  obtain ⟨parsed, answers⟩ := @run_answers_as_check "amd64" "5.4.0-42-generic" "log" _ _ held
  have answered := (answers startupArguments epoch []
    (parsed (by decide +kernel) (by decide +kernel) (by decide +kernel))).2 paired
  obtain ⟨version, versioned, shown⟩ := answered.judged _ checked
  cases accepted.symm.trans versioned
  have short : (Numeral.digits (50400 : Int).natAbs).length ≤ Numeral.limit :=
    (Numeral.digits_length_le_iff _).mpr (Numeral.lt_bound (by decide))
  obtain ⟨summary, written, ended⟩ := shown short
  refine ⟨held, _, summary, checked, written, ?_⟩
  rw [ended]
  exact congrArg (fun code => Except.ok (Ending.finished ⟨code, _, _⟩, _)) (if_pos passed)

end Gate
end ProbeCheck
