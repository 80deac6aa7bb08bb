import ProbeCheck.Proofs.LogBytes
import ProbeCheck.Proofs.SuppliedInputs

namespace ProbeCheck

namespace KernelRelease

theorem versionOf?_numeral {given : Given} {fault : Numeral.Fault}
    (refused : versionOf? given.datum = .error (.numeral fault)) :
    ∃ digits, Numeral.limit < digits ∧ fault = .tooLongToRead digits := by
  cases given with
  | text release => exact version?_numeral refused
  | nothing => cases refused

end KernelRelease

namespace Gate
open CommandLine (Options)

def Malformed (release : Given) : Prop :=
  ∃ error, KernelRelease.versionOf? release.datum = .error (.release error)

-- The catalog for a machine. Without an architecture it is the one that does not name it.
def machineCatalog (arch : Given) (version : Version) : Catalog :=
  .expected (arch.text?.getD []) version.code

def logVerdict (arch : Given) (version : Version) (log : Bytes) : Verdict :=
  Check.verify .loaded (machineCatalog arch version) (Text.unifyNewlines (Utf8.decodeLossy log))

def Overlong (release : Given) : Prop :=
  ∃ digits, Numeral.limit < digits ∧
    KernelRelease.versionOf? release.datum = .error (.numeral (.tooLongToRead digits))

def Nameless (arch release : Given) : Prop :=
  arch = .nothing ∧ ∃ version, KernelRelease.versionOf? release.datum = .ok version ∧
    Catalog.namingThreshold ≤ version.code

inductive Unrecorded (tree : FileTree) (options : Options) (now : Moment) (uuid : Text) (log : Bytes) :
    Given → Prop
  | refused {release runsDir : Text} {version : Version} {left : FileTree} {refusal : Refusal}
      {path : Path} (accepted : KernelRelease.version? release = .ok version)
      (asked : options.runsDir = some runsDir) (nonempty : runsDir ≠ [])
      (unwritten : Recorder.write ⟨.ofText runsDir, runId now uuid⟩ tree
        (.judged (logVerdict options.arch version log) options.arch release version.code) now =
          (left, .error (.file (.refused refusal path)))) :
      Unrecorded tree options now uuid log (.text release)

def Internal (tree : FileTree) (options : Options) (now : Moment) (uuid : Text) (release : Given)
    (log : Bytes) : Prop :=
  Overlong release ∨ Nameless options.arch release ∨ Unrecorded tree options now uuid log release

structure Ranked (tree : FileTree) (options : Options) (now : Moment) (uuid : Text)
    (release : Given) (log : Bytes) (code : Nat) : Prop where
  malformed : code = 2 ↔ Malformed release
  internal : ¬ Malformed release → (code = 4 ↔ Internal tree options now uuid release log)
  verdict : ¬ Malformed release → ¬ Internal tree options now uuid release log →
    ∃ version, KernelRelease.versionOf? release.datum = .ok version ∧
      (code = 0 ↔ (Log.extractBytes log).Perm (machineCatalog options.arch version).descriptors) ∧
      (code = 1 ↔ ¬ (Log.extractBytes log).Perm (machineCatalog options.arch version).descriptors)

section
variable {tree : FileTree} {options : Options} {now : Moment} {uuid : Text} {release : Given} {log : Bytes}

theorem accepted_wellFormed {version : Version}
    (accepted : KernelRelease.versionOf? release.datum = .ok version) : ¬ Malformed release := by
  rintro ⟨error, refused⟩
  cases accepted.symm.trans refused

theorem ranked_malformed (malformed : Malformed release) : Ranked tree options now uuid release log 2 :=
  ⟨iff_of_true rfl malformed, fun other => absurd malformed other, fun other => absurd malformed other⟩

theorem ranked_internal (wellFormed : ¬ Malformed release)
    (internal : Internal tree options now uuid release log) :
    Ranked tree options now uuid release log 4 :=
  ⟨iff_of_false (by decide) wellFormed, fun _ => iff_of_true rfl internal,
    fun _ other => absurd internal other⟩

theorem ranked_verdict {version : Version}
    (accepted : KernelRelease.versionOf? release.datum = .ok version)
    (external : ¬ Internal tree options now uuid release log) :
    Ranked tree options now uuid release log
      (if (logVerdict options.arch version log).passed then 0 else 1) := by
  have wellFormed := accepted_wellFormed accepted
  have same : (logVerdict options.arch version log).passed = true ↔
      (Log.extractBytes log).Perm (machineCatalog options.arch version).descriptors := by
    rw [logVerdict, Check.verify_passed_iff, Log.extract_decodeLossy]
  by_cases passed : (logVerdict options.arch version log).passed = true
  · rw [if_pos passed]
    exact ⟨iff_of_false (by decide) wellFormed, fun _ => iff_of_false (by decide) external,
      fun _ _ => ⟨version, accepted, iff_of_true rfl (same.mp passed),
        iff_of_false (by decide) (not_not_intro (same.mp passed))⟩⟩
  · rw [if_neg passed]
    have apart := fun equal => passed (same.mpr equal)
    exact ⟨iff_of_false (by decide) wellFormed, fun _ => iff_of_false (by decide) external,
      fun _ _ => ⟨version, accepted, iff_of_false (by decide) apart, iff_of_true rfl apart⟩⟩

end

inductive Judged (options : Options) (inputs : Inputs) : Except Abort Finding → Prop
  | refused {refusal : KernelRelease.Refusal}
      (refused : KernelRelease.versionOf? inputs.release.datum = .error refusal) :
      Judged options inputs (.error (.ofRefusal refusal))
  | nameless {version : Version}
      (accepted : KernelRelease.versionOf? inputs.release.datum = .ok version)
      (absent : options.arch = .nothing) (late : Catalog.namingThreshold ≤ version.code) :
      Judged options inputs (.error .noArch)
  | found {release : Text} {version : Version} (given : inputs.release = .text release)
      (accepted : KernelRelease.versionOf? inputs.release.datum = .ok version)
      (named : options.arch = .nothing → version.code < Catalog.namingThreshold) :
      Judged options inputs (.ok ⟨options.arch, release, version.code,
        Check.verify .loaded (machineCatalog options.arch version) inputs.log⟩)

theorem judged (options : Options) (inputs : Inputs) : Judged options inputs (judge options inputs) := by
  obtain ⟨given, log⟩ := inputs
  obtain ⟨arch, source, logFile, runsDir⟩ := options
  cases given with
  | nothing => exact .refused rfl
  | text release =>
    rw [judge]
    dsimp only
    rw [judgeText]
    cases accepted : KernelRelease.version? release with
    | error refusal => exact .refused accepted
    | ok version =>
      cases arch with
      | text arch => exact .found rfl accepted fun absent => by cases absent
      | nothing =>
        dsimp only [catalog?]
        split
        · rename_i late
          exact .nameless accepted rfl late
        · rename_i early
          exact .found rfl accepted fun _ => Int.not_le.mp early

section
variable {tree left : FileTree} {options : Options} {now : Moment} {uuid : Text} {release : Given}
  {log : Bytes} {reply : Reply}

theorem ranked_abort {reason : Abort}
    (aborted : judge options ⟨release, Text.unifyNewlines (Utf8.decodeLossy log)⟩ = .error reason) :
    Ranked tree options now uuid release log reason.type.exitCode := by
  have ways := judged options ⟨release, Text.unifyNewlines (Utf8.decodeLossy log)⟩
  rw [aborted] at ways
  cases ways with
  | @refused refusal refused =>
    cases refusal with
    | release error => exact ranked_malformed ⟨error, refused⟩
    | numeral fault =>
      obtain ⟨digits, long, rfl⟩ := KernelRelease.versionOf?_numeral refused
      refine ranked_internal ?_ (.inl ⟨digits, long, refused⟩)
      rintro ⟨error, other⟩
      cases refused.symm.trans other
  | nameless accepted absent late =>
    exact ranked_internal (accepted_wellFormed accepted) (.inr (.inl ⟨absent, _, accepted, late⟩))

theorem Internal.unwritten {text : Text} {version : Version}
    (accepted : KernelRelease.version? text = .ok version)
    (named : options.arch = .nothing → version.code < Catalog.namingThreshold)
    (internal : Internal tree options now uuid (.text text) log) :
    ∃ recorder left refusal path, recorder? options now uuid = some recorder ∧
      recorder.write tree (.judged (logVerdict options.arch version log) options.arch text version.code)
        now = (left, .error (.file (.refused refusal path))) := by
  rcases internal with ⟨digits, -, refused⟩ | ⟨absent, other, again, late⟩ | unrecorded
  · cases accepted.symm.trans refused
  · cases accepted.symm.trans again
    exact absurd late (Int.not_le.mpr (named absent))
  · cases unrecorded with
    | refused again asked nonempty unwritten =>
      cases accepted.symm.trans again
      exact ⟨_, _, _, _, recorder?_eq_some_iff.mpr ⟨_, asked, nonempty, rfl⟩, unwritten⟩

theorem ranked_finding {finding : Finding} {summary : Text}
    (found : judge options ⟨release, Text.unifyNewlines (Utf8.decodeLossy log)⟩ = .ok finding)
    (carried : Finished (.verdict finding summary) now tree (recorder? options now uuid) (reply, left)) :
    Ranked tree options now uuid release log reply.exitCode := by
  have ways := judged options ⟨release, Text.unifyNewlines (Utf8.decodeLossy log)⟩
  rw [found] at ways
  cases ways with
  | @found text version given accepted named =>
    cases given
    have unwritten := @Internal.unwritten tree options now uuid log text version accepted named
    generalize asked : recorder? options now uuid = recorder? at carried unwritten
    cases carried with
    | unkept =>
      refine ranked_verdict accepted fun internal => ?_
      obtain ⟨recorder, other, refusal, path, equal, -⟩ := unwritten internal
      cases equal
    | kept written =>
      refine ranked_verdict accepted fun internal => ?_
      obtain ⟨recorder, other, refusal, path, equal, failed⟩ := unwritten internal
      cases equal
      cases written.symm.trans failed
    | refused failed =>
      obtain ⟨runsDir, given, nonempty, rfl⟩ := recorder?_eq_some_iff.mp asked
      exact ranked_internal (accepted_wellFormed accepted)
        (.inr (.inr (.refused accepted given nonempty failed)))

theorem ranked_decision {decision : Decision}
    (reached : decide options (.ok ⟨release, Text.unifyNewlines (Utf8.decodeLossy log)⟩) = .ok decision)
    (carried : Finished decision now tree (recorder? options now uuid) (reply, left)) :
    Ranked tree options now uuid release log reply.exitCode := by
  have ways := decided options (.ok ⟨release, Text.unifyNewlines (Utf8.decodeLossy log)⟩)
  rw [reached] at ways
  cases ways with
  | refused aborted =>
    rw [carried.abort_exitCode]
    exact ranked_abort aborted
  | reached found written => exact ranked_finding found carried

theorem Ranked.ne_three {code : Nat} (ranked : Ranked tree options now uuid release log code) :
    code ≠ 3 := by
  rintro rfl
  have wellFormed : ¬ Malformed release := fun malformed => by cases ranked.malformed.mpr malformed
  have external : ¬ Internal tree options now uuid release log := fun internal => by
    cases (ranked.internal wellFormed).mpr internal
  obtain ⟨version, -, passed, failed⟩ := ranked.verdict wellFormed external
  cases failed.mpr fun same => by cases passed.mpr same

-- A code tells its cause: what could not be read, then a malformed release, then an internal error, then
-- the verdict.
theorem run_exitCode_ranked {arguments : List Text}
    (parsed : CommandLine.parse arguments = .ok options)
    (ended : run arguments now uuid tree = .ok (.finished reply, left)) :
    (reply.exitCode = 3 ↔ Unreadable tree options) ∧
    (¬ Unreadable tree options → ∃ release log, Supplied tree options release log) ∧
    ∀ release log, Supplied tree options release log →
      Ranked tree options now uuid release log reply.exitCode := by
  obtain ⟨decision, reached, concluded⟩ := (run_finished_iff parsed).mp ended
  have carried := finished concluded
  have ranked : ∀ release log, Supplied tree options release log →
      Ranked tree options now uuid release log reply.exitCode := by
    intro release log given
    rw [given.readInputs_ok] at reached
    exact ranked_decision reached carried
  cases supplied : readInputs tree.read options with
  | ok inputs =>
    obtain ⟨log, given⟩ := readInputs_supplied supplied
    exact ⟨iff_of_false (ranked _ _ given).ne_three given.readable, fun _ => ⟨_, _, given⟩, ranked⟩
  | error fault =>
    have ways := decided options (.error fault)
    rw [← supplied, reached, supplied] at ways
    cases ways with
    | unread named nulFree shallow =>
      have unreadable := unreadable_of_error supplied named nulFree shallow
      exact ⟨iff_of_true carried.abort_exitCode unreadable, absurd unreadable, ranked⟩

end

def occupiedArguments : List Text :=
  ["--arch=x", "--kernel-release=5.4.0", "--log-file=log", "--runs-dir=log"]

def occupiedOptions : Options := ⟨.text "x", .given (.text "5.4.0"), .text "log", some "log"⟩

theorem emptyLog_supplied {options : Options} (released : options.release = .given (.text "5.4.0"))
    (named : options.logFile = .text "log") : Supplied emptyLog options (.text "5.4.0") [] := by
  refine ⟨released ▸ .given _, "log", named, ?_⟩
  decide +kernel

theorem plainRelease_accepted : KernelRelease.version? ("5.4.0" : Text) = .ok ⟨5, 4, 0⟩ := by
  rw [Text.ofString_eq]
  rfl

theorem occupiedRunsDir_unrecorded : ∃ reply left,
    run occupiedArguments epoch [] emptyLog = .ok (.finished reply, left) ∧
      reply.exitCode = 4 ∧ Unrecorded emptyLog occupiedOptions epoch [] [] (.text "5.4.0") := by
  have parsed : CommandLine.parse occupiedArguments = .ok occupiedOptions := by
    decide +kernel
  have ends : EndsWith (run occupiedArguments epoch [] emptyLog) 4 := by decide +kernel
  obtain ⟨reply, left, ended, code⟩ := ends
  have supplied : Supplied emptyLog occupiedOptions (.text "5.4.0") [] := emptyLog_supplied rfl rfl
  have ranked := (run_exitCode_ranked parsed ended).2.2 _ _ supplied
  have wellFormed := @accepted_wellFormed (.text "5.4.0") _ plainRelease_accepted
  refine ⟨reply, left, ended, code, ?_⟩
  rcases (ranked.internal wellFormed).mp code with ⟨digits, -, refused⟩ | ⟨absent, -⟩ | unrecorded
  · cases plainRelease_accepted.symm.trans refused
  · cases absent
  · exact unrecorded

def namelessOptions : Options := ⟨.nothing, .given (.text "5.4.0"), .text "log", none⟩

theorem absentArch_internal : ¬ ∀ (arguments : List Text) (options : Options) (now : Moment) (uuid : Text)
    (tree left : FileTree) (reply : Reply) (release : Given) (log : Bytes),
    CommandLine.parse arguments = .ok options → (∀ argument ∈ arguments, argument.NulFree) →
    run arguments now uuid tree = .ok (.finished reply, left) → Supplied tree options release log →
    ¬ Malformed release →
    (reply.exitCode = 4 ↔ Overlong release ∨ Unrecorded tree options now uuid log release) := by
  intro every
  have parsed : CommandLine.parse ["--arch=--", "--kernel-release=5.4.0", "--log-file=log"] =
      .ok namelessOptions := by decide +kernel
  have supplied := @emptyLog_supplied namelessOptions rfl rfl
  have reached : decide namelessOptions (readInputs emptyLog.read namelessOptions) =
      .ok (.abort .noArch) := by
    rw [supplied.readInputs_ok, decide, judge]
    dsimp only
    rw [judgeText, plainRelease_accepted]
    rfl
  have ended := run_unkept parsed rfl reached epoch []
  have wellFormed := @accepted_wellFormed (.text "5.4.0") _ plainRelease_accepted
  have explained := every _ _ _ _ _ _ _ _ _ parsed (by decide +kernel) ended supplied wellFormed
  rcases explained.mp rfl with ⟨digits, -, refused⟩ | unrecorded
  · cases plainRelease_accepted.symm.trans refused
  · cases unrecorded with
    | refused accepted asked => cases asked

end Gate
end ProbeCheck
