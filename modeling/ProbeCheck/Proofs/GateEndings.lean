import ProbeCheck.Proofs.DeepDirectories
import ProbeCheck.Proofs.GateSteps
import ProbeCheck.Proofs.SettingOrder
import ProbeCheck.Proofs.WrittenReleases

namespace ProbeCheck

namespace CommandLine

structure Options.NulFree (options : Options) : Prop where
  release : ∀ name, options.release = .file (.text name) → name.NulFree
  logFile : ∀ name, options.logFile = .text name → name.NulFree
  runsDir : ∀ name, options.runsDir = some name → name.NulFree

theorem Drawn.nulFree {arguments : List Text} {value : Text} (drawn : Drawn arguments value)
    (clean : ∀ argument ∈ arguments, argument.NulFree) : value.NulFree := by
  obtain ⟨argument, member, ending⟩ := drawn
  exact fun nul => clean argument member (ending.subset nul)

theorem parse_nulFree {arguments : List Text} {options : Options}
    (clean : ∀ argument ∈ arguments, argument.NulFree)
    (parsed : parse arguments = .ok options) : options.NulFree := by
  have drawn := parse_drawn parsed
  refine ⟨fun name named => ?_, fun name named => ?_, fun name named => ?_⟩
  · have source := drawn.release
    rw [named] at source
    exact (source name rfl).nulFree clean
  · exact (drawn.logFile name named).nulFree clean
  · exact (drawn.runsDir name named).nulFree clean

end CommandLine

namespace Gate
open CommandLine (Options)

def Refuses (read : Path → Except FileFault Bytes) : Prop :=
  ∀ path, path.NulFree → ∀ fault, read path = .error fault → ∃ refusal, fault = .refused refusal path

theorem refuses_tree (tree : FileTree) : Refuses tree.read :=
  fun _ clean _ failed => (FileTree.read_faultOf failed).refusal clean

inductive Unnamed (read : Path → Except FileFault Bytes) (options : Options) : Prop
  | releaseFile (absent : options.release = .file .nothing)
  | logFile {release : Given} (released : readRelease read options.release = .ok release)
      (absent : options.logFile = .nothing)

-- A release was accepted and a catalog found, but the version code has too many digits to be shown.
inductive LongCode (options : Options) : Except InputFault Inputs → Prop
  | shown {arch release log : Text} {version : Version} (named : options.arch = .text arch)
      (accepted : KernelRelease.version? release = .ok version)
      (long : Numeral.bound ≤ version.code.natAbs) : LongCode options (.ok ⟨.text release, log⟩)

inductive TooDeep (tree : FileTree) (options : Options) : Prop
  | runsDir {runsDir : Text} (asked : options.runsDir = some runsDir) (nonempty : runsDir ≠ [])
      (beyond : tree.Beyond (.ofText runsDir) tree.reach)

def Unanswered (tree : FileTree) (options : Options) : Prop :=
  Unnamed tree.read options ∨ LongCode options (readInputs tree.read options) ∨ TooDeep tree options

section
variable {read : Path → Except FileFault Bytes} {options : Options} {fault : FileFault}

theorem readNamed_refusal {given : Given} (refuses : Refuses read)
    (clean : ∀ name, given = .text name → name.NulFree)
    (failed : readNamed read given = .error (.file fault)) :
    ∃ refusal path, fault = .refused refusal path := by
  unfold readNamed at failed
  split at failed
  · cases failed
  · rename_i name
    split at failed
    · rename_i unread
      cases failed
      obtain ⟨refusal, equal⟩ := refuses _ (Path.ofText_nulFree (clean name rfl)) _ unread
      exact ⟨refusal, _, equal⟩
    · cases failed

theorem readRelease_refusal {source : CommandLine.ReleaseSource} (refuses : Refuses read)
    (clean : ∀ name, source = .file (.text name) → name.NulFree)
    (failed : readRelease read source = .error (.file fault)) :
    ∃ refusal path, fault = .refused refusal path := by
  cases source with
  | given release => cases failed
  | file name =>
    have unread := (readRelease_file_error_iff (by simp)).mp failed
    exact readNamed_refusal refuses (fun text equal => clean text (by rw [equal])) unread

theorem readInputs_noPath_iff :
    readInputs read options = .error .noPath ↔ Unnamed read options := by
  rw [readInputs_error_iff, readRelease_noPath_iff, readNamed_noPath_iff]
  constructor
  · rintro (absent | ⟨release, released, absent⟩)
    · exact .releaseFile absent
    · exact .logFile released absent
  · rintro (absent | ⟨released, absent⟩)
    · exact .inl absent
    · exact .inr ⟨_, released, absent⟩

theorem readInputs_refusal (refuses : Refuses read) (clean : options.NulFree)
    (failed : readInputs read options = .error (.file fault)) :
    ∃ refusal path, fault = .refused refusal path := by
  rcases readInputs_error_iff.mp failed with unreleased | ⟨release, released, unread⟩
  · exact readRelease_refusal refuses clean.release unreleased
  · exact readNamed_refusal refuses clean.logFile unread

end

section
variable {options : Options}

theorem catalog?_long {arch : Given} {code : Int} {catalog : Catalog} (natural : 0 ≤ code)
    (long : Numeral.bound ≤ code.natAbs) (found : catalog? arch code = .ok catalog) :
    ∃ text, arch = .text text := by
  -- Without an architecture there is a catalog for small codes only, and those can all be written.
  cases arch with
  | text text => exact ⟨text, rfl⟩
  | nothing =>
    unfold catalog? at found
    dsimp only at found
    split at found
    · cases found
    · rename_i early
      have small : code.natAbs < 100000 := by
        simp only [Catalog.namingThreshold] at early
        omega
      exact absurd (Numeral.lt_bound small) (by omega)

theorem longCode_iff {inputs : Inputs} : LongCode options (.ok inputs) ↔
    ∃ finding, judge options inputs = .ok finding ∧ Numeral.bound ≤ finding.code.natAbs := by
  constructor
  · intro long
    cases long with
    | @shown arch release log version named accepted long =>
      have found : catalog? options.arch version.code = .ok (.expected arch version.code) := by
        rw [named, catalog?]
      exact ⟨_, judge_ok_iff.mpr ⟨release, version, _, rfl, accepted, found, rfl⟩, long⟩
  · rintro ⟨finding, judged, long⟩
    obtain ⟨release, version, catalog, given, accepted, found, rfl⟩ := judge_ok_iff.mp judged
    obtain ⟨arch, named⟩ := catalog?_long (KernelRelease.code_nonneg accepted) long found
    obtain ⟨source, log⟩ := inputs
    cases given
    exact .shown named accepted long

theorem decide_error_iff {supplied : Except InputFault Inputs} (refused : ∀ fault,
      supplied = .error (.file fault) → ∃ refusal path, fault = .refused refusal path) :
    (∃ escape, decide options supplied = .error escape) ↔
      supplied = .error .noPath ∨ LongCode options supplied := by
  constructor
  · rintro ⟨escape, escaped⟩
    have ways := decided options supplied
    rw [escaped] at ways
    cases ways with
    | noPath => exact .inl rfl
    | nul =>
      obtain ⟨refusal, path, equal⟩ := refused _ rfl
      cases equal
    | tooDeep =>
      obtain ⟨refusal, path, equal⟩ := refused _ rfl
      cases equal
    | unshown judged unwritten =>
      have long := (summary_error_iff ..).mp ⟨_, unwritten⟩
      exact .inr (longCode_iff.mpr ⟨_, judged, long⟩)
  · rintro (rfl | long)
    · exact ⟨_, rfl⟩
    · cases supplied with
      | error fault => cases long
      | ok inputs =>
        obtain ⟨finding, judged, beyond⟩ := longCode_iff.mp long
        obtain ⟨fault, unwritten⟩ := (summary_error_iff finding.verdict finding.arch.shown
          finding.release finding.code).mpr beyond
        refine ⟨.numeral fault, ?_⟩
        rw [decide_judged judged, unwritten]
        rfl

theorem recorded_exitCode_le (decision : Decision) (path? : Option Path) :
    (decision.recorded path?).exitCode ≤ 4 := by
  cases decision with
  | verdict finding summary =>
    dsimp only [Decision.recorded]
    split <;> decide
  | abort reason => exact FailureType.exitCode_le _

theorem unrecorded_exitCode_le (decision : Decision) (fault : FileFault) :
    (decision.unrecorded fault).exitCode ≤ 4 := by
  cases decision with
  | verdict finding summary => exact Nat.le_refl 4
  | abort reason => exact FailureType.exitCode_le _

theorem recorder?_nulFree (clean : options.NulFree) {now : Moment} {uuid : Text}
    (identified : uuid.NulFree) {recorder : Recorder}
    (kept : recorder? options now uuid = some recorder) : recorder.NulFree := by
  have shortened : Text.NulFree (uuid.take 8) := fun nul => identified (List.mem_of_mem_take nul)
  have opening : Text.NulFree ("CHECK-" : Text) := by simp [Text.NulFree]
  unfold recorder? at kept
  split at kept
  · cases kept
  · cases kept
  · rename_i name _ given
    cases kept
    exact ⟨Path.ofText_nulFree (clean.runsDir name given),
      (opening.append now.dayStamp_nulFree).append
        ((Text.map_toUpper_nulFree shortened).cons (by decide))⟩

theorem tooDeep_iff {tree : FileTree} (now : Moment) (uuid : Text) : TooDeep tree options ↔
    ∃ recorder, recorder? options now uuid = some recorder ∧
      tree.Beyond recorder.directory tree.reach := by
  constructor
  · rintro ⟨asked, nonempty, beyond⟩
    exact ⟨_, recorder?_eq_some_iff.mpr ⟨_, asked, nonempty, rfl⟩, beyond⟩
  · rintro ⟨recorder, kept, beyond⟩
    obtain ⟨runsDir, asked, nonempty, rfl⟩ := recorder?_eq_some_iff.mp kept
    exact .runsDir asked nonempty beyond

theorem finish_tooDeep {decision : Decision} {recorder : Recorder} {tree : FileTree}
    (beyond : tree.Beyond recorder.directory tree.reach) (now : Moment) :
    finish decision (some recorder) now tree = .error .tooDeep := by
  unfold finish
  dsimp only
  rw [Recorder.write_tooDeep_iff.mpr ⟨rfl, beyond⟩]
  rfl

theorem finish_ok {decision : Decision} {kept : Option Recorder} {tree : FileTree}
    (writable : decision.record.Writable) (clean : ∀ recorder, kept = some recorder → recorder.NulFree)
    (shallow : ∀ recorder, kept = some recorder → ¬ tree.Beyond recorder.directory tree.reach)
    (now : Moment) :
    ∃ reply left, finish decision kept now tree = .ok (reply, left) ∧ reply.exitCode ≤ 4 := by
  cases kept with
  | none => exact ⟨_, _, rfl, recorded_exitCode_le decision none⟩
  | some recorder =>
    unfold finish
    dsimp only
    cases outcome : recorder.write tree decision.record now with
    | mk left written =>
      cases written with
      | ok path => exact ⟨_, _, rfl, recorded_exitCode_le decision (some path)⟩
      | error fault =>
        cases fault with
        | numeral fault => exact absurd outcome (Recorder.write_numeral writable now left fault)
        | file fault =>
          rcases Recorder.write_refused (clean recorder rfl) outcome with rfl | ⟨refusal, path, rfl⟩
          · exact absurd (Recorder.write_tooDeep_iff.mp outcome).2 (shallow recorder rfl)
          · exact ⟨_, _, rfl, unrecorded_exitCode_le decision _⟩

theorem decide_escapes_iff (clean : options.NulFree) (tree : FileTree) :
    (∃ escape, decide options (readInputs tree.read options) = .error escape) ↔
      Unnamed tree.read options ∨ LongCode options (readInputs tree.read options) := by
  rw [decide_error_iff fun _ => readInputs_refusal (refuses_tree tree) clean, readInputs_noPath_iff]

theorem run_escapes {arguments : List Text} (parsed : CommandLine.parse arguments = .ok options)
    (clean : options.NulFree) (now : Moment) (uuid : Text) {tree : FileTree}
    (unanswered : Unanswered tree options) : ∃ escape, run arguments now uuid tree = .error escape := by
  have escapes := decide_escapes_iff clean tree
  rw [run_parsed parsed]
  cases reached : decide options (readInputs tree.read options) with
  | error escape => exact ⟨escape, rfl⟩
  | ok decision =>
    rw [reached] at escapes
    rcases unanswered with unnamed | long | deep
    · obtain ⟨escape, stuck⟩ := escapes.mpr (.inl unnamed)
      cases stuck
    · obtain ⟨escape, stuck⟩ := escapes.mpr (.inr long)
      cases stuck
    · obtain ⟨recorder, kept, beyond⟩ := (tooDeep_iff now uuid).mp deep
      refine ⟨.tooDeep, ?_⟩
      rw [Except.bind, kept, finish_tooDeep beyond]
      rfl

theorem run_answers {arguments : List Text} (parsed : CommandLine.parse arguments = .ok options)
    (clean : options.NulFree) (now : Moment) {uuid : Text} (identified : uuid.NulFree)
    {tree : FileTree} (answered : ¬ Unanswered tree options) :
    ∃ reply left, run arguments now uuid tree = .ok (.finished reply, left) ∧ reply.exitCode ≤ 4 := by
  cases reached : decide options (readInputs tree.read options) with
  | error escape =>
    rcases (decide_escapes_iff clean tree).mp ⟨escape, reached⟩ with unnamed | long
    · exact absurd (.inl unnamed) answered
    · exact absurd (.inr (.inl long)) answered
  | ok decision =>
    have shallow : ∀ recorder, recorder? options now uuid = some recorder →
        ¬ tree.Beyond recorder.directory tree.reach := fun recorder kept beyond =>
      answered (.inr (.inr ((tooDeep_iff now uuid).mpr ⟨recorder, kept, beyond⟩)))
    obtain ⟨reply, left, finished, bounded⟩ := finish_ok (decide_writable reached)
      (fun recorder kept => recorder?_nulFree clean identified kept) shallow now
    exact ⟨reply, left, (run_finished_iff parsed).mpr ⟨decision, reached, finished⟩, bounded⟩

end

-- A run that was accepted ends with one of the documented exit codes, unless it was given no path
-- where it needs one, a version code that cannot be written, or a directory for records that calls do not
-- reach.
theorem run_exitCode_documented {arguments : List Text} {options : Options}
    (parsed : CommandLine.parse arguments = .ok options)
    (clean : ∀ argument ∈ arguments, argument.NulFree) (now : Moment) {uuid : Text}
    (identified : uuid.NulFree) (tree : FileTree) :
    (¬ Unanswered tree options →
      ∃ reply left, run arguments now uuid tree = .ok (.finished reply, left) ∧
        reply.exitCode ∈ [0, 1, 2, 3, 4]) ∧
    (Unanswered tree options → ∃ escape, run arguments now uuid tree = .error escape) := by
  have nulFree := CommandLine.parse_nulFree clean parsed
  constructor
  · intro answered
    obtain ⟨reply, left, ended, bounded⟩ := run_answers parsed nulFree now identified answered
    refine ⟨reply, left, ended, ?_⟩
    simp only [List.mem_cons, List.not_mem_nil, or_false]
    omega
  · exact run_escapes parsed nulFree now uuid

def emptyLog : FileTree := { entries := [(⟨.above 0, ["log"]⟩, .file [])] }

def epoch : Moment := ⟨1970, 1, 1, 0, 0, 0, 0⟩

def plainArguments : List Text := ["--arch=x", "--kernel-release=5.4.0", "--log-file=log"]

def deepArguments : List Text := CommandLine.joined .runsDir deepRunsDir :: plainArguments

theorem plainArguments_answered :
    (∃ reply left, run plainArguments epoch [] emptyLog = .ok (.finished reply, left) ∧
      reply.exitCode ∈ [0, 1, 2, 3, 4]) ∧
    (∃ escape, run ["--arch=x", "--kernel-release=5.4.0", "--log-file=--"] epoch [] emptyLog =
      .error escape) ∧
    ∃ escape, run deepArguments epoch [] emptyLog = .error escape := by
  have identified : Text.NulFree [] := List.not_mem_nil
  refine ⟨?_, ?_, ?_⟩
  · have parsed : CommandLine.parse plainArguments =
        .ok ⟨.text "x", .given (.text "5.4.0"), .text "log", none⟩ := by decide +kernel
    have ends := run_exitCode_documented parsed (by decide +kernel) epoch
      identified emptyLog
    have evaluated : (run plainArguments epoch [] emptyLog).isOk = true := by decide +kernel
    refine ends.1 fun stuck => ?_
    obtain ⟨escape, escaped⟩ := ends.2 stuck
    rw [escaped] at evaluated
    cases evaluated
  · have parsed : CommandLine.parse ["--arch=x", "--kernel-release=5.4.0", "--log-file=--"] =
        .ok ⟨.text "x", .given (.text "5.4.0"), .nothing, none⟩ := by decide +kernel
    exact (run_exitCode_documented parsed (by decide +kernel) epoch identified
      emptyLog).2 (.inl (.logFile rfl rfl))
  · have parsed : CommandLine.parse deepArguments =
        .ok ⟨.text "x", .given (.text "5.4.0"), .text "log", some deepRunsDir⟩ := by decide +kernel
    exact (run_exitCode_documented parsed (by decide +kernel) epoch identified emptyLog).2
      (.inr (.inr (.runsDir rfl (by decide +kernel) (deepRunsDir_beyond (by decide +kernel) rfl))))

-- A release with one number, which may be within the limit while its version code is not.
def longArguments (major : Nat) : List Text :=
  [CommandLine.joined .arch "x", CommandLine.joined .kernelRelease (KernelRelease.written major 0 0),
    CommandLine.joined .logFile "log"]

theorem longArguments_nulFree (major : Nat) :
    ∀ argument ∈ longArguments major, argument.NulFree := by
  have joined (setting : CommandLine.Setting) {value : Text} (clean : value.NulFree) :
      (CommandLine.joined setting value).NulFree := by
    have name : setting.name.NulFree := by
      cases setting <;> simp [Text.NulFree, CommandLine.Setting.name]
    exact name.append (clean.cons (by decide))
  have written : (KernelRelease.written major 0 0).NulFree := fun nul =>
    absurd (KernelRelease.mem_written nul) (by decide)
  have fixed : Text.NulFree ("x" : Text) ∧ Text.NulFree ("log" : Text) := by
    simp [Text.NulFree]
  simp only [longArguments, List.mem_cons, List.not_mem_nil, or_false]
  rintro argument (rfl | rfl | rfl)
  · exact joined .arch fixed.1
  · exact joined .kernelRelease written
  · exact joined .logFile fixed.2

theorem longArguments_parsed (major : Nat) : CommandLine.parse (longArguments major) =
    .ok ⟨.text "x", .given (.text (KernelRelease.written major 0 0)), .text "log", none⟩ := by
  refine CommandLine.parse_joined (by simp) ?_ (by simp)
  intro equal
  have dot : '.' ∈ KernelRelease.written major 0 0 := by simp [KernelRelease.written]
  rw [equal] at dot
  exact absurd dot (by decide)

theorem longArguments_escape {major : Nat} (short : major < Numeral.bound)
    (long : Numeral.bound ≤ major * Version.majorWeight) (now : Moment) (uuid : Text) :
    ∃ escape, run (longArguments major) now uuid emptyLog = .error escape := by
  have parsed := longArguments_parsed major
  have accepted := KernelRelease.version?_written short (Numeral.lt_bound (by decide : 0 < 100000))
    (Numeral.lt_bound (by decide : 0 < 100000))
  have held : readNamed emptyLog.read (.text "log") = .ok [] := by
    have content : emptyLog.read (.ofText "log") = .ok [] := by decide +kernel
    rw [readNamed, content]
  have supplied : readInputs emptyLog.read
      ⟨.text "x", .given (.text (KernelRelease.written major 0 0)), .text "log", none⟩ =
      .ok ⟨.text (KernelRelease.written major 0 0), []⟩ :=
    readInputs_ok_iff.mpr ⟨[], rfl, held, rfl⟩
  refine run_escapes parsed (CommandLine.parse_nulFree (longArguments_nulFree major) parsed) now uuid
    (.inr (.inl ?_))
  have code : Version.code ⟨major, (0 : Nat), (0 : Nat)⟩ = (major * Version.majorWeight : Nat) := by
    simp [Version.code]
  rw [supplied]
  exact .shown rfl accepted (by rwa [code, Int.natAbs_natCast])

theorem exists_long : ∃ major, major < Numeral.bound ∧ Numeral.bound ≤ major * Version.majorWeight := by
  have tenfold (less : Nat) : Nat.pow 10 (less + 1) = Nat.pow 10 less * 10 := rfl
  have positive (less : Nat) : 0 < Nat.pow 10 less := Nat.pow_pos (by decide)
  obtain ⟨less, limit⟩ : ∃ less, Numeral.limit = less + 1 := ⟨4299, rfl⟩
  have filled := positive less
  unfold Numeral.bound
  rw [limit, tenfold]
  refine ⟨Nat.pow 10 less, by omega, ?_⟩
  simp only [Version.majorWeight]
  omega

theorem longArguments_unanswered : ¬ ∀ (arguments : List Text) (options : Options) (now : Moment)
    (uuid : Text) (tree : FileTree), CommandLine.parse arguments = .ok options →
    (∀ argument ∈ arguments, argument.NulFree) → uuid.NulFree →
    ∃ reply left, run arguments now uuid tree = .ok (.finished reply, left) ∧
      reply.exitCode ∈ [0, 1, 2, 3, 4] := by
  intro every
  obtain ⟨major, short, long⟩ := exists_long
  obtain ⟨escape, escaped⟩ := longArguments_escape short long epoch []
  obtain ⟨reply, left, ended, -⟩ := every (longArguments major) _ epoch [] emptyLog
    (longArguments_parsed major) (longArguments_nulFree major) List.not_mem_nil
  rw [escaped] at ended
  cases ended

end Gate
end ProbeCheck
