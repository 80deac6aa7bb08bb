import ProbeCheck.Proofs.GateVerdict
import ProbeCheck.Proofs.RecordReading
import ProbeCheck.Proofs.ReleaseGrammar
import ProbeCheck.Proofs.RunReports

namespace ProbeCheck

namespace KernelRelease

theorem ReadsField.of_ok {raw text : Text} {field : Field} {number : Nat}
    (reads : ReadsField raw field text (.ok number)) (other : Text) :
    ReadsField other field text (.ok number) := by
  cases reads with
  | read numbered short => exact .read numbered short

theorem version?_trim {raw : Text} {version : Version} (accepted : version? raw = .ok version) :
    version? (Text.trim raw) = .ok version := by
  obtain ⟨_, _, _, triple, -⟩ := exists_triple accepted
  obtain ⟨_, _, _, _, split, -⟩ := triple.fields
  obtain ⟨one, two, three, first, second, third, rfl⟩ := (version?_ok_iff split).mp accepted
  apply (version?_ok_iff ((fields_trim raw).trans split)).mpr
  exact ⟨one, two, three, first.of_ok _, second.of_ok _, third.of_ok _, rfl⟩

end KernelRelease

namespace Verdict

theorem sortTexts_again (texts : List Text) : sortTexts (sortTexts texts) = sortTexts texts :=
  sortTexts_eq_iff.mpr (sortTexts_perm texts)

theorem compare_again (actual expected : List Text) :
    compare (compare actual expected).actual (compare actual expected).expected =
      compare actual expected :=
  compare_congr (sortTexts_perm actual) (sortTexts_perm expected)

end Verdict

namespace Json

def Tree.text? : Tree → Option Text
  | .text value => some value
  | _ => none

def Tree.number? : Tree → Option Int
  | .number value => some value
  | _ => none

def Tree.texts? : Tree → Option (List Text)
  | .list items => items.mapM Tree.text?
  | _ => none

def Tree.given? : Tree → Option Given
  | .text value => some (.text value)
  | .list [] => some .nothing
  | _ => none

def Tree.field? : Tree → Text → Option Tree
  | .object fields, key => fields.lookup key
  | _, _ => none

theorem texts?_map (texts : List Text) : (Tree.list (texts.map .text)).texts? = some texts := by
  rw [Tree.texts?]
  induction texts with
  | nil => rfl
  | cons first rest ih =>
    rw [List.map_cons, List.mapM_cons, ih]
    rfl

theorem given?_archTree (arch : Given) : (RunRecord.archTree arch).given? = some arch := by
  cases arch with
  | text value => rfl
  | nothing => rfl

end Json

structure StoredVerdict where
  result : Text
  arch : Given
  release : Text
  code : Int
  actual : List Text
  expected : List Text
  missing : List Text
  unexpected : List Text

namespace StoredVerdict

def ofTree? (tree : Json.Tree) : Option StoredVerdict := do
  let result ← (← tree.field? "result").text?
  let arch ← (← tree.field? "arch").given?
  let release ← (← tree.field? "kernel_release").text?
  let code ← (← tree.field? "version_code").number?
  let actual ← (← tree.field? "actual").texts?
  let expected ← (← tree.field? "expected").texts?
  let missing ← (← tree.field? "missing").texts?
  let unexpected ← (← tree.field? "unexpected").texts?
  return ⟨result, arch, release, code, actual, expected, missing, unexpected⟩

def ofRecord (verdict : Verdict) (arch : Given) (release : Text) (code : Int) : StoredVerdict :=
  ⟨RunRecord.verdictLabel verdict.passed, arch, Text.trim release, code, verdict.actual, verdict.expected,
    verdict.missing, verdict.unexpected⟩

theorem ofTree?_entries (verdict : Verdict) (arch : Given) (release : Text) (code : Int) (runId : Text)
    (moment : Moment) :
    ofTree? (.object ((RunRecord.judged verdict arch release code).entries runId moment)) =
      some (ofRecord verdict arch release code) := by
  simp [ofTree?, Json.Tree.field?, RunRecord.entries, List.lookup_cons, Json.texts?_map, Json.given?_archTree,
    Json.Tree.text?, Json.Tree.number?, ofRecord]

def replayed (stored : StoredVerdict) : Verdict := .compare stored.actual stored.expected

structure Replays (stored : StoredVerdict) (exitCode : Nat) : Prop where
  code : (KernelRelease.version? stored.release).map Version.code = .ok stored.code
  catalog : (Gate.catalog? stored.arch stored.code).map Catalog.recordSet = .ok stored.expected
  actual : stored.replayed.actual = stored.actual
  expected : stored.replayed.expected = stored.expected
  missing : stored.replayed.missing = stored.missing
  unexpected : stored.replayed.unexpected = stored.unexpected
  passed : stored.replayed.passed = true ↔ stored.result = "PASS"
  answered : stored.result = "PASS" ↔ exitCode = 0

theorem verdictLabel_iff (passed : Bool) : RunRecord.verdictLabel passed = "PASS" ↔ passed = true := by
  cases passed with
  | false => exact ⟨fun same => absurd same (by decide +kernel), nofun⟩
  | true => exact ⟨fun _ => rfl, fun _ => rfl⟩

end StoredVerdict

namespace Gate
open CommandLine (Options joined)

theorem judge_replays {options : Options} {inputs : Inputs} {finding : Finding}
    (judged : judge options inputs = .ok finding) :
    (StoredVerdict.ofRecord finding.verdict finding.arch finding.release finding.code).Replays
      (if finding.verdict.passed then 0 else 1) := by
  obtain ⟨release, version, catalog, -, accepted, found, rfl⟩ := judge_ok_iff.mp judged
  have again := Verdict.compare_again (Log.extract .loaded inputs.log) catalog.recordSet
  have sorted : (Check.verify .loaded catalog inputs.log).expected = catalog.recordSet :=
    Verdict.sortTexts_again _
  have label := StoredVerdict.verdictLabel_iff (Check.verify .loaded catalog inputs.log).passed
  refine ⟨?_, ?_, congrArg Verdict.actual again, congrArg Verdict.expected again,
    congrArg Verdict.missing again, congrArg Verdict.unexpected again, ?_, ?_⟩
  · rw [StoredVerdict.ofRecord, KernelRelease.version?_trim accepted]
    rfl
  · simp only [StoredVerdict.ofRecord, found, sorted]
    rfl
  · exact (Eq.to_iff (congrArg (fun verdict => verdict.passed = true) again)).trans label.symm
  · apply label.trans
    split
    · rename_i passed
      exact ⟨fun _ => rfl, fun _ => passed⟩
    · rename_i failed
      exact ⟨fun passed => absurd passed failed, nofun⟩

variable {options : Options} {now : Moment} {tree left : FileTree} {reply : Reply}

def verdictPath (runsDir : Text) (now : Moment) (uuid result : Text) : Path :=
  (Path.ofText runsDir).append (.ofText (runId now uuid ++ '_' :: result ++ '_' :: now.stamp ++ ".json"))

theorem path_verdict (finding : Finding) (runsDir uuid : Text) :
    (Recorder.mk (.ofText runsDir) (runId now uuid)).path finding.record now =
      verdictPath runsDir now uuid (RunRecord.verdictLabel finding.verdict.passed) := rfl

-- The record of a run that answers with 0 or 1 stands at the path that is shown, and what it tells gives
-- its verdict and the exit code again.
theorem verdict_replays {arguments : List Text} {uuid runsDir : Text}
    (parsed : CommandLine.parse arguments = .ok options) (asked : options.runsDir = some runsDir)
    (named : runsDir ≠ []) (ended : run arguments now uuid tree = .ok (.finished reply, left))
    (answered : reply.exitCode ≤ 1) :
    ∃ text stored, left.read (verdictPath runsDir now uuid stored.result) = .ok (Utf8.encode text) ∧
      ("Result record:  " ++ (verdictPath runsDir now uuid stored.result).text ++ ['\n'] : Text) <:+
        reply.stdout ∧
      (Json.read? text).bind StoredVerdict.ofTree? = some stored ∧ stored.Replays reply.exitCode := by
  obtain ⟨decision, reached, concluded⟩ := (run_finished_iff parsed).mp ended
  have carried := finished concluded
  have kept : recorder? options now uuid = some ⟨.ofText runsDir, runId now uuid⟩ :=
    recorder?_eq_some_iff.mpr ⟨runsDir, asked, named, rfl⟩
  rw [kept] at carried
  cases decision with
  | abort reason =>
    have atLeast := reason.exitCode_ge
    rw [← carried.abort_exitCode] at atLeast
    omega
  | verdict finding summary =>
    obtain ⟨⟨inputs, -, judged⟩, -⟩ := decide_verdict reached
    have writable := decide_writable reached
    cases carried with
    | refused =>
      have lost : FailureType.internal.exitCode ≤ 1 := answered
      exact absurd lost (by decide)
    | kept written =>
      obtain ⟨rfl, -⟩ := Recorder.write_kept written
      have readsBack := Recorder.readsBack ⟨.ofText runsDir, runId now uuid⟩ writable now
      refine ⟨_, .ofRecord finding.verdict finding.arch finding.release finding.code,
        Recorder.read_written written, ⟨summary ++ ['\n'], ?_⟩, ?_, judge_replays judged⟩
      · rw [List.append_assoc]
        rfl
      · rw [readsBack.read]
        exact StoredVerdict.ofTree?_entries _ _ _ _ _ _

theorem run_kept {arguments : List Text} {uuid : Text} {inputs : Inputs} {finding : Finding}
    {recorder : Recorder} {path : Path} (parsed : CommandLine.parse arguments = .ok options)
    (supplied : readInputs tree.read options = .ok inputs) (judged : judge options inputs = .ok finding)
    (short : finding.code.natAbs < Numeral.bound) (asked : recorder? options now uuid = some recorder)
    (written : recorder.write tree finding.record now = (left, .ok path)) :
    ∃ reply, run arguments now uuid tree = .ok (.finished reply, left) ∧
      reply.exitCode = if finding.verdict.passed then 0 else 1 := by
  obtain ⟨summary, reached⟩ := exists_verdict judged short
  rw [← supplied] at reached
  have carried : finish (.verdict finding summary) (some recorder) now tree =
      .ok ((Decision.verdict finding summary).recorded (some path), left) := by
    unfold finish
    dsimp only
    rw [Decision.record]
    rw [Finding.record] at written
    rw [written]
    rfl
  exact ⟨_, (run_finished_iff parsed).mpr ⟨_, reached, asked ▸ carried⟩, rfl⟩

def blankArguments : List Text :=
  [joined .arch "amd64", joined .kernelRelease " 5.4.0-42-generic\t", joined .logFile "log",
    joined .runsDir "runs"]

def blankOptions : Options :=
  ⟨.text "amd64", .given (.text " 5.4.0-42-generic\t"), .text "log", some "runs"⟩

def blankFinding : Finding :=
  ⟨.text "amd64", " 5.4.0-42-generic\t", 50400,
    Check.verify .loaded (.expected "amd64" 50400) (Text.unifyNewlines Check.startupLog)⟩

theorem blankRelease_replays : ∃ reply left text stored,
    run blankArguments epoch [] startupTree = .ok (.finished reply, left) ∧ reply.exitCode = 0 ∧
      left.read (verdictPath "runs" epoch [] "PASS") = .ok (Utf8.encode text) ∧
      (Json.read? text).bind StoredVerdict.ofTree? = some stored ∧ stored.Replays 0 := by
  have parsed : CommandLine.parse blankArguments = .ok blankOptions := by decide +kernel
  have held : startupTree.read (.ofText "log") = .ok (Utf8.encode Check.startupLog) := by decide +kernel
  have supplied : readInputs startupTree.read blankOptions =
      .ok ⟨.text " 5.4.0-42-generic\t", Text.unifyNewlines Check.startupLog⟩ :=
    readInputs_ok_iff.mpr ⟨Utf8.encode Check.startupLog, rfl, by simp only [readNamed, blankOptions, held],
      by rw [Utf8.decodeLossy_encode]⟩
  have accepted : KernelRelease.version? (" 5.4.0-42-generic\t" : Text) = .ok ⟨5, 4, 0⟩ := by
    rw [Text.ofString_eq]
    rfl
  have judged : judge blankOptions ⟨.text " 5.4.0-42-generic\t", Text.unifyNewlines Check.startupLog⟩ =
      .ok blankFinding := judge_ok_iff.mpr ⟨_, _, _, rfl, accepted, rfl, rfl⟩
  have passed : blankFinding.verdict.passed = true := by
    apply (Check.verify_passed_iff _ _ _).mpr
    exact (sortTexts_perm _).trans (by decide +kernel)
  have place := @path_verdict epoch blankFinding "runs" []
  rw [passed] at place
  have short : blankFinding.code.natAbs < Numeral.bound := Numeral.lt_bound (by decide)
  obtain ⟨left, written⟩ := @Recorder.exists_written ⟨.ofText "runs", runId epoch []⟩ startupTree
    blankFinding.record epoch short (by decide +kernel) (by rw [place]; decide +kernel)
    (by rw [place]; decide +kernel)
  have asked : recorder? blankOptions epoch [] = some ⟨.ofText "runs", runId epoch []⟩ :=
    recorder?_eq_some_iff.mpr ⟨"runs", rfl, by decide +kernel, rfl⟩
  obtain ⟨reply, ended, code⟩ := run_kept parsed supplied judged short asked written
  have zero : reply.exitCode = 0 := code.trans (if_pos passed)
  obtain ⟨text, stored, held, -, readsBack, replays⟩ :=
    verdict_replays parsed rfl (by decide +kernel) ended (zero ▸ Nat.zero_le 1)
  rw [replays.answered.mpr zero] at held
  exact ⟨reply, left, text, stored, ended, zero, held, readsBack, zero ▸ replays⟩

end Gate
end ProbeCheck
