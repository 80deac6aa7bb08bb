import ProbeCheck.Proofs.FailureOutput
import ProbeCheck.Proofs.TreeGrowth

namespace ProbeCheck

def Json.field? (object : Json.Object) (key : Text) : Option Json.Value := object.lookup key

namespace Gate
open CommandLine (Options)

def Reaches (tree : FileTree) (options : Options) (finding : Finding) : Prop :=
  ∃ inputs, readInputs tree.read options = .ok inputs ∧ judge options inputs = .ok finding

def Finding.record (finding : Finding) : RunRecord :=
  .judged finding.verdict finding.arch finding.release finding.code

inductive Shown (record : RunRecord) (now : Moment) (tree : FileTree) (summary : Text) :
    Option Recorder → Reply → FileTree → Prop
  | alone {code : Nat} : Shown record now tree summary none ⟨code, summary ++ ['\n'], []⟩ tree
  | kept {code : Nat} {recorder : Recorder} {left : FileTree} (kept : recorder.Kept record now tree left) :
      Shown record now tree summary (some recorder)
        ⟨code, summary ++ '\n' :: ("Result record:  " ++ (recorder.path record now).text ++ ['\n']), []⟩
        left

inductive Aborted (type : FailureType) (detail : Text) (now : Moment) (tree : FileTree) :
    Option Recorder → Reply → FileTree → Prop
  | alone {stderr : Text} (plain : Plain stderr (failureLines type detail)) :
      Aborted type detail now tree none ⟨type.exitCode, [], stderr⟩ tree
  | kept {stderr : Text} {recorder : Recorder} {left : FileTree}
      (plain : Plain stderr (failureLines type detail))
      (kept : recorder.Kept (.failed type.id detail) now tree left) :
      Aborted type detail now tree (some recorder) ⟨type.exitCode, [], stderr⟩ left
  | refused {stderr message : Text} {recorder : Recorder} {left : FileTree}
      (plain : Plain stderr (failureLines type detail ++ [unkeptLine message]))
      (grown : tree.Grown left recorder.directory) :
      Aborted type detail now tree (some recorder) ⟨type.exitCode, [], stderr⟩ left

inductive Lost (tree : FileTree) (summary : Text) : Option Recorder → Reply → FileTree → Prop
  | refused {stderr message : Text} {recorder : Recorder} {left : FileTree}
      (plain : Plain stderr (failureLines .internal (lostDetail message)))
      (grown : tree.Grown left recorder.directory) :
      Lost tree summary (some recorder) ⟨4, summary ++ ['\n'], stderr⟩ left

-- The failures that end a run, by their exit codes. A wrong verdict is not reported as one.
def reported : List (Nat × Text) :=
  [(2, "PARSE_ERROR"), (3, "INPUT_UNAVAILABLE"), (4, "CHECK_INTERNAL_ERROR")]

theorem Abort.type_reported (reason : Abort) : (reason.type.exitCode, reason.type.id) ∈ reported := by
  cases reason <;> simp [Abort.type, FailureType.exitCode, FailureType.id, reported]

section
variable {options : Options} {now : Moment} {tree left : FileTree} {kept : Option Recorder} {reply : Reply}

theorem Finished.shown_or_lost {finding : Finding} {summary : Text}
    (carried : Finished (.verdict finding summary) now tree kept (reply, left)) :
    (reply.exitCode = if finding.verdict.passed then 0 else 1) ∧
        Shown finding.record now tree summary kept reply left ∨
      reply.exitCode = 4 ∧ Lost tree summary kept reply left := by
  cases carried with
  | unkept => exact .inl ⟨rfl, .alone⟩
  | kept written =>
    obtain ⟨rfl, held⟩ := Recorder.write_kept written
    exact .inl ⟨rfl, .kept held⟩
  | refused unwritten => exact .inr ⟨rfl, .refused (plain_lost _) (Recorder.write_unkept unwritten)⟩

theorem Finished.aborted {reason : Abort} (printable : reason.detail.Printable)
    (carried : Finished (.abort reason) now tree kept (reply, left)) :
    Aborted reason.type reason.detail now tree kept reply left := by
  have block := plain_failureBlock reason.type printable
  cases carried with
  | unkept => exact .alone block
  | kept written =>
    obtain ⟨rfl, held⟩ := Recorder.write_kept written
    exact .kept block held
  | refused unwritten =>
    exact .refused (plain_unkept reason.type printable _) (Recorder.write_unkept unwritten)

theorem Finished.unchanged {decision : Decision}
    (carried : Finished decision now tree none (reply, left)) : left = tree := by
  cases carried
  rfl

theorem Finished.files {decision : Decision}
    (carried : Finished decision now tree kept (reply, left)) {place : Place}
    (apart : ∀ recorder record, kept = some recorder → place ≠ (recorder.path record now).place)
    (content : Bytes) :
    left.find? place = some (.file content) ↔ tree.find? place = some (.file content) := by
  cases carried with
  | unkept => exact Iff.rfl
  | kept written =>
    obtain ⟨-, held⟩ := Recorder.write_kept written
    exact (held.others place (apart _ _ rfl)).file_iff content
  | refused unwritten => exact (Recorder.write_unkept unwritten place).file_iff content

theorem not_reaches_abort {reason : Abort}
    (reached : decide options (readInputs tree.read options) = .ok (.abort reason)) :
    ¬ ∃ finding, Reaches tree options finding := by
  rintro ⟨finding, inputs, supplied, judged⟩
  rw [supplied, decide_judged judged] at reached
  cases written : Summary.text? finding.verdict finding.arch.shown finding.release finding.code with
  | error fault => rw [written] at reached; cases reached
  | ok summary => rw [written] at reached; cases reached

theorem Abort.exitCode_ge (reason : Abort) : 2 ≤ reason.type.exitCode := by
  cases reason <;> simp [Abort.type, FailureType.exitCode]

theorem recorder?_eq_none {uuid : Text} (unasked : options.runsDir.getD [] = []) :
    recorder? options now uuid = none := by
  refine Option.eq_none_iff_forall_ne_some.mpr fun recorder kept => ?_
  obtain ⟨runsDir, asked, nonempty, -⟩ := recorder?_eq_some_iff.mp kept
  rw [asked] at unasked
  exact nonempty unasked

theorem label_verdict {finding : Finding}
    (code : reply.exitCode = if finding.verdict.passed then 0 else 1) :
    finding.record.label = if reply.exitCode = 0 then "PASS" else "FAIL" := by
  rw [code, Finding.record, RunRecord.label]
  cases finding.verdict.passed <;> rfl

theorem failed_fields (type : FailureType) (detail runId : Text) (now : Moment) :
    Json.field? ((RunRecord.failed type.id detail).fields runId now) "exit_code" =
        some (.number type.exitCode) ∧
      Json.field? ((RunRecord.failed type.id detail).fields runId now) "detail" = some (.text detail) := by
  have code : FailureType.exitCodeOf type.id = type.exitCode := by
    cases type <;> decide +kernel
  constructor
  · rw [← code]
    simp [Json.field?, RunRecord.fields, List.lookup_cons]
  · simp [Json.field?, RunRecord.fields, List.lookup_cons]

structure Consistent (tree : FileTree) (options : Options) (now : Moment) (uuid : Text) (reply : Reply)
    (left : FileTree) : Prop where
  bounded : reply.exitCode ≤ 4
  judged : reply.exitCode ≤ 1 → ∃ finding summary, Reaches tree options finding ∧
    Summary.text? finding.verdict finding.arch.shown finding.release finding.code = .ok summary ∧
    (reply.exitCode = if finding.verdict.passed then 0 else 1) ∧
    (finding.record.label = if reply.exitCode = 0 then "PASS" else "FAIL") ∧
    Shown finding.record now tree summary (recorder? options now uuid) reply left
  failed : reply.exitCode = 2 ∨ reply.exitCode = 3 ∨
      reply.exitCode = 4 ∧ (¬ ∃ finding, Reaches tree options finding) →
    ∃ (type : FailureType) (detail : Text), type.exitCode = reply.exitCode ∧
      (reply.exitCode, type.id) ∈ reported ∧
      Json.field? ((RunRecord.failed type.id detail).fields (runId now uuid) now) "exit_code" =
        some (.number reply.exitCode) ∧
      Json.field? ((RunRecord.failed type.id detail).fields (runId now uuid) now) "detail" =
        some (.text detail) ∧
      Aborted type detail now tree (recorder? options now uuid) reply left
  lost : reply.exitCode = 4 ∧ (∃ finding, Reaches tree options finding) →
    ∃ finding summary, Reaches tree options finding ∧
      Summary.text? finding.verdict finding.arch.shown finding.release finding.code = .ok summary ∧
      Lost tree summary (recorder? options now uuid) reply left
  files : ∀ place, (∀ recorder record, recorder? options now uuid = some recorder →
      place ≠ (recorder.path record now).place) → ∀ content,
    (left.find? place = some (.file content) ↔ tree.find? place = some (.file content))
  unasked : options.runsDir.getD [] = [] → left = tree

end

def digitlessArguments : List Text :=
  ["--arch=x", "--kernel-release=generic", "--log-file=log", "--runs-dir=runs"]

def digitlessOptions : Options := ⟨.text "x", .given (.text "generic"), .text "log", some "runs"⟩

end Gate
end ProbeCheck
