import ProbeCheck.Proofs.GateSteps
import ProbeCheck.Proofs.StrictDecoding

namespace ProbeCheck.Gate
open CommandLine (Options ReleaseSource)

-- A file that has to be read is refused, or a release file is not UTF-8. The bytes of a log never count.
inductive Unreadable (tree : FileTree) (options : Options) : Prop
  | releaseFile {name : Text} {refusal : Refusal} {path : Path}
      (source : options.release = .file (.text name))
      (refused : tree.read (.ofText name) = .error (.refused refusal path))
  | releaseBytes {name : Text} {content : Bytes} (source : options.release = .file (.text name))
      (held : tree.read (.ofText name) = .ok content)
      (illFormed : ∀ text, content ≠ Utf8.encode text)
  | logFile {name : Text} {refusal : Refusal} {path : Path} (source : options.logFile = .text name)
      (refused : tree.read (.ofText name) = .error (.refused refusal path))

inductive Released (tree : FileTree) : ReleaseSource → Given → Prop
  | given (release : Given) : Released tree (.given release) release
  | file {name text : Text} (held : tree.read (.ofText name) = .ok (Utf8.encode text)) :
      Released tree (.file (.text name)) (.text (Text.unifyNewlines text))

structure Supplied (tree : FileTree) (options : Options) (release : Given) (log : Bytes) : Prop where
  released : Released tree options.release release
  held : ∃ name, options.logFile = .text name ∧ tree.read (.ofText name) = .ok log

section
variable {tree : FileTree} {options : Options}

theorem readNamed_ok_iff {read : Path → Except FileFault Bytes} {given : Given} {content : Bytes} :
    readNamed read given = .ok content ↔
      ∃ name, given = .text name ∧ read (.ofText name) = .ok content := by
  cases given with
  | nothing => simp [readNamed]
  | text name => cases found : read (.ofText name) <;> simp [readNamed, found]

theorem readNamed_refused {read : Path → Except FileFault Bytes} {given : Given} {fault : InputFault}
    (failed : readNamed read given = .error fault) (named : fault ≠ .noPath)
    (nulFree : fault ≠ .file .nul) (shallow : fault ≠ .file .tooDeep) :
    ∃ name refusal path, given = .text name ∧ read (.ofText name) = .error (.refused refusal path) := by
  cases given with
  | nothing => cases failed; exact absurd rfl named
  | text name =>
    cases found : read (.ofText name) with
    | ok content => simp [readNamed, found] at failed
    | error unread =>
      simp only [readNamed, found, Except.error.injEq] at failed
      cases unread with
      | nul => exact absurd failed.symm nulFree
      | tooDeep => exact absurd failed.symm shallow
      | refused refusal path => exact ⟨name, refusal, path, rfl, found⟩

theorem readRelease_ok_iff {source : ReleaseSource} {release : Given} :
    readRelease tree.read source = .ok release ↔ Released tree source release := by
  constructor
  · intro released
    cases source with
    | given given => cases released; exact .given release
    | file name =>
      cases found : readNamed tree.read name with
      | error fault => simp [readRelease, found] at released
      | ok content =>
        obtain ⟨text, rfl, held⟩ := readNamed_ok_iff.mp found
        cases decoded : Utf8.decode? content with
        | error malformed => simp [readRelease, found, decoded] at released
        | ok shown =>
          simp only [readRelease, found, decoded, Except.ok.injEq] at released
          rw [Utf8.decode?_ok_iff.mp decoded] at held
          exact released ▸ .file held
  · intro released
    cases released with
    | given => rfl
    | @file name text held =>
      have found := readNamed_ok_iff.mpr ⟨name, rfl, held⟩
      have decoded := Utf8.decode?_ok_iff.mpr (rfl : Utf8.encode text = Utf8.encode text)
      simp [readRelease, found, decoded]

theorem readInputs_supplied {inputs : Inputs} (supplied : readInputs tree.read options = .ok inputs) :
    ∃ log, Supplied tree options inputs.release log := by
  obtain ⟨log, released, found, -⟩ := readInputs_ok_iff.mp supplied
  exact ⟨log, readRelease_ok_iff.mp released, readNamed_ok_iff.mp found⟩

theorem Supplied.readInputs_ok {release : Given} {log : Bytes}
    (supplied : Supplied tree options release log) : readInputs tree.read options =
      .ok ⟨release, Text.unifyNewlines (Utf8.decodeLossy log)⟩ :=
  readInputs_ok_iff.mpr ⟨log, readRelease_ok_iff.mpr supplied.released,
    readNamed_ok_iff.mpr supplied.held, rfl⟩

theorem Supplied.readable {release : Given} {log : Bytes}
    (supplied : Supplied tree options release log) : ¬ Unreadable tree options := by
  obtain ⟨released, name, source, found⟩ := supplied
  intro unreadable
  cases unreadable with
  | releaseFile file refused =>
    rw [file] at released
    cases released with
    | file held => rw [held] at refused; cases refused
  | releaseBytes file held illFormed =>
    rw [file] at released
    cases released with
    | file wellFormed => cases held.symm.trans wellFormed; exact illFormed _ rfl
  | logFile file refused =>
    cases source.symm.trans file
    rw [found] at refused
    cases refused

theorem unreadable_of_error {fault : InputFault} (failed : readInputs tree.read options = .error fault)
    (named : fault ≠ .noPath) (nulFree : fault ≠ .file .nul) (shallow : fault ≠ .file .tooDeep) :
    Unreadable tree options := by
  rcases readInputs_error_iff.mp failed with unreleased | ⟨release, -, unread⟩
  · cases source : options.release with
    | given release => rw [source] at unreleased; cases unreleased
    | file name =>
      rw [source] at unreleased
      cases found : readNamed tree.read name with
      | error other =>
        simp only [readRelease, found, Except.error.injEq] at unreleased
        obtain ⟨text, refusal, path, rfl, refused⟩ :=
          readNamed_refused (unreleased ▸ found) named nulFree shallow
        exact .releaseFile source refused
      | ok content =>
        obtain ⟨text, rfl, held⟩ := readNamed_ok_iff.mp found
        refine .releaseBytes source held fun shown wellFormed => ?_
        simp [readRelease, found, Utf8.decode?_ok_iff.mpr wellFormed] at unreleased
  · obtain ⟨name, refusal, path, source, refused⟩ := readNamed_refused unread named nulFree shallow
    exact .logFile source refused

end

end ProbeCheck.Gate
