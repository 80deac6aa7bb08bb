import ProbeCheck.CommandLine
import ProbeCheck.Recorder
import ProbeCheck.Summary

-- The gate: one run of the check from its command line to its exit code. What is read and what is
-- written are kept apart from what is decided, so that the same decisions serve a tree and a disk.
namespace ProbeCheck.Gate
open CommandLine (Options ReleaseSource)

structure Inputs where
  release : Given
  log : Text

inductive InputFault
  | noPath
  | file (fault : FileFault)
  | notUtf8 (malformed : Utf8.Malformed)

def InputFault.message : InputFault → Text
  | .noPath => "expected str, bytes or os.PathLike object, not list"
  | .file fault => fault.message
  | .notUtf8 malformed => malformed.message

def readNamed (read : Path → Except FileFault Bytes) : Given → Except InputFault Bytes
  | .nothing => .error .noPath
  | .text name =>
    match read (.ofText name) with
    | .error fault => .error (.file fault)
    | .ok content => .ok content

def readRelease (read : Path → Except FileFault Bytes) : ReleaseSource → Except InputFault Given
  | .given release => .ok release
  | .file name =>
    match readNamed read name with
    | .error fault => .error fault
    | .ok content =>
      match Utf8.decode? content with
      | .error malformed => .error (.notUtf8 malformed)
      | .ok release => .ok (.text (Text.unifyNewlines release))

-- The release is read before the log. Ill-formed bytes in the log do not matter.
def readInputs (read : Path → Except FileFault Bytes) (options : Options) :
    Except InputFault Inputs :=
  match readRelease read options.release with
  | .error fault => .error fault
  | .ok release =>
    match readNamed read options.logFile with
    | .error fault => .error fault
    | .ok content => .ok ⟨release, Text.unifyNewlines (Utf8.decodeLossy content)⟩

structure Finding where
  arch : Given
  release : Text
  code : Int
  verdict : Verdict

inductive Abort
  | input (fault : InputFault)
  | release (error : ReleaseError)
  | numeral (fault : Numeral.Fault)
  | noArch

def Abort.type : Abort → FailureType
  | .input _ => .inputUnavailable
  | .release _ => .parse
  | .numeral _ => .internal
  | .noArch => .internal

def Abort.detail : Abort → Text
  | .input fault => "Cannot read input: " ++ fault.message
  | .release error => error.message
  | .numeral fault => "ValueError: " ++ fault.message
  | .noArch => "TypeError: can only concatenate str (not \"list\") to str"

def Abort.ofRefusal : KernelRelease.Refusal → Abort
  | .release error => .release error
  | .numeral fault => .numeral fault

-- The catalog of the machine. An architecture is needed only where the clone hook is named after it.
def catalog? (arch : Given) (code : Int) : Except Abort Catalog :=
  match arch with
  | .text arch => .ok (.expected arch code)
  | .nothing => if Catalog.namingThreshold ≤ code then .error .noArch else .ok (.expected [] code)

def judgeText (options : Options) (release log : Text) : Except Abort Finding :=
  match KernelRelease.version? release with
  | .error refusal => .error (.ofRefusal refusal)
  | .ok version =>
    (catalog? options.arch version.code).map fun catalog =>
      ⟨options.arch, release, version.code, Check.verify Marker.loaded catalog log⟩

def judge (options : Options) (inputs : Inputs) : Except Abort Finding :=
  match inputs.release with
  | .nothing => .error (.ofRefusal (KernelRelease.typeRefusal Given.nothing.datum))
  | .text release => judgeText options release inputs.log

-- Faults for which the gate has no exit code: no path, a NUL in a path, a directory too far below those
-- that exist, and a number too long to be written.
inductive Escape
  | noPath
  | nul
  | tooDeep
  | numeral (fault : Numeral.Fault)

def Escape.message : Escape → Text
  | .noPath => InputFault.noPath.message
  | .nul => FileFault.nul.message
  | .tooDeep => FileFault.tooDeep.message
  | .numeral fault => fault.message

inductive Decision
  | verdict (finding : Finding) (summary : Text)
  | abort (reason : Abort)

def decide (options : Options) (inputs : Except InputFault Inputs) : Except Escape Decision :=
  match inputs with
  | .error .noPath => .error .noPath
  | .error (.file .nul) => .error .nul
  | .error (.file .tooDeep) => .error .tooDeep
  | .error fault => .ok (.abort (.input fault))
  | .ok inputs =>
    match judge options inputs with
    | .error reason => .ok (.abort reason)
    | .ok finding =>
      match Summary.text? finding.verdict finding.arch.shown finding.release finding.code with
      | .error fault => .error (.numeral fault)
      | .ok summary => .ok (.verdict finding summary)

def Decision.record : Decision → RunRecord
  | .verdict finding _ => .judged finding.verdict finding.arch finding.release finding.code
  | .abort reason => .failed reason.type.id reason.detail

structure Reply where
  exitCode : Nat
  stdout : Text
  stderr : Text
deriving DecidableEq

def failureBlock (type : FailureType) (detail : Text) : Text :=
  "CHECK RESULT: ERROR\n" ++
  "Failure type: " ++ type.id ++ "\n" ++
  "Exit code:    " ++ Numeral.digits type.exitCode ++ "\n" ++
  "Detail:       " ++ detail ++ "\n"

-- The reply when a record was not written. An abort keeps its exit code; a verdict is lost.
def Decision.unrecorded (decision : Decision) (fault : FileFault) : Reply :=
  match decision with
  | .verdict _ summary =>
    ⟨FailureType.internal.exitCode, summary ++ ['\n'],
      failureBlock .internal ("Cannot write result record: " ++ fault.message)⟩
  | .abort reason =>
    ⟨reason.type.exitCode, [],
      failureBlock reason.type reason.detail ++
        "CHECK_INTERNAL_ERROR: cannot write failure record: " ++ fault.message ++ ['\n']⟩

def Decision.recorded (decision : Decision) (path? : Option Path) : Reply :=
  match decision with
  | .verdict finding summary =>
    ⟨if finding.verdict.passed then 0 else FailureType.verification.exitCode,
      summary ++ '\n' :: (match path? with
        | none => []
        | some path => "Result record:  " ++ path.text ++ ['\n']),
      []⟩
  | .abort reason => ⟨reason.type.exitCode, [], failureBlock reason.type reason.detail⟩

def Decision.conclude (decision : Decision) :
    Option (Except RecordFault Path) → Except Escape Reply
  | none => .ok (decision.recorded none)
  | some (.ok path) => .ok (decision.recorded (some path))
  | some (.error (.file .nul)) => .error .nul
  | some (.error (.file .tooDeep)) => .error .tooDeep
  | some (.error (.file fault)) => .ok (decision.unrecorded fault)
  | some (.error (.numeral fault)) => .error (.numeral fault)

def runId (now : Moment) (uuid : Text) : Text :=
  "CHECK-" ++ now.dayStamp ++ '-' :: (uuid.take 8).map Char.toUpper

def recorder? (options : Options) (now : Moment) (uuid : Text) : Option Recorder :=
  match options.runsDir with
  | none => none
  | some [] => none
  | some name => some ⟨.ofText name, runId now uuid⟩

inductive Ending
  | finished (reply : Reply)
  | stopped (stop : CommandLine.Stop)

def finish (decision : Decision) (recorder? : Option Recorder) (now : Moment) (tree : FileTree) :
    Except Escape (Reply × FileTree) :=
  match recorder? with
  | none => (decision.conclude none).map (·, tree)
  | some recorder =>
    let (left, written) := recorder.write tree decision.record now
    (decision.conclude (some written)).map (·, left)

def run (arguments : List Text) (now : Moment) (uuid : Text) (tree : FileTree) :
    Except Escape (Ending × FileTree) :=
  match CommandLine.parse arguments with
  | .error stop => .ok (.stopped stop, tree)
  | .ok options =>
    match decide options (readInputs tree.read options) with
    | .error escape => .error escape
    | .ok decision =>
      (finish decision (recorder? options now uuid) now tree).map fun (reply, left) =>
        (.finished reply, left)

end ProbeCheck.Gate
