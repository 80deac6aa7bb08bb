import ProbeCheck.CommandLine.Argument
import ProbeCheck.Given

namespace ProbeCheck.CommandLine

-- What a run of letters after '-h' asks for. Help may be asked for again and again; from the first
-- other letter on the run is a value, and help takes none. So argparse has it up to release 3.11.8;
-- later releases ask for help whatever the letters are.
def helpLetters : Text → Stop
  | [] => .help
  | 'h' :: rest => helpLetters rest
  | value => .misuse (.helpWithValue value)

structure Reading where
  given : List (Setting × Given)
  extras : List Text

namespace Reading

def value? (reading : Reading) (setting : Setting) : Option Given := reading.given.lookup setting

def give (reading : Reading) (setting : Setting) (value : Text) : Except UsageError Reading :=
  match setting.rival?.filter fun rival => (reading.value? rival).isSome with
  | some rival => .error (.rivals setting rival)
  | none => .ok { reading with given := (setting, .ofArgument value) :: reading.given }

def leave (reading : Reading) (text : Text) : Reading :=
  { reading with extras := text :: reading.extras }

end Reading

def readFrom (reading : Reading) : List Argument → Except Stop Reading
  | [] => .ok reading
  | .word text :: rest => readFrom (reading.leave text) rest
  | .unknown text :: rest => readFrom (reading.leave text) rest
  | .letters tail :: _ => .error (helpLetters tail)
  | .named .help none :: _ => .error .help
  | .named .help (some value) :: _ => .error (.misuse (.helpWithValue value))
  | .named (.valued setting) (some value) :: rest =>
    match reading.give setting value with
    | .ok next => readFrom next rest
    | .error error => .error (.misuse error)
  | .named (.valued setting) none :: .word value :: rest =>
    match reading.give setting value with
    | .ok next => readFrom next rest
    | .error error => .error (.misuse error)
  | .named (.valued setting) none :: _ => .error (.misuse (.valueExpected setting))

inductive ReleaseSource
  | given (release : Given)
  | file (name : Given)
deriving DecidableEq

-- No runs directory and nothing given for one come to the same.
structure Options where
  arch : Given
  release : ReleaseSource
  logFile : Given
  runsDir : Option Text
deriving DecidableEq

def Reading.releaseSource? (reading : Reading) : Option ReleaseSource :=
  match reading.value? .kernelRelease, reading.value? .kernelReleaseFile with
  | some release, _ => some (.given release)
  | none, some name => some (.file name)
  | none, none => none

-- Required settings that are missing come before a missing release, and that before leftovers.
def Reading.options? (reading : Reading) : Except UsageError Options :=
  match reading.value? .arch, reading.value? .logFile with
  | some arch, some logFile =>
    match reading.releaseSource?, reading.extras with
    | none, _ => .error .releaseRequired
    | some release, [] => .ok ⟨arch, release, logFile, (reading.value? .runsDir).bind Given.text?⟩
    | some _, extras => .error (.unrecognized extras.reverse)
  | arch, logFile =>
    .error (.required ((if arch.isNone then [.arch] else []) ++
      (if logFile.isNone then [.logFile] else [])))

-- Every argument before '--' is looked at by itself first; '--' and what follows it are leftovers.
def parse (arguments : List Text) : Except Stop Options :=
  let (before, leftovers) := arguments.span (· ≠ ['-', '-'])
  match before.mapM Argument.ofText? with
  | .error error => .error (.misuse error)
  | .ok readings =>
    match readFrom ⟨[], []⟩ readings with
    | .error stop => .error stop
    | .ok reading =>
      match (leftovers.foldl Reading.leave reading).options? with
      | .error error => .error (.misuse error)
      | .ok options => .ok options

end ProbeCheck.CommandLine
