import ProbeCheck.Gate
import Std.Time.DateTime

namespace ProbeCheck.Disk

def refusalOf : IO.Error → Refusal
  | .alreadyExists .. => .occupied
  | .permissionDenied .. => .denied
  | .inappropriateType _ number _ => if number.toNat = 21 then .isDirectory else .notDirectory
  | .invalidArgument .. => .nameTooLong
  | _ => .missing

def attempt (path : Path) (operation : String → IO α) : IO (Except FileFault α) := do
  if '\x00' ∈ path.text then return .error .nul
  try
    return .ok (← operation (Text.toString path.text))
  catch error =>
    return .error (.refused (refusalOf error) path)

def read (path : Path) : IO (Except FileFault Bytes) :=
  attempt path fun name => do return (← IO.FS.readBinFile name).toList

def write (path : Path) (content : Bytes) : IO (Except FileFault Unit) :=
  attempt path fun name => IO.FS.writeBinFile name ⟨content.toArray⟩

def makeDirectory (path : Path) : IO (Except FileFault Unit) := do
  match ← attempt path fun name => IO.FS.createDir name with
  | .error (.refused .occupied _) =>
    match ← attempt path fun name => do (← IO.FS.realPath name).isDir with
    | .ok true => return .ok ()
    | _ => return .error (.refused .occupied path)
  | made => return made

def makeFrom (root : Root) : List Text → Nat → IO (Except FileFault Unit)
  | [], _ => return .ok ()
  | name :: outer, reach => do
    let path : Path := ⟨root, (name :: outer).reverse⟩
    match ← makeDirectory path with
    | .error (.refused .missing _) =>
      match reach with
      | 0 => return .error .tooDeep
      | reach + 1 =>
        match ← makeFrom root outer reach with
        | .ok () => makeDirectory path
        | .error fault => return .error fault
    | made => return made

def keep (recorder : Recorder) (record : RunRecord) (now : Moment) :
    IO (Except RecordFault Path) := do
  match ← makeFrom recorder.directory.root recorder.directory.parts.reverse usualReach with
  | .error fault => return .error (.file fault)
  | .ok () =>
    let path := recorder.path record now
    let draft := recorder.draft record now
    match ← write path (Utf8.encode draft.text) with
    | .error fault => return .error (.file fault)
    | .ok () =>
      match draft.fault with
      | none => return .ok path
      | some fault => return .error (.numeral fault)

def contents (options : CommandLine.Options) : IO (Path → Except FileFault Bytes) := do
  let release : Given := match options.release with
    | .given _ => .nothing
    | .file name => name
  let paths := [release, options.logFile].filterMap fun name => name.text?.map Path.ofText
  let files ← paths.mapM fun path => do return (path, ← read path)
  return fun path => (files.lookup path).getD (.error (.refused .missing path))

def clock : IO Moment := do
  let now := Std.Time.DateTime.ofTimestampWithZone (← Std.Time.Timestamp.now) .UTC
  return ⟨now.year.toInt.toNat, now.month.val.toNat, now.day.val.toNat, now.hour.val.toNat,
    now.minute.val.toNat, now.second.val.toNat, now.nanosecond.val.toNat / 1000⟩

def randomId : IO Text := do
  let bytes ← IO.getRandomBytes 4
  return bytes.toList.flatMap fun byte => Text.hex 2 byte.toNat

def display (stdout stderr : Text) : IO Unit := do
  IO.print (Text.toString stdout)
  IO.eprint (Text.toString stderr)

def run (options : CommandLine.Options) : IO UInt32 := do
  let now ← clock
  let concluded ← match Gate.decide options (Gate.readInputs (← contents options) options) with
    | .error escape => pure (.error escape)
    | .ok decision =>
      match Gate.recorder? options now (← randomId) with
      | none => pure (decision.conclude none)
      | some recorder => pure (decision.conclude (some (← keep recorder decision.record now)))
  match concluded with
  | .ok reply => display reply.stdout reply.stderr; return reply.exitCode.toUInt32
  | .error escape => throw (IO.userError (Text.toString escape.message))

end ProbeCheck.Disk

def main (arguments : List String) : IO UInt32 := do
  match ProbeCheck.CommandLine.parse (arguments.map String.toList) with
  | .ok options => ProbeCheck.Disk.run options
  | .error stop => ProbeCheck.Disk.display stop.stdout stop.stderr; return stop.exitCode.toUInt32
