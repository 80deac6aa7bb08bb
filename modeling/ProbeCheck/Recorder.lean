import ProbeCheck.FileTree
import ProbeCheck.RunRecord

namespace ProbeCheck

structure Recorder where
  directory : Path
  runId : Text

inductive RecordFault
  | file (fault : FileFault)
  | numeral (fault : Numeral.Fault)

def RecordFault.message : RecordFault → Text
  | .file fault => fault.message
  | .numeral fault => fault.message

namespace Recorder

def fileName (recorder : Recorder) (record : RunRecord) (moment : Moment) : Text :=
  recorder.runId ++ '_' :: record.label ++ '_' :: moment.stamp ++ ".json"

-- A run id may itself have slashes, and then leads to another directory.
def path (recorder : Recorder) (record : RunRecord) (moment : Moment) : Path :=
  recorder.directory.append (.ofText (recorder.fileName record moment))

def draft (recorder : Recorder) (record : RunRecord) (moment : Moment) : Json.Draft :=
  Json.draft (record.fields recorder.runId moment)

-- The directory is made first and the file is opened before its text is put together. So a record that
-- cannot be written to its end leaves the part before the fault.
def write (recorder : Recorder) (tree : FileTree) (record : RunRecord) (moment : Moment) :
    FileTree × Except RecordFault Path :=
  match tree.makeDirectories recorder.directory with
  | (grown, .error fault) => (grown, .error (.file fault))
  | (grown, .ok ()) =>
    let path := recorder.path record moment
    let draft := recorder.draft record moment
    match grown.write path (Utf8.encode draft.text) with
    | .error fault => (grown, .error (.file fault))
    | .ok full =>
      match draft.fault with
      | none => (full, .ok path)
      | some fault => (full, .error (.numeral fault))

end Recorder
end ProbeCheck
