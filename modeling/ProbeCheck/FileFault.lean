import ProbeCheck.Numeral
import ProbeCheck.Path
import ProbeCheck.Text.Quoted

namespace ProbeCheck

-- Why the file system refuses an operation. The tree below never denies access; a disk may.
inductive Refusal
  | missing
  | denied
  | occupied
  | notDirectory
  | isDirectory
  | nameTooLong
deriving DecidableEq, Repr

def Refusal.number : Refusal → Nat
  | .missing => 2
  | .denied => 13
  | .occupied => 17
  | .notDirectory => 20
  | .isDirectory => 21
  | .nameTooLong => 36

def Refusal.wording : Refusal → Text
  | .missing => "No such file or directory"
  | .denied => "Permission denied"
  | .occupied => "File exists"
  | .notDirectory => "Not a directory"
  | .isDirectory => "Is a directory"
  | .nameTooLong => "File name too long"

-- A path with a NUL is not even put to the file system. A directory is made by a call for each missing
-- level above it, and is given up where the calls go too deep.
inductive FileFault
  | nul
  | tooDeep
  | refused (refusal : Refusal) (path : Path)
deriving DecidableEq

def FileFault.message : FileFault → Text
  | .nul => "embedded null byte"
  | .tooDeep => "maximum recursion depth exceeded while calling a Python object"
  | .refused refusal path =>
    "[Errno " ++ Numeral.digits refusal.number ++ "] " ++ refusal.wording ++ ": " ++
      Text.quoted path.text

end ProbeCheck
