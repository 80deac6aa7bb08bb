import ProbeCheck.Text

namespace ProbeCheck

inductive FailureType
  | verification
  | parse
  | inputUnavailable
  | internal
deriving DecidableEq, Repr

namespace FailureType

def all : List FailureType := [.verification, .parse, .inputUnavailable, .internal]

def id : FailureType → Text
  | .verification => "VERIFICATION_FAILURE"
  | .parse => "PARSE_ERROR"
  | .inputUnavailable => "INPUT_UNAVAILABLE"
  | .internal => "CHECK_INTERNAL_ERROR"

def exitCode : FailureType → Nat
  | .verification => 1
  | .parse => 2
  | .inputUnavailable => 3
  | .internal => 4

-- The exit code under an id. An id that names no kind counts as an internal error.
def exitCodeOf (id : Text) : Nat :=
  ((all.find? fun kind => kind.id = id).getD .internal).exitCode

end FailureType
end ProbeCheck
