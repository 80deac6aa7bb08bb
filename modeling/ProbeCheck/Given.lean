import ProbeCheck.Datum

namespace ProbeCheck

inductive Given
  | text (value : Text)
  | nothing
deriving DecidableEq, Repr

namespace Given

-- Up to release 3.11.8 argparse strikes '--' out of the values of an option, so an option whose value it
-- is has an empty list where a text belongs. Later releases keep it.
def ofArgument (argument : Text) : Given :=
  if argument = ['-', '-'] then .nothing else .text argument

def datum : Given → Datum
  | .text value => .text value
  | .nothing => .list []

def shown : Given → Text
  | .text value => value
  | .nothing => "[]"

def text? : Given → Option Text
  | .text value => some value
  | .nothing => none

theorem ofArgument_eq_text {argument : Text} (other : argument ≠ ['-', '-']) :
    ofArgument argument = .text argument := if_neg other

end Given
end ProbeCheck
