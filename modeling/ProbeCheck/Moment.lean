import ProbeCheck.Numeral

namespace ProbeCheck

structure Moment where
  year : Nat
  month : Nat
  day : Nat
  hour : Nat
  minute : Nat
  second : Nat
  microsecond : Nat
deriving DecidableEq, Repr

namespace Moment
open Numeral

def dayStamp (moment : Moment) : Text :=
  digits moment.year ++ padded 2 moment.month ++ padded 2 moment.day

def stamp (moment : Moment) : Text :=
  moment.dayStamp ++ 'T' :: padded 2 moment.hour ++ padded 2 moment.minute ++
    padded 2 moment.second ++ ['Z']

-- The ISO form. Microseconds are shown with all six digits or, when there are none, not at all.
def iso (moment : Moment) : Text :=
  padded 4 moment.year ++ '-' :: padded 2 moment.month ++ '-' :: padded 2 moment.day ++
    'T' :: padded 2 moment.hour ++ ':' :: padded 2 moment.minute ++
    ':' :: padded 2 moment.second ++
    (if moment.microsecond = 0 then [] else '.' :: padded 6 moment.microsecond) ++ "+00:00"

end Moment
end ProbeCheck
