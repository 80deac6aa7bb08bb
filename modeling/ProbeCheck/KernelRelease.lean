import ProbeCheck.CheckError
import ProbeCheck.Text.Blank

namespace ProbeCheck

structure Version where
  major : Int
  minor : Int
  patch : Int
deriving DecidableEq, Repr

namespace Version

def majorWeight : Nat := 10000
def minorWeight : Nat := 100

-- Minor and patch numbers are not bounded, so a large one carries over into its neighbour.
def code (version : Version) : Int :=
  version.major * majorWeight + version.minor * minorWeight + version.patch

end Version

namespace KernelRelease

inductive Field
  | major
  | minor
  | patch
deriving DecidableEq, Repr

def Field.name : Field → Text
  | .major => "major"
  | .minor => "minor"
  | .patch => "patch"

inductive Fault
  | notText (typeName : Text)
  | noDigit
  | fewFields (found : Nat)
  | noNumber (field : Field) (text : Text)
deriving DecidableEq

def Fault.reason : Fault → Text
  | .notText typeName => "expected a string, got " ++ typeName
  | .noDigit => "no numeric field found"
  | .fewFields found => "expected at least 3 dot-separated fields, found " ++ Numeral.digits found
  | .noNumber field text =>
    field.name ++ " field " ++ Text.quoted text ++ " does not start with a digit"

theorem Fault.reason_ne (fault : Fault) : fault.reason ≠ [] := by
  cases fault <;> simp [Fault.reason]

inductive Refusal
  | release (error : ReleaseError)
  | numeral (fault : Numeral.Fault)

def Fault.refusal (raw : Text) (fault : Fault) : Refusal :=
  .release (.ofText raw fault.reason fault.reason_ne)

def typeRefusal (raw : Datum) : Refusal :=
  let fault := Fault.notText raw.typeName
  match written : raw.literal? with
  | .ok literal => .release ⟨raw, fault.reason, literal, written, fault.reason_ne⟩
  | .error fault => .numeral fault

def number? (raw : Text) (field : Field) (text : Text) : Except Refusal Nat :=
  let run := text.takeWhile Char.isDigit
  if run = [] then .error ((Fault.noNumber field text).refusal raw)
  else
    match Numeral.read? run with
    | .ok number => .ok number
    | .error fault => .error (.numeral fault)

def fields (raw : Text) : List Text :=
  ((Text.trim raw).dropWhile fun c => !c.isDigit).splitOn '.'

def version? (raw : Text) : Except Refusal Version :=
  match fields raw with
  | [[]] => .error (Fault.noDigit.refusal raw)
  | major :: minor :: patch :: _ => do
    let major ← number? raw .major major
    let minor ← number? raw .minor minor
    let patch ← number? raw .patch patch
    return ⟨major, minor, patch⟩
  | few => .error ((Fault.fewFields few.length).refusal raw)

def versionOf? : Datum → Except Refusal Version
  | .text raw => version? raw
  | other => .error (typeRefusal other)

example : (version? "Linux 5.4.0-42-generic".toList).toOption = some ⟨5, 4, 0⟩ := by decide +kernel
example : (Version.mk 4 17 3).code = 41703 := by decide +kernel

end KernelRelease
end ProbeCheck
