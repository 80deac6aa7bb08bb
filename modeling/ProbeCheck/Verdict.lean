import ProbeCheck.Text.Order

namespace ProbeCheck

structure Verdict where
  passed : Bool
  actual : List Text
  expected : List Text
  missing : List Text
  unexpected : List Text
deriving DecidableEq, Repr

def Verdict.compare (actual expected : List Text) : Verdict :=
  let actual := sortTexts actual
  let expected := sortTexts expected
  let missing := sortTexts (withoutEach expected actual)
  let unexpected := sortTexts (withoutEach actual expected)
  ⟨missing.isEmpty && unexpected.isEmpty, actual, expected, missing, unexpected⟩

end ProbeCheck
