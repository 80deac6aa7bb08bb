import ProbeCheck.Text.Blank
import ProbeCheck.Numeral
import ProbeCheck.Verdict

namespace ProbeCheck.Summary

def indent : Text := "    "

def listing (title : Text) (entries : List Text) : List Text :=
  title :: (if entries.isEmpty then [indent ++ "(none)"] else entries.map (indent ++ ·))

def lines (verdict : Verdict) (arch release code : Text) : List Text :=
  ([("CHECK RESULT:   " : Text) ++ (if verdict.passed then "PASS" else "FAIL"),
    "Architecture:   " ++ arch,
    "Kernel release: " ++ Text.trim release,
    "Kernel version: " ++ code] : List Text) ++
  listing "Modules loaded:" verdict.actual ++
  listing "Modules expected:" verdict.expected ++
  (if verdict.passed then []
    else listing "Missing:" verdict.missing ++ listing "Unexpected:" verdict.unexpected)

def text? (verdict : Verdict) (arch release : Text) (code : Int) : Except Numeral.Fault Text :=
  (Numeral.write? code).map fun code => Text.join ['\n'] (lines verdict arch release code)

end ProbeCheck.Summary
