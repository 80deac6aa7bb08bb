import ProbeCheck.Check
import ProbeCheck.FailureType
import ProbeCheck.Given
import ProbeCheck.Json
import ProbeCheck.Moment

namespace ProbeCheck

inductive RunRecord
  | judged (verdict : Verdict) (arch : Given) (release : Text) (code : Int)
  | failed (typeId detail : Text)

namespace RunRecord

def layoutVersion : Text := "1.0.0"

def label : RunRecord → Text
  | .judged verdict .. => if verdict.passed then "PASS" else "FAIL"
  | .failed .. => "ERROR"

def givenValue : Given → Json.Value
  | .text value => .text value
  | .nothing => .texts []

-- The fields in the order in which they are written. A release is kept without the blanks around it.
def fields (record : RunRecord) (runId : Text) (moment : Moment) : Json.Object :=
  match record with
  | .judged verdict arch release code =>
    [("result", .text record.label),
     ("run_id", .text runId),
     ("check_version", .text Check.version),
     ("result_format_version", .text layoutVersion),
     ("arch", givenValue arch),
     ("kernel_release", .text (Text.trim release)),
     ("version_code", .number code),
     ("actual", .texts verdict.actual),
     ("expected", .texts verdict.expected),
     ("missing", .texts verdict.missing),
     ("unexpected", .texts verdict.unexpected),
     ("timestamp_iso", .text moment.iso)]
  | .failed typeId detail =>
    [("failure_type_id", .text typeId),
     ("exit_code", .number (FailureType.exitCodeOf typeId)),
     ("detected_at_iso", .text moment.iso),
     ("run_id", .text runId),
     ("check_version", .text Check.version),
     ("result_format_version", .text layoutVersion),
     ("detail", .text detail)]

end RunRecord
end ProbeCheck
