import ProbeCheck.Datum

namespace ProbeCheck

-- A kernel release without a numeric triple. The literal is kept because not every value has one.
structure ReleaseError where
  raw : Datum
  reason : Text
  literal : Text
  literal_eq : raw.literal? = .ok literal
  reason_ne : reason ≠ []

def ReleaseError.message (error : ReleaseError) : Text :=
  "ParseError: kernel release " ++ error.literal ++
    " is not a dotted numeric major.minor.patch triple: " ++ error.reason ++ "."

def ReleaseError.ofText (raw reason : Text) (reason_ne : reason ≠ []) : ReleaseError :=
  ⟨.text raw, reason, Text.quoted raw, by simp [Datum.literal?], reason_ne⟩

inductive CheckError
  | general (message field : Text) (value : Datum) (message_ne : message ≠ [])
  | release (error : ReleaseError)

inductive ErrorRefused
  | emptyMessage
  | fieldNotText
  | emptyReason
  | numeral (fault : Numeral.Fault)

def ErrorRefused.message : ErrorRefused → Text
  | .emptyMessage => "CheckError: message must be a non-empty string"
  | .fieldNotText => "CheckError: field_name must be a string"
  | .emptyReason => "ParseError: reason must be a non-empty string"
  | .numeral fault => fault.message

namespace CheckError

-- The message is looked at before the field name.
def general? (message field value : Datum) : Except ErrorRefused CheckError :=
  match message with
  | .text wording =>
    if empty : wording = [] then .error .emptyMessage
    else match field with
      | .text name => .ok (.general wording name value empty)
      | _ => .error .fieldNotText
  | _ => .error .emptyMessage

def release? (raw reason : Datum) : Except ErrorRefused CheckError :=
  match reason with
  | .text wording =>
    if empty : wording = [] then .error .emptyReason
    else match written : raw.literal? with
      | .ok literal => .ok (.release ⟨raw, wording, literal, written, empty⟩)
      | .error fault => .error (.numeral fault)
  | _ => .error .emptyReason

def className : CheckError → Text
  | .general .. => "CheckError"
  | .release _ => "ParseError"

def message : CheckError → Text
  | .general message .. => message
  | .release error => error.message

def field : CheckError → Text
  | .general _ field .. => field
  | .release _ => "kernel_release"

def value : CheckError → Datum
  | .general _ _ value _ => value
  | .release error => error.raw

def literal? (error : CheckError) : Except Numeral.Fault Text :=
  error.value.literal?.map fun value =>
    error.className ++ "(field_name=" ++ Text.quoted error.field ++ ", value=" ++ value ++
      ", message=" ++ Text.quoted error.message ++ ")"

-- Errors are equal when class, field, value and message are; a reason counts only as a part of
-- the message.
def same (left right : CheckError) : Bool :=
  left.className = right.className && left.field = right.field &&
    left.value.same right.value && left.message = right.message

instance : BEq CheckError := ⟨same⟩

end CheckError
end ProbeCheck
