import ProbeCheck.Text

namespace ProbeCheck.Numeral

def limit : Nat := 4300

inductive Fault
  | tooLongToRead (digits : Nat)
  | tooLongToWrite
deriving DecidableEq, Repr

def value (digits : Text) : Nat := Nat.ofDigitChars 10 digits 0

def digits (n : Nat) : Text := Nat.toDigits 10 n

def padded (width n : Nat) : Text :=
  List.replicate (width - (digits n).length) '0' ++ digits n

def signed (n : Int) : Text :=
  if n < 0 then '-' :: digits n.natAbs else digits n.natAbs

-- Reads a run of digits. Leading zeros count towards the limit.
def read? (run : Text) : Except Fault Nat :=
  if limit < run.length then .error (.tooLongToRead run.length) else .ok (value run)

def write? (n : Int) : Except Fault Text :=
  if limit < (digits n.natAbs).length then .error .tooLongToWrite else .ok (signed n)

def Fault.message : Fault → Text
  | .tooLongToRead count =>
    "Exceeds the limit (4300 digits) for integer string conversion: value has " ++ digits count ++
      " digits; use sys.set_int_max_str_digits() to increase the limit"
  | .tooLongToWrite =>
    "Exceeds the limit (4300 digits) for integer string conversion; " ++
      "use sys.set_int_max_str_digits() to increase the limit"

theorem value_digits (n : Nat) : value (digits n) = n :=
  Nat.ofDigitChars_toDigits (by decide) (by decide)

example : signed (-120) = ['-', '1', '2', '0'] := by decide +kernel
example : value ['0', '0', '7'] = 7 := by decide +kernel

end ProbeCheck.Numeral
