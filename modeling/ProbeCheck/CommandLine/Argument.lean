import ProbeCheck.CommandLine.Setting
import ProbeCheck.Text.DecimalDigit

namespace ProbeCheck.CommandLine

inductive Argument
  | word (text : Text)
  | unknown (text : Text)
  | named (flag : Flag) (value : Option Text)
  | letters (run : Text)
deriving DecidableEq

def splitValue (argument : Text) : Text × Option Text :=
  match argument.span (· ≠ '=') with
  | (name, []) => (name, none)
  | (name, _ :: value) => (name, some value)

-- Whether the argument reads as a negative number. A newline at its end is overlooked.
def looksNegative : Text → Bool
  | '-' :: body =>
    let body := if body.getLast? = some '\n' then body.dropLast else body
    match body.span Text.isDecimalDigit with
    | (whole, []) => whole ≠ []
    | (_, '.' :: places) => places ≠ [] && places.all Text.isDecimalDigit
    | _ => false
  | _ => false

def nameless (argument : Text) : Argument :=
  if looksNegative argument || ' ' ∈ argument then .word argument else .unknown argument

-- Up to release 3.11.8 of argparse, what stands after '-h' is a run of letters, with or without an '='
-- before it. An '=' alone hands over an empty value.
def afterHelp : Text → Argument
  | ['='] => .named .help (some [])
  | '=' :: run => .letters run
  | run => .letters run

def Argument.ofText? (argument : Text) : Except UsageError Argument :=
  match argument with
  | '-' :: second :: rest =>
    let (name, value) := splitValue argument
    if second = 'h' then .ok (afterHelp rest)
    else match Flag.all.find? (·.name = name) with
    | some flag => .ok (.named flag value)
    | none =>
      if second ≠ '-' then .ok (nameless argument)
      else match Flag.all.filter (name.isPrefixOf ·.name) with
      | [] => .ok (nameless argument)
      | [flag] => .ok (.named flag value)
      | several => .error (.ambiguous argument several)
  | _ => .ok (.word argument)

end ProbeCheck.CommandLine
