import ProbeCheck.Text.Quoted
import ProbeCheck.Numeral

namespace ProbeCheck.Json

inductive Value
  | text (value : Text)
  | number (value : Int)
  | texts (values : List Text)
deriving DecidableEq

abbrev Object := List (Text × Value)

def escapeUnit (unit : Nat) : Text := '\\' :: 'u' :: Text.hex 4 unit

-- One character inside quotes. What is not printable ASCII takes an escape, and past U+FFFF one
-- escape for each half of the surrogate pair.
def escape (c : Char) : Text :=
  if c = '"' ∨ c = '\\' then ['\\', c]
  else if c = '\n' then ['\\', 'n']
  else if c = '\r' then ['\\', 'r']
  else if c = '\t' then ['\\', 't']
  else if c = '\x0c' then ['\\', 'f']
  else if c = '\x08' then ['\\', 'b']
  else if 0x20 ≤ c.toNat ∧ c.toNat < 0x7F then [c]
  else if c.toNat < 0x10000 then escapeUnit c.toNat
  else
    let above := c.toNat - 0x10000
    escapeUnit (0xD800 + above / 0x400) ++ escapeUnit (0xDC00 + above % 0x400)

def quoted (text : Text) : Text := '"' :: text.flatMap escape ++ ['"']

structure Draft where
  text : Text
  fault : Option Numeral.Fault
deriving DecidableEq

def Draft.ofText (text : Text) : Draft := ⟨text, none⟩

def Draft.append (before after : Draft) : Draft :=
  match before.fault with
  | none => ⟨before.text ++ after.text, after.fault⟩
  | some _ => before

instance : Append Draft := ⟨Draft.append⟩

def Value.draft : Value → Draft
  | .text value => .ofText (quoted value)
  | .number value =>
    match Numeral.write? value with
    | .ok numeral => .ofText numeral
    | .error fault => ⟨[], some fault⟩
  | .texts [] => .ofText "[]"
  | .texts values =>
    .ofText ("[\n        " ++ Text.join ",\n        " (values.map quoted) ++ "\n    ]")

def members (lead : Text) : Object → Draft
  | [] => .ofText []
  | (key, value) :: rest =>
    .ofText (lead ++ quoted key ++ ": ") ++ value.draft ++ members ",\n    " rest

def draft (object : Object) : Draft :=
  .ofText ['\x7b'] ++ members "\n    " object ++ .ofText ['\n', '\x7d']

end ProbeCheck.Json
