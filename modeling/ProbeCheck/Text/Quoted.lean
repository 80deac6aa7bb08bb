import ProbeCheck.Text.Unprintable

namespace ProbeCheck.Text

def hex : (width n : Nat) → Text
  | 0, _ => []
  | width + 1, n => hex width (n / 16) ++ [Nat.digitChar (n % 16)]

-- Single quotes, unless the text has a single quote and no double quote.
def quoteMark (text : Text) : Char :=
  if '\'' ∈ text ∧ '"' ∉ text then '"' else '\''

def escapeCode (n : Nat) : Text :=
  if n < 0x100 then '\\' :: 'x' :: hex 2 n
  else if n < 0x10000 then '\\' :: 'u' :: hex 4 n
  else '\\' :: 'U' :: hex 8 n

-- One character inside the quotes `mark`. The backslash and the mark take a backslash before
-- them, and every character that is not shown takes an escape.
def escape (shown : Char → Bool) (mark c : Char) : Text :=
  if c = '\\' ∨ c = mark then ['\\', c]
  else if c = '\t' then ['\\', 't']
  else if c = '\n' then ['\\', 'n']
  else if c = '\r' then ['\\', 'r']
  else if shown c then [c]
  else escapeCode c.toNat

def quotedWith (shown : Char → Bool) (text : Text) : Text :=
  let mark := quoteMark text
  mark :: text.flatMap (escape shown mark) ++ [mark]

def quoted (text : Text) : Text := quotedWith isPrintable text

def quotedBytes (bytes : List UInt8) : Text :=
  'b' :: quotedWith (fun c => 0x20 ≤ c.toNat && c.toNat < 0x7F)
    (bytes.map fun byte => Char.ofNat byte.toNat)

example : quoted ['i', 't', '\'', 's'] = ['"', 'i', 't', '\'', 's', '"'] := by decide +kernel
example : quoted ['\'', '"', '\\'] = ['\'', '\\', '\'', '"', '\\', '\\', '\''] := by decide +kernel
example : quotedBytes [0x0A, 0x41, 0xFF] = "b'\\nA\\xff'".toList := by decide +kernel

end ProbeCheck.Text
