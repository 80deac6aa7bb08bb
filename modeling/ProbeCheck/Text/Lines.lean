import ProbeCheck.Text

namespace ProbeCheck.Text

def withoutReturn (line : Text) : Text :=
  if line.getLast? = some '\r' then line.dropLast else line

-- The lines of a text. What follows the last '\n' is not ended, so it keeps its '\r'.
def lines (text : Text) : List Text :=
  let pieces := text.splitOn '\n'
  pieces.dropLast.map withoutReturn ++ pieces.getLast?.toList

def unifyNewlines (text : Text) : Text :=
  (join ['\n'] (lines text)).map fun c => if c = '\r' then '\n' else c

example : lines ['a', '\r', '\n', 'b', '\r'] = [['a'], ['b', '\r']] := by decide
example : unifyNewlines ['a', '\r', '\r', '\n', 'b', '\r'] = ['a', '\n', '\n', 'b', '\n'] := by decide

end ProbeCheck.Text
