import ProbeCheck.Text.Lines
import ProbeCheck.Text.Order

namespace ProbeCheck

structure Marker where
  text : Text
  nonempty : text ≠ []

namespace Marker

def ofText? (text : Text) : Option Marker :=
  if empty : text = [] then none else some ⟨text, empty⟩

def loaded : Marker := ⟨"ingraind::grains::ebpf] Loaded", by simp⟩

def emptyMessage : Text := "LogExtractor: marker must be a non-empty string"

end Marker

namespace Log

def fieldSeparator : Text := ": "

def descriptor? (marker : Marker) (line : Text) : Option Text :=
  if Text.has marker.text line then Text.afterLast? fieldSeparator line else none

def extract (marker : Marker) (log : Text) : List Text :=
  sortTexts ((Text.lines log).filterMap (descriptor? marker))

example : descriptor? ⟨['m'], by simp⟩ "m: a: b, XDP".toList = some "b, XDP".toList := by decide +kernel
example : descriptor? ⟨['m'], by simp⟩ "a: b, XDP".toList = none := by decide +kernel

end Log
end ProbeCheck
