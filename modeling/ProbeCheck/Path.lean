import ProbeCheck.Text

namespace ProbeCheck

-- What a path starts with. Exactly two slashes are kept apart from one; more than two mean one.
inductive Root
  | none
  | slash
  | doubleSlash
deriving DecidableEq, Repr

def Root.text : Root → Text
  | .none => []
  | .slash => ['/']
  | .doubleSlash => ['/', '/']

structure Path where
  root : Root
  parts : List Text
deriving DecidableEq, Repr

namespace Path

def rootOf : Text → Root
  | '/' :: '/' :: '/' :: _ => .slash
  | '/' :: '/' :: _ => .doubleSlash
  | '/' :: _ => .slash
  | _ => .none

def ofText (text : Text) : Path :=
  ⟨rootOf text, (text.splitOn '/').filter fun part => part ≠ [] ∧ part ≠ ['.']⟩

def text (path : Path) : Text :=
  match path.root.text ++ Text.join ['/'] path.parts with
  | [] => ['.']
  | written => written

def append (directory path : Path) : Path :=
  if path.root = .none then ⟨directory.root, directory.parts ++ path.parts⟩ else path

end Path
end ProbeCheck
