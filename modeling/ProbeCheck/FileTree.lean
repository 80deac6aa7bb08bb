import ProbeCheck.FileFault
import ProbeCheck.Utf8

namespace ProbeCheck

-- Where a walk starts: at the top of all directories, or so many levels above the working directory.
inductive Anchor
  | top
  | above (levels : Nat)
deriving DecidableEq, Repr

structure Place where
  anchor : Anchor
  names : List Text
deriving DecidableEq, Repr

namespace Place

-- The top is its own parent, and the working directory always has one.
def parent (place : Place) : Place :=
  match place.names, place.anchor with
  | _ :: outer, anchor => ⟨anchor, outer⟩
  | [], .above levels => ⟨.above (levels + 1), []⟩
  | [], .top => place

def child (place : Place) (name : Text) : Place := ⟨place.anchor, name :: place.names⟩

end Place

def Path.start (path : Path) : Place :=
  match path.root with
  | .none => ⟨.above 0, []⟩
  | _ => ⟨.top, []⟩

inductive Entry
  | file (content : Bytes)
  | directory
deriving DecidableEq

-- A missing directory is made by a call of its own, inside the call for the directory below it, and the
-- interpreter nests calls to a limit. How many are left inside the first one depends on where it is
-- made; this many are left to a program that does nothing else.
def usualReach : Nat := 985

structure FileTree where
  entries : List (Place × Entry)
  reach : Nat := usualReach

namespace FileTree

def empty : FileTree := { entries := [] }

-- What stands at a place. Anchors are directories whatever the tree holds.
def find? (tree : FileTree) (place : Place) : Option Entry :=
  if place.names = [] then some .directory else tree.entries.lookup place

def put (tree : FileTree) (place : Place) (entry : Entry) : FileTree :=
  { tree with entries := (place, entry) :: tree.entries.filter fun old => old.1 ≠ place }

def nameLimit : Nat := 255
def pathLimit : Nat := 4095

def step (tree : FileTree) (here : Place) (name : Text) : Except Refusal Place :=
  match tree.find? here with
  | none => .error .missing
  | some (.file _) => .error .notDirectory
  | some .directory =>
    if name = ['.', '.'] then .ok here.parent
    else if nameLimit < (Utf8.encode name).length then .error .nameTooLong
    else .ok (here.child name)

def locate (tree : FileTree) (path : Path) : Except FileFault Place :=
  if '\x00' ∈ path.text then .error .nul
  else if pathLimit < (Utf8.encode path.text).length then .error (.refused .nameTooLong path)
  else
    match path.parts.foldlM tree.step path.start with
    | .ok place => .ok place
    | .error refusal => .error (.refused refusal path)

def read (tree : FileTree) (path : Path) : Except FileFault Bytes := do
  match tree.find? (← tree.locate path) with
  | some (.file content) => return content
  | some .directory => throw (.refused .isDirectory path)
  | none => throw (.refused .missing path)

def write (tree : FileTree) (path : Path) (content : Bytes) : Except FileFault FileTree := do
  let place ← tree.locate path
  match tree.find? place with
  | some .directory => throw (.refused .isDirectory path)
  | _ => return tree.put place (.file content)

def makeDirectory (tree : FileTree) (path : Path) : Except FileFault FileTree := do
  let place ← tree.locate path
  match tree.find? place with
  | some .directory => return tree
  | some (.file _) => throw (.refused .occupied path)
  | none => return tree.put place .directory

-- Makes a directory, given by its parts with the innermost first, and the ones above it that are
-- missing, as far as `reach` more calls go. Directories made before a refusal stay.
def makeFrom (tree : FileTree) (root : Root) :
    List Text → Nat → FileTree × Except FileFault Unit
  | [], _ => (tree, .ok ())
  | name :: outer, reach =>
    let path : Path := ⟨root, (name :: outer).reverse⟩
    match tree.makeDirectory path with
    | .ok grown => (grown, .ok ())
    | .error (.refused .missing _) =>
      match reach with
      | 0 => (tree, .error .tooDeep)
      | reach + 1 =>
        match makeFrom tree root outer reach with
        | (grown, .error fault) => (grown, .error fault)
        | (grown, .ok ()) =>
          match grown.makeDirectory path with
          | .ok full => (full, .ok ())
          | .error fault => (grown, .error fault)
    | .error fault => (tree, .error fault)

def makeDirectories (tree : FileTree) (path : Path) : FileTree × Except FileFault Unit :=
  tree.makeFrom path.root path.parts.reverse tree.reach

theorem find?_congr {tree left : FileTree} (same : left.entries = tree.entries) (place : Place) :
    left.find? place = tree.find? place := by
  rw [find?, find?, same]

theorem find?_put (tree : FileTree) (place other : Place) (entry : Entry)
    (inner : place.names ≠ []) :
    (tree.put place entry).find? other = if other = place then some entry else tree.find? other := by
  unfold find? put
  by_cases equal : other = place
  · subst equal; simp [inner]
  · have skip : (other == place) = false := by simpa using equal
    have kept : ∀ entries : List (Place × Entry),
        (entries.filter fun old => old.1 ≠ place).lookup other = entries.lookup other := by
      intro entries
      induction entries with
      | nil => rfl
      | cons head rest ih =>
        obtain ⟨at_, old⟩ := head
        by_cases gone : at_ = place
        · subst gone; simpa [List.lookup_cons, skip] using ih
        · by_cases found : other == at_ <;> simp_all [List.lookup_cons]
    simp only [List.lookup_cons, skip, if_neg equal, kept]

end FileTree
end ProbeCheck
