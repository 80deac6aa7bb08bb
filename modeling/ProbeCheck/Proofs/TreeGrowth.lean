import Mathlib.Data.List.Infix
import ProbeCheck.Recorder

namespace ProbeCheck

def Place.enter (here : Place) (name : Text) : Place :=
  if name = ['.', '.'] then here.parent else here.child name

namespace Path

def place (path : Path) : Place := path.parts.foldl Place.enter path.start

def LeadsThrough (path : Path) (place : Place) : Prop :=
  ∃ outer, outer <+: path.parts ∧ (Path.mk path.root outer).place = place

theorem leadsThrough_end (path : Path) : path.LeadsThrough path.place :=
  ⟨path.parts, List.prefix_rfl, rfl⟩

theorem LeadsThrough.further {root : Root} {outer parts : List Text} {place : Place}
    (leads : (Path.mk root outer).LeadsThrough place) (shorter : outer <+: parts) :
    (Path.mk root parts).LeadsThrough place := by
  obtain ⟨passed, within, equal⟩ := leads
  exact ⟨passed, within.trans shorter, equal⟩

end Path

namespace FileTree

theorem step_ok {tree : FileTree} {here next : Place} {name : Text}
    (stepped : tree.step here name = .ok next) : next = here.enter name := by
  unfold step at stepped
  unfold Place.enter
  split at stepped
  · cases stepped
  · cases stepped
  · split at stepped
    · rename_i up
      cases stepped
      rw [if_pos up]
    · rename_i down
      split at stepped
      · cases stepped
      · cases stepped
        rw [if_neg down]

theorem foldlM_step_ok {tree : FileTree} {names : List Text} {here last : Place}
    (walked : names.foldlM tree.step here = .ok last) : last = names.foldl Place.enter here := by
  induction names generalizing here with
  | nil => cases walked; rfl
  | cons name names ih =>
    rw [List.foldlM_cons] at walked
    cases stepped : tree.step here name with
    | error refusal => rw [stepped] at walked; cases walked
    | ok next =>
      rw [stepped] at walked
      rw [List.foldl_cons, ← step_ok stepped]
      exact ih walked

-- A walk that succeeds ends at the place that the path names; the tree only decides whether it does.
theorem locate_place {tree : FileTree} {path : Path} {place : Place}
    (located : tree.locate path = .ok place) : place = path.place := by
  unfold locate at located
  split at located
  · cases located
  · split at located
    · cases located
    · split at located
      · rename_i walked
        cases located
        exact foldlM_step_ok walked
      · cases located

-- A place is as it was, or it is a directory that was missing on the way.
def GrownAt (tree left : FileTree) (way : Path) (place : Place) : Prop :=
  left.find? place = tree.find? place ∨
    tree.find? place = none ∧ left.find? place = some .directory ∧ way.LeadsThrough place

def Grown (tree left : FileTree) (way : Path) : Prop := ∀ place, tree.GrownAt left way place

theorem Grown.refl (tree : FileTree) (way : Path) : tree.Grown tree way := fun _ => .inl rfl

theorem GrownAt.trans {tree middle left : FileTree} {way : Path} {place : Place}
    (first : tree.GrownAt middle way place) (second : middle.GrownAt left way place) :
    tree.GrownAt left way place := by
  rcases first with kept | ⟨missing, made, leads⟩
  · rcases second with later | ⟨missing, made, leads⟩
    · exact .inl (later.trans kept)
    · exact .inr ⟨kept ▸ missing, made, leads⟩
  · rcases second with later | ⟨again, _, _⟩
    · exact .inr ⟨missing, later.trans made, leads⟩
    · rw [made] at again
      cases again

theorem Grown.trans {tree middle left : FileTree} {way : Path} (first : tree.Grown middle way)
    (second : middle.Grown left way) : tree.Grown left way :=
  fun place => (first place).trans (second place)

theorem Grown.further {tree left : FileTree} {root : Root} {outer parts : List Text}
    (grown : tree.Grown left ⟨root, outer⟩) (shorter : outer <+: parts) :
    tree.Grown left ⟨root, parts⟩ :=
  fun place => (grown place).imp_right fun ⟨missing, made, leads⟩ =>
    ⟨missing, made, leads.further shorter⟩

theorem GrownAt.file_iff {tree left : FileTree} {way : Path} {place : Place}
    (grown : tree.GrownAt left way place) (content : Bytes) :
    left.find? place = some (.file content) ↔ tree.find? place = some (.file content) := by
  rcases grown with kept | ⟨missing, made, -⟩
  · rw [kept]
  · rw [missing, made]
    exact ⟨nofun, nofun⟩

theorem makeDirectory_grown {tree left : FileTree} {path : Path}
    (made : tree.makeDirectory path = .ok left) : tree.Grown left path := by
  unfold makeDirectory at made
  cases located : tree.locate path with
  | error fault => rw [located] at made; cases made
  | ok place =>
    simp only [located, bind, Except.bind] at made
    split at made
    · cases made
      exact .refl tree path
    · cases made
    · rename_i missing
      cases made
      have inner : place.names ≠ [] := by
        intro anchor
        rw [find?, if_pos anchor] at missing
        cases missing
      intro other
      rw [GrownAt, find?_put tree place other _ inner]
      split
      · rename_i equal
        rw [equal]
        exact .inr ⟨missing, rfl, locate_place located ▸ path.leadsThrough_end⟩
      · exact .inl rfl

theorem makeFrom_grown {tree left : FileTree} {root : Root} {names : List Text} {reach : Nat}
    {outcome : Except FileFault Unit} (made : tree.makeFrom root names reach = (left, outcome)) :
    tree.Grown left ⟨root, names.reverse⟩ := by
  induction names generalizing reach left outcome with
  | nil => cases made; exact .refl tree _
  | cons name outer ih =>
    have shorter : outer.reverse <+: (name :: outer).reverse := by simp
    unfold makeFrom at made
    dsimp only at made
    split at made
    · rename_i first
      cases made
      exact makeDirectory_grown first
    · split at made
      · cases made
        exact .refl tree _
      · split at made
        · rename_i above
          cases made
          exact (ih above).further shorter
        · rename_i grown above
          have upTo := (ih above).further shorter
          split at made
          · rename_i again
            cases made
            exact upTo.trans (makeDirectory_grown again)
          · cases made
            exact upTo
    · cases made
      exact .refl tree _

theorem makeDirectories_grown {tree left : FileTree} {path : Path} {outcome : Except FileFault Unit}
    (made : tree.makeDirectories path = (left, outcome)) : tree.Grown left path := by
  have grown := makeFrom_grown made
  rwa [List.reverse_reverse] at grown

theorem write_ok {tree left : FileTree} {path : Path} {content : Bytes}
    (written : tree.write path content = .ok left) (place : Place) :
    left.find? place = if place = path.place then some (.file content) else tree.find? place := by
  unfold write at written
  cases located : tree.locate path with
  | error fault => rw [located] at written; cases written
  | ok spot =>
    simp only [located, bind, Except.bind] at written
    split at written
    · cases written
    · rename_i free
      cases written
      have inner : spot.names ≠ [] := fun anchor => free (by rw [find?, if_pos anchor])
      rw [find?_put tree spot place _ inner, locate_place located]

end FileTree

namespace Recorder

structure Kept (recorder : Recorder) (record : RunRecord) (moment : Moment) (tree left : FileTree) :
    Prop where
  whole : (recorder.draft record moment).fault = none
  held : left.find? (recorder.path record moment).place =
    some (.file (Utf8.encode (recorder.draft record moment).text))
  others : ∀ place, place ≠ (recorder.path record moment).place →
    tree.GrownAt left recorder.directory place

variable {recorder : Recorder} {tree left : FileTree} {record : RunRecord} {moment : Moment}

theorem write_kept {path : Path} (written : recorder.write tree record moment = (left, .ok path)) :
    path = recorder.path record moment ∧ recorder.Kept record moment tree left := by
  unfold write at written
  split at written
  · cases written
  · rename_i grown made
    dsimp only at written
    split at written
    · cases written
    · rename_i full stored
      split at written
      · rename_i whole
        cases written
        refine ⟨rfl, whole, ?_, fun place apart => ?_⟩
        · rw [FileTree.write_ok stored, if_pos rfl]
        · have same := FileTree.write_ok stored place
          rw [if_neg apart] at same
          exact (FileTree.makeDirectories_grown made place).trans (.inl same)
      · cases written

theorem write_unkept {fault : FileFault}
    (failed : recorder.write tree record moment = (left, .error (.file fault))) :
    tree.Grown left recorder.directory := by
  unfold write at failed
  split at failed
  · rename_i made
    cases failed
    exact FileTree.makeDirectories_grown made
  · rename_i made
    dsimp only at failed
    split at failed
    · cases failed
      exact FileTree.makeDirectories_grown made
    · split at failed <;> cases failed

end Recorder
end ProbeCheck
