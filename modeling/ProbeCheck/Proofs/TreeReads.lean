import ProbeCheck.Proofs.TreeGrowth
import ProbeCheck.Proofs.WritableNumbers

namespace ProbeCheck

namespace FileTree

variable {tree left : FileTree}

def Opens (tree left : FileTree) : Prop :=
  ∀ place, tree.find? place = some .directory → left.find? place = some .directory

theorem Opens.step (opens : tree.Opens left) {here next : Place} {name : Text}
    (stepped : tree.step here name = .ok next) : left.step here name = .ok next := by
  -- A walk asks of each place that it leaves only whether it is a directory.
  unfold FileTree.step at stepped ⊢
  cases found : tree.find? here with
  | none => rw [found] at stepped; cases stepped
  | some entry =>
    cases entry with
    | file content => rw [found] at stepped; cases stepped
    | directory =>
      rw [found] at stepped
      rw [opens here found]
      exact stepped

theorem Opens.walk (opens : tree.Opens left) {names : List Text} {here last : Place}
    (walked : names.foldlM tree.step here = .ok last) : names.foldlM left.step here = .ok last := by
  induction names generalizing here with
  | nil => exact walked
  | cons name names ih =>
    rw [List.foldlM_cons] at walked ⊢
    cases stepped : tree.step here name with
    | error refusal => rw [stepped] at walked; cases walked
    | ok next =>
      rw [stepped] at walked
      rw [opens.step stepped]
      exact ih walked

theorem Opens.locate (opens : tree.Opens left) {path : Path} {place : Place}
    (located : tree.locate path = .ok place) : left.locate path = .ok place := by
  unfold FileTree.locate at located ⊢
  split
  · rename_i nul
    rw [if_pos nul] at located
    cases located
  split
  · rename_i clean long
    rw [if_neg clean, if_pos long] at located
    cases located
  · rename_i clean short
    rw [if_neg clean, if_neg short] at located
    cases walked : path.parts.foldlM tree.step path.start with
    | error refusal => rw [walked] at located; cases located
    | ok last =>
      rw [walked] at located
      rw [opens.walk walked]
      exact located

theorem read_ok_iff {path : Path} {content : Bytes} : tree.read path = .ok content ↔
    tree.locate path = .ok path.place ∧ tree.find? path.place = some (.file content) := by
  unfold read
  constructor
  · intro given
    cases located : tree.locate path with
    | error fault => rw [located] at given; cases given
    | ok place =>
      have same := locate_place located
      subst same
      simp only [located, bind, Except.bind] at given
      split at given
      · rename_i found
        cases given
        exact ⟨rfl, found⟩
      · cases given
      · cases given
  · rintro ⟨located, found⟩
    simp only [located, bind, Except.bind, found]
    rfl

theorem write_ok_iff {path : Path} {content : Bytes} : (∃ left, tree.write path content = .ok left) ↔
    tree.locate path = .ok path.place ∧ tree.find? path.place ≠ some .directory := by
  unfold write
  constructor
  · rintro ⟨left, written⟩
    cases located : tree.locate path with
    | error fault => rw [located] at written; cases written
    | ok place =>
      have same := locate_place located
      subst same
      simp only [located, bind, Except.bind] at written
      split at written
      · cases written
      · rename_i free
        exact ⟨rfl, free⟩
  · rintro ⟨located, free⟩
    refine ⟨tree.put path.place (.file content), ?_⟩
    simp only [located, bind, Except.bind]
    rfl

theorem write_opens {path : Path} {content : Bytes} (written : tree.write path content = .ok left) :
    tree.Opens left := by
  obtain ⟨-, free⟩ := write_ok_iff.mp ⟨left, written⟩
  intro place found
  rw [write_ok written, if_neg]
  · exact found
  · rintro rfl
    exact free found

theorem read_write {path : Path} {content : Bytes} (written : tree.write path content = .ok left) :
    left.read path = .ok content := by
  obtain ⟨located, -⟩ := write_ok_iff.mp ⟨left, written⟩
  apply read_ok_iff.mpr
  refine ⟨(write_opens written).locate located, ?_⟩
  rw [write_ok written, if_pos rfl]

-- Two paths may lead to one place, and then a write to the one is a write to the other.
theorem read_other {path other : Path} {content old : Bytes} (written : tree.write path content = .ok left)
    (read : tree.read other = .ok old) :
    left.read other = .ok (if other.place = path.place then content else old) := by
  obtain ⟨located, found⟩ := read_ok_iff.mp read
  apply read_ok_iff.mpr
  refine ⟨(write_opens written).locate located, ?_⟩
  rw [write_ok written]
  split
  · rfl
  · exact found

theorem exists_write {path : Path} {old : Bytes} (read : tree.read path = .ok old) (content : Bytes) :
    ∃ left, tree.write path content = .ok left := by
  obtain ⟨located, found⟩ := read_ok_iff.mp read
  apply write_ok_iff.mpr
  refine ⟨located, ?_⟩
  rw [found]
  nofun

end FileTree

namespace Recorder

theorem read_written {recorder : Recorder} {tree left : FileTree} {record : RunRecord} {moment : Moment}
    {path : Path} (written : recorder.write tree record moment = (left, .ok path)) :
    left.read path = .ok (Utf8.encode (recorder.draft record moment).text) := by
  unfold write at written
  split at written
  · cases written
  · dsimp only at written
    split at written
    · cases written
    · rename_i stored
      split at written
      · cases written
        exact FileTree.read_write stored
      · cases written

theorem exists_written {recorder : Recorder} {tree : FileTree} {record : RunRecord} {moment : Moment}
    (writable : record.Writable) (made : (tree.makeDirectories recorder.directory).2 = .ok ())
    (located : (tree.makeDirectories recorder.directory).1.locate (recorder.path record moment) =
      .ok (recorder.path record moment).place)
    (free : (tree.makeDirectories recorder.directory).1.find? (recorder.path record moment).place ≠
      some .directory) :
    ∃ left, recorder.write tree record moment = (left, .ok (recorder.path record moment)) := by
  have whole := recorder.draft_fault writable moment
  cases grown : tree.makeDirectories recorder.directory with
  | mk grownTree outcome =>
    rw [grown] at made located free
    dsimp only at made located free
    subst made
    obtain ⟨left, stored⟩ := FileTree.write_ok_iff.mpr ⟨located, free⟩
    refine ⟨left, ?_⟩
    unfold write
    rw [grown]
    dsimp only
    rw [stored]
    dsimp only
    rw [whole]

end Recorder
end ProbeCheck
