import ProbeCheck.Recorder

namespace ProbeCheck

def Text.NulFree (text : Text) : Prop := '\x00' ∉ text

instance (text : Text) : Decidable text.NulFree := inferInstanceAs (Decidable ('\x00' ∉ text))

namespace Text

theorem NulFree.append {before after : Text} (first : before.NulFree) (second : after.NulFree) :
    NulFree (before ++ after) := by
  simp only [NulFree, List.mem_append, not_or]
  exact ⟨first, second⟩

theorem NulFree.cons {c : Char} {text : Text} (visible : '\x00' ≠ c) (rest : text.NulFree) :
    NulFree (c :: text) := by
  simp only [NulFree, List.mem_cons, not_or]
  exact ⟨visible, rest⟩

theorem mem_join_of_mem {c : Char} {part : Text} {parts : List Text} (separator : Text)
    (listed : part ∈ parts) (inside : c ∈ part) : c ∈ join separator parts := by
  induction parts with
  | nil => cases listed
  | cons first rest ih =>
    cases rest with
    | nil =>
      rcases List.mem_singleton.mp listed with rfl
      simpa [join] using inside
    | cons second others =>
      simp only [join, List.intercalate_cons_cons, List.mem_append]
      rcases List.mem_cons.mp listed with rfl | later
      · exact .inl (.inl inside)
      · exact .inr (ih later)

theorem mem_of_mem_join {c : Char} {separator : Text} {parts : List Text}
    (member : c ∈ join separator parts) : c ∈ separator ∨ ∃ part ∈ parts, c ∈ part := by
  induction parts with
  | nil => cases member
  | cons first rest ih =>
    cases rest with
    | nil => exact .inr ⟨first, List.mem_cons_self, by simpa [join] using member⟩
    | cons second others =>
      rw [join, List.intercalate_cons_cons, List.mem_append, List.mem_append] at member
      rcases member with (inside | between) | later
      · exact .inr ⟨first, List.mem_cons_self, inside⟩
      · exact .inl between
      · exact (ih later).imp_right fun ⟨part, listed, inside⟩ =>
          ⟨part, List.mem_cons_of_mem first listed, inside⟩

theorem join_nulFree {separator : Text} {parts : List Text} (between : separator.NulFree)
    (each : ∀ part ∈ parts, NulFree part) : NulFree (join separator parts) := by
  intro nul
  rcases mem_of_mem_join nul with inside | ⟨part, listed, inside⟩
  · exact between inside
  · exact each part listed inside

theorem splitOn_nulFree {text part : Text} {mark : Char} (clean : text.NulFree)
    (piece : part ∈ text.splitOn mark) : part.NulFree := by
  intro nul
  have inside := mem_join_of_mem [mark] piece nul
  rw [join, List.intercalate_splitOn] at inside
  exact clean inside

theorem toUpper_ne_nul {c : Char} (visible : c ≠ '\x00') : c.toUpper ≠ '\x00' := by
  unfold Char.toUpper
  split
  · rename_i lower
    rw [ne_eq, Char.ext_iff]
    intro raised
    have below : c.val = 'a'.val - 'A'.val := by
      have moved := congrArg (· + ('a'.val - 'A'.val)) raised
      simpa [UInt32.add_assoc] using moved
    rw [below] at lower
    exact absurd lower.1 (by decide)
  · exact visible

theorem map_toUpper_nulFree {text : Text} (clean : text.NulFree) :
    NulFree (text.map Char.toUpper) := by
  intro nul
  obtain ⟨c, inside, raised⟩ := List.mem_map.mp nul
  by_cases hidden : c = '\x00'
  · exact clean (hidden ▸ inside)
  · exact toUpper_ne_nul hidden raised

end Text

namespace Numeral
open Text (NulFree)

theorem digits_nulFree (n : Nat) : (digits n).NulFree := by
  intro nul
  have digit := Nat.isDigit_of_mem_toDigits (by decide) (by decide) nul
  exact absurd digit (by decide)

theorem padded_nulFree (width n : Nat) : (padded width n).NulFree := by
  refine NulFree.append ?_ (digits_nulFree n)
  intro nul
  exact absurd (List.eq_of_mem_replicate nul) (by decide)

end Numeral

theorem Moment.dayStamp_nulFree (moment : Moment) : moment.dayStamp.NulFree :=
  ((Numeral.digits_nulFree _).append (Numeral.padded_nulFree _ _)).append
    (Numeral.padded_nulFree _ _)

theorem Moment.stamp_nulFree (moment : Moment) : moment.stamp.NulFree := by
  have hour := Numeral.padded_nulFree 2 moment.hour
  have minute := Numeral.padded_nulFree 2 moment.minute
  have second := Numeral.padded_nulFree 2 moment.second
  exact (((moment.dayStamp_nulFree.append (hour.cons (by decide))).append minute).append second).append
    (by decide)

namespace Path

def NulFree (path : Path) : Prop := ∀ part ∈ path.parts, part.NulFree

theorem ofText_nulFree {text : Text} (clean : text.NulFree) : (ofText text).NulFree := by
  intro part kept
  exact Text.splitOn_nulFree clean (List.mem_filter.mp kept).1

theorem append_nulFree {directory path : Path} (outer : directory.NulFree) (inner : path.NulFree) :
    (directory.append path).NulFree := by
  unfold append
  split
  · intro part member
    rcases List.mem_append.mp member with before | after
    · exact outer part before
    · exact inner part after
  · exact inner

theorem text_nulFree {path : Path} (clean : path.NulFree) : path.text.NulFree := by
  have written : (path.root.text ++ Text.join ['/'] path.parts).NulFree := by
    refine Text.NulFree.append ?_ (Text.join_nulFree (by decide) clean)
    cases path.root <;> decide
  unfold text
  split
  · decide
  · exact written

end Path

namespace FileTree

inductive FaultOf (path : Path) : FileFault → Prop
  | nul (inside : '\x00' ∈ path.text) : FaultOf path .nul
  | refused (refusal : Refusal) : FaultOf path (.refused refusal path)

theorem FaultOf.refusal {path : Path} {fault : FileFault} (faulted : FaultOf path fault)
    (clean : path.NulFree) : ∃ refusal, fault = .refused refusal path := by
  cases faulted with
  | nul inside => exact absurd inside (Path.text_nulFree clean)
  | refused refusal => exact ⟨refusal, rfl⟩

section
variable {tree : FileTree} {path : Path} {fault : FileFault}

theorem locate_faultOf (failed : tree.locate path = .error fault) : FaultOf path fault := by
  unfold locate at failed
  split at failed
  · rename_i inside
    cases failed
    exact .nul inside
  · split at failed
    · cases failed; exact .refused _
    · split at failed
      · cases failed
      · cases failed; exact .refused _

theorem after_locate_faultOf {α : Type} {next : Place → Except FileFault α}
    (later : ∀ place, next place = .error fault → FaultOf path fault)
    (failed : (tree.locate path >>= next) = .error fault) : FaultOf path fault := by
  cases located : tree.locate path with
  | error reason => rw [located] at failed; cases failed; exact locate_faultOf located
  | ok place => rw [located] at failed; exact later place failed

theorem read_faultOf (failed : tree.read path = .error fault) : FaultOf path fault := by
  refine after_locate_faultOf (fun place stopped => ?_) failed
  split at stopped
  · cases stopped
  · cases stopped; exact .refused _
  · cases stopped; exact .refused _

theorem write_faultOf {content : Bytes} (failed : tree.write path content = .error fault) :
    FaultOf path fault := by
  refine after_locate_faultOf (fun place stopped => ?_) failed
  split at stopped
  · cases stopped; exact .refused _
  · cases stopped

theorem makeDirectory_faultOf (failed : tree.makeDirectory path = .error fault) :
    FaultOf path fault := by
  refine after_locate_faultOf (fun place stopped => ?_) failed
  split at stopped
  · cases stopped
  · cases stopped; exact .refused _
  · cases stopped

end

theorem makeFrom_refused {tree left : FileTree} {root : Root} {names : List Text} {reach : Nat}
    {fault : FileFault} (clean : ∀ name ∈ names, name.NulFree)
    (failed : tree.makeFrom root names reach = (left, .error fault)) :
    fault = .tooDeep ∨ ∃ refusal path, fault = .refused refusal path := by
  induction names generalizing reach left fault with
  | nil => cases failed
  | cons name outer ih =>
    have whole : (Path.mk root (name :: outer).reverse).NulFree :=
      fun part member => clean part (List.mem_reverse.mp member)
    have outerClean : ∀ part ∈ outer, part.NulFree :=
      fun part member => clean part (List.mem_cons_of_mem _ member)
    unfold makeFrom at failed
    dsimp only at failed
    split at failed
    · cases failed
    · split at failed
      · cases failed
        exact .inl rfl
      · split at failed
        · -- The refusal names a directory above the one asked for.
          rename_i outerFailed
          cases failed
          exact ih outerClean outerFailed
        · split at failed
          · cases failed
          · rename_i again
            cases failed
            obtain ⟨refusal, equal⟩ := (makeDirectory_faultOf again).refusal whole
            exact .inr ⟨refusal, _, equal⟩
    · rename_i first
      cases failed
      obtain ⟨refusal, equal⟩ := (makeDirectory_faultOf first).refusal whole
      exact .inr ⟨refusal, _, equal⟩

end FileTree

namespace Recorder

structure NulFree (recorder : Recorder) : Prop where
  directory : recorder.directory.NulFree
  runId : recorder.runId.NulFree

theorem label_nulFree (record : RunRecord) : record.label.NulFree := by
  unfold RunRecord.label
  cases record with
  | judged verdict =>
    dsimp only
    split <;> simp [Text.NulFree]
  | failed => simp [Text.NulFree]

theorem path_nulFree {recorder : Recorder} (clean : recorder.NulFree) (record : RunRecord)
    (moment : Moment) : (recorder.path record moment).NulFree := by
  have label := label_nulFree record
  have stamp := moment.stamp_nulFree
  refine Path.append_nulFree clean.directory (Path.ofText_nulFree ?_)
  have ending : Text.NulFree (".json" : Text) := by simp [Text.NulFree]
  exact ((clean.runId.append (label.cons (by decide))).append (stamp.cons (by decide))).append ending

theorem write_refused {recorder : Recorder} (clean : recorder.NulFree) {tree left : FileTree}
    {record : RunRecord} {moment : Moment} {fault : FileFault}
    (failed : recorder.write tree record moment = (left, .error (.file fault))) :
    fault = .tooDeep ∨ ∃ refusal path, fault = .refused refusal path := by
  unfold write at failed
  split at failed
  · rename_i made
    cases failed
    exact FileTree.makeFrom_refused
      (fun name member => clean.directory name (List.mem_reverse.mp member)) made
  · dsimp only at failed
    split at failed
    · rename_i unwritten
      cases failed
      obtain ⟨refusal, equal⟩ :=
        (FileTree.write_faultOf unwritten).refusal (path_nulFree clean record moment)
      exact .inr ⟨refusal, _, equal⟩
    · split at failed <;> cases failed

end Recorder
end ProbeCheck
