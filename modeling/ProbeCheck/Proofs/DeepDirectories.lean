import ProbeCheck.Proofs.NulFree

namespace ProbeCheck

theorem Text.join_prefix (separator : Text) (outer more : List Text) :
    join separator outer <+: join separator (outer ++ more) := by
  induction outer with
  | nil => exact List.nil_prefix
  | cons first rest ih =>
    cases rest with
    | nil =>
      cases more with
      | nil => exact List.prefix_rfl
      | cons second others =>
        simp only [List.cons_append, List.nil_append, join, List.intercalate_cons_cons,
          List.intercalate_singleton, List.append_assoc]
        exact List.prefix_append ..
    | cons second others =>
      simp only [List.cons_append, join, List.intercalate_cons_cons] at ih ⊢
      exact (List.prefix_append_right_inj _).mpr ih

theorem Path.text_length_le (root : Root) (outer more : List Text) :
    (Utf8.encode (Path.mk root outer).text).length ≤
      (Utf8.encode (Path.mk root (outer ++ more)).text).length := by
  obtain ⟨rest, whole⟩ : root.text ++ Text.join ['/'] outer <+:
      root.text ++ Text.join ['/'] (outer ++ more) :=
    (List.prefix_append_right_inj _).mpr (Text.join_prefix ..)
  unfold text
  dsimp only
  rw [← whole]
  cases root.text ++ Text.join ['/'] outer with
  | cons c written => simp [Utf8.encode]
  | nil =>
    cases rest with
    | nil => exact Nat.le_refl _
    | cons c others =>
      have visible := c.utf8Size_pos
      simp only [Utf8.encode, List.nil_append, List.flatMap_cons, List.flatMap_nil, List.append_nil,
        List.length_append, String.length_utf8EncodeChar]
      exact Nat.le_trans visible (Nat.le_add_right ..)

namespace FileTree

-- The way to a directory is broken, and so are the ways to as many of those above it as calls reach.
def Beyond (tree : FileTree) (directory : Path) (reach : Nat) : Prop :=
  ∀ outer, outer <+: directory.parts → directory.parts.length ≤ outer.length + reach →
    tree.locate ⟨directory.root, outer⟩ = .error (.refused .missing ⟨directory.root, outer⟩)

section
variable {tree left : FileTree} {root : Root} {name : Text} {outer names : List Text} {reach : Nat}

theorem makeDirectory_missing_iff {path other : Path} :
    tree.makeDirectory path = .error (.refused .missing other) ↔
      tree.locate path = .error (.refused .missing other) := by
  unfold makeDirectory
  cases located : tree.locate path with
  | error fault => simp [bind, Except.bind]
  | ok place =>
    simp only [bind, Except.bind]
    split <;> exact ⟨nofun, nofun⟩

theorem not_beyond_root : ¬ tree.Beyond ⟨root, []⟩ reach := by
  intro beyond
  have broken := beyond [] List.prefix_rfl (Nat.zero_le _)
  cases root <;> cases broken

theorem Beyond.makeDirectory {directory : Path} (beyond : tree.Beyond directory reach) :
    tree.makeDirectory directory = .error (.refused .missing directory) :=
  makeDirectory_missing_iff.mpr (beyond directory.parts List.prefix_rfl (Nat.le_add_right ..))

theorem beyond_zero {directory : Path}
    (broken : tree.locate directory = .error (.refused .missing directory)) :
    tree.Beyond directory 0 := by
  intro outer shorter near
  rw [shorter.eq_of_length_le near]
  exact broken

theorem beyond_concat_iff : tree.Beyond ⟨root, outer ++ [name]⟩ (reach + 1) ↔
    tree.locate ⟨root, outer ++ [name]⟩ = .error (.refused .missing ⟨root, outer ++ [name]⟩) ∧
      tree.Beyond ⟨root, outer⟩ reach := by
  constructor
  · intro beyond
    refine ⟨beyond _ List.prefix_rfl (Nat.le_add_right ..), fun inner shorter near => ?_⟩
    refine beyond inner (shorter.trans (List.prefix_append ..)) ?_
    simp only [List.length_append, List.length_singleton] at near ⊢
    omega
  · rintro ⟨broken, above⟩ inner shorter near
    rcases List.prefix_concat_iff.mp shorter with rfl | further
    · exact broken
    · refine above inner further ?_
      simp only [List.length_append, List.length_singleton] at near ⊢
      omega

theorem makeFrom_tooDeep_iff : tree.makeFrom root names reach = (left, .error .tooDeep) ↔
    left = tree ∧ tree.Beyond ⟨root, names.reverse⟩ reach := by
  constructor
  · intro failed
    induction names generalizing reach left with
    | nil => cases failed
    | cons name outer ih =>
      unfold makeFrom at failed
      dsimp only at failed
      rw [List.reverse_cons] at failed ⊢
      split at failed
      · cases failed
      · rename_i first
        cases makeDirectory_faultOf first
        have broken := makeDirectory_missing_iff.mp first
        -- Directories are made only on the way back, so nothing has been made so far.
        split at failed
        · cases failed
          exact ⟨rfl, beyond_zero broken⟩
        · split at failed
          · rename_i above
            cases failed
            obtain ⟨rfl, further⟩ := ih above
            exact ⟨rfl, beyond_concat_iff.mpr ⟨broken, further⟩⟩
          · split at failed
            · cases failed
            · rename_i again
              cases failed
              cases makeDirectory_faultOf again
      · rename_i first
        cases failed
        cases makeDirectory_faultOf first
  · rintro ⟨rfl, beyond⟩
    induction names generalizing reach with
    | nil => exact absurd beyond not_beyond_root
    | cons name outer ih =>
      unfold makeFrom
      dsimp only
      rw [beyond.makeDirectory]
      dsimp only
      cases reach with
      | zero => rfl
      | succ reach =>
        rw [List.reverse_cons] at beyond
        dsimp only
        rw [ih (beyond_concat_iff.mp beyond).2]

theorem makeDirectories_tooDeep_iff {path : Path} :
    tree.makeDirectories path = (left, .error .tooDeep) ↔ left = tree ∧ tree.Beyond path tree.reach := by
  rw [makeDirectories, makeFrom_tooDeep_iff, List.reverse_reverse]

-- The way to the outermost directory decides.
theorem beyond_of_broken {directory : Path} (clean : directory.NulFree)
    (short : (Utf8.encode directory.text).length ≤ pathLimit) (within : outer <+: directory.parts)
    (far : outer.length + reach ≤ directory.parts.length)
    (broken : outer.foldlM tree.step directory.start = .error .missing) :
    tree.Beyond directory reach := by
  intro inner shorter near
  obtain ⟨rest, rfl⟩ := List.prefix_of_prefix_length_le within shorter (by omega)
  obtain ⟨more, whole⟩ := shorter
  obtain ⟨root, parts⟩ := directory
  subst whole
  have clear : Path.NulFree ⟨root, outer ++ rest⟩ :=
    fun part member => clean part (List.mem_append_left _ member)
  have bounded := Nat.le_trans (Path.text_length_le root (outer ++ rest) more) short
  unfold locate
  rw [if_neg (Path.text_nulFree clear), if_neg (Nat.not_lt.mpr bounded)]
  dsimp only
  have start : (Path.mk root (outer ++ rest)).start = (Path.mk root (outer ++ rest ++ more)).start := rfl
  -- A walk that has stopped goes no further.
  rw [List.foldlM_append, start, broken]
  rfl

end

end FileTree

namespace Recorder

theorem write_tooDeep_iff {recorder : Recorder} {tree left : FileTree} {record : RunRecord}
    {moment : Moment} : recorder.write tree record moment = (left, .error (.file .tooDeep)) ↔
      left = tree ∧ tree.Beyond recorder.directory tree.reach := by
  rw [← FileTree.makeDirectories_tooDeep_iff]
  unfold write
  constructor
  · intro failed
    split at failed
    · rename_i made
      cases failed
      exact made
    · dsimp only at failed
      split at failed
      · rename_i unwritten
        cases failed
        cases FileTree.write_faultOf unwritten
      · split at failed <;> cases failed
  · intro made
    rw [made]

end Recorder

def deepRunsDir : Text := Text.join ['/'] (List.replicate 1100 ['a'])

theorem deepRunsDir_beyond {tree : FileTree} (missing : tree.find? ⟨.above 0, [['a']]⟩ = none)
    (usual : tree.reach = usualReach) : tree.Beyond (.ofText deepRunsDir) tree.reach := by
  have levels : (Path.ofText deepRunsDir).parts = List.replicate 1100 ['a'] := by decide +kernel
  have within : [['a'], ['a']] <+: (Path.ofText deepRunsDir).parts := by
    rw [levels]
    exact ⟨List.replicate 1098 ['a'], rfl⟩
  have far : [['a'], ['a']].length + tree.reach ≤ (Path.ofText deepRunsDir).parts.length := by
    rw [levels, usual]
    decide +kernel
  have broken : [['a'], ['a']].foldlM tree.step (Path.ofText deepRunsDir).start = .error .missing := by
    have start : (Path.ofText deepRunsDir).start = ⟨.above 0, []⟩ := by decide +kernel
    have first : tree.step ⟨.above 0, []⟩ ['a'] = .ok ⟨.above 0, [['a']]⟩ := rfl
    have second : tree.step ⟨.above 0, [['a']]⟩ ['a'] = .error .missing := by
      rw [FileTree.step, missing]
    rw [start, List.foldlM_cons, first]
    dsimp only [bind, Except.bind]
    rw [List.foldlM_cons, second]
    rfl
  exact FileTree.beyond_of_broken (Path.ofText_nulFree (by decide +kernel)) (by decide +kernel) within
    far broken

end ProbeCheck
