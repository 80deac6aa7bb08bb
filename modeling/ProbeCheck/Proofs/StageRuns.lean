import Mathlib.Data.List.Basic
import ProbeCheck.Stages

namespace ProbeCheck.Stages

variable {exitOf : Stage → Int} {stages before later : List Stage} {stage : Stage}

theorem run_passed (passes : ∀ stage ∈ stages, exitOf stage = 0) : run exitOf stages =
    ⟨0, stages.flatMap Stage.heading ++ rule ++ "CI RESULT: PASS\n", stages.map Stage.command⟩ := by
  induction stages with
  | nil => rfl
  | cons stage rest ih =>
    obtain ⟨first, others⟩ := List.forall_mem_cons.mp passes
    unfold run
    dsimp only
    rw [if_pos first, ih others]
    simp [Report.after]

theorem run_failed (passes : ∀ earlier ∈ before, exitOf earlier = 0) (fails : exitOf stage ≠ 0) :
    run exitOf (before ++ stage :: later) =
      ⟨stage.number, (before ++ [stage]).flatMap Stage.heading ++ rule ++ "CI RESULT: FAIL  [stage=" ++
          stage.name ++ "  exit_code=" ++ Numeral.signed (exitOf stage) ++ "]\n",
        (before ++ [stage]).map Stage.command⟩ := by
  induction before with
  | nil =>
    rw [List.nil_append]
    unfold run
    dsimp only
    rw [if_neg fails]
    simp [Report.after, Stage.failed]
  | cons first rest ih =>
    obtain ⟨passed, others⟩ := List.forall_mem_cons.mp passes
    rw [List.cons_append]
    unfold run
    dsimp only
    rw [if_pos passed, ih others]
    simp [Report.after]

theorem exists_first_failure (fails : ∃ stage ∈ stages, exitOf stage ≠ 0) :
    ∃ before stage later, stages = before ++ stage :: later ∧
      (∀ earlier ∈ before, exitOf earlier = 0) ∧ exitOf stage ≠ 0 := by
  induction stages with
  | nil =>
    obtain ⟨stage, listed, -⟩ := fails
    cases listed
  | cons first rest ih =>
    by_cases passed : exitOf first = 0
    · obtain ⟨stage, listed, failed⟩ := fails
      have further : stage ∈ rest := (List.mem_cons.mp listed).resolve_left
        fun equal => failed (equal ▸ passed)
      obtain ⟨before, other, later, rfl, passes, fails⟩ := ih ⟨stage, further, failed⟩
      exact ⟨first :: before, other, later, rfl, List.forall_mem_cons.mpr ⟨passed, passes⟩, fails⟩
    · exact ⟨[], first, rest, rfl, nofun, passed⟩

structure Numbered (stages : List Stage) : Prop where
  positive : ∀ stage ∈ stages, stage.number ≠ 0
  distinct : (stages.map Stage.number).Nodup

theorem all_numbered (interpreter : Text) (arguments : List Text) :
    Numbered (all interpreter arguments) := by
  constructor <;> simp [all]

theorem run_exitCode_zero_iff (numbered : Numbered stages) :
    (run exitOf stages).exitCode = 0 ↔ ∀ stage ∈ stages, exitOf stage = 0 := by
  constructor
  · intro zero
    by_contra other
    push Not at other
    obtain ⟨before, stage, later, rfl, passes, fails⟩ := exists_first_failure other
    rw [run_failed passes fails] at zero
    exact numbered.positive stage (by simp) zero
  · intro passes
    rw [run_passed passes]

theorem Numbered.apart (numbered : Numbered (before ++ stage :: later)) {other : Stage}
    (same : other.number = stage.number) : other ∉ before ∧ other ∉ later := by
  have distinct := numbered.distinct
  rw [List.map_append, List.map_cons, List.nodup_append, List.nodup_cons] at distinct
  obtain ⟨-, ⟨behind, -⟩, ahead⟩ := distinct
  constructor
  · intro listed
    exact ahead _ (List.mem_map_of_mem listed) _ List.mem_cons_self same
  · intro listed
    exact behind (same ▸ List.mem_map_of_mem listed)

theorem run_exitCode_iff (numbered : Numbered (before ++ stage :: later)) :
    (run exitOf (before ++ stage :: later)).exitCode = stage.number ↔
      (∀ earlier ∈ before, exitOf earlier = 0) ∧ exitOf stage ≠ 0 := by
  constructor
  · intro coded
    have fails : ∃ failed ∈ before ++ stage :: later, exitOf failed ≠ 0 := by
      by_contra none
      push Not at none
      rw [run_passed none] at coded
      exact numbered.positive stage (by simp) coded.symm
    obtain ⟨others, other, rest, split, passes, failed⟩ := exists_first_failure fails
    rw [split, run_failed passes failed] at coded
    obtain ⟨ahead, behind⟩ := numbered.apart coded
    obtain ⟨rfl, rfl, -⟩ := (List.append_cons_inj_of_notMem ahead behind).mp split
    exact ⟨passes, failed⟩
  · rintro ⟨passes, fails⟩
    rw [run_failed passes fails]

-- The exit code of a build is the number of the first stage that fails, and no stage behind that one is run.
theorem build_ends (exitOf : Stage → Int) (interpreter : Text) (arguments : List Text) :
    ((run exitOf (all interpreter arguments)).exitCode = 0 ↔
      ∀ stage ∈ all interpreter arguments, exitOf stage = 0) ∧
    ∀ before stage later, all interpreter arguments = before ++ stage :: later →
      ((run exitOf (all interpreter arguments)).exitCode = stage.number ↔
        (∀ earlier ∈ before, exitOf earlier = 0) ∧ exitOf stage ≠ 0) ∧
      ((run exitOf (all interpreter arguments)).exitCode = stage.number →
        (run exitOf (all interpreter arguments)).commands = (before ++ [stage]).map Stage.command) := by
  have numbered := all_numbered interpreter arguments
  refine ⟨run_exitCode_zero_iff numbered, fun before stage later split => ?_⟩
  rw [split] at numbered ⊢
  refine ⟨run_exitCode_iff numbered, fun coded => ?_⟩
  obtain ⟨passes, fails⟩ := (run_exitCode_iff numbered).mp coded
  rw [run_failed passes fails]

end ProbeCheck.Stages
