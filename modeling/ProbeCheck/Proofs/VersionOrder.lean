import Mathlib.Data.Prod.Lex
import ProbeCheck.Proofs.Acceptance
import ProbeCheck.Proofs.ReleaseGrammar

namespace ProbeCheck
namespace Version

def triple (version : Version) : Int ×ₗ Int ×ₗ Int :=
  toLex (version.major, toLex (version.minor, version.patch))

theorem triple_lt_iff {version other : Version} : version.triple < other.triple ↔
    version.major < other.major ∨ version.major = other.major ∧
      (version.minor < other.minor ∨ version.minor = other.minor ∧ version.patch < other.patch) := by
  simp only [triple, Prod.Lex.toLex_lt_toLex]

structure Natural (version : Version) : Prop where
  minor : 0 ≤ version.minor
  patch : 0 ≤ version.patch

-- Numbers that do not carry over into their neighbour in the code.
structure Narrow (version : Version) : Prop where
  minor : version.minor < 100
  patch : version.patch < 100

theorem code_eq (version : Version) :
    version.code = version.major * 10000 + version.minor * 100 + version.patch := rfl

section
variable {version other : Version} (natural : version.Natural) (otherNatural : other.Natural)
  (narrow : version.Narrow) (otherNarrow : other.Narrow)
include natural otherNatural narrow otherNarrow

theorem code_lt_iff : version.code < other.code ↔ version.triple < other.triple := by
  obtain ⟨minor, patch⟩ := natural
  obtain ⟨otherMinor, otherPatch⟩ := otherNatural
  obtain ⟨minorNarrow, patchNarrow⟩ := narrow
  obtain ⟨otherMinorNarrow, otherPatchNarrow⟩ := otherNarrow
  rw [triple_lt_iff, code_eq, code_eq]
  omega

theorem code_eq_iff : version.code = other.code ↔ version.triple = other.triple := by
  have less := code_lt_iff natural otherNatural narrow otherNarrow
  have greater := code_lt_iff otherNatural natural otherNarrow narrow
  rw [le_antisymm_iff, le_antisymm_iff, ← not_lt, ← not_lt, ← not_lt, ← not_lt, less, greater]

end

def switched : Version := ⟨4, 17, 0⟩

theorem switched_natural : switched.Natural := ⟨by decide, by decide⟩

theorem switched_narrow : switched.Narrow := ⟨by decide, by decide⟩

theorem threshold_le_code_iff {version : Version} (natural : version.Natural) (narrow : version.Narrow) :
    41700 ≤ version.code ↔ switched.triple ≤ version.triple := by
  have less := code_lt_iff natural switched_natural narrow switched_narrow
  have threshold : switched.code = 41700 := rfl
  rw [← not_lt, ← not_lt, ← less, threshold]

theorem threshold_le_code {version : Version} (natural : version.Natural)
    (late : switched.triple ≤ version.triple) : 41700 ≤ version.code := by
  -- A number that carries over only adds to the code, so no late version comes out early.
  obtain ⟨minor, patch⟩ := natural
  rw [← not_lt, triple_lt_iff] at late
  simp only [switched] at late
  rw [code_eq]
  omega

end Version

namespace Catalog

def plainName : Text := "sys_clone, Kprobe".toList

def prefixedName (arch : Text) : Text := "__".toList ++ arch ++ "_sys_clone, Kprobe".toList

variable {arch : Text} {code : Int}

theorem prefixedName_mem_iff : prefixedName arch ∈ (expected arch code).descriptors ↔ 41700 ≤ code := by
  have name : prefixedName arch = cloneDescriptor arch 41700 := by
    rw [prefixedName, cloneDescriptor_prefixed (by decide), List.append_assoc]
  rw [name, cloneDescriptor_mem_iff, Alike]
  simp

theorem plainName_mem_iff : plainName ∈ (expected arch code).descriptors ↔ code < 41700 := by
  have name : plainName = cloneDescriptor arch 0 := (cloneDescriptor_plain (by decide) arch).symm
  rw [name, cloneDescriptor_mem_iff, Alike]
  simp

end Catalog

namespace KernelRelease
open Numeral (value)

theorem natural_of_accepted {raw : Text} {version : Version} (accepted : version? raw = .ok version) :
    version.Natural := by
  obtain ⟨major, minor, patch, rfl⟩ := version?_natural accepted
  exact ⟨Int.natCast_nonneg minor, Int.natCast_nonneg patch⟩

open Catalog (plainName prefixedName)
open Version (switched)

structure Expects (arch : Text) (version : Version) (expected : List Text) : Prop where
  one : prefixedName arch ∈ expected ↔ plainName ∉ expected
  narrow : version.Narrow → (prefixedName arch ∈ expected ↔ switched.triple ≤ version.triple)
  late : switched.triple ≤ version.triple → prefixedName arch ∈ expected

theorem expects_of_natural {version : Version} (natural : version.Natural) (marker : Marker)
    (arch log : Text) :
    Expects arch version (Check.verify marker (.expected arch version.code) log).expected := by
  have listed (text : Text) : text ∈ (Check.verify marker (.expected arch version.code) log).expected ↔
      text ∈ (Catalog.expected arch version.code).descriptors := by
    have wanted := (Verdict.compare_differences (Log.extract marker log)
      (Catalog.expected arch version.code).recordSet).expected_perm
    exact (wanted.trans (Catalog.recordSet_perm _)).mem_iff
  constructor
  · rw [listed, listed, Catalog.prefixedName_mem_iff, Catalog.plainName_mem_iff, not_lt]
  · intro narrow
    rw [listed, Catalog.prefixedName_mem_iff, Version.threshold_le_code_iff natural narrow]
  · intro late
    rw [listed, Catalog.prefixedName_mem_iff]
    exact Version.threshold_le_code natural late

-- The code of a release puts it where its numbers do, as long as they are narrow, and so does the name of
-- the clone hook. Of numbers that are not, a late version still has the later name.
theorem releases_ordered {raw : Text} {version : Version} (accepted : version? raw = .ok version) :
    (∃ major minor patch, Triple raw major minor patch ∧
      version = ⟨value major, value minor, value patch⟩) ∧
    (∀ other otherVersion, version? other = .ok otherVersion → version.Narrow → otherVersion.Narrow →
      (version.code < otherVersion.code ↔ version.triple < otherVersion.triple) ∧
      (version.code = otherVersion.code ↔ version.triple = otherVersion.triple)) ∧
    ∀ marker arch log, ∃ verdict, Check.check marker arch raw log = .ok verdict ∧
      Expects arch version verdict.expected := by
  have natural := natural_of_accepted accepted
  refine ⟨exists_triple accepted, ?_, ?_⟩
  · intro other otherVersion otherAccepted narrow otherNarrow
    have otherNatural := natural_of_accepted otherAccepted
    exact ⟨Version.code_lt_iff natural otherNatural narrow otherNarrow,
      Version.code_eq_iff natural otherNatural narrow otherNarrow⟩
  · intro marker arch log
    exact ⟨_, Check.check_ok accepted marker arch log, expects_of_natural natural marker arch log⟩

theorem lastPlain_ordered :
    version? "Linux 4.016.99-rc1".toList = .ok ⟨4, 16, 99⟩ ∧ version? "4.17.0".toList = .ok switched ∧
      (Version.mk 4 16 99).code < switched.code ∧
      (∃ verdict, Check.check .loaded "x86_64".toList "Linux 4.016.99-rc1".toList [] = .ok verdict ∧
        plainName ∈ verdict.expected ∧ prefixedName "x86_64".toList ∉ verdict.expected) ∧
      ∃ verdict, Check.check .loaded "x86_64".toList "4.1000.0".toList [] = .ok verdict ∧
        prefixedName "x86_64".toList ∈ verdict.expected := by
  have plain : version? "Linux 4.016.99-rc1".toList = .ok ⟨4, 16, 99⟩ := rfl
  have switching : version? "4.17.0".toList = .ok switched := rfl
  have wide : version? "4.1000.0".toList = .ok ⟨4, 1000, 0⟩ := rfl
  have narrow : Version.Narrow ⟨4, 16, 99⟩ := ⟨by decide, by decide⟩
  have early : ¬ switched.triple ≤ (Version.mk 4 16 99).triple := by decide
  have late : switched.triple ≤ (Version.mk 4 1000 0).triple := by decide
  obtain ⟨-, ordered, checked⟩ := releases_ordered plain
  obtain ⟨-, -, wideChecked⟩ := releases_ordered wide
  obtain ⟨verdict, given, expects⟩ := checked .loaded "x86_64".toList []
  obtain ⟨other, otherGiven, otherExpects⟩ := wideChecked .loaded "x86_64".toList []
  have unprefixed := (expects.narrow narrow).not.mpr early
  refine ⟨plain, switching, ?_, ⟨verdict, given, ?_, unprefixed⟩, other, otherGiven, otherExpects.late late⟩
  · have before := (ordered _ _ switching narrow Version.switched_narrow).1
    exact before.mpr (by decide)
  · exact not_not.mp (expects.one.not.mp unprefixed)

end KernelRelease
end ProbeCheck
