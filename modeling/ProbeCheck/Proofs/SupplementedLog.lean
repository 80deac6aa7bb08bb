import ProbeCheck.Proofs.ExtractionImage

namespace ProbeCheck

namespace Text

theorem lines_append {before : Text} (unreturned : before.getLast? ≠ some '\r') (after : Text) :
    lines (before ++ '\n' :: after) = lines before ++ lines after := by
  induction before using line_induction with
  | last line feedless =>
    -- The feed ends this line, which has no return to lose.
    rw [lines_feed feedless, withoutReturn_of_unreturned unreturned, lines_last feedless]
    rfl
  | ended line rest ending feedless longest ih =>
    have later : rest.getLast? ≠ some '\r' := by
      intro returned
      apply unreturned
      rw [List.getLast?_append, returned]
      rfl
    rw [List.append_assoc (line ++ ending.text), lines_ended ending feedless longest, ih later,
      lines_ended ending feedless longest]
    rfl

end Text

namespace Log

variable {marker : Marker}

theorem extract_append {log : Text} (unreturned : log.getLast? ≠ some '\r') (rest : Text) :
    (extract marker (log ++ '\n' :: rest)).Perm (extract marker log ++ extract marker rest) := by
  have whole := extract_perm marker (log ++ '\n' :: rest)
  rw [Text.lines_append unreturned, List.filterMap_append] at whole
  exact whole.trans ((extract_perm marker log).append (extract_perm marker rest)).symm

def supplemented (marker : Marker) (log : Text) (given : List Descriptor) : Text :=
  log ++ '\n' :: given.flatMap fun descriptor =>
    marker.text ++ fieldSeparator ++ descriptor.text ++ ['\n']

theorem extract_supplemented (feedless : '\n' ∉ marker.text) {log : Text}
    (unreturned : log.getLast? ≠ some '\r') (given : List Descriptor) :
    (extract marker (supplemented marker log given)).Perm
      (extract marker log ++ given.map Descriptor.text) := by
  have rendered : supplemented marker log given =
      log ++ '\n' :: render (reports (markerLead feedless) given) := by
    rw [supplemented, render, reports, List.flatMap_map]
    rfl
  have appended := extract_render (reports (markerLead feedless) given)
  rw [reported_reports] at appended
  rw [rendered]
  exact (extract_append unreturned _).trans (appended.append_left _)

end Log

namespace Verdict

theorem eq_nil_iff_count {texts : List Text} : texts = [] ↔ ∀ text, texts.count text = 0 := by
  simp only [List.eq_nil_iff_forall_not_mem, List.count_eq_zero]

section
variable {actual given expected : List Text}

theorem passed_append_iff : (compare (actual ++ given) expected).passed = true ↔
    (compare actual expected).unexpected = [] ∧ given.Perm (compare actual expected).missing := by
  rw [passed_iff_perm, eq_nil_iff_count, List.perm_iff_count, List.perm_iff_count, ← forall_and]
  refine forall_congr' fun text => ?_
  rw [List.count_append, count_unexpected, count_missing]
  omega

theorem compare_append (repairs : given.Perm (compare actual expected).missing) :
    (compare (actual ++ given) expected).missing = [] ∧
      (compare (actual ++ given) expected).unexpected = (compare actual expected).unexpected := by
  have filled (text : Text) : given.count text = expected.count text - actual.count text := by
    rw [repairs.count_eq, count_missing]
  constructor
  · refine eq_nil_iff_count.mpr fun text => ?_
    rw [count_missing, List.count_append, filled]
    omega
  · refine (compare_differences _ _).unexpected_ascending.eq_of_perm
      (compare_differences _ _).unexpected_ascending (List.perm_iff_count.mpr fun text => ?_)
    rw [count_unexpected, count_unexpected, List.count_append, filled]
    omega

end

structure Supplemented (before after : Verdict) (given : List Text) : Prop where
  actual_ascending : Ascending after.actual
  actual_perm : after.actual.Perm (before.actual ++ given)
  expected_eq : after.expected = before.expected
  passed_iff : after.passed = true ↔ before.unexpected = [] ∧ given.Perm before.missing
  repaired : given.Perm before.missing → after.missing = [] ∧ after.unexpected = before.unexpected

theorem compare_supplemented {actual given longer : List Text} (appended : longer.Perm (actual ++ given))
    (expected : List Text) : (compare actual expected).Supplemented (compare longer expected) given := by
  have before := compare_differences actual expected
  rw [compare_congr appended (.refl expected)]
  have after := compare_differences (actual ++ given) expected
  refine ⟨after.actual_ascending, ?_, rfl, passed_append_iff, compare_append⟩
  exact after.actual_perm.trans (before.actual_perm.symm.append_right given)

end Verdict

namespace Check
open Log (Descriptor supplemented)

-- The verdict on a log says what repairs it: nothing but lines with the missing descriptors, each as often
-- as it is missing, and only where nothing is unexpected.
theorem check_supplemented (arch : Text) {release : Text} {version : Version}
    (accepted : KernelRelease.version? release = .ok version) {log : Text}
    (unreturned : log.getLast? ≠ some '\r') (given : List Descriptor) :
    ∃ before after, check .loaded arch release log = .ok before ∧
      check .loaded arch release (supplemented .loaded log given) = .ok after ∧
      before.Supplemented after (given.map Descriptor.text) := by
  have feedless : '\n' ∉ Marker.loaded.text := by decide +kernel
  have appended := Log.extract_supplemented feedless unreturned given
  refine ⟨_, _, check_ok accepted .loaded arch log, check_ok accepted .loaded arch _, ?_⟩
  exact Verdict.compare_supplemented appended _

def openLog : Text := "starting\r\ningraind::grains::ebpf] Loaded: dns_queries, XDP".toList

theorem openLog_repaired :
    openLog.getLast? ≠ some '\r' ∧ KernelRelease.version? "5.4.0".toList = .ok ⟨5, 4, 0⟩ ∧
    ∃ before after given, check .loaded "amd64".toList "5.4.0".toList openLog = .ok before ∧
      check .loaded "amd64".toList "5.4.0".toList (supplemented .loaded openLog given) = .ok after ∧
      after.passed = true ∧ before.unexpected = [] ∧
      (given.map Descriptor.text).Perm before.missing ∧ after.missing = [] := by
  have accepted : KernelRelease.version? "5.4.0".toList = .ok ⟨5, 4, 0⟩ := rfl
  have unreturned : openLog.getLast? ≠ some '\r' := by decide +kernel
  obtain ⟨given, written⟩ : ∃ given : List Descriptor, given.map Descriptor.text =
      (Catalog.expected "amd64".toList 50400).descriptors.erase queries.text := by
    refine Log.exists_descriptors fun text member => ?_
    exact Catalog.descriptors_writable (.inr ⟨by decide +kernel, by decide +kernel⟩) text
      (List.mem_of_mem_erase member)
  obtain ⟨before, after, checked, again, supplement⟩ :=
    check_supplemented "amd64".toList accepted unreturned given
  have passed : after.passed = true := by
    cases again.symm.trans (check_ok accepted .loaded "amd64".toList _)
    rw [verify_passed_iff]
    refine (Log.extract_supplemented (by decide +kernel) unreturned given).trans ?_
    rw [written]
    exact ((Log.extract_perm _ _).append_right _).trans (by decide +kernel)
  obtain ⟨expected, missing⟩ := supplement.passed_iff.mp passed
  refine ⟨unreturned, accepted, before, after, given, checked, again, passed, expected, missing, ?_⟩
  exact (supplement.repaired missing).1

end Check
end ProbeCheck
