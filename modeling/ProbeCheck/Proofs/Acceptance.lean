import ProbeCheck.Check
import ProbeCheck.Proofs.CatalogNames
import ProbeCheck.Proofs.LineEnds
import ProbeCheck.Proofs.Multisets

namespace ProbeCheck
namespace Log

theorem extract_perm (marker : Marker) (log : Text) :
    (extract marker log).Perm ((Text.lines log).filterMap (descriptor? marker)) := sortTexts_perm _

theorem extract_length (marker : Marker) (log : Text) :
    (extract marker log).length = (Text.lines log).countP (Significant marker) := by
  rw [(extract_perm marker log).length_eq, List.length_filterMap_eq_countP]
  refine List.countP_congr fun line _ => ?_
  rw [Option.isSome_iff_ne_none, ne_eq, descriptor?_eq_none, Decidable.not_not, decide_eq_true_iff]

theorem count_extract (marker : Marker) (log field : Text) :
    (extract marker log).count field =
      (Text.lines log).countP fun line => Significant marker line ∧ LastField line field := by
  rw [(extract_perm marker log).count_eq, List.count_filterMap]
  refine List.countP_congr fun line _ => ?_
  rw [beq_iff_eq, descriptor?_eq_some, decide_eq_true_iff]

theorem mem_extract {marker : Marker} {log field : Text} (listed : field ∈ extract marker log) :
    '\n' ∉ field ∧ ¬ fieldSeparator <:+: field ∧ ∀ c ∈ field, c ∈ log := by
  have found := (extract_perm marker log).subset listed
  obtain ⟨line, ofLog, reported⟩ := List.mem_filterMap.mp found
  obtain ⟨feedless, inside⟩ := Text.mem_lines ofLog
  obtain ⟨-, ⟨before, rfl⟩, single⟩ := descriptor?_eq_some.mp reported
  refine ⟨fun fed => ?_, single, fun c member => ?_⟩
  · exact feedless (List.mem_append_right _ fed)
  · exact inside c (List.mem_append_right _ member)

end Log

namespace Check

theorem check_ok {release : Text} {version : Version}
    (accepted : KernelRelease.version? release = .ok version) (marker : Marker) (arch log : Text) :
    check marker arch release log = .ok (verify marker (.expected arch version.code) log) := by
  rw [check, accepted]
  rfl

theorem verify_passed_iff (marker : Marker) (catalog : Catalog) (log : Text) :
    (verify marker catalog log).passed = true ↔
      (Log.extract marker log).Perm catalog.descriptors := by
  rw [verify, Verdict.passed_iff_perm]
  exact ⟨fun same => same.trans catalog.recordSet_perm,
    fun same => same.trans catalog.recordSet_perm.symm⟩

-- A log is accepted when fourteen of its lines count and each descriptor is the last field of
-- exactly one of them.
theorem check_passed_iff (arch log : Text) {release : Text} {version : Version}
    (accepted : KernelRelease.version? release = .ok version) :
    (Catalog.expected arch version.code).descriptors.Nodup ∧
      ∃ lines verdict, Text.LinesOf log lines ∧ check .loaded arch release log = .ok verdict ∧
        (verdict.passed = true ↔
          lines.countP (Log.Significant .loaded) = 14 ∧
            ∀ descriptor ∈ (Catalog.expected arch version.code).descriptors,
              lines.countP (fun line =>
                Log.Significant .loaded line ∧ Log.LastField line descriptor) = 1) := by
  have distinct := Catalog.descriptors_nodup arch version.code
  refine ⟨distinct, _, _, Text.linesOf log, check_ok accepted .loaded arch log, ?_⟩
  rw [verify_passed_iff, perm_iff_each_once distinct, Catalog.descriptors_length, Log.extract_length]
  simp only [Log.count_extract]

def startupLog : Text :=
  "starting\n".toList ++ (Catalog.expected "amd64".toList 50400).descriptors.flatMap fun descriptor =>
    "[T INFO  ingraind::grains::ebpf] Loaded: ".toList ++ descriptor ++ ['\r', '\n']

theorem startupLog_passes :
    KernelRelease.version? "5.4.0-42-generic".toList = .ok ⟨5, 4, 0⟩ ∧
      ∃ verdict, check .loaded "amd64".toList "5.4.0-42-generic".toList startupLog = .ok verdict ∧
        verdict.passed = true := by
  have accepted : KernelRelease.version? "5.4.0-42-generic".toList = .ok ⟨5, 4, 0⟩ := rfl
  obtain ⟨_, lines, verdict, ofLog, checked, passed⟩ :=
    check_passed_iff "amd64".toList startupLog accepted
  refine ⟨accepted, verdict, checked, passed.mpr ?_⟩
  rw [← Text.lines_complete ofLog]
  decide +kernel

end Check
end ProbeCheck
