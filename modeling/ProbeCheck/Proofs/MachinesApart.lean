import ProbeCheck.Proofs.Acceptance

namespace ProbeCheck

theorem cons_perm_cons_iff {first other : Text} {rest : List Text} :
    (first :: rest).Perm (other :: rest) ↔ first = other := by
  rw [← Multiset.coe_eq_coe, ← Multiset.cons_coe, ← Multiset.cons_coe, Multiset.cons_inj_left]

namespace Catalog

theorem recordSet_eq_iff {arch other : Text} {code otherCode : Int} :
    (expected arch code).recordSet = (expected other otherCode).recordSet ↔
      Alike arch code other otherCode := by
  have entries : (expected arch code).recordSet = (expected other otherCode).recordSet ↔
      (expected arch code).descriptors.Perm (expected other otherCode).descriptors := sortTexts_eq_iff
  rw [entries, expected_descriptors, expected_descriptors, cons_perm_cons_iff, cloneDescriptor_eq_iff]

end Catalog

namespace Check
open Catalog (Alike)

variable {arch other : Text} {code otherCode : Int}

theorem alike_of_passed {marker : Marker} {log : Text}
    (passed : (verify marker (.expected arch code) log).passed = true)
    (otherPassed : (verify marker (.expected other otherCode) log).passed = true) :
    Alike arch code other otherCode := by
  have reported := (verify_passed_iff _ _ _).mp passed
  have otherReported := (verify_passed_iff _ _ _).mp otherPassed
  have listed : Catalog.cloneDescriptor arch code ∈ (Catalog.expected other otherCode).descriptors :=
    (reported.symm.trans otherReported).subset List.mem_cons_self
  exact Catalog.cloneDescriptor_mem_iff.mp listed

theorem verify_eq_iff (marker : Marker) (log : Text) :
    verify marker (.expected arch code) log = verify marker (.expected other otherCode) log ↔
      Alike arch code other otherCode := by
  rw [verify, verify, Verdict.compare_eq_iff, ← Catalog.recordSet_eq_iff]
  constructor
  · -- The expected texts are a part of the verdict, so it tells the machines apart whatever the log is.
    rintro ⟨-, wanted⟩
    refine sortTexts_eq_iff.mpr ?_
    exact (Catalog.recordSet_perm _).symm.trans (wanted.trans (Catalog.recordSet_perm _))
  · intro same
    rw [same]
    exact ⟨.refl _, .refl _⟩

-- No log vouches for two machines unless they are alike, and then it says the same of both.
theorem machines_apart (arch other : Text) (code otherCode : Int) :
    ((Catalog.expected arch code).recordSet = (Catalog.expected other otherCode).recordSet ↔
      Alike arch code other otherCode) ∧
    (¬ Alike arch code other otherCode → ∀ marker log,
      ¬ ((verify marker (.expected arch code) log).passed = true ∧
        (verify marker (.expected other otherCode) log).passed = true)) ∧
    ∀ marker log, verify marker (.expected arch code) log =
      verify marker (.expected other otherCode) log ↔ Alike arch code other otherCode := by
  refine ⟨Catalog.recordSet_eq_iff, ?_, verify_eq_iff⟩
  intro apart marker log
  rintro ⟨passed, otherPassed⟩
  exact apart (alike_of_passed passed otherPassed)

theorem underscored_apart :
    ¬ Alike "x86_64".toList 41700 "_x86_64".toList 41700 ∧
    (∀ log, ¬ ((verify .loaded (.expected "x86_64".toList 41700) log).passed = true ∧
      (verify .loaded (.expected "_x86_64".toList 41700) log).passed = true)) ∧
    ∀ log, verify .loaded (.expected "x86_64".toList 41699) log =
      verify .loaded (.expected "_x86_64".toList (-1)) log := by
  have apart : ¬ Alike "x86_64".toList 41700 "_x86_64".toList 41700 := by
    unfold Alike
    decide +kernel
  obtain ⟨-, never, -⟩ := machines_apart "x86_64".toList "_x86_64".toList 41700 41700
  obtain ⟨-, -, same⟩ := machines_apart "x86_64".toList "_x86_64".toList 41699 (-1)
  refine ⟨apart, never apart .loaded, fun log => (same .loaded log).mpr (.inl ?_)⟩
  decide

end Check
end ProbeCheck
