import ProbeCheck.Verdict
import Mathlib.Data.List.Perm.Subperm
import Mathlib.Data.Multiset.AddSub

namespace ProbeCheck

def InOrder (texts : List Text) : Prop :=
  texts.Pairwise fun earlier later => Text.notAfter earlier later = true

def Text.Before (left right : Text) : Prop := List.Lex (fun c d => c.toNat < d.toNat) left right

def Ascending (texts : List Text) : Prop := texts.Pairwise fun earlier later => ¬ later.Before earlier

theorem Text.notAfter_iff (left right : Text) : notAfter left right = true ↔ ¬ right.Before left := by
  induction left generalizing right with
  | nil => simp [notAfter, Before]
  | cons c rest ih =>
    cases right with
    | nil => simp [notAfter, Before]
    | cons d more =>
      have next := ih more
      rw [Before] at next ⊢
      rw [List.cons_lex_cons_iff, not_or, not_and, ← next]
      simp only [notAfter, Bool.or_eq_true, Bool.and_eq_true, decide_eq_true_eq, beq_iff_eq]
      by_cases same : c = d
      · subst same
        simp
      · have apart : c.toNat ≠ d.toNat := fun equal => same (Char.toNat_inj.mp equal)
        have other : d ≠ c := fun equal => same equal.symm
        simp only [same, other, false_and, or_false, false_implies, and_true]
        omega

theorem inOrder_iff (texts : List Text) : InOrder texts ↔ Ascending texts := by
  unfold InOrder Ascending
  simp only [Text.notAfter_iff]

instance (texts : List Text) : Decidable (Ascending texts) :=
  decidable_of_iff (texts.Pairwise fun earlier later => Text.notAfter earlier later = true) (inOrder_iff texts)

theorem sortTexts_inOrder (texts : List Text) : InOrder (sortTexts texts) := sortTexts_pairwise texts

theorem sortTexts_ascending (texts : List Text) : Ascending (sortTexts texts) :=
  (inOrder_iff _).mp (sortTexts_inOrder texts)

theorem Ascending.eq_of_perm {left right : List Text} (one : Ascending left) (two : Ascending right)
    (same : left.Perm right) : left = right :=
  same.eq_of_pairwise (fun _ _ _ _ => Text.notAfter_antisymm) ((inOrder_iff left).mpr one)
    ((inOrder_iff right).mpr two)

theorem sortTexts_eq_iff {left right : List Text} :
    sortTexts left = sortTexts right ↔ left.Perm right := by
  constructor
  · intro equal
    exact (sortTexts_perm left).symm.trans (equal ▸ sortTexts_perm right)
  · intro same
    refine (sortTexts_ascending left).eq_of_perm (sortTexts_ascending right) ?_
    exact (sortTexts_perm left).trans (same.trans (sortTexts_perm right).symm)

theorem perm_iff_each_once {actual expected : List Text} (distinct : expected.Nodup) :
    actual.Perm expected ↔
      actual.length = expected.length ∧ ∀ text ∈ expected, actual.count text = 1 := by
  constructor
  · intro same
    refine ⟨same.length_eq, fun text member => ?_⟩
    rw [same.count_eq, List.count_eq_one_of_mem distinct member]
  · rintro ⟨length, once⟩
    have present : expected ⊆ actual := fun text member =>
      List.count_pos_iff.mp (by rw [once text member]; exact Nat.one_pos)
    exact ((List.subperm_of_subset distinct present).perm_of_length_le length.le).symm

theorem coe_count (text : Text) (texts : List Text) :
    (texts : Multiset Text).count text = texts.count text := by
  -- The two ways to test texts for equality count the same.
  rw [Multiset.coe_count]
  congr
  exact lawful_beq_subsingleton _ _

namespace Verdict

structure Exact (verdict : Verdict) (actual expected : List Text) : Prop where
  missing_inOrder : InOrder verdict.missing
  missing_eq : (verdict.missing : Multiset Text) = ↑expected - ↑actual
  missing_count : ∀ text, verdict.missing.count text = expected.count text - actual.count text
  unexpected_inOrder : InOrder verdict.unexpected
  unexpected_eq : (verdict.unexpected : Multiset Text) = ↑actual - ↑expected
  unexpected_count : ∀ text, verdict.unexpected.count text = actual.count text - expected.count text
  passed_iff_perm : verdict.passed = true ↔ actual.Perm expected

theorem count_missing (actual expected : List Text) (text : Text) :
    (compare actual expected).missing.count text = expected.count text - actual.count text := by
  simp only [compare, (sortTexts_perm _).count_eq, count_withoutEach]

theorem count_unexpected (actual expected : List Text) (text : Text) :
    (compare actual expected).unexpected.count text = actual.count text - expected.count text := by
  simp only [compare, (sortTexts_perm _).count_eq, count_withoutEach]

theorem passed_iff (actual expected : List Text) :
    (compare actual expected).passed = true ↔
      (compare actual expected).missing = [] ∧ (compare actual expected).unexpected = [] := by
  simp [compare]

theorem passed_iff_perm (actual expected : List Text) :
    (compare actual expected).passed = true ↔ actual.Perm expected := by
  rw [passed_iff, List.perm_iff_count]
  constructor
  · rintro ⟨missing, unexpected⟩ text
    have fewer := count_missing actual expected text
    have more := count_unexpected actual expected text
    rw [missing, List.count_nil] at fewer
    rw [unexpected, List.count_nil] at more
    omega
  · intro same
    constructor
    · refine List.eq_nil_iff_forall_not_mem.mpr fun text => ?_
      rw [← List.count_eq_zero, count_missing, same, Nat.sub_self]
    · refine List.eq_nil_iff_forall_not_mem.mpr fun text => ?_
      rw [← List.count_eq_zero, count_unexpected, same, Nat.sub_self]

theorem compare_exact (actual expected : List Text) : (compare actual expected).Exact actual expected := by
  refine ⟨sortTexts_inOrder _, ?_, count_missing _ _, sortTexts_inOrder _, ?_,
    count_unexpected _ _, passed_iff_perm _ _⟩
  · ext text
    rw [Multiset.count_sub, coe_count, coe_count, coe_count, count_missing]
  · ext text
    rw [Multiset.count_sub, coe_count, coe_count, coe_count, count_unexpected]

theorem compare_congr {actual expected others wanted : List Text} (same : actual.Perm others)
    (alike : expected.Perm wanted) : compare actual expected = compare others wanted := by
  simp only [compare, sortTexts_eq_iff.mpr same, sortTexts_eq_iff.mpr alike]

theorem compare_eq_iff {actual expected others wanted : List Text} :
    compare actual expected = compare others wanted ↔ actual.Perm others ∧ expected.Perm wanted := by
  constructor
  · -- The sorted inputs are in the verdict, so it depends on nothing less either.
    intro equal
    exact ⟨sortTexts_eq_iff.mp (congrArg Verdict.actual equal),
      sortTexts_eq_iff.mp (congrArg Verdict.expected equal)⟩
  · rintro ⟨same, alike⟩
    exact compare_congr same alike

-- What a verdict on two lists has to be. Its four lists are ascending, and a text stands in a difference
-- as often as one input has it beyond the other.
structure Differences (verdict : Verdict) (actual expected : List Text) : Prop where
  missing_count : ∀ text, (verdict.missing.count text : Int) =
    max 0 ((expected.count text : Int) - actual.count text)
  unexpected_count : ∀ text, (verdict.unexpected.count text : Int) =
    max 0 ((actual.count text : Int) - expected.count text)
  missing_ascending : Ascending verdict.missing
  unexpected_ascending : Ascending verdict.unexpected
  actual_ascending : Ascending verdict.actual
  expected_ascending : Ascending verdict.expected
  actual_perm : verdict.actual.Perm actual
  expected_perm : verdict.expected.Perm expected
  passed_iff_perm : verdict.passed = true ↔ actual.Perm expected
  passed_iff_eq : verdict.passed = true ↔ verdict.actual = verdict.expected

theorem compare_differences (actual expected : List Text) :
    (compare actual expected).Differences actual expected where
  missing_count text := by
    rw [count_missing]
    omega
  unexpected_count text := by
    rw [count_unexpected]
    omega
  missing_ascending := sortTexts_ascending _
  unexpected_ascending := sortTexts_ascending _
  actual_ascending := sortTexts_ascending _
  expected_ascending := sortTexts_ascending _
  actual_perm := sortTexts_perm actual
  expected_perm := sortTexts_perm expected
  passed_iff_perm := passed_iff_perm actual expected
  passed_iff_eq := (passed_iff_perm actual expected).trans sortTexts_eq_iff.symm

theorem Differences.unique {verdict other : Verdict} {actual expected : List Text}
    (one : verdict.Differences actual expected) (two : other.Differences actual expected) :
    verdict = other := by
  -- Ascending lists with the same counts are the same, so no two verdicts are like that.
  have missing : verdict.missing.Perm other.missing := by
    refine List.perm_iff_count.mpr fun text => ?_
    have left := one.missing_count text
    have right := two.missing_count text
    omega
  have unexpected : verdict.unexpected.Perm other.unexpected := by
    refine List.perm_iff_count.mpr fun text => ?_
    have left := one.unexpected_count text
    have right := two.unexpected_count text
    omega
  have passed : verdict.passed = other.passed :=
    Bool.eq_iff_iff.mpr (one.passed_iff_perm.trans two.passed_iff_perm.symm)
  have actualSame := one.actual_perm.trans two.actual_perm.symm
  have expectedSame := one.expected_perm.trans two.expected_perm.symm
  cases verdict
  cases other
  rw [mk.injEq]
  refine ⟨passed, ?_, ?_, ?_, ?_⟩
  · exact one.actual_ascending.eq_of_perm two.actual_ascending actualSame
  · exact one.expected_ascending.eq_of_perm two.expected_ascending expectedSame
  · exact one.missing_ascending.eq_of_perm two.missing_ascending missing
  · exact one.unexpected_ascending.eq_of_perm two.unexpected_ascending unexpected

-- All this is true of the verdict on two lists and of no other, and only their order is forgotten.
theorem compare_exactly (actual expected : List Text) :
    (∀ verdict : Verdict, verdict.Differences actual expected ↔ verdict = compare actual expected) ∧
    ∀ others wanted, compare actual expected = compare others wanted ↔
      actual.Perm others ∧ expected.Perm wanted := by
  have own := compare_differences actual expected
  refine ⟨fun verdict => ⟨fun told => told.unique own, ?_⟩, fun others wanted => compare_eq_iff⟩
  rintro rfl
  exact own

end Verdict
end ProbeCheck
