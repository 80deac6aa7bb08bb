import ProbeCheck.Catalog
import ProbeCheck.Proofs.Occurrences

namespace ProbeCheck.Catalog

def descriptors (catalog : Catalog) : List Text := catalog.records.map Attachment.descriptor

def cloneDescriptor (arch : Text) (code : Int) : Text :=
  Attachment.descriptor ⟨clonePoint code arch, cloneMechanism⟩

theorem expected_descriptors (arch : Text) (code : Int) :
    (expected arch code).descriptors =
      cloneDescriptor arch code :: invariants.map Attachment.descriptor := rfl

theorem descriptors_length (arch : Text) (code : Int) :
    (expected arch code).descriptors.length = 14 := rfl

theorem recordSet_perm (catalog : Catalog) : catalog.recordSet.Perm catalog.descriptors :=
  sortTexts_perm _

theorem cloneDescriptor_plain {code : Int} (old : code < namingThreshold) (arch : Text) :
    cloneDescriptor arch code = "sys_clone, Kprobe".toList := by
  have plain : clonePoint code arch = cloneSyscall := if_neg (by omega)
  rw [cloneDescriptor, plain]
  decide +kernel

theorem cloneDescriptor_prefixed {code : Int} (new : namingThreshold ≤ code) (arch : Text) :
    cloneDescriptor arch code = "__".toList ++ (arch ++ "_sys_clone, Kprobe".toList) := by
  have prefixed : clonePoint code arch = "__".toList ++ arch ++ "_".toList ++ cloneSyscall := by
    simp [clonePoint, new]
  have ending : "_".toList ++ cloneSyscall ++ Attachment.separator ++ cloneMechanism =
      "_sys_clone, Kprobe".toList := by decide +kernel
  rw [cloneDescriptor, prefixed, ← ending]
  simp only [Attachment.descriptor, List.append_assoc]

-- Two machines that name the clone hook alike: older ones all do, newer ones with the architecture in common.
def Alike (arch : Text) (code : Int) (other : Text) (otherCode : Int) : Prop :=
  (code < 41700 ∧ otherCode < 41700) ∨ (41700 ≤ code ∧ 41700 ≤ otherCode ∧ arch = other)

theorem cloneDescriptor_eq_iff {arch other : Text} {code otherCode : Int} :
    cloneDescriptor arch code = cloneDescriptor other otherCode ↔ Alike arch code other otherCode := by
  have threshold : (namingThreshold : Int) = 41700 := rfl
  unfold Alike
  rcases Int.lt_or_le code namingThreshold with old | new
  · rcases Int.lt_or_le otherCode namingThreshold with otherOld | otherNew
    · rw [cloneDescriptor_plain old, cloneDescriptor_plain otherOld]
      exact iff_of_true rfl (.inl ⟨by omega, by omega⟩)
    · rw [cloneDescriptor_plain old, cloneDescriptor_prefixed otherNew]
      exact iff_of_false (by simp) (by omega)
  · rcases Int.lt_or_le otherCode namingThreshold with otherOld | otherNew
    · rw [cloneDescriptor_prefixed new, cloneDescriptor_plain otherOld]
      exact iff_of_false (by simp) (by omega)
    · rw [cloneDescriptor_prefixed new, cloneDescriptor_prefixed otherNew, List.append_cancel_left_eq,
        List.append_cancel_right_eq]
      constructor
      · intro same
        exact .inr ⟨by omega, by omega, same⟩
      · rintro (⟨old, -⟩ | ⟨-, -, same⟩)
        · omega
        · exact same

theorem cloneDescriptor_not_mem (arch : Text) (code : Int) :
    cloneDescriptor arch code ∉ invariants.map Attachment.descriptor := by
  have heads : ∀ text ∈ invariants.map Attachment.descriptor,
      text.head? ≠ some '_' ∧ text.head? ≠ some 's' := by decide +kernel
  intro member
  have apart := heads _ member
  rcases Int.lt_or_le code namingThreshold with old | new
  · rw [cloneDescriptor_plain old] at apart
    exact apart.2 rfl
  · rw [cloneDescriptor_prefixed new] at apart
    exact apart.1 rfl

theorem cloneDescriptor_mem_iff {arch other : Text} {code otherCode : Int} :
    cloneDescriptor arch code ∈ (expected other otherCode).descriptors ↔ Alike arch code other otherCode := by
  rw [expected_descriptors, List.mem_cons, or_iff_left (cloneDescriptor_not_mem arch code),
    cloneDescriptor_eq_iff]

theorem descriptors_nodup (arch : Text) (code : Int) : (expected arch code).descriptors.Nodup := by
  rw [expected_descriptors, List.nodup_cons]
  exact ⟨cloneDescriptor_not_mem arch code, by decide +kernel⟩

theorem cloneDescriptor_unreturned (arch : Text) (code : Int) :
    (cloneDescriptor arch code).getLast? ≠ some '\r' := by
  rcases Int.lt_or_le code namingThreshold with old | new
  · rw [cloneDescriptor_plain old]
    decide +kernel
  · rw [cloneDescriptor_prefixed new, List.getLast?_append, List.getLast?_append]
    simp

theorem mem_cloneDescriptor {c : Char} (foreign : c ∉ "__sys_clone, Kprobe".toList) (arch : Text)
    (code : Int) : c ∈ cloneDescriptor arch code ↔ namingThreshold ≤ code ∧ c ∈ arch := by
  simp only [String.reduceToList, List.mem_cons, List.not_mem_nil, or_false, not_or] at foreign
  rcases Int.lt_or_le code namingThreshold with old | new
  · rw [cloneDescriptor_plain old]
    have older : ¬ (namingThreshold : Int) ≤ code := by omega
    simp [older, foreign]
  · rw [cloneDescriptor_prefixed new]
    simp [new, foreign]

theorem not_mem_descriptors {c : Char} (foreign : c ∉ "__sys_clone, Kprobe".toList)
    (fixed : ∀ text ∈ invariants.map Attachment.descriptor, c ∉ text) {arch : Text} {code : Int}
    (clean : namingThreshold ≤ code → c ∉ arch) : ∀ text ∈ (expected arch code).descriptors, c ∉ text := by
  intro text member
  rw [expected_descriptors] at member
  rcases List.mem_cons.mp member with rfl | old
  · rw [mem_cloneDescriptor foreign]
    exact fun held => clean held.1 held.2
  · exact fixed text old

theorem separator_infix_cloneDescriptor (arch : Text) (code : Int) :
    Log.fieldSeparator <:+: cloneDescriptor arch code ↔
      namingThreshold ≤ code ∧ Log.fieldSeparator <:+: arch := by
  rcases Int.lt_or_le code namingThreshold with old | new
  · rw [cloneDescriptor_plain old]
    have older : ¬ (namingThreshold : Int) ≤ code := by omega
    have single : ¬ Log.fieldSeparator <:+: "sys_clone, Kprobe".toList := by decide +kernel
    exact iff_of_false single fun held => older held.1
  · rw [cloneDescriptor_prefixed new, Log.separator_infix_append, Log.separator_infix_append]
    -- Next to the architecture the fixed text has underscores, so no separator stands across its ends.
    have left : ¬ Log.fieldSeparator <:+: "__".toList := by decide +kernel
    have right : ¬ Log.fieldSeparator <:+: "_sys_clone, Kprobe".toList := by decide +kernel
    simp only [new, left, right, true_and, false_or]
    simp

end ProbeCheck.Catalog
