import ProbeCheck.Proofs.CatalogNames
import ProbeCheck.Proofs.Multisets
import Mathlib.Data.List.DropRight

namespace ProbeCheck
namespace Attachment

def Undivided (entry : Attachment) : Prop := ¬ separator <:+: entry.mechanism

instance (entry : Attachment) : Decidable entry.Undivided := inferInstanceAs (Decidable (¬ _))

def ofDescriptor? (text : Text) : Option Attachment :=
  (Text.afterLast? separator text).map fun mechanism =>
    ⟨text.rdrop (separator ++ mechanism).length, mechanism⟩

theorem separator_eq : separator = [',', ' '] := by simp [separator]

theorem afterLast?_separator {text mechanism : Text} :
    Text.afterLast? separator text = some mechanism ↔
      (∃ point, text = point ++ separator ++ mechanism) ∧ ¬ separator <:+: mechanism := by
  rw [separator_eq, Text.afterLast?_pair (by decide)]

theorem rdrop_descriptor (entry : Attachment) :
    entry.descriptor.rdrop (separator ++ entry.mechanism).length = entry.point := by
  rw [descriptor, List.append_assoc, List.rdrop_append_length]

theorem ofDescriptor?_eq_some {text : Text} {entry : Attachment} :
    ofDescriptor? text = some entry ↔ entry.Undivided ∧ entry.descriptor = text := by
  rw [ofDescriptor?, Option.map_eq_some_iff]
  constructor
  · rintro ⟨mechanism, found, rfl⟩
    obtain ⟨⟨point, rfl⟩, single⟩ := afterLast?_separator.mp found
    have front := rdrop_descriptor ⟨point, mechanism⟩
    exact ⟨single, congrArg (fun front => descriptor ⟨front, mechanism⟩) front⟩
  · rintro ⟨undivided, rfl⟩
    have found := afterLast?_separator.mpr ⟨⟨entry.point, rfl⟩, undivided⟩
    exact ⟨entry.mechanism, found, congrArg (Attachment.mk · entry.mechanism) entry.rdrop_descriptor⟩

theorem ofDescriptor?_descriptor {entry : Attachment} (undivided : entry.Undivided) :
    ofDescriptor? entry.descriptor = some entry := ofDescriptor?_eq_some.mpr ⟨undivided, rfl⟩

theorem descriptor_ofDescriptor? (entry : Attachment) :
    (ofDescriptor? entry.descriptor).map descriptor = some entry.descriptor := by
  -- A divided mechanism loses its front to the point, and the descriptor stays the same.
  cases read : ofDescriptor? entry.descriptor with
  | none =>
    have found : separator <:+: entry.descriptor := ⟨entry.point, entry.mechanism, rfl⟩
    have absent := Option.map_eq_none_iff.mp read
    exact absurd found ((Text.afterLast?_eq_none (by simp [separator])).mp absent)
  | some other => rw [Option.map_some, (ofDescriptor?_eq_some.mp read).2]

end Attachment

namespace Catalog
open Attachment (descriptor ofDescriptor? ofDescriptor?_eq_some)

def Undivided (catalog : Catalog) : Prop := ∀ entry ∈ catalog.records, entry.Undivided

instance (catalog : Catalog) : Decidable catalog.Undivided :=
  inferInstanceAs (Decidable (∀ entry ∈ catalog.records, _))

def retold (catalog : Catalog) : Catalog :=
  { catalog with records := catalog.recordSet.filterMap ofDescriptor? }

theorem retold_undivided (catalog : Catalog) : catalog.retold.Undivided := by
  intro entry member
  obtain ⟨text, -, read⟩ := List.mem_filterMap.mp member
  exact (ofDescriptor?_eq_some.mp read).1

theorem retold_descriptors (catalog : Catalog) : catalog.retold.descriptors = catalog.recordSet := by
  have each : ∀ text ∈ catalog.recordSet, (ofDescriptor? text).map descriptor = some text := by
    intro text listed
    obtain ⟨entry, -, rfl⟩ := List.mem_map.mp (catalog.recordSet_perm.subset listed)
    exact entry.descriptor_ofDescriptor?
  rw [descriptors, retold, List.map_filterMap, List.filterMap_congr each, List.filterMap_some]

theorem retold_recordSet (catalog : Catalog) : catalog.retold.recordSet = catalog.recordSet := by
  refine sortTexts_eq_iff.mpr ?_
  exact (List.Perm.of_eq catalog.retold_descriptors).trans catalog.recordSet_perm

theorem retold_records {catalog : Catalog} (undivided : catalog.Undivided) :
    catalog.retold.records.Perm catalog.records := by
  have each : ∀ entry ∈ catalog.records, (ofDescriptor? ∘ descriptor) entry = some entry := by
    intro entry member
    exact Attachment.ofDescriptor?_descriptor (undivided entry member)
  have readBack : catalog.descriptors.filterMap ofDescriptor? = catalog.records := by
    rw [descriptors, List.filterMap_map, List.filterMap_congr each, List.filterMap_some]
  calc catalog.retold.records
    _ = catalog.recordSet.filterMap ofDescriptor? := rfl
    List.Perm _ (catalog.descriptors.filterMap ofDescriptor?) := catalog.recordSet_perm.filterMap _
    _ = catalog.records := readBack

-- As long as no mechanism holds a separator, equal record sets have the same records, each as often. A
-- catalog with any other mechanism is taken for one that has none.
theorem recordSet_eq_iff_perm (catalog : Catalog) :
    (catalog.Undivided → ∀ other : Catalog, other.Undivided →
      (catalog.recordSet = other.recordSet ↔ catalog.records.Perm other.records)) ∧
    (¬ catalog.Undivided → ∃ other : Catalog, other.Undivided ∧
      catalog.recordSet = other.recordSet ∧ ¬ catalog.records.Perm other.records) := by
  constructor
  · intro undivided other otherUndivided
    constructor
    · intro same
      have retold : catalog.retold.records = other.retold.records := by simp only [Catalog.retold, same]
      calc catalog.records
        List.Perm _ catalog.retold.records := (retold_records undivided).symm
        _ = other.retold.records := retold
        List.Perm _ other.records := retold_records otherUndivided
    · intro same
      exact sortTexts_eq_iff.mpr (same.map descriptor)
  · intro divided
    refine ⟨catalog.retold, catalog.retold_undivided, catalog.retold_recordSet.symm, fun same => ?_⟩
    exact divided fun entry member => catalog.retold_undivided entry (same.subset member)

def seamed : Catalog := ⟨"x86_64", 41700, [⟨"a, b,", " c"⟩, ⟨"", ","⟩, ⟨"a,", ""⟩, ⟨"", ","⟩]⟩

def reordered : Catalog := ⟨"", -1, [⟨"", ","⟩, ⟨"a,", ""⟩, ⟨"", ","⟩, ⟨"a, b,", " c"⟩]⟩

def recounted : Catalog := ⟨"x86_64", 41700, [⟨"a, b,", " c"⟩, ⟨"", ","⟩, ⟨"a,", ""⟩, ⟨"a,", ""⟩]⟩

def divided : Catalog := ⟨"x86_64", 41700, [⟨"a", "b, c"⟩]⟩

theorem seamed_told :
    seamed.Undivided ∧ reordered.Undivided ∧ recounted.Undivided ∧
    seamed.recordSet = reordered.recordSet ∧ seamed.recordSet ≠ recounted.recordSet ∧
    ¬ divided.Undivided ∧ ∃ other : Catalog, other.Undivided ∧
      divided.recordSet = other.recordSet ∧ ¬ divided.records.Perm other.records := by
  have single : seamed.Undivided := by decide +kernel
  have reorderedSingle : reordered.Undivided := by decide +kernel
  have recountedSingle : recounted.Undivided := by decide +kernel
  have double : ¬ divided.Undivided := by decide +kernel
  have told := (recordSet_eq_iff_perm seamed).1 single
  refine ⟨single, reorderedSingle, recountedSingle, ?_, ?_, double, (recordSet_eq_iff_perm divided).2 double⟩
  · have moved : seamed.records.Perm reordered.records := by decide +kernel
    exact (told reordered reorderedSingle).mpr moved
  · intro same
    have kept := (told recounted recountedSingle).mp same
    exact absurd kept (by decide +kernel)

end Catalog
end ProbeCheck
