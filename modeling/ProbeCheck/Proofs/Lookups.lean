import Mathlib.Data.List.Perm.Basic
import Mathlib.Data.List.Nodup

namespace ProbeCheck

theorem lookup_map_snd {α β γ : Type} [BEq α] (f : β → γ) (rows : List (α × β)) (key : α) :
    (rows.map fun row => (row.1, f row.2)).lookup key = (rows.lookup key).map f := by
  induction rows with
  | nil => rfl
  | cons row rest ih =>
    rw [List.map_cons, List.lookup_cons, List.lookup_cons]
    cases key == row.1 with
    | true => rfl
    | false => exact ih

section
variable {α β : Type} [BEq α] [LawfulBEq α] {rows other : List (α × β)}

theorem mem_of_lookup {key : α} {value : β} (found : rows.lookup key = some value) : (key, value) ∈ rows := by
  obtain ⟨newer, older, equal, -⟩ := List.lookup_eq_some_iff.mp found
  rw [equal]
  exact List.mem_append_right _ List.mem_cons_self

theorem lookup_eq_some_iff_mem (distinct : (rows.map Prod.fst).Nodup) {key : α} {value : β} :
    rows.lookup key = some value ↔ (key, value) ∈ rows := by
  refine ⟨mem_of_lookup, fun member => ?_⟩
  obtain ⟨newer, older, rfl⟩ := List.append_of_mem member
  rw [List.map_append, List.nodup_append] at distinct
  refine List.lookup_eq_some_iff.mpr ⟨newer, older, rfl, fun row before => ?_⟩
  have apart := distinct.2.2 _ (List.mem_map_of_mem before) key List.mem_cons_self
  simpa using apart.symm

theorem lookup_perm (distinct : (rows.map Prod.fst).Nodup) (same : rows.Perm other) (key : α) :
    rows.lookup key = other.lookup key := by
  have otherDistinct := ((same.map Prod.fst).nodup_iff).mp distinct
  apply Option.ext
  intro value
  rw [lookup_eq_some_iff_mem distinct, lookup_eq_some_iff_mem otherDistinct, same.mem_iff]

end

end ProbeCheck
