import ProbeCheck.Proofs.RenderedLog

namespace ProbeCheck.Log
open Text (LineEnd)

-- A text that fits between a separator and the end of its line. It may be empty, begin with a space or
-- end in a return.
structure Fits (field : Text) : Prop where
  feedless : '\n' ∉ field
  single : ¬ fieldSeparator <:+: field

def written (marker : Marker) (fields : List Text) : Text :=
  fields.flatMap fun field => marker.text ++ fieldSeparator ++ field ++ LineEnd.returnFeed.text

theorem fits_of_mem_extract {marker : Marker} {log field : Text} (listed : field ∈ extract marker log) :
    Fits field := by
  obtain ⟨feedless, single, -⟩ := mem_extract listed
  exact ⟨feedless, single⟩

section
variable {marker : Marker} (feedless : '\n' ∉ marker.text)

def markerLead : Lead marker where
  text := marker.text ++ fieldSeparator
  feedless := by simp [feedless, fieldSeparator]
  marked := (List.prefix_append _ _).isInfix
  separated := List.suffix_append _ _

theorem written_cons (field : Text) (rest : List Text) : written marker (field :: rest) =
    (markerLead feedless).text ++ field ++ LineEnd.returnFeed.text ++ written marker rest := rfl

include feedless

theorem lines_written {fields : List Text} (fit : ∀ field ∈ fields, Fits field) :
    (Text.lines (written marker fields)).filterMap (descriptor? marker) = fields := by
  induction fields with
  | nil => exact lines_nil
  | cons field rest ih =>
    have own := fit field List.mem_cons_self
    have later := ih fun other member => fit other (List.mem_cons_of_mem _ member)
    have bare : '\n' ∉ (markerLead feedless).text ++ field := by
      simp [(markerLead feedless).feedless, own.feedless]
    -- The line is ended by a return and a feed, so that a return at the end of the field stays in it.
    have first := Text.lines_terminated bare .returnFeed (written marker rest)
    have found := descriptor?_report (markerLead feedless) own.single
    rw [written_cons feedless, first, LineEnd.kept, List.filterMap_cons_some found, later]

theorem extract_written {fields : List Text} (fit : ∀ field ∈ fields, Fits field) :
    extract marker (written marker fields) = sortTexts fields := by
  rw [extract, lines_written feedless fit]

theorem exists_extract_iff (texts : List Text) :
    (∃ log, extract marker log = texts) ↔ Ascending texts ∧ ∀ text ∈ texts, Fits text := by
  constructor
  · rintro ⟨log, rfl⟩
    refine ⟨sortTexts_ascending _, ?_⟩
    intro text listed
    exact fits_of_mem_extract listed
  · rintro ⟨ascending, fit⟩
    refine ⟨written marker texts, ?_⟩
    rw [extract_written feedless fit]
    exact (sortTexts_ascending texts).eq_of_perm ascending (sortTexts_perm texts)

end

theorem extract_feed {marker : Marker} (fed : '\n' ∈ marker.text) (log : Text) :
    extract marker log = [] := by
  have silent : (Text.lines log).filterMap (descriptor? marker) = [] := by
    refine List.filterMap_eq_nil_iff.mpr fun line listed => ?_
    refine descriptor?_eq_none.mpr fun held => ?_
    exact (Text.mem_lines listed).1 (held.1.subset fed)
  rw [extract, silent]
  exact List.perm_nil.mp (sortTexts_perm [])

-- Exactly the ascending lists of fields that fit are extracted, whatever the marker, and a written list
-- of fields is read back.
theorem extract_image (marker : Marker) :
    ('\n' ∉ marker.text →
      (∀ texts, (∃ log, extract marker log = texts) ↔ Ascending texts ∧ ∀ text ∈ texts, Fits text) ∧
      ∀ fields, (∀ field ∈ fields, Fits field) → extract marker (written marker fields) = sortTexts fields) ∧
    ('\n' ∈ marker.text → ∀ log, extract marker log = []) := by
  refine ⟨fun feedless => ⟨exists_extract_iff feedless, fun fields fit => ?_⟩, extract_feed⟩
  exact extract_written feedless fit

def separatorMarker : Marker := ⟨":\r: ".toList, by decide +kernel⟩

def feedMarker : Marker := ⟨"a\nb".toList, by decide +kernel⟩

def awkwardFields : List Text := [[], " :".toList, " :".toList, "x\r".toList, ":\r:".toList]

theorem awkwardFields_extracted :
    ('\n' ∉ separatorMarker.text ∧ (∀ field ∈ awkwardFields, Fits field) ∧
      extract separatorMarker (written separatorMarker awkwardFields) = sortTexts awkwardFields) ∧
    (∃ log, extract separatorMarker log = [[], " :".toList, "x\r".toList]) ∧
    (¬ ∃ log, extract separatorMarker log = ["x: y".toList]) ∧
    '\n' ∈ feedMarker.text ∧ ∀ log, extract feedMarker log = [] := by
  have feedless : '\n' ∉ separatorMarker.text := by decide +kernel
  have fed : '\n' ∈ feedMarker.text := by decide +kernel
  have fit : ∀ field ∈ awkwardFields, Fits field := by
    have each : ∀ field ∈ awkwardFields, '\n' ∉ field ∧ ¬ fieldSeparator <:+: field := by decide +kernel
    intro field listed
    exact ⟨(each field listed).1, (each field listed).2⟩
  have some : [[], " :".toList, "x\r".toList] ⊆ awkwardFields := by decide +kernel
  obtain ⟨image, readBack⟩ := (extract_image separatorMarker).1 feedless
  refine ⟨⟨feedless, fit, readBack awkwardFields fit⟩, ?_, ?_, fed, (extract_image feedMarker).2 fed⟩
  · refine (image _).mpr ⟨by decide +kernel, ?_⟩
    intro field listed
    exact fit field (some listed)
  · intro extracted
    have single := ((image _).mp extracted).2 _ List.mem_cons_self
    exact single.single (by decide +kernel)

end ProbeCheck.Log
