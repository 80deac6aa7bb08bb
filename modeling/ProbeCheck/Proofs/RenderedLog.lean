import ProbeCheck.Proofs.Acceptance

namespace ProbeCheck
namespace Log
open Text (LineEnd)

structure Descriptor where
  text : Text
  feedless : '\n' ∉ text
  single : ¬ fieldSeparator <:+: text
  unreturned : text.getLast? ≠ some '\r'

structure Lead (marker : Marker) where
  text : Text
  feedless : '\n' ∉ text
  marked : marker.text <:+: text
  separated : fieldSeparator <:+ text

-- Any other line that does not count. It may hold the marker or a separator, but not both.
structure Noise (marker : Marker) where
  text : Text
  feedless : '\n' ∉ text
  silent : ¬ marker.text <:+: text ∨ ¬ fieldSeparator <:+: text

inductive Entry (marker : Marker)
  | report (lead : Lead marker) (descriptor : Descriptor)
  | noise (noise : Noise marker)

variable {marker : Marker}

def Entry.text : Entry marker → Text
  | .report lead descriptor => lead.text ++ descriptor.text
  | .noise line => line.text

def Entry.reported? : Entry marker → Option Text
  | .report _ descriptor => some descriptor.text
  | .noise _ => none

def render (entries : List (Entry marker × LineEnd)) : Text :=
  entries.flatMap fun entry => entry.1.text ++ entry.2.text

def reported (entries : List (Entry marker × LineEnd)) : List Text :=
  entries.filterMap fun entry => entry.1.reported?

theorem Entry.feedless (entry : Entry marker) : '\n' ∉ entry.text := by
  cases entry with
  | report lead descriptor => simp [Entry.text, lead.feedless, descriptor.feedless]
  | noise line => exact line.feedless

theorem report_unreturned (lead : Lead marker) (descriptor : Descriptor) :
    (lead.text ++ descriptor.text).getLast? ≠ some '\r' := by
  -- A lead ends in a space, so a reported line ends in a return only if its descriptor does.
  obtain ⟨before, equal⟩ := lead.separated
  rw [List.getLast?_append, ← equal, List.getLast?_append]
  cases last : descriptor.text.getLast? with
  | none => simp [fieldSeparator]
  | some c =>
    have other := descriptor.unreturned
    rw [last] at other
    simpa using other

theorem descriptor?_report (lead : Lead marker) {field : Text} (single : ¬ fieldSeparator <:+: field) :
    descriptor? marker (lead.text ++ field) = some field := by
  obtain ⟨before, equal⟩ := lead.separated
  refine descriptor?_eq_some.mpr ⟨⟨?_, ?_⟩, ⟨before, by rw [equal]⟩, single⟩
  · exact lead.marked.trans (List.prefix_append _ _).isInfix
  · exact lead.separated.isInfix.trans (List.prefix_append _ _).isInfix

theorem descriptor?_kept (entry : Entry marker) (ending : LineEnd) :
    descriptor? marker (ending.kept entry.text) = entry.reported? := by
  cases entry with
  | report lead descriptor =>
    rw [Entry.text, Text.kept_of_longest fun _ => report_unreturned lead descriptor,
      descriptor?_report lead descriptor.single, Entry.reported?]
  | noise line =>
    refine descriptor?_eq_none.mpr fun ⟨marked, separated⟩ => ?_
    have inside := (Text.kept_prefix ending line.text).isInfix
    exact line.silent.elim (· (marked.trans inside)) (· (separated.trans inside))

theorem lines_nil : (Text.lines []).filterMap (descriptor? marker) = [] := by
  have empty : descriptor? marker [] = none :=
    descriptor?_eq_none.mpr fun held => marker.nonempty (List.infix_nil.mp held.1)
  rw [Text.lines_last List.not_mem_nil, List.filterMap_cons_none empty, List.filterMap_nil]

theorem lines_render (entries : List (Entry marker × LineEnd)) :
    (Text.lines (render entries)).filterMap (descriptor? marker) = reported entries := by
  induction entries with
  | nil => exact lines_nil
  | cons entry rest ih =>
    have first := Text.lines_terminated entry.1.feedless entry.2 (render rest)
    simp only [render, reported, List.flatMap_cons, List.filterMap_cons] at ih first ⊢
    rw [first, List.filterMap_cons, descriptor?_kept, ih]

theorem extract_render (entries : List (Entry marker × LineEnd)) :
    (extract marker (render entries)).Perm (reported entries) := by
  rw [← lines_render]
  exact extract_perm marker _

def reports (lead : Lead marker) (given : List Descriptor) : List (Entry marker × LineEnd) :=
  given.map fun descriptor => (.report lead descriptor, .feed)

theorem reported_reports (lead : Lead marker) (given : List Descriptor) :
    reported (reports lead given) = given.map Descriptor.text := by
  simp [reports, reported, Entry.reported?, List.filterMap_map]

theorem exists_descriptors {texts : List Text}
    (writable : ∀ text ∈ texts, ∃ descriptor : Descriptor, descriptor.text = text) :
    ∃ given : List Descriptor, given.map Descriptor.text = texts := by
  induction texts with
  | nil => exact ⟨[], rfl⟩
  | cons text rest ih =>
    obtain ⟨descriptor, rfl⟩ := writable text List.mem_cons_self
    obtain ⟨given, equal⟩ := ih fun other member => writable other (List.mem_cons_of_mem _ member)
    exact ⟨descriptor :: given, congrArg (descriptor.text :: ·) equal⟩

theorem exists_reported (lead : Lead marker) {texts : List Text}
    (writable : ∀ text ∈ texts, ∃ descriptor : Descriptor, descriptor.text = text) :
    ∃ entries : List (Entry marker × LineEnd), reported entries = texts := by
  obtain ⟨given, rfl⟩ := exists_descriptors writable
  exact ⟨reports lead given, reported_reports lead given⟩

end Log

namespace Catalog

theorem descriptors_writable {arch : Text} {code : Int}
    (clean : code < namingThreshold ∨ '\n' ∉ arch ∧ ¬ Log.fieldSeparator <:+: arch) :
    ∀ text ∈ (expected arch code).descriptors, ∃ descriptor : Log.Descriptor, descriptor.text = text := by
  have fixed : ∀ text ∈ invariants.map Attachment.descriptor,
      '\n' ∉ text ∧ ¬ Log.fieldSeparator <:+: text ∧ text.getLast? ≠ some '\r' := by decide +kernel
  intro text member
  rw [expected_descriptors] at member
  rcases List.mem_cons.mp member with rfl | old
  · have feedless : '\n' ∉ cloneDescriptor arch code := by
      rw [mem_cloneDescriptor (by decide +kernel)]
      rintro ⟨new, fed⟩
      exact clean.elim (fun old => by omega) fun free => free.1 fed
    have single : ¬ Log.fieldSeparator <:+: cloneDescriptor arch code := by
      rw [separator_infix_cloneDescriptor]
      rintro ⟨new, found⟩
      exact clean.elim (fun old => by omega) fun free => free.2 found
    exact ⟨⟨_, feedless, single, cloneDescriptor_unreturned arch code⟩, rfl⟩
  · obtain ⟨feedless, single, unreturned⟩ := fixed text old
    exact ⟨⟨text, feedless, single, unreturned⟩, rfl⟩

end Catalog

namespace Check
open Text (LineEnd)
open Log (Descriptor render reported)

theorem verify_exact {marker : Marker} {log : Text} {given : List Text} (catalog : Catalog)
    (extracted : (Log.extract marker log).Perm given) :
    (verify marker catalog log).Exact given catalog.descriptors := by
  rw [verify, Verdict.compare_congr extracted catalog.recordSet_perm]
  exact Verdict.compare_exact given catalog.descriptors

-- The report on a rendered log is exact, whatever the order of its lines, the noise between them
-- and their ends; and a catalog whose descriptors survive on a line can be rendered so that it
-- passes.
theorem check_render (arch : Text) {release : Text} {version : Version}
    (accepted : KernelRelease.version? release = .ok version) (given : List Descriptor)
    (entries : List (Log.Entry .loaded × LineEnd))
    (reports : (reported entries).Perm (given.map Descriptor.text)) :
    (∃ verdict, check .loaded arch release (render entries) = .ok verdict ∧
      verdict.Exact (given.map Descriptor.text) (Catalog.expected arch version.code).descriptors) ∧
    (version.code < Catalog.namingThreshold ∨ '\n' ∉ arch ∧ ¬ Log.fieldSeparator <:+: arch →
      (∀ text ∈ (Catalog.expected arch version.code).descriptors,
        ∃ descriptor : Descriptor, descriptor.text = text) ∧
      ∀ emitted : List (Log.Entry .loaded × LineEnd),
        (reported emitted).Perm (Catalog.expected arch version.code).descriptors →
        ∃ verdict, check .loaded arch release (render emitted) = .ok verdict ∧
          verdict.passed = true) := by
  refine ⟨⟨_, check_ok accepted .loaded arch _, ?_⟩, fun clean => ?_⟩
  · exact verify_exact _ ((Log.extract_render entries).trans reports)
  · refine ⟨Catalog.descriptors_writable clean, fun emitted all => ?_⟩
    refine ⟨_, check_ok accepted .loaded arch _, ?_⟩
    exact (verify_passed_iff _ _ _).mpr ((Log.extract_render emitted).trans all)

def bareLead : Log.Lead .loaded :=
  ⟨"ingraind::grains::ebpf] Loaded: ".toList, by decide +kernel, by decide +kernel, by decide +kernel⟩

def queries : Descriptor :=
  ⟨"dns_queries, XDP".toList, by decide +kernel, by decide +kernel, by decide +kernel⟩

def twiceLogged : List (Log.Entry .loaded × LineEnd) :=
  [(.report bareLead queries, .returnFeed),
   (.noise ⟨"ingraind::grains::ebpf] Loaded\r".toList, by decide +kernel, by decide +kernel⟩, .feed),
   (.report bareLead queries, .feed)]

theorem twiceLogged_report :
    KernelRelease.version? "5.4.0".toList = .ok ⟨5, 4, 0⟩ ∧
      (reported twiceLogged).Perm ([queries, queries].map Descriptor.text) ∧
      (∃ verdict, check .loaded "x:86".toList "5.4.0".toList (render twiceLogged) = .ok verdict ∧
        verdict.unexpected.count queries.text = 1 ∧ verdict.missing.count queries.text = 0 ∧
        verdict.passed = false) ∧
      ∃ emitted : List (Log.Entry .loaded × LineEnd),
        (reported emitted).Perm (Catalog.expected "x:86".toList 50400).descriptors ∧
        ∃ verdict, check .loaded "x:86".toList "5.4.0".toList (render emitted) = .ok verdict ∧
          verdict.passed = true := by
  have reports : (reported twiceLogged).Perm ([queries, queries].map Descriptor.text) := .refl _
  have accepted : KernelRelease.version? "5.4.0".toList = .ok ⟨5, 4, 0⟩ := rfl
  obtain ⟨⟨verdict, checked, exact⟩, catalog⟩ :=
    check_render "x:86".toList accepted [queries, queries] twiceLogged reports
  refine ⟨accepted, reports, ⟨verdict, checked, ?_, ?_, ?_⟩, ?_⟩
  · rw [exact.unexpected_count]
    decide +kernel
  · rw [exact.missing_count]
    decide +kernel
  · rw [Bool.eq_false_iff, ne_eq, exact.passed_iff_perm]
    exact fun same => absurd same.length_eq (by decide)
  · obtain ⟨writable, passes⟩ := catalog (.inr ⟨by decide +kernel, by decide +kernel⟩)
    obtain ⟨emitted, equal⟩ := Log.exists_reported bareLead writable
    exact ⟨emitted, .of_eq equal, passes emitted (.of_eq equal)⟩

end Check
end ProbeCheck
