import ProbeCheck.Proofs.RenderedLog

namespace ProbeCheck

namespace Text

-- A line by itself. It may hold any character but a feed; a return at its end would belong to the end.
structure Line where
  text : Text
  feedless : '\n' ∉ text
  unreturned : text.getLast? ≠ some '\r'

inductive LaidOut : List Line → Text → Prop
  | nothing : LaidOut [] []
  | leftOpen (line : Line) : LaidOut [line] line.text
  | ended {rest : List Line} {text : Text} (line : Line) (ending : LineEnd)
      (following : LaidOut rest text) : LaidOut (line :: rest) (line.text ++ ending.text ++ text)

theorem Line.lines_ended (line : Line) (ending : LineEnd) (rest : Text) :
    lines (line.text ++ ending.text ++ rest) = line.text :: lines rest :=
  Text.lines_ended ending line.feedless (fun _ => line.unreturned) rest

end Text

namespace Log
open Text (Line LaidOut)

variable {marker : Marker}

def Reported (marker : Marker) (lines fields : List Text) : Prop :=
  List.Forall₂ LastField (lines.filter (Significant marker)) fields

theorem reported_descriptors (lines : List Text) :
    Reported marker lines (lines.filterMap (descriptor? marker)) := by
  induction lines with
  | nil => exact .nil
  | cons line rest ih =>
    unfold Reported at ih ⊢
    cases found : descriptor? marker line with
    | none =>
      have silent := descriptor?_eq_none.mp found
      rw [List.filterMap_cons_none found, List.filter_cons_of_neg (by simpa using silent)]
      exact ih
    | some field =>
      obtain ⟨counts, last⟩ := descriptor?_eq_some.mp found
      rw [List.filterMap_cons_some found, List.filter_cons_of_pos (by simpa using counts)]
      exact .cons last ih

theorem lines_laidOut {given : List Line} {log : Text} (laidOut : LaidOut given log) :
    (Text.lines log).filterMap (descriptor? marker) =
      (given.map Line.text).filterMap (descriptor? marker) := by
  induction laidOut with
  | nothing =>
    -- The empty line that a closed last line leaves behind does not count.
    exact lines_nil
  | leftOpen line =>
    rw [Text.lines_last line.feedless]
    rfl
  | ended line ending following ih =>
    rw [line.lines_ended, List.map_cons, List.filterMap_cons, List.filterMap_cons, ih]

theorem extract_laidOut {given order : List Line} {log : Text} (reordered : order.Perm given)
    (laidOut : LaidOut order log) :
    extract marker log = sortTexts ((given.map Line.text).filterMap (descriptor? marker)) := by
  rw [extract, lines_laidOut laidOut]
  have lines : (order.map Line.text).Perm (given.map Line.text) := reordered.map _
  exact sortTexts_eq_iff.mpr (lines.filterMap _)

-- However lines are ordered and ended, the same is extracted: the last fields of those that count, in order
-- and with their repeats.
theorem extract_unordered (marker : Marker) (given : List Line) :
    ∃ fields result, Reported marker (given.map Line.text) fields ∧
      Ascending result ∧ result.Perm fields ∧
      ∀ order log, order.Perm given → LaidOut order log → extract marker log = result := by
  refine ⟨_, _, reported_descriptors _, sortTexts_ascending _, sortTexts_perm _, ?_⟩
  intro order log reordered laidOut
  exact extract_laidOut reordered laidOut

def hook : Marker := ⟨"m".toList, by decide +kernel⟩

def broken : Line := ⟨"m: a\u2028b: x\x0b, y".toList, by decide +kernel, by decide +kernel⟩

def returned : Line := ⟨"m: \rz".toList, by decide +kernel, by decide +kernel⟩

def separatorless : Line := ⟨"m:\u0085".toList, by decide +kernel, by decide +kernel⟩

theorem mixedEnds_extracted : ∃ log other, LaidOut [broken, separatorless, returned, broken] log ∧
    LaidOut [returned, broken, broken, separatorless] other ∧
    extract hook log = ["\rz".toList, "x\x0b, y".toList, "x\x0b, y".toList] ∧
    extract hook other = extract hook log := by
  have laidOut : LaidOut [broken, separatorless, returned, broken] _ :=
    .ended _ .returnFeed (.ended _ .feed (.ended _ .returnFeed (.ended _ .feed .nothing)))
  have again : LaidOut [returned, broken, broken, separatorless] _ :=
    .ended _ .feed (.ended _ .feed (.ended _ .returnFeed (.leftOpen _)))
  have reordered : [returned, broken, broken, separatorless].Perm [broken, separatorless, returned, broken] :=
    List.perm_append_comm_assoc [returned, broken] [broken, separatorless] []
  obtain ⟨fields, result, -, ascending, -, extracted⟩ :=
    extract_unordered hook [broken, separatorless, returned, broken]
  have first := extracted _ _ (.refl _) laidOut
  have second := extracted _ _ reordered again
  refine ⟨_, _, laidOut, again, ?_, second.trans first.symm⟩
  rw [← first] at ascending
  refine ascending.eq_of_perm (by decide +kernel) ((extract_perm _ _).trans ?_)
  decide +kernel

end Log
end ProbeCheck
