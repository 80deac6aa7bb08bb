import ProbeCheck.Text.Lines
import Mathlib.Data.List.Infix

namespace ProbeCheck.Text

inductive LineEnd
  | feed
  | returnFeed
deriving DecidableEq, Repr

def LineEnd.text : LineEnd → Text
  | .feed => ['\n']
  | .returnFeed => ['\r', '\n']

def LineEnd.kept : LineEnd → Text → Text
  | .feed, text => withoutReturn text
  | .returnFeed, text => text

-- The end of a line is as long as it can be: a return right before the feed belongs to it.
inductive LinesOf : Text → List Text → Prop
  | last {line : Text} (feedless : '\n' ∉ line) : LinesOf line [line]
  | ended {line rest : Text} {others : List Text} (ending : LineEnd) (feedless : '\n' ∉ line)
      (longest : ending = .feed → line.getLast? ≠ some '\r') (following : LinesOf rest others) :
      LinesOf (line ++ ending.text ++ rest) (line :: others)

theorem withoutReturn_return (line : Text) : withoutReturn (line ++ ['\r']) = line := by
  simp [withoutReturn]

theorem withoutReturn_of_unreturned {line : Text} (unreturned : line.getLast? ≠ some '\r') :
    withoutReturn line = line := if_neg unreturned

theorem withoutReturn_prefix (line : Text) : withoutReturn line <+: line := by
  unfold withoutReturn
  split
  · exact List.dropLast_prefix line
  · exact List.prefix_rfl

theorem lines_ne_nil (text : Text) : lines text ≠ [] := by
  have pieces := List.splitOn_ne_nil '\n' text
  simp [lines, List.getLast?_eq_none_iff, pieces]

theorem lines_last {line : Text} (feedless : '\n' ∉ line) : lines line = [line] := by
  simp [lines, List.splitOn_eq_singleton feedless]

theorem lines_feed {piece : Text} (feedless : '\n' ∉ piece) (rest : Text) :
    lines (piece ++ '\n' :: rest) = withoutReturn piece :: lines rest := by
  have pieces := List.splitOn_ne_nil '\n' rest
  simp only [lines, List.splitOn_append_cons_self_of_not_mem feedless,
    List.dropLast_cons_of_ne_nil pieces, List.getLast?_cons_of_ne_nil pieces, List.map_cons,
    List.cons_append]

theorem lines_terminated {text : Text} (feedless : '\n' ∉ text) (ending : LineEnd) (rest : Text) :
    lines (text ++ ending.text ++ rest) = ending.kept text :: lines rest := by
  cases ending with
  | feed => simpa [LineEnd.text, LineEnd.kept] using lines_feed feedless rest
  | returnFeed =>
    have returned : '\n' ∉ text ++ ['\r'] := by simp [feedless]
    simpa [LineEnd.text, LineEnd.kept, withoutReturn_return] using lines_feed returned rest

theorem kept_prefix (ending : LineEnd) (text : Text) : ending.kept text <+: text := by
  cases ending with
  | feed => exact withoutReturn_prefix text
  | returnFeed => exact List.prefix_rfl

theorem kept_of_longest {ending : LineEnd} {line : Text}
    (longest : ending = .feed → line.getLast? ≠ some '\r') : ending.kept line = line := by
  cases ending with
  | feed => exact withoutReturn_of_unreturned (longest rfl)
  | returnFeed => rfl

theorem lines_ended {line : Text} (ending : LineEnd) (feedless : '\n' ∉ line)
    (longest : ending = .feed → line.getLast? ≠ some '\r') (rest : Text) :
    lines (line ++ ending.text ++ rest) = line :: lines rest := by
  rw [lines_terminated feedless, kept_of_longest longest]

theorem lines_complete {text : Text} {result : List Text} (given : LinesOf text result) :
    lines text = result := by
  induction given with
  | last feedless => exact lines_last feedless
  | ended ending feedless longest _ ih => rw [lines_ended ending feedless longest, ih]

theorem linesOf_feed {piece rest : Text} {others : List Text} (feedless : '\n' ∉ piece)
    (following : LinesOf rest others) :
    LinesOf (piece ++ '\n' :: rest) (withoutReturn piece :: others) := by
  by_cases returned : piece.getLast? = some '\r'
  · obtain ⟨line, rfl⟩ := List.getLast?_eq_some_iff.mp returned
    have bare : '\n' ∉ line := fun member => feedless (List.mem_append_left _ member)
    simpa [LineEnd.text, withoutReturn_return] using LinesOf.ended .returnFeed bare nofun following
  · rw [withoutReturn_of_unreturned returned]
    simpa [LineEnd.text] using LinesOf.ended .feed feedless (fun _ => returned) following

theorem linesOf (text : Text) : LinesOf text (lines text) := by
  by_cases present : '\n' ∈ text
  · obtain ⟨piece, rest, equal, feedless⟩ := List.eq_append_cons_of_mem present
    have shorter : rest.length < text.length := by rw [equal, List.length_append, List.length_cons]; omega
    rw [equal, lines_feed feedless]
    exact linesOf_feed feedless (linesOf rest)
  · rw [lines_last present]
    exact .last present
termination_by text.length

@[elab_as_elim]
theorem line_induction {motive : Text → Prop}
    (last : ∀ line : Text, '\n' ∉ line → motive line)
    (ended : ∀ (line rest : Text) (ending : LineEnd), '\n' ∉ line →
      (ending = .feed → line.getLast? ≠ some '\r') → motive rest →
      motive (line ++ ending.text ++ rest)) (text : Text) : motive text := by
  obtain ⟨result, given⟩ : ∃ result, LinesOf text result := ⟨_, linesOf text⟩
  induction given with
  | last feedless => exact last _ feedless
  | ended ending feedless longest _ ih => exact ended _ _ ending feedless longest ih

theorem mem_lines {line text : Text} (listed : line ∈ lines text) : '\n' ∉ line ∧ ∀ c ∈ line, c ∈ text := by
  have given := linesOf text
  generalize lines text = result at given listed
  induction given with
  | last feedless =>
    cases List.mem_singleton.mp listed
    exact ⟨feedless, fun c member => member⟩
  | ended ending feedless longest following ih =>
    rcases List.mem_cons.mp listed with rfl | later
    · exact ⟨feedless, fun c member => by simp [member]⟩
    · obtain ⟨clean, inside⟩ := ih later
      exact ⟨clean, fun c member => List.mem_append_right _ (inside c member)⟩

theorem lines_of_returnless {text : Text} (returnless : '\r' ∉ text) :
    lines text = text.splitOn '\n' := by
  induction text using line_induction with
  | last line feedless => rw [lines_last feedless, List.splitOn_eq_singleton feedless]
  | ended line rest ending feedless longest ih =>
    cases ending with
    | returnFeed => simp [LineEnd.text] at returnless
    | feed =>
      have bare : '\r' ∉ rest := fun member => returnless (List.mem_append_right _ member)
      rw [lines_ended .feed feedless longest, ih bare]
      simpa [LineEnd.text] using (List.splitOn_append_cons_self_of_not_mem feedless rest).symm

def isLineBreak (c : Char) : Bool := c == '\n' || c == '\r'

def feedForReturn (c : Char) : Char := if c = '\r' then '\n' else c

theorem unifyNewlines_last {line : Text} (feedless : '\n' ∉ line) :
    unifyNewlines line = line.map feedForReturn := by
  rw [unifyNewlines, lines_last feedless]
  simp [join, feedForReturn]

theorem unifyNewlines_ended {line : Text} (ending : LineEnd) (feedless : '\n' ∉ line)
    (longest : ending = .feed → line.getLast? ≠ some '\r') (rest : Text) :
    unifyNewlines (line ++ ending.text ++ rest) =
      line.map feedForReturn ++ '\n' :: unifyNewlines rest := by
  rw [unifyNewlines, lines_ended ending feedless longest, join,
    List.intercalate_cons_of_ne_nil (lines_ne_nil rest)]
  simp [unifyNewlines, join, feedForReturn]

theorem unifyNewlines_returnless (text : Text) : '\r' ∉ unifyNewlines text := by
  intro member
  obtain ⟨c, _, equal⟩ := List.mem_map.mp member
  split at equal
  · cases equal
  · contradiction

theorem splitOn_map_feedForReturn (text : Text) :
    (text.map feedForReturn).splitOn '\n' = text.splitOnP isLineBreak := by
  induction text with
  | nil => rfl
  | cons c rest ih =>
    rw [List.map_cons, List.splitOn_cons_eq_if_modifyHead, List.splitOnP_cons_eq_if_modifyHead, ih]
    by_cases returned : c = '\r'
    · simp [feedForReturn, isLineBreak, returned]
    · by_cases fed : c = '\n' <;> simp [feedForReturn, isLineBreak, returned, fed]

-- Unified newlines end the same lines as all newline characters taken apart, empty lines aside: the
-- two characters of '\r\n' have an empty piece between them.
theorem lines_unifyNewlines (text : Text) :
    (lines (unifyNewlines text)).filter (· ≠ []) =
      (text.splitOnP isLineBreak).filter (· ≠ []) := by
  rw [lines_of_returnless (unifyNewlines_returnless text)]
  induction text using line_induction with
  | last line feedless => rw [unifyNewlines_last feedless, splitOn_map_feedForReturn]
  | ended line rest ending feedless longest ih =>
    rw [unifyNewlines_ended ending feedless longest, List.splitOn_append_cons_self,
      splitOn_map_feedForReturn, List.filter_append, ih, ← List.filter_append]
    cases ending with
    | feed =>
      rw [← List.splitOnP_append_cons _ _ (show isLineBreak '\n' = true from rfl)]
      simp [LineEnd.text]
    | returnFeed =>
      simp only [LineEnd.text, List.append_assoc, List.cons_append, List.nil_append]
      rw [List.splitOnP_append_cons _ _ (show isLineBreak '\r' = true from rfl),
        List.splitOnP_cons_eq_if_modifyHead]
      simp [isLineBreak]

def ReturnsPaired (text : Text) : Prop :=
  ∀ before after, text = before ++ '\r' :: after → after.head? = some '\n'

theorem ReturnsPaired.suffix {front rest : Text} (paired : ReturnsPaired (front ++ rest)) :
    ReturnsPaired rest :=
  fun before after equal => paired (front ++ before) after (by rw [equal, List.append_assoc])

theorem returnsPaired_cons (c : Char) (rest : Text) : ReturnsPaired (c :: rest) ↔
    (c = '\r' → rest.head? = some '\n') ∧ ReturnsPaired rest := by
  constructor
  · intro paired
    refine ⟨fun returned => paired [] rest (by rw [returned]; rfl), fun before after equal => ?_⟩
    exact paired (c :: before) after (by rw [equal]; rfl)
  · rintro ⟨first, paired⟩ before after equal
    cases before with
    | nil =>
      cases equal
      exact first rfl
    | cons d before =>
      cases equal
      exact paired before after rfl

instance : DecidablePred ReturnsPaired
  | [] => .isTrue fun _ _ equal => absurd equal (by simp)
  | c :: rest =>
    have := instDecidablePredReturnsPaired rest
    decidable_of_iff _ (returnsPaired_cons c rest).symm

theorem ReturnsPaired.returnless {line rest : Text} (ending : LineEnd) (feedless : '\n' ∉ line)
    (longest : ending = .feed → line.getLast? ≠ some '\r')
    (paired : ReturnsPaired (line ++ ending.text ++ rest)) : '\r' ∉ line := by
  intro returned
  obtain ⟨before, after, rfl⟩ := List.append_of_mem returned
  have next := paired before (after ++ ending.text ++ rest) (by simp)
  -- Such a return could only stand at the end of the line, and then its end would be longer.
  cases after with
  | nil =>
    cases ending with
    | feed => exact longest rfl (by simp)
    | returnFeed => simp [LineEnd.text] at next
  | cons c after =>
    have fed : c = '\n' := by simpa using next
    exact feedless (by simp [fed])

theorem map_feedForReturn {text : Text} (returnless : '\r' ∉ text) : text.map feedForReturn = text := by
  refine (List.map_congr_left fun c member => ?_).trans (List.map_id text)
  have unreturned : c ≠ '\r' := fun returned => returnless (returned ▸ member)
  exact if_neg unreturned

theorem unifyNewlines_of_returnless {text : Text} (returnless : '\r' ∉ text) :
    unifyNewlines text = text := by
  rw [unifyNewlines, lines_of_returnless returnless, join, List.intercalate_splitOn]
  exact map_feedForReturn returnless

theorem lines_unifyNewlines_of_paired {text : Text} (paired : ReturnsPaired text) :
    lines (unifyNewlines text) = lines text := by
  induction text using line_induction with
  | last line feedless =>
    have returnless : '\r' ∉ line := by
      intro returned
      obtain ⟨before, after, equal⟩ := List.append_of_mem returned
      have fed := List.mem_of_head? (paired before after equal)
      exact feedless (by simp [equal, fed])
    rw [unifyNewlines_last feedless, map_feedForReturn returnless]
  | ended line rest ending feedless longest ih =>
    have returnless := paired.returnless ending feedless longest
    rw [unifyNewlines_ended ending feedless longest, map_feedForReturn returnless,
      lines_ended ending feedless longest, ← ih paired.suffix]
    have unreturned : line.getLast? ≠ some '\r' := fun last => returnless (List.mem_of_getLast? last)
    simpa [LineEnd.text] using lines_ended .feed feedless (fun _ => unreturned) (unifyNewlines rest)

end ProbeCheck.Text
