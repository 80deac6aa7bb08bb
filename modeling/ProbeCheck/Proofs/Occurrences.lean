import ProbeCheck.Log
import Mathlib.Data.List.Infix

namespace ProbeCheck
namespace Text

theorem has_iff (part text : Text) : has part text = true ↔ part <:+: text := by
  induction text with
  | nil => simp [has]
  | cons c rest ih =>
    rw [has, Bool.or_eq_true, ih, List.isPrefixOf_iff_prefix, List.infix_cons_iff]

theorem afterLast?_go (separator text : Text) (found : Option Text) :
    afterLast?.go separator text found = (afterLast? separator text).or found := by
  -- What an earlier place offered counts only where the rest of the text has none.
  induction text generalizing found with
  | nil => simp [afterLast?, afterLast?.go]
  | cons c rest ih =>
    rw [afterLast?, afterLast?.go, afterLast?.go, ih]
    conv_rhs => rw [ih]
    rw [Option.or_assoc]
    split <;> simp

theorem afterLast?_cons (separator : Text) (c : Char) (rest : Text) :
    afterLast? separator (c :: rest) = (afterLast? separator rest).or
      (if separator <+: c :: rest then some ((c :: rest).drop separator.length) else none) := by
  rw [afterLast?, afterLast?.go, afterLast?_go]
  simp only [List.isPrefixOf_iff_prefix]

section
variable {separator : Text} (nonempty : separator ≠ [])
include nonempty

theorem afterLast?_eq_none {text : Text} :
    afterLast? separator text = none ↔ ¬ separator <:+: text := by
  induction text with
  | nil => simp [afterLast?, afterLast?.go, nonempty]
  | cons c rest ih =>
    rw [afterLast?_cons, Option.or_eq_none_iff, ih, List.infix_cons_iff, not_or, and_comm]
    simp

theorem afterLast?_append {rest : Text} (before : Text)
    (last : ¬ separator <:+: (separator ++ rest).tail) :
    afterLast? separator (before ++ separator ++ rest) = some rest := by
  induction before with
  | nil =>
    obtain ⟨c, more, rfl⟩ := List.exists_cons_of_ne_nil nonempty
    rw [List.nil_append, List.cons_append, afterLast?_cons,
      (afterLast?_eq_none nonempty).mpr (by simpa using last)]
    simp
  | cons c before ih => rw [List.cons_append, List.cons_append, afterLast?_cons, ih, Option.some_or]

theorem afterLast?_sound {text rest : Text} (found : afterLast? separator text = some rest) :
    (∃ before, text = before ++ separator ++ rest) ∧ ¬ separator <:+: (separator ++ rest).tail := by
  induction text with
  | nil => simp [afterLast?, afterLast?.go] at found
  | cons c text ih =>
    rw [afterLast?_cons] at found
    cases later : afterLast? separator text with
    | some other =>
      rw [later, Option.some_or, Option.some.injEq] at found
      obtain ⟨⟨before, equal⟩, last⟩ := ih (later.trans (congrArg some found))
      exact ⟨⟨c :: before, by rw [equal]; rfl⟩, last⟩
    | none =>
      rw [later, Option.none_or] at found
      split at found
      · rename_i here
        obtain ⟨other, equal⟩ := here
        have same : other = rest := by
          rw [← equal, List.drop_left] at found
          exact Option.some.inj found
        subst same
        refine ⟨⟨[], by rw [List.nil_append, equal]⟩, ?_⟩
        rw [equal, List.tail_cons]
        exact (afterLast?_eq_none nonempty).mp later
      · cases found

theorem afterLast?_eq_some {text rest : Text} :
    afterLast? separator text = some rest ↔
      (∃ before, text = before ++ separator ++ rest) ∧
        ¬ separator <:+: (separator ++ rest).tail := by
  refine ⟨afterLast?_sound nonempty, ?_⟩
  rintro ⟨⟨before, rfl⟩, last⟩
  exact afterLast?_append nonempty before last

end

theorem pair_infix_second {first second : Char} (apart : first ≠ second) (text : Text) :
    [first, second] <:+: second :: text ↔ [first, second] <:+: text := by
  -- A pair of two characters does not begin with its own second, so no place of it overlaps another.
  simp [List.infix_cons_iff, apart]

theorem afterLast?_pair {first second : Char} (apart : first ≠ second) {text rest : Text} :
    afterLast? [first, second] text = some rest ↔
      (∃ before, text = before ++ [first, second] ++ rest) ∧ ¬ [first, second] <:+: rest := by
  rw [afterLast?_eq_some (List.cons_ne_nil _ _), List.cons_append, List.tail_cons, List.cons_append,
    List.nil_append, pair_infix_second apart]

end Text

namespace Log

def Significant (marker : Marker) (line : Text) : Prop :=
  marker.text <:+: line ∧ fieldSeparator <:+: line

instance (marker : Marker) : DecidablePred (Significant marker) :=
  fun _ => inferInstanceAs (Decidable (_ ∧ _))

def LastField (line field : Text) : Prop :=
  (∃ before, line = before ++ fieldSeparator ++ field) ∧ ¬ fieldSeparator <:+: field

theorem fieldSeparator_ne : fieldSeparator ≠ [] := by simp [fieldSeparator]

theorem separator_infix_append (left right : Text) :
    fieldSeparator <:+: left ++ right ↔ fieldSeparator <:+: left ∨ fieldSeparator <:+: right ∨
      (left.getLast? = some ':' ∧ right.head? = some ' ') := by
  rw [List.infix_append_iff_ne_nil]
  refine or_congr_right (or_congr_right ⟨?_, ?_⟩)
  · rintro ⟨one, two, oneFilled, twoFilled, equal, ⟨before, rfl⟩, ⟨after, rfl⟩⟩
    obtain ⟨c, one, rfl⟩ := List.exists_cons_of_ne_nil oneFilled
    obtain ⟨d, two, rfl⟩ := List.exists_cons_of_ne_nil twoFilled
    cases one with
    | nil =>
      obtain ⟨rfl, rfl, _⟩ : ':' = c ∧ ' ' = d ∧ two = [] := by simpa [fieldSeparator] using equal
      simp
    | cons e one => simp [fieldSeparator] at equal
  · rintro ⟨last, first⟩
    obtain ⟨before, rfl⟩ := List.getLast?_eq_some_iff.mp last
    obtain ⟨after, rfl⟩ := List.head?_eq_some_iff.mp first
    exact ⟨[':'], [' '], by simp, by simp, by simp [fieldSeparator],
      List.suffix_append _ _, List.prefix_append [' '] _⟩

theorem lastField_iff {line field : Text} :
    LastField line field ↔ Text.afterLast? fieldSeparator line = some field := by
  have pair : fieldSeparator = [':', ' '] := by simp [fieldSeparator]
  rw [LastField, pair, Text.afterLast?_pair (by decide)]

instance (line field : Text) : Decidable (LastField line field) :=
  decidable_of_iff _ lastField_iff.symm

theorem descriptor?_eq_some {marker : Marker} {line field : Text} :
    descriptor? marker line = some field ↔ Significant marker line ∧ LastField line field := by
  unfold descriptor? Significant
  rw [lastField_iff]
  split
  · rename_i marked
    have marked := (Text.has_iff _ _).mp marked
    refine ⟨fun found => ⟨⟨marked, ?_⟩, found⟩, And.right⟩
    have present : Text.afterLast? fieldSeparator line ≠ none ↔ ¬ ¬ fieldSeparator <:+: line :=
      (Text.afterLast?_eq_none fieldSeparator_ne).not
    exact Decidable.not_not.mp (present.mp (by simp [found]))
  · rename_i unmarked
    have unmarked := (Text.has_iff _ _).not.mp unmarked
    simp [unmarked]

theorem descriptor?_eq_none {marker : Marker} {line : Text} :
    descriptor? marker line = none ↔ ¬ Significant marker line := by
  unfold descriptor? Significant
  split
  · rename_i marked
    rw [Text.afterLast?_eq_none fieldSeparator_ne]
    simp [(Text.has_iff _ _).mp marked]
  · rename_i unmarked
    simp [(Text.has_iff _ _).not.mp unmarked]

end Log
end ProbeCheck
