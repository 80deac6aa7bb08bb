import Mathlib.Data.List.DropRight
import ProbeCheck.Proofs.WrittenReleases

namespace ProbeCheck
namespace Text

def Blank (text : Text) : Prop := ∀ c ∈ text, isBlank c = true

structure Core (text : Text) : Prop where
  first : ∀ c ∈ text.head?, isBlank c = false
  last : ∀ c ∈ text.getLast?, isBlank c = false

theorem dropWhile_blank {before text : Text} (blank : Blank before)
    (first : ∀ c ∈ text.head?, isBlank c = false) : (before ++ text).dropWhile isBlank = text := by
  rw [List.dropWhile_append_of_pos blank]
  cases text with
  | nil => rfl
  | cons c rest =>
    have shown := first c rfl
    apply List.dropWhile_cons_of_neg
    simp [shown]

theorem trim_of_core {before core after : Text} (leading : Blank before) (kept : Core core)
    (trailing : Blank after) : trim (before ++ core ++ after) = core := by
  have front : (before ++ (core ++ after)).dropWhile isBlank = (core ++ after).dropWhile isBlank :=
    List.dropWhile_append_of_pos leading
  have reversed : Blank after.reverse := by
    intro c member
    exact trailing c (List.mem_reverse.mp member)
  rw [trim, List.append_assoc, front]
  cases core with
  | nil =>
    rw [List.nil_append, List.dropWhile_eq_nil_iff.mpr trailing]
    rfl
  | cons c rest =>
    have shown := kept.first c rfl
    rw [List.cons_append, List.dropWhile_cons_of_neg (by simp [shown]), ← List.cons_append,
      List.reverse_append, dropWhile_blank reversed, List.reverse_reverse]
    intro last member
    rw [List.head?_reverse] at member
    exact kept.last last member

theorem head_dropWhile {text : Text} {c : Char} (head : c ∈ (text.dropWhile isBlank).head?) :
    isBlank c = false := by
  have stop := List.head?_dropWhile_not isBlank text
  rw [Option.mem_def.mp head] at stop
  simpa using stop

theorem last_rdropWhile {text : Text} {c : Char} (last : c ∈ (text.rdropWhile isBlank).getLast?) :
    isBlank c = false := by
  rw [List.rdropWhile, List.getLast?_reverse] at last
  exact head_dropWhile last

theorem exists_core (text : Text) : ∃ before core after, text = before ++ core ++ after ∧
    Blank before ∧ Core core ∧ Blank after := by
  have opened := List.takeWhile_append_dropWhile (p := isBlank) (l := text)
  have closed := List.rdropWhile_append_rtakeWhile (p := isBlank) (l := text.dropWhile isBlank)
  refine ⟨text.takeWhile isBlank, (text.dropWhile isBlank).rdropWhile isBlank,
    (text.dropWhile isBlank).rtakeWhile isBlank, ?_, ?_, ⟨?_, ?_⟩, ?_⟩
  · rw [List.append_assoc, closed, opened]
  · intro c member
    exact List.mem_takeWhile_imp member
  · intro c member
    apply @head_dropWhile text
    obtain ⟨rest, equal⟩ := List.head?_eq_some_iff.mp member
    rw [← closed, equal]
    rfl
  · intro c member
    exact last_rdropWhile member
  · intro c member
    exact List.mem_rtakeWhile_imp member

theorem trim_trim (text : Text) : trim (trim text) = trim text := by
  obtain ⟨before, core, after, rfl, leading, kept, trailing⟩ := exists_core text
  have bare := trim_of_core (List.forall_mem_nil _) kept (List.forall_mem_nil _)
  rw [List.nil_append, List.append_nil] at bare
  rw [trim_of_core leading kept trailing, bare]

section
variable {mark : Char}

theorem splitOn_first {text first : Text} {more : List Text} (split : text.splitOn mark = first :: more) :
    mark ∉ first ∧ (more = [] ∧ text = first ∨
      ∃ rest, text = first ++ mark :: rest ∧ rest.splitOn mark = more) := by
  by_cases present : mark ∈ text
  · obtain ⟨piece, rest, rfl, clean⟩ := List.eq_append_cons_of_mem present
    rw [List.splitOn_append_cons_self_of_not_mem clean] at split
    cases split
    exact ⟨clean, .inr ⟨rest, rfl, rfl⟩⟩
  · rw [List.splitOn_eq_singleton present] at split
    cases split
    exact ⟨present, .inl ⟨rfl, rfl⟩⟩

theorem exists_splitOn_append {before : Text} (clean : mark ∉ before) (text : Text) :
    ∃ first more, (before ++ text).splitOn mark = (before ++ first) :: more ∧ first <+: text := by
  by_cases present : mark ∈ text
  · obtain ⟨piece, rest, rfl, bare⟩ := List.eq_append_cons_of_mem present
    have whole : mark ∉ before ++ piece := by simp [clean, bare]
    refine ⟨piece, rest.splitOn mark, ?_, List.prefix_append _ _⟩
    rw [← List.append_assoc, List.splitOn_append_cons_self_of_not_mem whole]
  · have whole : mark ∉ before ++ text := by simp [clean, present]
    exact ⟨text, [], List.splitOn_eq_singleton whole, List.prefix_rfl⟩

theorem length_splitOn (text : Text) : (text.splitOn mark).length = text.count mark + 1 := by
  induction text with
  | nil => rfl
  | cons c rest ih =>
    rw [List.splitOn_cons_eq_if_modifyHead, List.count_cons]
    split
    · rw [List.length_cons, ih]
    · rw [List.length_modifyHead, ih]

end
end Text

namespace KernelRelease

def DigitFree (text : Text) : Prop := ∀ c ∈ text, c.isDigit = false

theorem digitFree_of_all {text : Text} (all : (text.all fun c => !c.isDigit) = true) : DigitFree text := by
  intro c member
  have free := List.all_eq_true.mp all c member
  simpa using free

-- A release that has a digit: what is skipped before the first one, the body that begins with it, and
-- the blanks at the end.
structure Begun (raw skipped body blanks : Text) : Prop where
  split : raw = skipped ++ body ++ blanks
  skipped : DigitFree skipped
  first : ∃ c ∈ body.head?, c.isDigit = true
  last : ∀ c ∈ body.getLast?, Text.isBlank c = false
  blanks : Text.Blank blanks

theorem digitFree_blank {text : Text} (blank : Text.Blank text) : DigitFree text := by
  intro c member
  cases digit : c.isDigit with
  | false => rfl
  | true =>
    have shown := Text.isBlank_of_isDigit digit
    rw [blank c member] at shown
    cases shown

theorem digitFree_append {before after : Text} :
    DigitFree (before ++ after) ↔ DigitFree before ∧ DigitFree after := List.forall_mem_append

theorem dropWhile_digitFree {text : Text} (free : DigitFree text) (rest : Text) :
    (text ++ rest).dropWhile (fun c => !c.isDigit) = rest.dropWhile (fun c => !c.isDigit) := by
  apply List.dropWhile_append_of_pos
  intro c member
  simp [free c member]

theorem fields_digitFree {raw : Text} (free : DigitFree raw) : fields raw = [[]] := by
  obtain ⟨before, core, after, rfl, leading, kept, trailing⟩ := Text.exists_core raw
  rw [digitFree_append, digitFree_append] at free
  have nothing := dropWhile_digitFree free.1.2 []
  rw [List.append_nil] at nothing
  rw [fields, Text.trim_of_core leading kept trailing, nothing]
  rfl

theorem fields_begun {raw skipped body blanks : Text} (begun : Begun raw skipped body blanks) :
    fields raw = body.splitOn '.' := by
  obtain ⟨rfl, free, ⟨digit, head, isDigit⟩, last, trailing⟩ := begun
  obtain ⟨rest, rfl⟩ := List.head?_eq_some_iff.mp head
  have opened := List.takeWhile_append_dropWhile (p := Text.isBlank) (l := skipped)
  have leading : Text.Blank (skipped.takeWhile Text.isBlank) := fun c => List.mem_takeWhile_imp
  have clean : DigitFree (skipped.dropWhile Text.isBlank) := by
    intro c member
    exact free c ((List.dropWhile_suffix _).subset member)
  have kept : Text.Core (skipped.dropWhile Text.isBlank ++ digit :: rest) := by
    constructor
    · intro c member
      cases blankless : skipped.dropWhile Text.isBlank with
      | nil =>
        rw [blankless] at member
        cases member
        exact Text.isBlank_of_isDigit isDigit
      | cons d more =>
        rw [blankless] at member
        apply @Text.head_dropWhile skipped
        rw [blankless]
        exact member
    · intro c member
      rw [List.getLast?_append_cons] at member
      exact last c member
  have trimmed := Text.trim_of_core leading kept trailing
  rw [← List.append_assoc, opened] at trimmed
  rw [fields, trimmed, dropWhile_digitFree clean, List.dropWhile_cons_of_neg (by simp [isDigit])]

theorem digitFree_or_begun (raw : Text) :
    DigitFree raw ∨ ∃ skipped body blanks, Begun raw skipped body blanks := by
  have split := List.takeWhile_append_dropWhile (p := fun c : Char => !c.isDigit) (l := raw)
  have free : DigitFree (raw.takeWhile fun c => !c.isDigit) := by
    intro c member
    simpa using List.mem_takeWhile_imp member
  cases found : raw.dropWhile fun c => !c.isDigit with
  | nil =>
    rw [found, List.append_nil] at split
    rw [← split]
    exact .inl free
  | cons digit rest =>
    have stop := List.head?_dropWhile_not (fun c : Char => !c.isDigit) raw
    rw [found] at stop
    have isDigit : digit.isDigit = true := by simpa using stop
    have shown := Text.isBlank_of_isDigit isDigit
    obtain ⟨before, core, after, equal, leading, kept, trailing⟩ := Text.exists_core (digit :: rest)
    cases before with
    | cons c more =>
      cases equal
      rw [leading digit List.mem_cons_self] at shown
      cases shown
    | nil =>
      cases core with
      | nil =>
        rw [List.nil_append, List.nil_append] at equal
        subst equal
        rw [trailing digit List.mem_cons_self] at shown
        cases shown
      | cons c more =>
        cases equal
        refine .inr ⟨_, digit :: more, after, ?_, free, ⟨digit, rfl, isDigit⟩, kept.last, trailing⟩
        rw [found] at split
        rw [List.append_assoc]
        exact split.symm

theorem Begun.length_splitOn {raw skipped body blanks : Text} (begun : Begun raw skipped body blanks) :
    ((body ++ blanks).splitOn '.').length = (body.splitOn '.').length := by
  have dotless : '.' ∉ blanks := by
    intro member
    exact absurd (begun.blanks '.' member) (by decide)
  rw [Text.length_splitOn, Text.length_splitOn, List.count_append, List.count_eq_zero.mpr dotless,
    Nat.add_zero]

theorem fields_trim (raw : Text) : fields (Text.trim raw) = fields raw := by
  rw [fields, Text.trim_trim, fields]

end KernelRelease
end ProbeCheck
