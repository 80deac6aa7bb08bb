import Mathlib.Data.List.Basic
import ProbeCheck.Proofs.WrittenObjects
import ProbeCheck.Summary

namespace ProbeCheck.Summary

def placeholder : Text := "(none)"

def shown (entries : List Text) : List Text := if entries.isEmpty then [placeholder] else entries

structure Told where
  passed : Bool
  arch : Text
  release : Text
  code : Int
  actual : List Text
  expected : List Text
  differences : Option (List Text × List Text)
deriving DecidableEq

def Told.ofVerdict (verdict : Verdict) (arch release : Text) (code : Int) : Told where
  passed := verdict.passed
  arch := arch
  release := Text.trim release
  code := code
  actual := shown verdict.actual
  expected := shown verdict.expected
  differences :=
    if verdict.passed then none else some (shown verdict.missing, shown verdict.unexpected)

def entries : List Text → List Text × List Text
  | [] => ([], [])
  | line :: rest =>
    match line.dropPrefix? indent with
    | none => ([], line :: rest)
    | some entry => (entry :: (entries rest).1, (entries rest).2)

def block? (title : Text) : List Text → Option (List Text × List Text)
  | [] => none
  | line :: rest => if line = title then some (entries rest) else none

def differences? (passed : Bool) (lines : List Text) : Option (Option (List Text × List Text)) :=
  if passed then if lines = [] then some none else none
  else do
    let (missing, lines) ← block? "Missing:" lines
    let (unexpected, lines) ← block? "Unexpected:" lines
    if lines = [] then some (some (missing, unexpected)) else none

def passed? (outcome : Text) : Option Bool :=
  if outcome = ("PASS" : Text) then some true
  else if outcome = ("FAIL" : Text) then some false
  else none

def code? (numeral : Text) : Option Int :=
  match Json.word? numeral with
  | some (.number code) => some code
  | _ => none

def read? (summary : Text) : Option Told :=
  match summary.splitOn '\n' with
  | verdict :: arch :: release :: code :: lines => do
    let passed ← passed? (← verdict.dropPrefix? ("CHECK RESULT:   " : Text))
    let arch ← arch.dropPrefix? ("Architecture:   " : Text)
    let release ← release.dropPrefix? ("Kernel release: " : Text)
    let code ← code? (← code.dropPrefix? ("Kernel version: " : Text))
    let (actual, lines) ← block? "Modules loaded:" lines
    let (expected, lines) ← block? "Modules expected:" lines
    let differences ← differences? passed lines
    return ⟨passed, arch, release, code, actual, expected, differences⟩
  | _ => none

theorem listing_shown (title : Text) (list : List Text) :
    listing title list = title :: (shown list).map (indent ++ ·) := by
  unfold listing shown
  cases list <;> rfl

theorem dropPrefix?_append (front rest : Text) : (front ++ rest).dropPrefix? front = some rest :=
  List.dropPrefix?_eq_some_iff.mpr ⟨front, rfl, beq_self_eq_true front⟩

theorem entries_append {list rest : List Text} (stop : ∀ line ∈ rest.head?, line.dropPrefix? indent = none) :
    entries (list.map (indent ++ ·) ++ rest) = (list, rest) := by
  -- An entry may look like a title, but its line does not.
  induction list with
  | nil =>
    cases rest with
    | nil => rfl
    | cons line rest =>
      have title := stop line rfl
      rw [List.map_nil, List.nil_append, entries, title]
  | cons entry list ih =>
    rw [List.map_cons, List.cons_append, entries, dropPrefix?_append, ih]

theorem block?_listing (title : Text) (list : List Text) {rest : List Text}
    (stop : ∀ line ∈ rest.head?, line.dropPrefix? indent = none) :
    block? title (listing title list ++ rest) = some (shown list, rest) := by
  rw [listing_shown, List.cons_append, block?, if_pos rfl, entries_append stop]

theorem unindented_listing {title : Text} (unindented : title.dropPrefix? indent = none)
    (list rest : List Text) : ∀ line ∈ (listing title list ++ rest).head?, line.dropPrefix? indent = none := by
  intro line first
  cases first
  exact unindented

theorem passed?_outcome (passed : Bool) :
    passed? (Text.ofString (if passed then "PASS" else "FAIL")) = some passed := by
  cases passed <;> decide +kernel

theorem code?_signed (code : Int) : code? (Numeral.signed code) = some code := by
  rw [code?, Json.word?_signed]

def differenceLines (verdict : Verdict) : List Text :=
  if verdict.passed then []
  else listing "Missing:" verdict.missing ++ listing "Unexpected:" verdict.unexpected

theorem lines_eq (verdict : Verdict) (arch release code : Text) : lines verdict arch release code =
    ("CHECK RESULT:   " ++ Text.ofString (if verdict.passed then "PASS" else "FAIL")) ::
      ("Architecture:   " ++ arch) :: ("Kernel release: " ++ Text.trim release) ::
      ("Kernel version: " ++ code) :: (listing "Modules loaded:" verdict.actual ++
        (listing "Modules expected:" verdict.expected ++ differenceLines verdict)) := by
  rw [lines, List.append_assoc, List.append_assoc]
  rfl

theorem unindented_differenceLines (verdict : Verdict) :
    ∀ line ∈ (differenceLines verdict).head?, line.dropPrefix? indent = none := by
  unfold differenceLines
  split
  · exact nofun
  · exact unindented_listing (by decide +kernel) _ _

theorem differences?_differenceLines (verdict : Verdict) :
    differences? verdict.passed (differenceLines verdict) =
      some (if verdict.passed then none else some (shown verdict.missing, shown verdict.unexpected)) := by
  unfold differences? differenceLines
  cases verdict.passed with
  | true => rfl
  | false =>
    have title : ("Unexpected:" : Text).dropPrefix? indent = none := by decide +kernel
    have last := @block?_listing "Unexpected:" verdict.unexpected [] nofun
    have first := block?_listing "Missing:" verdict.missing
      (unindented_listing title verdict.unexpected [])
    rw [List.append_nil] at first last
    simp only [Bool.false_eq_true, if_false, first, last, Option.bind_eq_bind, Option.bind_some, if_true]

structure Unbroken (verdict : Verdict) (arch release : Text) : Prop where
  arch : '\n' ∉ arch
  release : '\n' ∉ Text.trim release
  actual : ∀ entry ∈ verdict.actual, '\n' ∉ entry
  expected : ∀ entry ∈ verdict.expected, '\n' ∉ entry
  missing : ∀ entry ∈ verdict.missing, '\n' ∉ entry
  unexpected : ∀ entry ∈ verdict.unexpected, '\n' ∉ entry

theorem listing_unbroken {title : Text} (whole : '\n' ∉ title) {list : List Text}
    (each : ∀ entry ∈ list, '\n' ∉ entry) : ∀ line ∈ listing title list, '\n' ∉ line := by
  have plain : '\n' ∉ indent ∧ '\n' ∉ placeholder := by decide +kernel
  have entries : ∀ entry ∈ shown list, '\n' ∉ entry := by
    unfold shown
    split
    · exact List.forall_mem_singleton.mpr plain.2
    · exact each
  intro line member
  rw [listing_shown, List.mem_cons, List.mem_map] at member
  rcases member with rfl | ⟨entry, listed, rfl⟩
  · exact whole
  · rw [List.mem_append, not_or]
    exact ⟨plain.1, entries entry listed⟩

section
variable {verdict : Verdict} {arch release : Text} (unbroken : Unbroken verdict arch release) (code : Int)
include unbroken

theorem differenceLines_unbroken : ∀ line ∈ differenceLines verdict, '\n' ∉ line := by
  unfold differenceLines
  split
  · exact List.forall_mem_nil _
  · refine List.forall_mem_append.mpr ⟨?_, ?_⟩
    · exact listing_unbroken (by decide +kernel) unbroken.missing
    · exact listing_unbroken (by decide +kernel) unbroken.unexpected

theorem lines_unbroken : ∀ line ∈ lines verdict arch release (Numeral.signed code), '\n' ∉ line := by
  have number : '\n' ∉ Numeral.signed code := by
    intro member
    rcases Json.mem_signed member with equal | digit
    · exact absurd equal (by decide)
    · exact absurd digit (by decide)
  have field {name value : Text} (whole : '\n' ∉ name) (rest : '\n' ∉ value) : '\n' ∉ name ++ value :=
    fun member => (List.mem_append.mp member).elim whole rest
  have outcome : '\n' ∉ Text.ofString (if verdict.passed then "PASS" else "FAIL") := by
    cases verdict.passed <;> decide +kernel
  rw [lines_eq]
  simp only [List.forall_mem_cons, List.forall_mem_append]
  refine ⟨field (by decide +kernel) outcome, field (by decide +kernel) unbroken.arch,
    field (by decide +kernel) unbroken.release, field (by decide +kernel) number, ?_, ?_,
    differenceLines_unbroken unbroken⟩
  · exact listing_unbroken (by decide +kernel) unbroken.actual
  · exact listing_unbroken (by decide +kernel) unbroken.expected

theorem read?_lines : read? (Text.join ['\n'] (lines verdict arch release (Numeral.signed code))) =
    some (.ofVerdict verdict arch release code) := by
  have split := List.splitOn_intercalate '\n' (lines_unbroken unbroken code) (by simp [lines])
  have title : ("Modules expected:" : Text).dropPrefix? indent = none := by decide +kernel
  have actual := block?_listing "Modules loaded:" verdict.actual
    (unindented_listing title verdict.expected (differenceLines verdict))
  have expected := block?_listing "Modules expected:" verdict.expected
    (unindented_differenceLines verdict)
  rw [read?, Text.join, split, lines_eq]
  dsimp only
  rw [dropPrefix?_append, dropPrefix?_append, dropPrefix?_append, dropPrefix?_append]
  simp only [Option.bind_eq_bind, Option.bind_some, passed?_outcome, code?_signed, actual, expected,
    differences?_differenceLines]
  rfl

end

-- An entry may be worded as the line that stands for an empty list, and only then are two lists shown alike.
def Alike (left right : List Text) : Prop :=
  left = right ∨ left = [] ∧ right = [placeholder] ∨ left = [placeholder] ∧ right = []

theorem shown_eq_iff {left right : List Text} : shown left = shown right ↔ Alike left right := by
  cases left with
  | nil =>
    cases right with
    | nil => simp [Alike]
    | cons entry rest => simp [shown, Alike, eq_comm]
  | cons first others =>
    cases right with
    | nil => simp [shown, Alike]
    | cons entry rest => simp [shown, Alike]

structure SameTold (one two : Verdict) (arch other release raw : Text) (code number : Int) : Prop where
  passed : one.passed = two.passed
  arch : arch = other
  release : Text.trim release = Text.trim raw
  code : code = number
  actual : Alike one.actual two.actual
  expected : Alike one.expected two.expected
  missing : one.passed = false → Alike one.missing two.missing
  unexpected : one.passed = false → Alike one.unexpected two.unexpected

section
variable {one two : Verdict} {arch other release raw : Text} {code number : Int}

theorem ofVerdict_eq_iff : Told.ofVerdict one arch release code = .ofVerdict two other raw number ↔
    SameTold one two arch other release raw code number := by
  simp only [Told.ofVerdict, Told.mk.injEq, shown_eq_iff]
  constructor
  · rintro ⟨passed, archs, releases, codes, actual, expected, differences⟩
    have failing (failed : one.passed = false) :
        Alike one.missing two.missing ∧ Alike one.unexpected two.unexpected := by
      rw [← passed, failed] at differences
      simpa [shown_eq_iff] using differences
    exact ⟨passed, archs, releases, codes, actual, expected, fun failed => (failing failed).1,
      fun failed => (failing failed).2⟩
  · rintro ⟨passed, archs, releases, codes, actual, expected, missing, unexpected⟩
    refine ⟨passed, archs, releases, codes, actual, expected, ?_⟩
    rw [← passed]
    cases failed : one.passed with
    | true => rfl
    | false => simp [shown_eq_iff, missing failed, unexpected failed]

theorem lines_congr (same : SameTold one two arch other release raw code number) (numeral : Text) :
    lines one arch release numeral = lines two other raw numeral := by
  have listed {left right : List Text} (alike : Alike left right) (title : Text) :
      listing title left = listing title right := by
    rw [listing_shown, listing_shown, shown_eq_iff.mpr alike]
  have differences : differenceLines one = differenceLines two := by
    unfold differenceLines
    rw [← same.passed]
    cases failed : one.passed with
    | true => rfl
    | false => rw [listed (same.missing failed), listed (same.unexpected failed)]
  rw [lines_eq, lines_eq, same.passed, same.arch, same.release, listed same.actual,
    listed same.expected, differences]

theorem text?_short (verdict : Verdict) (arch release : Text)
    (short : (Numeral.digits code.natAbs).length ≤ Numeral.limit) :
    text? verdict arch release code =
      .ok (Text.join ['\n'] (lines verdict arch release (Numeral.signed code))) := by
  rw [text?, Numeral.write?, if_neg (Nat.not_lt.mpr short)]
  rfl

-- A summary is read back as it was written, whatever its entries look like, so two summaries are the same
-- only if they tell the same.
theorem summaries_read_back (unbroken : Unbroken one arch release) (alsoUnbroken : Unbroken two other raw)
    (short : (Numeral.digits code.natAbs).length ≤ Numeral.limit)
    (alsoShort : (Numeral.digits number.natAbs).length ≤ Numeral.limit) :
    ∃ summary again, text? one arch release code = .ok summary ∧ text? two other raw number = .ok again ∧
      read? summary = some (.ofVerdict one arch release code) ∧
      (summary = again ↔ SameTold one two arch other release raw code number) := by
  have reads := read?_lines unbroken code
  have alsoReads := read?_lines alsoUnbroken number
  refine ⟨_, _, text?_short one arch release short, text?_short two other raw alsoShort, reads, ?_⟩
  constructor
  · intro equal
    rw [equal, alsoReads, Option.some.injEq] at reads
    exact ofVerdict_eq_iff.mp reads.symm
  · intro same
    rw [same.code, lines_congr same]

end

def lookalike (loaded : Bool) : Verdict where
  passed := false
  actual := if loaded then [placeholder] else []
  expected := ["Modules expected:", "    (none)", []]
  missing := ["Unexpected:", "CHECK RESULT:   PASS"]
  unexpected := if loaded then [] else [placeholder]

theorem lookalike_unbroken (loaded : Bool) : Unbroken (lookalike loaded) "x" " 5.4.0\n" where
  arch := by decide +kernel
  release := by decide +kernel
  actual := by cases loaded <;> decide +kernel
  expected := by cases loaded <;> decide +kernel
  missing := by cases loaded <;> decide +kernel
  unexpected := by cases loaded <;> decide +kernel

theorem lookalike_told : ∃ summary,
    text? (lookalike false) "x" " 5.4.0\n" 50400 = .ok summary ∧
    text? (lookalike true) "x" " 5.4.0\n" 50400 = .ok summary ∧
    read? summary = some ⟨false, "x", "5.4.0", 50400, [placeholder], ["Modules expected:", "    (none)", []],
      some (["Unexpected:", "CHECK RESULT:   PASS"], [placeholder])⟩ := by
  have short : (Numeral.digits (50400 : Int).natAbs).length ≤ Numeral.limit :=
    (Numeral.digits_length_le_iff _).mpr (Numeral.lt_bound (by decide))
  obtain ⟨summary, again, written, alsoWritten, reads, equal⟩ :=
    summaries_read_back (lookalike_unbroken false) (lookalike_unbroken true) short short
  have told : Told.ofVerdict (lookalike false) "x" " 5.4.0\n" 50400 =
      .ofVerdict (lookalike true) "x" " 5.4.0\n" 50400 := rfl
  have same := equal.mpr (ofVerdict_eq_iff.mp told)
  refine ⟨summary, written, ?_, reads.trans (congrArg some ?_)⟩
  · rw [same]
    exact alsoWritten
  · decide +kernel

end ProbeCheck.Summary
