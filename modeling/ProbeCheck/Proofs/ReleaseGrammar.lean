import ProbeCheck.Proofs.ReleaseFields

namespace ProbeCheck.KernelRelease
open Numeral (limit value)

def Unstarted (text : Text) : Prop := ∀ c ∈ text.head?, c.isDigit = false

theorem unstarted_cons {c : Char} (other : c.isDigit = false) (rest : Text) : Unstarted (c :: rest) := by
  intro d member
  cases member
  exact other

structure Numbered (text run rest : Text) : Prop where
  split : text = run ++ rest
  filled : run ≠ []
  digits : ∀ c ∈ run, c.isDigit = true
  ended : Unstarted rest

inductive FieldFault (raw : Text) (field : Field) (text : Text) : Refusal → Prop
  | missing (unstarted : Unstarted text) :
      FieldFault raw field text ((Fault.noNumber field text).refusal raw)
  | overlong {run rest : Text} (numbered : Numbered text run rest) (long : limit < run.length) :
      FieldFault raw field text (.numeral (.tooLongToRead run.length))

inductive ReadsField (raw : Text) (field : Field) (text : Text) : Except Refusal Nat → Prop
  | read {run rest : Text} (numbered : Numbered text run rest) (short : run.length ≤ limit) :
      ReadsField raw field text (.ok (value run))
  | refused {refusal : Refusal} (fault : FieldFault raw field text refusal) :
      ReadsField raw field text (.error refusal)

theorem Numbered.takeWhile {text run rest : Text} (numbered : Numbered text run rest) :
    text.takeWhile Char.isDigit = run := by
  obtain ⟨rfl, -, digits, ended⟩ := numbered
  rw [List.takeWhile_append_of_pos digits]
  cases rest with
  | nil => simp
  | cons c rest =>
    have stop := ended c rfl
    simp [stop]

theorem numbered_or_unstarted (text : Text) :
    (∃ run rest, Numbered text run rest) ∨ Unstarted text := by
  cases text with
  | nil => exact .inr nofun
  | cons c rest =>
    cases digit : c.isDigit with
    | false =>
      refine .inr fun d member => ?_
      cases member
      exact digit
    | true =>
      refine .inl ⟨(c :: rest).takeWhile Char.isDigit, (c :: rest).dropWhile Char.isDigit, ?_⟩
      refine ⟨List.takeWhile_append_dropWhile.symm, by simp [digit], ?_, ?_⟩
      · intro d member
        exact List.mem_takeWhile_imp member
      · intro d member
        have stop := List.head?_dropWhile_not Char.isDigit (c :: rest)
        rw [Option.mem_def.mp member] at stop
        simpa using stop

theorem number?_numbered {text run rest : Text} (numbered : Numbered text run rest) (raw : Text)
    (field : Field) : number? raw field text =
      if limit < run.length then .error (.numeral (.tooLongToRead run.length)) else .ok (value run) := by
  unfold number?
  simp only [numbered.takeWhile]
  rw [if_neg numbered.filled, Numeral.read?]
  split
  · rename_i read
    split at read
    · cases read
    · rename_i short
      cases read
      rw [if_neg short]
  · rename_i unread
    split at unread
    · rename_i long
      cases unread
      rw [if_pos long]
    · cases unread

theorem number?_unstarted {text : Text} (unstarted : Unstarted text) (raw : Text)
    (field : Field) : number? raw field text = .error ((Fault.noNumber field text).refusal raw) := by
  have nothing : text.takeWhile Char.isDigit = [] := by
    cases text with
    | nil => rfl
    | cons c rest =>
      have stop := unstarted c rfl
      simp [stop]
  unfold number?
  simp [nothing]

theorem readsField_complete {raw text : Text} {field : Field} {outcome : Except Refusal Nat}
    (reads : ReadsField raw field text outcome) : number? raw field text = outcome := by
  cases reads with
  | read numbered short => rw [number?_numbered numbered, if_neg (Nat.not_lt.mpr short)]
  | refused fault =>
    cases fault with
    | missing unstarted => exact number?_unstarted unstarted raw field
    | overlong numbered long => rw [number?_numbered numbered, if_pos long]

theorem readsField_sound (raw : Text) (field : Field) (text : Text) :
    ReadsField raw field text (number? raw field text) := by
  rcases numbered_or_unstarted text with ⟨run, rest, numbered⟩ | unstarted
  · rw [number?_numbered numbered]
    split
    · rename_i long
      exact .refused (.overlong numbered long)
    · rename_i short
      exact .read numbered (Nat.not_lt.mp short)
  · rw [number?_unstarted unstarted]
    exact .refused (.missing unstarted)

theorem readsField_iff {raw text : Text} {field : Field} {outcome : Except Refusal Nat} :
    number? raw field text = outcome ↔ ReadsField raw field text outcome :=
  ⟨fun read => read ▸ readsField_sound raw field text, readsField_complete⟩

theorem ReadsField.fault {raw text : Text} {field : Field} {refusal : Refusal}
    (reads : ReadsField raw field text (.error refusal)) : FieldFault raw field text refusal := by
  cases reads
  assumption

inductive FirstFault (raw : Text) : List (Field × Text) → Refusal → Prop
  | here {field : Field} {text : Text} {later : List (Field × Text)} {refusal : Refusal}
      (fault : FieldFault raw field text refusal) : FirstFault raw ((field, text) :: later) refusal
  | later {field : Field} {text run rest : Text} {later : List (Field × Text)} {refusal : Refusal}
      (numbered : Numbered text run rest) (short : run.length ≤ limit)
      (next : FirstFault raw later refusal) : FirstFault raw ((field, text) :: later) refusal

section
variable {raw major minor patch : Text} {more : List Text}
  (split : fields raw = major :: minor :: patch :: more)
include split

theorem version?_fields : version? raw = do
    let major ← number? raw .major major
    let minor ← number? raw .minor minor
    let patch ← number? raw .patch patch
    return ⟨major, minor, patch⟩ := by
  unfold version?
  split
  · rename_i single
    cases split.symm.trans single
  · rename_i several
    cases split.symm.trans several
    rfl
  · rename_i few
    exact absurd split (few _ _ _ _)

theorem version?_ok_iff {version : Version} : version? raw = .ok version ↔
    ∃ one two three : Nat, ReadsField raw .major major (.ok one) ∧ ReadsField raw .minor minor (.ok two) ∧
      ReadsField raw .patch patch (.ok three) ∧ version = ⟨one, two, three⟩ := by
  rw [version?_fields split]
  simp only [bind_ok_iff, readsField_iff]
  constructor
  · rintro ⟨one, first, two, second, three, third, result⟩
    cases result
    exact ⟨one, two, three, first, second, third, rfl⟩
  · rintro ⟨one, two, three, first, second, third, rfl⟩
    exact ⟨one, first, two, second, three, third, rfl⟩

theorem version?_error_iff {refusal : Refusal} : version? raw = .error refusal ↔
    FirstFault raw [(.major, major), (.minor, minor), (.patch, patch)] refusal := by
  rw [version?_fields split]
  simp only [bind_error_iff, readsField_iff]
  constructor
  · rintro (fault | ⟨one, first, fault | ⟨two, second, fault | ⟨three, third, done⟩⟩⟩)
    · exact .here fault.fault
    · cases first with
      | read numbered short => exact .later numbered short (.here fault.fault)
    · cases first with
      | read numbered short =>
        cases second with
        | read other small => exact .later numbered short (.later other small (.here fault.fault))
    · cases done
  · intro fault
    cases fault with
    | here fault => exact .inl (.refused fault)
    | later numbered short next =>
      refine .inr ⟨_, .read numbered short, ?_⟩
      cases next with
      | here fault => exact .inl (.refused fault)
      | later other small next =>
        refine .inr ⟨_, .read other small, ?_⟩
        cases next with
        | here fault => exact .inl (.refused fault)
        | later third brief next => cases next

end

structure Run (text : Text) : Prop where
  filled : text ≠ []
  digits : ∀ c ∈ text, c.isDigit = true
  short : text.length ≤ limit

-- Three runs of digits with a dot between each two. What follows the last run may have dots.
inductive Triple (raw major minor patch : Text) : Prop
  | mk {skipped afterMajor afterMinor afterPatch : Text}
      (split : raw = skipped ++ (major ++ afterMajor) ++ '.' :: (minor ++ afterMinor) ++
        '.' :: (patch ++ afterPatch))
      (skippedFree : DigitFree skipped)
      (majorRun : Run major) (majorEnded : Unstarted afterMajor) (majorDotless : '.' ∉ afterMajor)
      (minorRun : Run minor) (minorEnded : Unstarted afterMinor) (minorDotless : '.' ∉ afterMinor)
      (patchRun : Run patch) (patchEnded : Unstarted afterPatch)

theorem Run.dotless {run : Text} (digits : Run run) : '.' ∉ run := by
  intro member
  exact absurd (digits.digits '.' member) (by decide)

theorem Run.numbered {run rest : Text} (digits : Run run) (ended : Unstarted rest) :
    Numbered (run ++ rest) run rest := ⟨rfl, digits.filled, digits.digits, ended⟩

theorem Unstarted.of_prefix {text start : Text} (unstarted : Unstarted text) (begins : start <+: text) :
    Unstarted start := by
  intro c member
  obtain ⟨rest, rfl⟩ := begins
  apply unstarted c
  rw [List.head?_append, Option.mem_def.mp member]
  rfl

theorem Run.last_rdropWhile {run : Text} (digits : Run run) (rest : Text) :
    ∀ c ∈ (run ++ rest.rdropWhile Text.isBlank).getLast?, Text.isBlank c = false := by
  -- After its last digits a text loses only blanks when it is trimmed.
  intro c member
  rw [List.getLast?_append] at member
  cases last : (rest.rdropWhile Text.isBlank).getLast? with
  | none =>
    rw [last, Option.none_or] at member
    exact Text.isBlank_of_isDigit (digits.digits c (List.mem_of_getLast? member))
  | some d =>
    rw [last, Option.some_or] at member
    cases member
    exact Text.last_rdropWhile last

theorem Triple.fields {raw major minor patch : Text} (triple : Triple raw major minor patch) :
    ∃ afterMajor afterMinor afterPatch more, fields raw =
        (major ++ afterMajor) :: (minor ++ afterMinor) :: (patch ++ afterPatch) :: more ∧
      Unstarted afterMajor ∧ Unstarted afterMinor ∧ Unstarted afterPatch := by
  obtain @⟨skipped, afterMajor, afterMinor, afterPatch, split, free, majorRun, majorEnded, majorDotless,
    minorRun, minorEnded, minorDotless, patchRun, patchEnded⟩ := triple
  have whole := List.rdropWhile_append_rtakeWhile (p := Text.isBlank) (l := afterPatch)
  have begun : Begun raw skipped ((major ++ afterMajor) ++ '.' :: ((minor ++ afterMinor) ++
      '.' :: (patch ++ afterPatch.rdropWhile Text.isBlank))) (afterPatch.rtakeWhile Text.isBlank) := by
    refine ⟨?_, free, ?_, ?_, fun c => List.mem_rtakeWhile_imp⟩
    · simp [split, whole]
    · obtain ⟨digit, rest, rfl⟩ := List.exists_cons_of_ne_nil majorRun.filled
      exact ⟨digit, rfl, majorRun.digits digit List.mem_cons_self⟩
    · intro c member
      rw [List.getLast?_append_cons, ← List.cons_append, List.getLast?_append_cons,
        List.getLast?_cons_of_ne_nil (by simp [patchRun.filled])] at member
      exact patchRun.last_rdropWhile afterPatch c member
  have majorField : '.' ∉ major ++ afterMajor := by simp [majorRun.dotless, majorDotless]
  have minorField : '.' ∉ minor ++ afterMinor := by simp [minorRun.dotless, minorDotless]
  obtain ⟨first, more, cut, begins⟩ :=
    Text.exists_splitOn_append patchRun.dotless (afterPatch.rdropWhile Text.isBlank)
  refine ⟨afterMajor, afterMinor, first, more, ?_, majorEnded, minorEnded, ?_⟩
  · rw [fields_begun begun, List.splitOn_append_cons_self_of_not_mem majorField,
      List.splitOn_append_cons_self_of_not_mem minorField, cut]
  · exact patchEnded.of_prefix (begins.trans (List.rdropWhile_prefix _ _))

theorem Triple.runs {raw major minor patch : Text} (triple : Triple raw major minor patch) :
    Run major ∧ Run minor ∧ Run patch := by
  obtain ⟨-, -, majorRun, -, -, minorRun, -, -, patchRun, -⟩ := triple
  exact ⟨majorRun, minorRun, patchRun⟩

theorem Run.reads {run rest : Text} (digits : Run run) (ended : Unstarted rest) (raw : Text)
    (field : Field) : ReadsField raw field (run ++ rest) (.ok (value run)) :=
  .read (digits.numbered ended) digits.short

theorem version?_triple {raw major minor patch : Text} (triple : Triple raw major minor patch) :
    version? raw = .ok ⟨value major, value minor, value patch⟩ := by
  obtain ⟨afterMajor, afterMinor, afterPatch, more, split, one, two, three⟩ := triple.fields
  obtain ⟨majorRun, minorRun, patchRun⟩ := triple.runs
  exact (version?_ok_iff split).mpr
    ⟨_, _, _, majorRun.reads one raw _, minorRun.reads two raw _, patchRun.reads three raw _, rfl⟩

theorem version?_digitFree {raw : Text} (free : DigitFree raw) :
    version? raw = .error (Fault.noDigit.refusal raw) := by
  rw [version?, fields_digitFree free]

theorem version?_few {raw skipped body blanks : Text} (begun : Begun raw skipped body blanks)
    (few : (body.splitOn '.').length < 3) :
    version? raw = .error ((Fault.fewFields (body.splitOn '.').length).refusal raw) := by
  have split := fields_begun begun
  unfold version?
  split
  · rename_i single
    obtain ⟨digit, head, -⟩ := begun.first
    rcases Text.splitOn_first (split.symm.trans single) with ⟨-, ⟨-, rfl⟩ | ⟨rest, -, several⟩⟩
    · cases head
    · exact absurd several (List.splitOn_ne_nil _ _)
  · rename_i several
    rw [← split, several] at few
    simp at few
    omega
  · rw [split]

theorem Unstarted.append {before after : Text} (first : Unstarted before) (second : Unstarted after) :
    Unstarted (before ++ after) := by
  cases before with
  | nil => exact second
  | cons c rest => exact first

theorem DigitFree.unstarted {text : Text} (free : DigitFree text) : Unstarted text := by
  intro c member
  exact free c (List.mem_of_head? member)

theorem exists_after_field {text field : Text} {more : List Text}
    (split : text.splitOn '.' = field :: more) : ∃ after, text = field ++ after ∧ Unstarted after := by
  rcases Text.splitOn_first split with ⟨-, ⟨-, rfl⟩ | ⟨rest, rfl, -⟩⟩
  · exact ⟨[], (List.append_nil _).symm, nofun⟩
  · refine ⟨'.' :: rest, rfl, ?_⟩
    intro c member
    cases member
    decide

theorem exists_three {texts : List Text} (enough : 3 ≤ texts.length) :
    ∃ first second third more, texts = first :: second :: third :: more := by
  match texts, enough with
  | first :: second :: third :: more, _ => exact ⟨first, second, third, more, rfl⟩

theorem exists_before_field {text first second : Text} {more : List Text}
    (split : text.splitOn '.' = first :: second :: more) :
    ∃ rest, text = first ++ '.' :: rest ∧ '.' ∉ first ∧ rest.splitOn '.' = second :: more := by
  rcases Text.splitOn_first split with ⟨clean, ⟨none, -⟩ | ⟨rest, equal, others⟩⟩
  · cases none
  · exact ⟨rest, equal, clean, others⟩

theorem ReadsField.run {raw text : Text} {field : Field} {number : Nat}
    (reads : ReadsField raw field text (.ok number)) :
    ∃ run rest, text = run ++ rest ∧ Run run ∧ Unstarted rest ∧ number = value run := by
  cases reads with
  | @read run rest numbered short =>
    exact ⟨run, rest, numbered.split, ⟨numbered.filled, numbered.digits, short⟩, numbered.ended, rfl⟩

theorem triple_of_fields {raw skipped body blanks major minor patch : Text} {more : List Text}
    (begun : Begun raw skipped body blanks) (split : body.splitOn '.' = major :: minor :: patch :: more)
    {one two three : Nat} (first : ReadsField raw .major major (.ok one))
    (second : ReadsField raw .minor minor (.ok two)) (third : ReadsField raw .patch patch (.ok three)) :
    ∃ majorRun minorRun patchRun, Triple raw majorRun minorRun patchRun ∧
      one = value majorRun ∧ two = value minorRun ∧ three = value patchRun := by
  obtain ⟨afterMajor, bodySplit, majorDotless, split⟩ := exists_before_field split
  obtain ⟨afterMinor, rfl, minorDotless, split⟩ := exists_before_field split
  obtain ⟨after, rfl, ended⟩ := exists_after_field split
  obtain ⟨majorRun, majorRest, rfl, majorDigits, majorEnded, rfl⟩ := first.run
  obtain ⟨minorRun, minorRest, rfl, minorDigits, minorEnded, rfl⟩ := second.run
  obtain ⟨patchRun, patchRest, rfl, patchDigits, patchEnded, rfl⟩ := third.run
  have whole : raw = skipped ++ (majorRun ++ majorRest) ++ '.' :: (minorRun ++ minorRest) ++
      '.' :: (patchRun ++ (patchRest ++ (after ++ blanks))) := by
    rw [begun.split, bodySplit]
    simp
  have closed := patchEnded.append (ended.append (digitFree_blank begun.blanks).unstarted)
  refine ⟨majorRun, minorRun, patchRun, ?_, rfl, rfl, rfl⟩
  refine ⟨whole, begun.skipped, majorDigits, majorEnded, ?_, minorDigits, minorEnded, ?_, patchDigits,
    closed⟩
  · intro member
    exact majorDotless (List.mem_append_right _ member)
  · intro member
    exact minorDotless (List.mem_append_right _ member)

theorem exists_triple {raw : Text} {version : Version} (accepted : version? raw = .ok version) :
    ∃ major minor patch, Triple raw major minor patch ∧
      version = ⟨value major, value minor, value patch⟩ := by
  rcases digitFree_or_begun raw with free | ⟨skipped, body, blanks, begun⟩
  · rw [version?_digitFree free] at accepted
    cases accepted
  · by_cases few : (body.splitOn '.').length < 3
    · rw [version?_few begun few] at accepted
      cases accepted
    · obtain ⟨major, minor, patch, more, split⟩ := exists_three (Nat.not_lt.mp few)
      obtain ⟨one, two, three, first, second, third, rfl⟩ :=
        (version?_ok_iff ((fields_begun begun).trans split)).mp accepted
      obtain ⟨majorRun, minorRun, patchRun, triple, rfl, rfl, rfl⟩ :=
        triple_of_fields begun split first second third
      exact ⟨majorRun, minorRun, patchRun, triple, rfl⟩

-- Why a release is refused: it has no digit, or from its first digit on too few fields, or a field
-- without a number that can be read.
inductive Refused (raw : Text) : Refusal → Prop
  | noDigit (free : DigitFree raw) : Refused raw (Fault.noDigit.refusal raw)
  | fewFields {skipped body blanks : Text} (begun : Begun raw skipped body blanks)
      (few : ((body ++ blanks).splitOn '.').length < 3) :
      Refused raw ((Fault.fewFields ((body ++ blanks).splitOn '.').length).refusal raw)
  | field {skipped body blanks major minor patch : Text} {more : List Text} {refusal : Refusal}
      (begun : Begun raw skipped body blanks) (split : body.splitOn '.' = major :: minor :: patch :: more)
      (first : FirstFault raw [(.major, major), (.minor, minor), (.patch, patch)] refusal) :
      Refused raw refusal

theorem refused_iff {raw : Text} {refusal : Refusal} :
    version? raw = .error refusal ↔ Refused raw refusal := by
  constructor
  · intro refused
    rcases digitFree_or_begun raw with free | ⟨skipped, body, blanks, begun⟩
    · rw [version?_digitFree free] at refused
      cases refused
      exact .noDigit free
    · by_cases few : (body.splitOn '.').length < 3
      · rw [version?_few begun few, ← begun.length_splitOn] at refused
        cases refused
        rw [← begun.length_splitOn] at few
        exact .fewFields begun few
      · obtain ⟨major, minor, patch, more, split⟩ := exists_three (Nat.not_lt.mp few)
        exact .field begun split ((version?_error_iff ((fields_begun begun).trans split)).mp refused)
  · intro refused
    cases refused with
    | noDigit free => exact version?_digitFree free
    | fewFields begun few =>
      rw [begun.length_splitOn] at few ⊢
      exact version?_few begun few
    | field begun split first => exact (version?_error_iff ((fields_begun begun).trans split)).mpr first

theorem reason_ne_major {fault : Fault} (other : ∀ text, fault ≠ .noNumber .major text) (text : Text) :
    fault.reason ≠ (Fault.noNumber .major text).reason := by
  intro same
  have begins := congrArg (List.take 2) same
  cases fault with
  | notText typeName => simp [Fault.reason, Field.name] at begins
  | noDigit => simp [Fault.reason, Field.name] at begins
  | fewFields found => simp [Fault.reason, Field.name] at begins
  | noNumber field shown =>
    cases field with
    | major => exact other shown rfl
    | minor => simp [Fault.reason, Field.name] at begins
    | patch => simp [Fault.reason, Field.name] at begins

theorem Begun.major_started {raw skipped body blanks major : Text} {more : List Text}
    (begun : Begun raw skipped body blanks) (split : body.splitOn '.' = major :: more) :
    ¬ Unstarted major := by
  intro unstarted
  obtain ⟨digit, head, isDigit⟩ := begun.first
  rcases Text.splitOn_first split with ⟨-, equal⟩
  cases major with
  | nil =>
    rcases equal with ⟨-, rfl⟩ | ⟨rest, rfl, -⟩
    · cases head
    · cases head
      cases isDigit
  | cons c rest =>
    have first : body.head? = some c := by
      rcases equal with ⟨-, rfl⟩ | ⟨later, rfl, -⟩
      · rfl
      · rfl
    cases first.symm.trans head
    rw [unstarted digit rfl] at isDigit
    cases isDigit

theorem Refused.reported {raw : Text} {error : ReleaseError} (refused : Refused raw (.release error)) :
    ∃ fault : Fault, error = .ofText raw fault.reason fault.reason_ne ∧
      ∀ text, fault ≠ .noNumber .major text := by
  cases refused with
  | noDigit free => exact ⟨.noDigit, rfl, nofun⟩
  | fewFields begun few => exact ⟨.fewFields _, rfl, nofun⟩
  | field begun split first =>
    cases first with
    | here fault =>
      cases fault with
      | missing unstarted => exact absurd unstarted (begun.major_started split)
    | later _ _ next =>
      cases next with
      | here fault =>
        cases fault with
        | missing unstarted => exact ⟨.noNumber .minor _, rfl, nofun⟩
      | later _ _ last =>
        cases last with
        | here fault =>
          cases fault with
          | missing unstarted => exact ⟨.noNumber .patch _, rfl, nofun⟩
        | later _ _ none => cases none

def candidate : Text := "Linux 5.4.rc1\n".toList

end KernelRelease
end ProbeCheck
