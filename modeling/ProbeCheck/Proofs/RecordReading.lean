import ProbeCheck.Proofs.AsciiSeams
import ProbeCheck.Proofs.NulFree
import ProbeCheck.Proofs.QuotedTexts
import ProbeCheck.Proofs.TreeReads
import ProbeCheck.Proofs.WrittenObjects

namespace ProbeCheck

namespace Utf8

theorem Ascii.append {before after : Text} (first : Ascii before) (second : Ascii after) :
    Ascii (before ++ after) := fun c member => (List.mem_append.mp member).elim (first c) (second c)

theorem Ascii.cons {c : Char} {rest : Text} (small : c.toNat < 0x80) (others : Ascii rest) :
    Ascii (c :: rest) := List.forall_mem_cons.mpr ⟨small, others⟩

theorem ascii_nil : Ascii [] := List.forall_mem_nil _

end Utf8

namespace Json
open Utf8 (Ascii ascii_nil ascii_of_all)

theorem hex_ascii (width n : Nat) : Ascii (Text.hex width n) := by
  induction width generalizing n with
  | zero => exact ascii_nil
  | succ width ih =>
    have visible := Text.digitChar_visible (n % 16) (Nat.mod_lt n (by decide))
    exact (ih (n / 16)).append (.cons (by omega) ascii_nil)

theorem escapeUnit_ascii (unit : Nat) : Ascii (escapeUnit unit) :=
  .cons (by decide) (.cons (by decide) (hex_ascii 4 unit))

theorem escape_ascii (c : Char) : Ascii (escape c) := by
  have way := escaped c
  generalize escape c = written at way ⊢
  cases way with
  | short means =>
    obtain ⟨-, small, -⟩ := short?_some means
    exact .cons (by decide) (.cons small ascii_nil)
  | shown visible => exact .cons (by omega) ascii_nil
  | unit => exact escapeUnit_ascii _
  | pair => exact (escapeUnit_ascii _).append (escapeUnit_ascii _)

theorem quoted_ascii (text : Text) : Ascii (quoted text) := by
  refine Ascii.append (.cons (by decide) fun c member => ?_) (.cons (by decide) ascii_nil)
  obtain ⟨source, -, written⟩ := List.mem_flatMap.mp member
  exact escape_ascii source c written

theorem signed_ascii (n : Int) : Ascii (Numeral.signed n) := by
  intro c member
  rcases mem_signed member with rfl | digit
  · decide
  · have bounds := Text.isDigit_bounds digit
    omega

theorem join_ascii {separator : Text} (between : Ascii separator) {parts : List Text}
    (all : ∀ part ∈ parts, Ascii part) : Ascii (Text.join separator parts) := by
  intro c member
  rcases Text.mem_of_mem_join member with inside | ⟨part, listed, inside⟩
  · exact between c inside
  · exact all part listed c inside

theorem Value.draft_ascii (value : Value) : Ascii value.draft.text := by
  cases value with
  | text value => exact quoted_ascii value
  | number n =>
    rw [draft]
    cases written : Numeral.write? n with
    | error fault => exact ascii_nil
    | ok numeral =>
      have shown : Numeral.signed n = numeral := by
        unfold Numeral.write? at written
        split at written
        · cases written
        · exact Except.ok.inj written
      exact shown ▸ signed_ascii n
  | texts values =>
    cases values with
    | nil => exact ascii_of_all (by simp [draft, Draft.ofText])
    | cons first rest =>
      have items : Ascii (Text.join ",\n        " ((first :: rest).map quoted)) := by
        apply join_ascii (ascii_of_all (by simp))
        intro part member
        obtain ⟨text, -, rfl⟩ := List.mem_map.mp member
        exact quoted_ascii text
      have opening : Ascii ("[\n        " : Text) := ascii_of_all (by simp)
      have closing : Ascii ("\n    ]" : Text) := ascii_of_all (by simp)
      exact (opening.append items).append closing

theorem Draft.append_ascii {before after : Draft} (first : Ascii before.text)
    (second : Ascii after.text) : Ascii (before ++ after).text := by
  change Ascii (before.append after).text
  unfold append
  split
  · exact first.append second
  · exact first

theorem members_ascii {lead : Text} (led : Ascii lead) (object : Object) :
    Ascii (members lead object).text := by
  induction object generalizing lead with
  | nil => exact ascii_nil
  | cons field rest ih =>
    have colon : Ascii (": " : Text) := ascii_of_all (by simp)
    have key : Ascii (lead ++ quoted field.1 ++ (": " : Text)) := (led.append (quoted_ascii _)).append colon
    have later := @ih ",\n    " (ascii_of_all (by simp))
    exact Draft.append_ascii (Draft.append_ascii key field.2.draft_ascii) later

theorem draft_ascii (object : Object) : Ascii (draft object).text := by
  have line : Ascii ("\n    " : Text) := ascii_of_all (by simp)
  have opening : Ascii ['\x7b'] := ascii_of_all (by decide)
  have closing : Ascii ['\n', '\x7d'] := ascii_of_all (by decide)
  exact Draft.append_ascii (Draft.append_ascii opening (members_ascii line object)) closing

theorem Value.tree_inj {one two : Value} (same : one.tree = two.tree) : one = two := by
  cases one with
  | text one =>
    cases two with
    | text two => cases same; rfl
    | number two => cases same
    | texts two => cases same
  | number one =>
    cases two with
    | text two => cases same
    | number two => cases same; rfl
    | texts two => cases same
  | texts one =>
    cases two with
    | text two => cases same
    | number two => cases same
    | texts two =>
      injection same with items
      rw [List.map_injective_iff.mpr (fun a b equal => by injection equal) items]

theorem Object.tree_inj {one two : Object} (same : one.tree = two.tree) : one = two := by
  injection same with entries
  refine List.map_injective_iff.mpr (fun first second equal => ?_) entries
  injection equal with keys values
  exact Prod.ext keys (Value.tree_inj values)

end Json

namespace RunRecord

def verdictLabel (passed : Bool) : Text := if passed then "PASS" else "FAIL"

def archTree : Given → Json.Tree
  | .text arch => .text arch
  | .nothing => .list []

def entries (record : RunRecord) (runId : Text) (moment : Moment) : List (Text × Json.Tree) :=
  match record with
  | .judged verdict arch release code =>
    [("result", .text (verdictLabel verdict.passed)),
     ("run_id", .text runId),
     ("check_version", .text Check.version),
     ("result_format_version", .text layoutVersion),
     ("arch", archTree arch),
     ("kernel_release", .text (Text.trim release)),
     ("version_code", .number code),
     ("actual", .list (verdict.actual.map .text)),
     ("expected", .list (verdict.expected.map .text)),
     ("missing", .list (verdict.missing.map .text)),
     ("unexpected", .list (verdict.unexpected.map .text)),
     ("timestamp_iso", .text moment.iso)]
  | .failed typeId detail =>
    [("failure_type_id", .text typeId),
     ("exit_code", .number (FailureType.exitCodeOf typeId)),
     ("detected_at_iso", .text moment.iso),
     ("run_id", .text runId),
     ("check_version", .text Check.version),
     ("result_format_version", .text layoutVersion),
     ("detail", .text detail)]

-- The part of a record that is kept: of the release, what the blanks around it leave.
def kept : RunRecord → RunRecord
  | .judged verdict arch release code => .judged verdict arch (Text.trim release) code
  | .failed typeId detail => .failed typeId detail

theorem fields_tree (record : RunRecord) (runId : Text) (moment : Moment) :
    Json.Object.tree (record.fields runId moment) = .object (record.entries runId moment) := by
  cases record with
  | judged verdict arch release code =>
    cases arch with
    | text arch => rfl
    | nothing => rfl
  | failed typeId detail => rfl

theorem entries_keys_nodup (record : RunRecord) (runId : Text) (moment : Moment) :
    ((record.entries runId moment).map Prod.fst).Nodup := by
  cases record with
  | judged verdict arch release code => simp [entries]
  | failed typeId detail => simp [entries]

theorem archTree_inj {one two : Given} (same : archTree one = archTree two) : one = two := by
  cases one with
  | text one =>
    cases two with
    | text two => cases same; rfl
    | nothing => cases same
  | nothing =>
    cases two with
    | text two => cases same
    | nothing => rfl

theorem map_text_inj {one two : List Text} (same : one.map Json.Tree.text = two.map .text) : one = two :=
  List.map_injective_iff.mpr (fun _ _ equal => Json.Tree.text.inj equal) same

theorem verdictLabel_inj {one two : Bool} (same : verdictLabel one = verdictLabel two) : one = two := by
  cases one with
  | false =>
    cases two with
    | false => rfl
    | true => exact absurd same (by simp [verdictLabel])
  | true =>
    cases two with
    | false => exact absurd same (by simp [verdictLabel])
    | true => rfl

section
variable {firstId secondId : Text} {early late : Moment}

theorem judged_entries_eq_iff {one two : Verdict} {arch other : Given} {release raw : Text}
    {code number : Int} :
    (judged one arch release code).entries firstId early =
        (judged two other raw number).entries secondId late ↔
      firstId = secondId ∧ one = two ∧ arch = other ∧ Text.trim release = Text.trim raw ∧
        code = number ∧ early.iso = late.iso := by
  constructor
  · intro same
    simp only [entries, List.cons.injEq, Prod.mk.injEq, Json.Tree.text.injEq, Json.Tree.number.injEq,
      Json.Tree.list.injEq, true_and, and_true] at same
    obtain ⟨label, id, archs, releases, codes, actual, expected, missing, unexpected, isos⟩ := same
    have verdicts : one = two := by
      cases one
      cases two
      rw [Verdict.mk.injEq]
      exact ⟨verdictLabel_inj label, map_text_inj actual, map_text_inj expected, map_text_inj missing,
        map_text_inj unexpected⟩
    exact ⟨id, verdicts, archTree_inj archs, releases, codes, isos⟩
  · rintro ⟨rfl, rfl, rfl, releases, rfl, isos⟩
    simp only [entries, releases, isos]

theorem failed_entries_eq_iff {one two detail message : Text} :
    (failed one detail).entries firstId early = (failed two message).entries secondId late ↔
      firstId = secondId ∧ one = two ∧ detail = message ∧ early.iso = late.iso := by
  constructor
  · intro same
    simp only [entries, List.cons.injEq, Prod.mk.injEq, Json.Tree.text.injEq, Json.Tree.number.injEq,
      true_and, and_true] at same
    obtain ⟨types, -, isos, id, details⟩ := same
    exact ⟨id, types, details, isos⟩
  · rintro ⟨rfl, rfl, rfl, isos⟩
    simp only [entries, isos]

theorem judged_entries_ne {verdict : Verdict} {arch : Given} {release typeId detail : Text} {code : Int} :
    (judged verdict arch release code).entries firstId early ≠ (failed typeId detail).entries secondId late := by
  intro same
  simp only [entries, List.cons.injEq, Prod.mk.injEq] at same
  exact absurd same.1.1 (by simp)

theorem entries_eq_iff {one two : RunRecord} :
    one.entries firstId early = two.entries secondId late ↔
      firstId = secondId ∧ one.kept = two.kept ∧ early.iso = late.iso := by
  cases one with
  | judged verdict arch release code =>
    cases two with
    | judged other name raw number => simp [judged_entries_eq_iff, kept, and_assoc]
    | failed typeId detail => simp [judged_entries_ne, kept]
  | failed typeId detail =>
    cases two with
    | judged verdict arch release code => simp [judged_entries_ne.symm, kept]
    | failed other message => simp [failed_entries_eq_iff, kept, and_assoc]

end

end RunRecord

namespace Recorder

structure ReadsBack (recorder : Recorder) (record : RunRecord) (moment : Moment) : Prop where
  whole : (recorder.draft record moment).fault = none
  ascii : Utf8.Ascii (recorder.draft record moment).text
  read : Json.read? (recorder.draft record moment).text =
    some (.object (record.entries recorder.runId moment))
  keys : ((record.entries recorder.runId moment).map Prod.fst).Nodup
  held : ∀ tree left path, recorder.write tree record moment = (left, .ok path) →
    left.read path = .ok (Utf8.encode (recorder.draft record moment).text)

theorem readsBack (recorder : Recorder) {record : RunRecord} (writable : record.Writable)
    (moment : Moment) : recorder.ReadsBack record moment := by
  have fields := RunRecord.fields_writable writable recorder.runId moment
  refine ⟨Json.draft_fault fields, Json.draft_ascii _, ?_, record.entries_keys_nodup _ _, ?_⟩
  · rw [draft, Json.read?_draft fields, RunRecord.fields_tree]
  · intro tree left path written
    exact read_written written

-- Two records are written alike only if all that is kept of them is the same.
theorem records_read_back (recorder : Recorder) {record : RunRecord} (writable : record.Writable)
    (moment : Moment) : recorder.ReadsBack record moment ∧
      ∀ (other : Recorder) (later : RunRecord) (time : Moment), later.Writable →
        ((other.draft later time).text = (recorder.draft record moment).text ↔
          other.runId = recorder.runId ∧ later.kept = record.kept ∧ time.iso = moment.iso) := by
  have first := recorder.readsBack writable moment
  refine ⟨first, fun other later time laterWritable => ?_⟩
  have second := other.readsBack laterWritable time
  rw [← RunRecord.entries_eq_iff]
  constructor
  · intro same
    have read := second.read
    rw [same, first.read] at read
    exact (Json.Tree.object.inj (Option.some.inj read)).symm
  · intro same
    have fields : later.fields other.runId time = record.fields recorder.runId moment := by
      apply Json.Object.tree_inj
      rw [RunRecord.fields_tree, RunRecord.fields_tree, same]
    rw [draft, draft, fields]

def awkward (release : Text) : RunRecord :=
  .judged ⟨true, ["\\u0041", ['\x7f', '\n']], [], [[Char.ofNat 0x1F600]], ["\"", "\""]⟩ (.text "x\\") release (-7)

def leapDay : Moment := ⟨2024, 2, 29, 12, 0, 0, 7⟩

def runsRecorder : Recorder := ⟨.ofText "runs", "A"⟩

theorem awkward_reads_back : (awkward " 5.4.0\n").Writable ∧
    Json.read? (runsRecorder.draft (awkward " 5.4.0\n") leapDay).text =
      some (.object ((awkward " 5.4.0\n").entries "A" leapDay)) ∧
    (∃ left path, runsRecorder.write .empty (awkward " 5.4.0\n") leapDay = (left, .ok path) ∧
      left.read path = .ok (Utf8.encode (runsRecorder.draft (awkward " 5.4.0\n") leapDay).text)) ∧
    (runsRecorder.draft (awkward "5.4.0") leapDay).text =
      (runsRecorder.draft (awkward " 5.4.0\n") leapDay).text ∧
    (runsRecorder.draft (awkward "5.4.00") leapDay).text ≠
      (runsRecorder.draft (awkward " 5.4.0\n") leapDay).text := by
  have writable : ∀ release, (awkward release).Writable := fun _ => Numeral.lt_bound (by decide)
  obtain ⟨readsBack, alike⟩ := records_read_back runsRecorder (writable " 5.4.0\n") leapDay
  have written : (runsRecorder.write .empty (awkward " 5.4.0\n") leapDay).2.toOption.isSome = true := by
    decide +kernel
  refine ⟨writable _, readsBack.read, ?_, (alike _ _ _ (writable _)).mpr ⟨rfl, ?_, rfl⟩, fun same => ?_⟩
  · cases outcome : runsRecorder.write .empty (awkward " 5.4.0\n") leapDay with
    | mk left result =>
      cases result with
      | error fault => rw [outcome] at written; cases written
      | ok path => exact ⟨left, path, rfl, readsBack.held _ _ _ outcome⟩
  · have trimmed : Text.trim "5.4.0" = Text.trim " 5.4.0\n" := by decide +kernel
    simp only [awkward, RunRecord.kept, trimmed]
  · have kept := ((alike _ _ _ (writable _)).mp same).2.1
    injection kept with _ _ releases
    exact absurd releases (by decide +kernel)

end Recorder
end ProbeCheck
