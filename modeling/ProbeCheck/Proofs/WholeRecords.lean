import ProbeCheck.Proofs.RecordReading
import ProbeCheck.Proofs.RecorderSessions
import ProbeCheck.Proofs.StrictDecoding

namespace ProbeCheck

namespace Json

theorem Draft.append_whole {before : Draft} (whole : before.fault = none) (after : Draft) :
    before ++ after = ⟨before.text ++ after.text, after.fault⟩ := by
  change before.append after = _
  unfold append
  rw [whole]

theorem Draft.append_broken {before : Draft} {fault : Numeral.Fault} (broken : before.fault = some fault)
    (after : Draft) : before ++ after = before := by
  change before.append after = before
  unfold append
  rw [broken]

theorem Value.draft_broken {value : Value} (long : ¬ value.Writable) :
    value.draft = ⟨[], some .tooLongToWrite⟩ := by
  cases value with
  | text value => exact absurd trivial long
  | texts values => exact absurd trivial long
  | number n => rw [draft, Numeral.write?_error (Nat.le_of_not_lt long)]

structure Draft.Broken (draft : Draft) : Prop where
  fault : draft.fault = some .tooLongToWrite
  ends : [':', ' '] <:+ draft.text

theorem Draft.Broken.after {draft before : Draft} (broken : draft.Broken) (whole : before.fault = none) :
    (before ++ draft).Broken := by
  rw [append_whole whole]
  exact ⟨broken.fault, broken.ends.trans (List.suffix_append _ _)⟩

theorem members_broken {object : Object} (long : ∃ field ∈ object, ¬ field.2.Writable) (lead : Text) :
    (members lead object).Broken := by
  induction object generalizing lead with
  | nil =>
    obtain ⟨field, member, -⟩ := long
    cases member
  | cons field rest ih =>
    obtain ⟨key, value⟩ := field
    rw [members]
    by_cases writable : value.Writable
    · have later : ∃ field ∈ rest, ¬ field.2.Writable := by
        obtain ⟨field, member, overlong⟩ := long
        rcases List.mem_cons.mp member with rfl | member
        · exact absurd writable overlong
        · exact ⟨field, member, overlong⟩
      exact (ih later ",\n    ").after (Draft.append_fault rfl (Value.draft_fault writable))
    · have opened : (Draft.ofText (lead ++ quoted key ++ (": " : Text)) ++ value.draft).Broken := by
        rw [Value.draft_broken writable, Draft.append_whole rfl]
        refine ⟨rfl, ?_⟩
        rw [List.append_nil, Text.ofString_eq]
        exact List.suffix_append _ _
      rwa [Draft.append_broken opened.fault]

theorem draft_broken {object : Object} (long : ∃ field ∈ object, ¬ field.2.Writable) :
    (draft object).Broken := by
  have opened : (Draft.ofText ['\x7b'] ++ members "\n    " object).Broken :=
    (members_broken long _).after rfl
  rwa [draft, Draft.append_broken opened.fault]

theorem scan_split {mode last : Mode} {before after : Text} {tokens : List Token}
    (scanned : scan mode (before ++ after) = some (tokens, last)) :
    ∃ first middle later, scan mode before = some (first, middle) ∧
      scan middle after = some (later, last) ∧ tokens = first ++ later := by
  induction before generalizing mode tokens with
  | nil => exact ⟨[], mode, tokens, rfl, scanned, rfl⟩
  | cons c before ih =>
    simp only [List.cons_append, scan, Option.bind_eq_bind, Option.bind_eq_some_iff, Prod.exists]
      at scanned
    obtain ⟨head, next, stepped, rest, final, followed, joined⟩ := scanned
    cases joined
    obtain ⟨first, middle, later, begun, ended, rfl⟩ := ih followed
    refine ⟨head ++ first, middle, later, ?_, ended, (List.append_assoc ..).symm⟩
    simp [scan, stepped, begun]

theorem scan_colon {mode last : Mode} {tokens : List Token}
    (scanned : scan mode [':', ' '] = some (tokens, last)) :
    last.finish = none ∨ last = .between ∧ ∃ earlier, tokens = earlier ++ [.colon] := by
  -- A colon that is read stands inside quotes, or the reader goes on to wait for a value.
  cases mode with
  | between =>
    cases scanned
    exact .inr ⟨rfl, [], rfl⟩
  | word run =>
    cases read : word? run with
    | none => simp [scan, Mode.step, endsWord, isSpace, mark?, read] at scanned
    | some tree =>
      simp [scan, Mode.step, endsWord, isSpace, mark?, read, start] at scanned
      exact .inr ⟨scanned.2.symm, [.scalar tree], scanned.1.symm⟩
  | quoted units =>
    cases scanned
    exact .inl rfl
  | escaped units => cases scanned
  | coded units missing value => cases scanned

theorem step_colon {awaiting final : Awaiting} (stepped : awaiting.step .colon = some final) :
    final.tree? = none := by
  cases awaiting with
  | colon fields key outer => cases stepped; rfl
  | value outer => cases stepped
  | firstItem outer => cases stepped
  | afterItem items outer => cases stepped
  | firstKey outer => cases stepped
  | nextKey fields outer => cases stepped
  | afterField fields outer => cases stepped
  | nothing tree => cases stepped

theorem read?_colon (before : Text) : read? (before ++ [':', ' ']) = none := by
  rw [Option.eq_none_iff_forall_ne_some]
  intro tree read
  simp only [read?, Option.bind_eq_bind, Option.bind_eq_some_iff, Prod.exists] at read
  obtain ⟨tokens, last, scanned, ending, finished, final, stepped, held⟩ := read
  obtain ⟨first, middle, later, -, ended, rfl⟩ := scan_split scanned
  rcases scan_colon ended with unfinished | ⟨rfl, earlier, rfl⟩
  · rw [unfinished] at finished
    cases finished
  · cases finished
    rw [List.append_nil, ← List.append_assoc, List.foldlM_append, Option.bind_eq_bind,
      Option.bind_eq_some_iff] at stepped
    obtain ⟨awaiting, -, stepped⟩ := stepped
    rw [List.foldlM_cons, Option.bind_eq_bind, Option.bind_eq_some_iff] at stepped
    obtain ⟨next, colon, done⟩ := stepped
    cases done
    rw [step_colon colon] at held
    cases held

def Document (content : Bytes) : Prop := ∃ text tree, content = Utf8.encode text ∧ read? text = some tree

theorem encode_inj {one two : Text} (same : Utf8.encode one = Utf8.encode two) : one = two := by
  have decoded := congrArg Utf8.decodeLossy same
  rwa [Utf8.decodeLossy_encode, Utf8.decodeLossy_encode] at decoded

theorem document_draft_iff {object : Object} :
    Document (Utf8.encode (draft object).text) ↔ ∀ field ∈ object, field.2.Writable := by
  constructor
  · rintro ⟨text, tree, same, read⟩
    by_contra long
    push Not at long
    obtain ⟨before, ends⟩ := (draft_broken long).ends
    rw [← encode_inj same, ← ends, read?_colon] at read
    cases read
  · intro writable
    exact ⟨_, _, rfl, read?_draft writable⟩

end Json

theorem RunRecord.fields_writable_iff {record : RunRecord} {runId : Text} {moment : Moment} :
    (∀ field ∈ record.fields runId moment, field.2.Writable) ↔ record.Writable := by
  refine ⟨fun fields => ?_, fun writable => fields_writable writable runId moment⟩
  cases record with
  | failed => trivial
  | judged verdict arch release code =>
    exact fields ("version_code", .number code) (by simp [RunRecord.fields])

def FileTree.SameFiles (tree left : FileTree) : Prop :=
  ∀ place content, left.find? place = some (.file content) ↔ tree.find? place = some (.file content)

theorem FileTree.Grown.sameFiles {tree left : FileTree} {way : Path} (grown : tree.Grown left way) :
    tree.SameFiles left := fun place => (grown place).file_iff

namespace Recorder

inductive Wrote (recorder : Recorder) (record : RunRecord) (moment : Moment) (tree : FileTree) :
    FileTree × Except RecordFault Path → Prop
  | unopened {left : FileTree} {fault : FileFault} (grown : tree.Grown left recorder.directory) :
      Wrote recorder record moment tree (left, .error (.file fault))
  | whole {left : FileTree} (kept : recorder.Kept record moment tree left) :
      Wrote recorder record moment tree (left, .ok (recorder.path record moment))
  | broken {left : FileTree} (long : ¬ record.Writable)
      (held : left.find? (recorder.path record moment).place =
        some (.file (Utf8.encode (recorder.draft record moment).text)))
      (others : ∀ place, place ≠ (recorder.path record moment).place →
        tree.GrownAt left recorder.directory place) :
      Wrote recorder record moment tree (left, .error (.numeral .tooLongToWrite))

variable {recorder : Recorder} {tree left : FileTree} {record : RunRecord} {moment : Moment}

theorem draft_long (long : ¬ record.Writable) : (recorder.draft record moment).Broken := by
  apply Json.draft_broken
  by_contra short
  push Not at short
  exact long (RunRecord.fields_writable_iff.mp short)

theorem wrote (recorder : Recorder) (record : RunRecord) (moment : Moment) (tree : FileTree) :
    Wrote recorder record moment tree (recorder.write tree record moment) := by
  cases outcome : recorder.write tree record moment with
  | mk left written =>
    cases written with
    | ok path =>
      obtain ⟨rfl, kept⟩ := write_kept outcome
      exact .whole kept
    | error fault =>
      cases fault with
      | file fault => exact .unopened (write_unkept outcome)
      | numeral fault =>
        have long : ¬ record.Writable := fun writable =>
          write_numeral writable moment left fault outcome
        unfold write at outcome
        split at outcome
        · cases outcome
        · rename_i grown made
          dsimp only at outcome
          split at outcome
          · cases outcome
          · rename_i full stored
            split at outcome
            · cases outcome
            · rename_i numeral broken
              rw [(draft_long long).fault] at broken
              cases broken
              cases outcome
              refine .broken long ?_ fun place apart => ?_
              · rw [FileTree.write_ok stored, if_pos rfl]
              · have same := FileTree.write_ok stored place
                rw [if_neg apart] at same
                exact (FileTree.makeDirectories_grown made place).trans (.inl same)

theorem write_untouched (writable : record.Writable) {fault : RecordFault}
    (failed : recorder.write tree record moment = (left, .error fault)) : tree.SameFiles left := by
  have ways := recorder.wrote record moment tree
  rw [failed] at ways
  cases ways with
  | unopened grown => exact grown.sameFiles
  | broken long => exact absurd writable long

theorem write_opened (made : (tree.makeDirectories recorder.directory).2 = .ok ())
    (located : (tree.makeDirectories recorder.directory).1.locate (recorder.path record moment) =
      .ok (recorder.path record moment).place)
    (free : (tree.makeDirectories recorder.directory).1.find? (recorder.path record moment).place ≠
      some .directory) (fault : FileFault) : recorder.write tree record moment ≠ (left, .error (.file fault)) := by
  intro failed
  unfold write at failed
  rcases grown : tree.makeDirectories recorder.directory with ⟨full, answer⟩
  rw [grown] at made located free failed
  dsimp only at made located free failed
  subst made
  dsimp only at failed
  split at failed
  · rename_i unwritten
    obtain ⟨left, stored⟩ := FileTree.write_ok_iff.mpr ⟨located, free⟩
    cases unwritten.symm.trans stored
  · split at failed <;> cases failed

theorem document_iff : Json.Document (Utf8.encode (recorder.draft record moment).text) ↔ record.Writable :=
  Json.document_draft_iff.trans RunRecord.fields_writable_iff

-- What a call has left of a record that cannot be written: all files as they were, or in its own file the
-- part before the number, which is no document.
inductive Spoiled (recorder : Recorder) (record : RunRecord) (moment : Moment) (tree : FileTree) :
    FileTree × Except RecordFault Path → Prop
  | untouched {left : FileTree} {fault : FileFault} (same : tree.SameFiles left) :
      Spoiled recorder record moment tree (left, .error (.file fault))
  | cut {left : FileTree} {content : Bytes}
      (held : left.find? (recorder.path record moment).place = some (.file content))
      (unread : ¬ Json.Document content)
      (others : ∀ place, place ≠ (recorder.path record moment).place → ∀ content,
        left.find? place = some (.file content) ↔ tree.find? place = some (.file content)) :
      Spoiled recorder record moment tree (left, .error (.numeral .tooLongToWrite))

theorem write_spoiled (long : ¬ record.Writable) (tree : FileTree) :
    Spoiled recorder record moment tree (recorder.write tree record moment) := by
  have ways := recorder.wrote record moment tree
  generalize recorder.write tree record moment = outcome at ways
  cases ways with
  | unopened grown => exact .untouched grown.sameFiles
  | whole kept =>
    have broken := (@draft_long recorder record moment long).fault
    rw [kept.whole] at broken
    cases broken
  | broken _ held others =>
    exact .cut held (fun read => long (document_iff.mp read)) fun place apart => (others place apart).file_iff

end Recorder

namespace Session
open Call

def opened : Except RecordFault Path → Bool
  | .error (.file _) => false
  | _ => true

def placeOf (directory : Path) (call : Call) : Place :=
  ((call.recorder directory).path call.record call.moment).place

def lastOpened (directory : Path) : FileTree → List Call → Place → Option Call
  | _, [], _ => none
  | tree, call :: rest, place =>
    (lastOpened directory (call.perform directory tree).1 rest place).or
      (if placeOf directory call = place ∧ opened (call.perform directory tree).2 = true then some call
        else none)

variable {directory : Path} {tree : FileTree}

theorem file_perform (directory : Path) (tree : FileTree) (call : Call) (place : Place) (content : Bytes) :
    (call.perform directory tree).1.find? place = some (.file content) ↔
      if placeOf directory call = place ∧ opened (call.perform directory tree).2 = true then
        content = call.content
      else tree.find? place = some (.file content) := by
  have ways : (call.recorder directory).Wrote call.record call.moment { tree with reach := call.reach }
      (call.perform directory tree) := Recorder.wrote ..
  generalize call.perform directory tree = outcome at ways ⊢
  have own {left : FileTree} {answer : Except RecordFault Path} (open_ : opened answer = true)
      (held : left.find? (placeOf directory call) = some (.file call.content))
      (others : ∀ place, place ≠ placeOf directory call → tree.GrownAt left directory place) :
      left.find? place = some (.file content) ↔
        if placeOf directory call = place ∧ opened answer = true then content = call.content
        else tree.find? place = some (.file content) := by
    by_cases same : placeOf directory call = place
    · rw [if_pos ⟨same, open_⟩, ← same, held, Option.some.injEq, Entry.file.injEq, eq_comm]
    · rw [if_neg fun reached => same reached.1]
      exact (others place fun equal => same equal.symm).file_iff content
  cases ways with
  | unopened grown =>
    rw [if_neg fun reached => Bool.false_ne_true reached.2]
    exact (grown place).file_iff content
  | whole kept => exact own rfl kept.held kept.others
  | broken _ held others => exact own rfl held others

theorem file_after (directory : Path) (tree : FileTree) (calls : List Call) (place : Place)
    (content : Bytes) : (after directory tree calls).find? place = some (.file content) ↔
      match lastOpened directory tree calls place with
      | some call => content = call.content
      | none => tree.find? place = some (.file content) := by
  induction calls generalizing tree with
  | nil => exact Iff.rfl
  | cons call rest ih =>
    rw [after, lastOpened, ih]
    cases lastOpened directory (call.perform directory tree).1 rest place with
    | some later => rfl
    | none =>
      rw [Option.none_or]
      dsimp only
      rw [file_perform]
      by_cases reached : placeOf directory call = place ∧ opened (call.perform directory tree).2 = true
      · rw [if_pos reached, if_pos reached]
      · rw [if_neg reached, if_neg reached]

theorem document_content_iff (call : Call) : Json.Document call.content ↔ call.record.Writable :=
  @Recorder.document_iff (call.recorder ⟨.none, []⟩) call.record call.moment

-- A call that fails leaves all files as they were if its record can be written; if it cannot, the file that
-- was opened is spoiled. So after any calls each file that was opened holds a document or not as the record
-- of the last call that opened it could be written, and the other files are as they were.
theorem records_whole (recorder : Recorder) (tree : FileTree) (record : RunRecord) (moment : Moment)
    (calls : List Call) (place : Place) :
    (record.Writable → ∀ left fault, recorder.write tree record moment = (left, .error fault) →
      tree.SameFiles left) ∧
    (¬ record.Writable → recorder.Spoiled record moment tree (recorder.write tree record moment)) ∧
    match lastOpened recorder.directory tree calls place with
    | some call => (after recorder.directory tree calls).find? place = some (.file call.content) ∧
        (Json.Document call.content ↔ call.record.Writable)
    | none => ∀ content, (after recorder.directory tree calls).find? place = some (.file content) ↔
        tree.find? place = some (.file content) := by
  refine ⟨fun writable left fault => Recorder.write_untouched writable,
    fun long => Recorder.write_spoiled long tree, ?_⟩
  have files := file_after recorder.directory tree calls place
  cases last : lastOpened recorder.directory tree calls place with
  | some call =>
    rw [last] at files
    exact ⟨(files call.content).mpr rfl, document_content_iff call⟩
  | none =>
    rw [last] at files
    exact files

def occupied : FileTree := { entries := [(⟨.above 0, ["runs"]⟩, .file [])] }

def inDirectory (name : Text) : Recorder := ⟨.ofText name, "A"⟩

def overlong : RunRecord := .judged ⟨true, [], [], [], []⟩ (.text "x") "5.4.0" Numeral.bound

theorem overlong_long : ¬ overlong.Writable :=
  Nat.not_lt.mpr (Int.natAbs_natCast Numeral.bound).ge

theorem occupied_untouched :
    (∃ left fault, (inDirectory "runs").write occupied (Recorder.awkward "5.4.0") Recorder.leapDay =
      (left, .error fault) ∧ occupied.SameFiles left) ∧
    (inDirectory "runs").Spoiled overlong Recorder.leapDay .empty
      ((inDirectory "runs").write .empty overlong Recorder.leapDay) ∧
    (after (.ofText "runs") .empty [passedOn "x86_64" 0, passedOn "arm64" 7]).find?
        (placeOf (.ofText "runs") (passedOn "x86_64" 0)) = some (.file (passedOn "arm64" 7).content) ∧
      Json.Document (passedOn "arm64" 7).content := by
  obtain ⟨untouched, -, -⟩ := records_whole (inDirectory "runs") occupied (Recorder.awkward "5.4.0")
    Recorder.leapDay [] (placeOf (.ofText "runs") (passedOn "x86_64" 0))
  obtain ⟨-, spoiled, last⟩ := records_whole (inDirectory "runs") .empty overlong Recorder.leapDay
    [passedOn "x86_64" 0, passedOn "arm64" 7] (placeOf (.ofText "runs") (passedOn "x86_64" 0))
  refine ⟨?_, spoiled overlong_long, ?_⟩
  · have failed : ((inDirectory "runs").write occupied (Recorder.awkward "5.4.0") Recorder.leapDay).2.isOk =
        false := by decide +kernel
    cases outcome : (inDirectory "runs").write occupied (Recorder.awkward "5.4.0") Recorder.leapDay with
    | mk left answer =>
      cases answer with
      | ok path =>
        rw [outcome] at failed
        cases failed
      | error fault =>
        exact ⟨left, fault, rfl, untouched (Numeral.lt_bound (by decide)) _ _ outcome⟩
  · simp only [lastOpened] at last
    rw [if_pos (by decide +kernel)] at last
    exact ⟨last.1, last.2.mpr (Numeral.lt_bound (by decide))⟩

theorem overlong_spoils : ¬ ∀ (recorder : Recorder) (tree left : FileTree) (verdict : Verdict)
    (arch release : Text) (code : Int) (moment : Moment) (fault : RecordFault),
    recorder.write tree (.judged verdict (.text arch) release code) moment = (left, .error fault) →
    tree.SameFiles left := by
  intro every
  have spoiled := @Recorder.write_spoiled (inDirectory []) overlong Recorder.leapDay overlong_long .empty
  cases outcome : (inDirectory []).write .empty overlong Recorder.leapDay with
  | mk left answer =>
    rw [outcome] at spoiled
    cases spoiled with
    | untouched =>
      exact Recorder.write_opened rfl (by decide +kernel) (by decide +kernel) _ outcome
    | cut held =>
      have before := (every _ _ _ _ _ _ _ _ _ outcome _ _).mp held
      unfold FileTree.find? at before
      split at before <;> cases before

end Session

end ProbeCheck
