import ProbeCheck.Recorder

namespace ProbeCheck

namespace Numeral

def bound : Nat := Nat.pow 10 limit

theorem digits_length_le (n : Nat) {length : Nat} (positive : 0 < length) :
    (digits n).length ≤ length ↔ n < Nat.pow 10 length :=
  Nat.length_toDigits_le_iff (by decide) positive

theorem digits_length_le_iff (n : Nat) : (digits n).length ≤ limit ↔ n < bound := by
  unfold bound
  exact digits_length_le n (by decide)

theorem write?_ok {n : Int} (short : n.natAbs < bound) : write? n = .ok (signed n) := by
  have digits_le := (digits_length_le_iff n.natAbs).mpr short
  exact if_neg (by omega)

theorem write?_error {n : Int} (long : bound ≤ n.natAbs) : write? n = .error .tooLongToWrite := by
  have digits_iff := digits_length_le_iff n.natAbs
  exact if_pos (by omega)

theorem lt_bound {n : Nat} (small : n < 100000) : n < bound := by
  have fewer (length : Nat) (enough : 5 ≤ length) : Nat.pow 10 5 ≤ Nat.pow 10 length :=
    Nat.pow_le_pow_right (by decide) enough
  unfold bound
  exact Nat.lt_of_lt_of_le small (fewer limit (by decide))

end Numeral

namespace Json

def Value.Writable : Value → Prop
  | .number n => n.natAbs < Numeral.bound
  | _ => True

@[simp] theorem Value.text_writable (value : Text) : (text value).Writable := trivial

@[simp] theorem Value.texts_writable (values : List Text) : (texts values).Writable := trivial

theorem Value.draft_fault {value : Value} (writable : value.Writable) : value.draft.fault = none := by
  cases value with
  | text value => rfl
  | number n => simp [draft, Numeral.write?_ok writable, Draft.ofText]
  | texts values => cases values <;> rfl

theorem Draft.append_fault {before after : Draft} (first : before.fault = none)
    (second : after.fault = none) : (before ++ after).fault = none := by
  change (before.append after).fault = none
  unfold append
  rw [first]
  exact second

theorem members_fault {object : Object} (writable : ∀ field ∈ object, field.2.Writable)
    (lead : Text) : (members lead object).fault = none := by
  induction object generalizing lead with
  | nil => rfl
  | cons field rest ih =>
    have value := Value.draft_fault (writable field List.mem_cons_self)
    have later := ih (fun other member => writable other (List.mem_cons_of_mem _ member)) ",\n    "
    exact Draft.append_fault (Draft.append_fault rfl value) later

theorem draft_fault {object : Object} (writable : ∀ field ∈ object, field.2.Writable) :
    (draft object).fault = none :=
  Draft.append_fault (Draft.append_fault rfl (members_fault writable _)) rfl

end Json

theorem FailureType.exitCode_le (type : FailureType) : type.exitCode ≤ 4 := by
  cases type <;> decide

namespace RunRecord

def Writable : RunRecord → Prop
  | .judged _ _ _ code => code.natAbs < Numeral.bound
  | .failed .. => True

theorem fields_writable {record : RunRecord} (writable : record.Writable) (runId : Text)
    (moment : Moment) : ∀ field ∈ record.fields runId moment, field.2.Writable := by
  cases record with
  | judged verdict arch release code =>
    have given : (givenValue arch).Writable := by cases arch <;> trivial
    have code : (Json.Value.number code).Writable := writable
    simp [fields, given, code]
  | failed typeId detail =>
    have small : FailureType.exitCodeOf typeId ≤ 4 := FailureType.exitCode_le _
    have exitCode : (Json.Value.number (FailureType.exitCodeOf typeId)).Writable :=
      Numeral.lt_bound (by simp only [Int.natAbs_natCast]; omega)
    simp [fields, exitCode]

end RunRecord

theorem Recorder.draft_fault (recorder : Recorder) {record : RunRecord} (writable : record.Writable)
    (moment : Moment) : (recorder.draft record moment).fault = none :=
  Json.draft_fault (RunRecord.fields_writable writable _ _)

theorem Recorder.write_numeral {recorder : Recorder} {tree : FileTree} {record : RunRecord}
    (writable : record.Writable) (moment : Moment) (left : FileTree) (fault : Numeral.Fault) :
    recorder.write tree record moment ≠ (left, .error (.numeral fault)) := by
  intro written
  have whole := recorder.draft_fault writable moment
  unfold write at written
  split at written
  · cases written
  · dsimp only at written
    split at written
    · cases written
    · rw [whole] at written; cases written

end ProbeCheck
