import Mathlib.Data.List.Basic
import ProbeCheck.Proofs.TreeGrowth
import ProbeCheck.Proofs.WrittenReleases

namespace ProbeCheck

namespace Numeral

theorem padded_length {width n : Nat} (positive : 0 < width) (short : n < Nat.pow 10 width) :
    (padded width n).length = width := by
  have digits_le := (digits_length_le n positive).mpr short
  rw [padded, List.length_append, List.length_replicate]
  omega

theorem value_padded (width n : Nat) : value (padded width n) = n := by
  rw [value, padded, Nat.ofDigitChars_append, Nat.ofDigitChars_replicate_zero, Nat.mul_zero]
  exact value_digits n

theorem mem_padded {c : Char} {width n : Nat} (member : c ∈ padded width n) : c.isDigit = true := by
  rcases List.mem_append.mp member with zero | digit
  · rw [List.eq_of_mem_replicate zero]
    rfl
  · exact KernelRelease.digits_isDigit digit

end Numeral

namespace Moment
open Numeral

structure Valid (moment : Moment) : Prop where
  year : 1 ≤ moment.year ∧ moment.year ≤ 9999
  month : 1 ≤ moment.month ∧ moment.month ≤ 12
  day : 1 ≤ moment.day ∧ moment.day ≤ 31
  hour : moment.hour < 24
  minute : moment.minute < 60
  second : moment.second < 60
  microsecond : moment.microsecond < 1000000

def inSecond (moment : Moment) : Moment := { moment with microsecond := 0 }

theorem mem_stamp {c : Char} {moment : Moment} (member : c ∈ moment.stamp) :
    c.isDigit = true ∨ c = 'T' ∨ c = 'Z' := by
  simp only [stamp, dayStamp, List.mem_append, List.mem_cons, List.not_mem_nil, or_false] at member
  rcases member with ((((((digit | digit) | digit) | rfl | digit) | digit) | digit) | rfl)
  · exact .inl (KernelRelease.digits_isDigit digit)
  · exact .inl (mem_padded digit)
  · exact .inl (mem_padded digit)
  · exact .inr (.inl rfl)
  · exact .inl (mem_padded digit)
  · exact .inl (mem_padded digit)
  · exact .inl (mem_padded digit)
  · exact .inr (.inr rfl)

theorem stamp_inSecond (moment : Moment) : moment.inSecond.stamp = moment.stamp := rfl

theorem stamp_eq_iff {one two : Moment} (first : one.Valid) (second : two.Valid) :
    one.stamp = two.stamp ↔ one.inSecond = two.inSecond := by
  refine ⟨fun same => ?_, fun same => by rw [← stamp_inSecond, same, stamp_inSecond]⟩
  have wide : ∀ {n : Nat}, n < 100 → (padded 2 n).length = 2 :=
    fun small => padded_length (by decide) small
  have back : ∀ {m n : Nat}, padded 2 m = padded 2 n → m = n := by
    intro m n equal
    rw [← value_padded 2 m, equal, value_padded]
  have oneMonth := first.month
  have twoMonth := second.month
  have oneDay := first.day
  have twoDay := second.day
  have oneHour := first.hour
  have twoHour := second.hour
  have oneMinute := first.minute
  have twoMinute := second.minute
  have oneSecond := first.second
  have twoSecond := second.second
  -- Only the year has no fixed width, and it stands first, so the stamps are taken apart from their ends.
  simp only [stamp, dayStamp] at same
  obtain ⟨same, -⟩ := List.append_inj' same rfl
  obtain ⟨same, seconds⟩ := List.append_inj' same (by rw [wide (by omega), wide (by omega)])
  obtain ⟨same, minutes⟩ := List.append_inj' same (by rw [wide (by omega), wide (by omega)])
  obtain ⟨same, hours⟩ := List.append_inj' same
    (by rw [List.length_cons, List.length_cons, wide (by omega), wide (by omega)])
  obtain ⟨same, days⟩ := List.append_inj' same (by rw [wide (by omega), wide (by omega)])
  obtain ⟨years, months⟩ := List.append_inj' same (by rw [wide (by omega), wide (by omega)])
  have year : one.year = two.year := by rw [← value_digits one.year, years, value_digits]
  simp only [inSecond, year, back months, back days, back (List.cons.inj hours).2, back minutes,
    back seconds]

end Moment

namespace Text

theorem append_mark_inj {mark : Char} {before after others rest : Text} (clean : mark ∉ after)
    (bare : mark ∉ rest) (same : before ++ mark :: after = others ++ mark :: rest) :
    before = others ∧ after = rest := by
  rcases List.append_eq_append_iff.mp same with ⟨between, rfl, tail⟩ | ⟨between, rfl, tail⟩
  · cases between with
    | nil => exact ⟨by simp, (List.cons.inj tail).2⟩
    | cons c between => exact absurd (by rw [(List.cons.inj tail).2]; simp) clean
  · cases between with
    | nil => exact ⟨by simp, (List.cons.inj tail).2.symm⟩
    | cons c between => exact absurd (by rw [(List.cons.inj tail).2]; simp) bare

end Text

theorem RunRecord.label_plain (record : RunRecord) : '_' ∉ record.label ∧ '/' ∉ record.label := by
  unfold label
  cases record with
  | judged verdict =>
    dsimp only
    split <;> simp
  | failed => simp

theorem Moment.stamp_plain (moment : Moment) : '_' ∉ moment.stamp ∧ '/' ∉ moment.stamp := by
  constructor
  · intro member
    exact absurd (Moment.mem_stamp member) (by decide)
  · intro member
    exact absurd (Moment.mem_stamp member) (by decide)

namespace Path

theorem rootOf_relative {text : Text} (relative : text.head? ≠ some '/') : rootOf text = .none := by
  unfold rootOf
  split
  · exact absurd rfl relative
  · exact absurd rfl relative
  · exact absurd rfl relative
  · rfl

theorem ofText_name {name : Text} (slashless : '/' ∉ name) (filled : name ≠ []) (undotted : name ≠ ['.']) :
    ofText name = ⟨.none, [name]⟩ := by
  have relative : name.head? ≠ some '/' := fun first => slashless (List.mem_of_head? first)
  rw [ofText, rootOf_relative relative, List.splitOn_eq_singleton slashless]
  simp [filled, undotted]

theorem place_append (root : Root) (outer : List Text) (name : Text) :
    (Path.mk root (outer ++ [name])).place = (Path.mk root outer).place.enter name := by
  rw [place, List.foldl_append]
  rfl

theorem place_straight {parts : List Text} (straight : ['.', '.'] ∉ parts) :
    (Path.mk .none parts).place = ⟨.above 0, parts.reverse⟩ := by
  induction parts using List.reverseRecOn with
  | nil => rfl
  | append_singleton outer name ih =>
    simp only [List.mem_append, List.mem_singleton, not_or] at straight
    rw [place_append, ih straight.1, Place.enter, if_neg (Ne.symm straight.2), Place.child]
    simp

theorem LeadsThrough.depth_le {parts : List Text} {place : Place} (straight : ['.', '.'] ∉ parts)
    (leads : (Path.mk .none parts).LeadsThrough place) : place.names.length ≤ parts.length := by
  obtain ⟨outer, shorter, rfl⟩ := leads
  rw [place_straight fun member => straight (shorter.subset member), List.length_reverse]
  exact shorter.length_le

end Path

namespace Recorder

theorem fileName_eq_iff {one two : Recorder} {first second : RunRecord} {early late : Moment}
    (valid : early.Valid) (lateValid : late.Valid) :
    one.fileName first early = two.fileName second late ↔
      one.runId = two.runId ∧ first.label = second.label ∧ early.inSecond = late.inSecond := by
  rw [← Moment.stamp_eq_iff valid lateValid]
  constructor
  · intro same
    obtain ⟨same, -⟩ := List.append_inj' same rfl
    obtain ⟨same, stamps⟩ := Text.append_mark_inj early.stamp_plain.1 late.stamp_plain.1 same
    obtain ⟨ids, labels⟩ := Text.append_mark_inj first.label_plain.1 second.label_plain.1 same
    exact ⟨ids, labels, stamps⟩
  · rintro ⟨ids, labels, stamps⟩
    rw [fileName, fileName, ids, labels, stamps]

variable {recorder : Recorder} (slashless : '/' ∉ recorder.runId) (record : RunRecord) (moment : Moment)
include slashless

theorem fileName_slashless : '/' ∉ recorder.fileName record moment := by
  have label := record.label_plain.2
  have stamp := moment.stamp_plain.2
  simp [fileName, slashless, label, stamp]

omit slashless in
theorem fileName_ne (other : Text) (short : other.length ≤ 2) : recorder.fileName record moment ≠ other := by
  intro equal
  have length := congrArg List.length equal
  simp only [fileName, List.length_append, List.length_cons, Text.ofString_eq] at length
  have ending : (".json".toList).length = 5 := by decide
  omega

theorem path_eq : recorder.path record moment =
    ⟨recorder.directory.root, recorder.directory.parts ++ [recorder.fileName record moment]⟩ := by
  rw [path, Path.ofText_name (fileName_slashless slashless record moment)
    (fileName_ne record moment [] (by decide)) (fileName_ne record moment ['.'] (by decide)), Path.append,
    if_pos rfl]

theorem path_place : (recorder.path record moment).place =
    recorder.directory.place.child (recorder.fileName record moment) := by
  rw [path_eq slashless, Path.place_append, Place.enter,
    if_neg (fileName_ne record moment ['.', '.'] (by decide))]

end Recorder
end ProbeCheck
