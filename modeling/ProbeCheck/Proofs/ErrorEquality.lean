import Mathlib.Data.List.Forall2
import ProbeCheck.CheckError
import ProbeCheck.Proofs.DatumLiterals
import ProbeCheck.Proofs.Lookups

namespace ProbeCheck

namespace Datum

def Within (entries others : List (Text × Datum)) : Prop :=
  ∀ entry ∈ entries, ∃ value, others.lookup entry.1 = some value ∧ same entry.2 value = true

def SameItems : List Datum → List Datum → Prop := List.Forall₂ fun item other => same item other = true

theorem sameItems_iff {items others : List Datum} :
    sameItems items others = true ↔ SameItems items others := by
  unfold SameItems
  induction items generalizing others with
  | nil => cases others <;> simp [sameItems]
  | cons item items ih => cases others <;> simp [sameItems, ih]

theorem sameEntries_iff {entries others : List (Text × Datum)} :
    sameEntries entries others = true ↔ Within entries others := by
  induction entries with
  | nil => simp [sameEntries, Within]
  | cons entry entries ih =>
    obtain ⟨key, value⟩ := entry
    rw [sameEntries, Bool.and_eq_true, ih, Within, Within, List.forall_mem_cons]
    cases others.lookup key <;> simp

def Alike (datum other : Datum) : Prop :=
  match datum with
  | .truth value => other.integer? = some (if value then 1 else 0)
  | .integer value => other.integer? = some value
  | .list items => ∃ others, other = .list others ∧ SameItems items others
  | .dict entries => ∃ others, other = .dict others ∧ entries.length = others.length ∧ Within entries others
  | datum => datum = other

theorem same_iff {datum other : Datum} : same datum other = true ↔ Alike datum other := by
  cases datum <;> cases other <;> simp [same, Alike, sameItems_iff, sameEntries_iff]

theorem alike_number {datum other : Datum} {n : Int} (number : datum.integer? = some n) :
    Alike datum other ↔ other.integer? = some n := by
  cases datum <;> cases number <;> exact Iff.rfl

theorem Plain.same_refl {datum : Datum} (plain : datum.Plain) : same datum datum = true := by
  induction plain with
  | list each ih => exact same_iff.mpr ⟨_, rfl, List.forall₂_same.mpr ih⟩
  | dict distinct each ih =>
    refine same_iff.mpr ⟨_, rfl, rfl, fun entry member => ?_⟩
    exact ⟨entry.2, (lookup_eq_some_iff_mem distinct).mpr member, ih entry member⟩
  | _ => exact same_iff.mpr rfl

theorem SameItems.symm {items others : List Datum} (alike : SameItems items others)
    (back : ∀ item ∈ items, ∀ other ∈ others, same item other = true → same other item = true) :
    SameItems others items := by
  induction alike with
  | nil => exact .nil
  | cons head tail ih =>
    refine .cons (back _ List.mem_cons_self _ List.mem_cons_self head) (ih fun item inside other among => ?_)
    exact back item (List.mem_cons_of_mem _ inside) other (List.mem_cons_of_mem _ among)

theorem Within.symm {entries others : List (Text × Datum)} (distinct : (entries.map Prod.fst).Nodup)
    (otherDistinct : (others.map Prod.fst).Nodup) (length : entries.length = others.length)
    (within : Within entries others)
    (back : ∀ entry ∈ entries, ∀ other ∈ others, same entry.2 other.2 = true → same other.2 entry.2 = true) :
    Within others entries := by
  -- As many keys in both, and no key twice: the keys are the same.
  have keys : entries.map Prod.fst ⊆ others.map Prod.fst := by
    intro key member
    obtain ⟨entry, inside, rfl⟩ := List.mem_map.mp member
    obtain ⟨value, found, -⟩ := within entry inside
    exact List.mem_map.mpr ⟨_, mem_of_lookup found, rfl⟩
  have perm : (entries.map Prod.fst).Perm (others.map Prod.fst) :=
    (List.subperm_of_subset distinct keys).perm_of_length_le (by simp [length])
  rintro ⟨key, value⟩ among
  obtain ⟨⟨_, mine⟩, inside, rfl⟩ := List.mem_map.mp (perm.mem_iff.mpr (List.mem_map_of_mem among))
  obtain ⟨found, lookup, equal⟩ := within _ inside
  have unique : found = value := by
    rw [(lookup_eq_some_iff_mem otherDistinct).mpr among] at lookup
    exact (Option.some.inj lookup).symm
  subst unique
  exact ⟨mine, (lookup_eq_some_iff_mem distinct).mpr inside, back _ inside _ among equal⟩

theorem Plain.same_symm {datum other : Datum} (plain : datum.Plain) (otherPlain : other.Plain)
    (equal : same datum other = true) : same other datum = true := by
  induction plain generalizing other with
  | truth value => exact same_iff.mpr ((alike_number (same_iff.mp equal)).mpr rfl)
  | integer short => exact same_iff.mpr ((alike_number (same_iff.mp equal)).mpr rfl)
  | list each ih =>
    obtain ⟨others, rfl, items⟩ := same_iff.mp equal
    cases otherPlain with
    | list otherEach =>
      have back := items.symm fun item inside other among => ih item inside (otherEach other among)
      exact same_iff.mpr ⟨_, rfl, back⟩
  | dict distinct each ih =>
    obtain ⟨others, rfl, length, within⟩ := same_iff.mp equal
    cases otherPlain with
    | dict otherDistinct otherEach =>
      have back := within.symm distinct otherDistinct length
        fun entry inside other among => ih entry inside (otherEach other among)
      exact same_iff.mpr ⟨_, rfl, length.symm, back⟩
  | _ =>
    obtain rfl := same_iff.mp equal
    exact equal

theorem SameItems.trans {items others thirds : List Datum} (first : SameItems items others)
    (second : SameItems others thirds) (through : ∀ item ∈ items, ∀ other third,
      same item other = true → same other third = true → same item third = true) :
    SameItems items thirds := by
  induction first generalizing thirds with
  | nil => cases second; exact .nil
  | cons head tail ih =>
    cases second with
    | cons next rest =>
      refine .cons (through _ List.mem_cons_self _ _ head next) (ih rest fun item inside => ?_)
      exact through item (List.mem_cons_of_mem _ inside)

theorem Within.trans {entries others thirds : List (Text × Datum)} (first : Within entries others)
    (second : Within others thirds) (through : ∀ entry ∈ entries, ∀ other third,
      same entry.2 other = true → same other third = true → same entry.2 third = true) :
    Within entries thirds := by
  intro entry inside
  obtain ⟨value, found, equal⟩ := first entry inside
  obtain ⟨last, further, next⟩ := second (entry.1, value) (mem_of_lookup found)
  exact ⟨last, further, through entry inside value last equal next⟩

theorem Plain.same_trans {datum other third : Datum} (plain : datum.Plain)
    (equal : same datum other = true) (next : same other third = true) : same datum third = true := by
  induction plain generalizing other third with
  | truth value => exact same_iff.mpr ((alike_number (same_iff.mp equal)).mp (same_iff.mp next))
  | integer short => exact same_iff.mpr ((alike_number (same_iff.mp equal)).mp (same_iff.mp next))
  | list each ih =>
    obtain ⟨others, rfl, items⟩ := same_iff.mp equal
    obtain ⟨thirds, rfl, further⟩ := same_iff.mp next
    exact same_iff.mpr ⟨_, rfl, items.trans further fun item inside _ _ => ih item inside⟩
  | dict distinct each ih =>
    obtain ⟨others, rfl, length, within⟩ := same_iff.mp equal
    obtain ⟨thirds, rfl, otherLength, further⟩ := same_iff.mp next
    refine same_iff.mpr ⟨_, rfl, length.trans otherLength, ?_⟩
    exact within.trans further fun entry inside _ _ => ih entry inside
  | _ =>
    obtain rfl := same_iff.mp equal
    exact next

end Datum

theorem ReleaseError.message_unique {left right : ReleaseError} (plain : left.raw.Plain)
    (otherPlain : right.raw.Plain) (same : left.message = right.message) :
    left.raw = right.raw ∧ left.reason = right.reason := by
  -- The literal stands between fixed words, and what follows it cannot be mistaken for a part of it.
  have written {error : ReleaseError} (plain : error.raw.Plain) : error.literal = error.raw.written :=
    Except.ok.inj (error.literal_eq.symm.trans plain.literal?)
  have ends (after : Text) : Datum.Ends (" is not a dotted numeric major.minor.patch triple: " ++ after) := by
    rw [Text.ofString_eq]
    intro c first
    cases first
    exact .inr (.inl rfl)
  unfold message at same
  simp only [List.append_assoc, written plain, written otherPlain] at same
  obtain ⟨raws, tail⟩ := plain.unique (ends _) (ends _) (List.append_cancel_left same)
  exact ⟨raws, List.append_cancel_right (List.append_cancel_left tail)⟩

namespace CheckError

def Plain (error : CheckError) : Prop := error.value.Plain

theorem beq_iff {left right : CheckError} : (left == right) = true ↔ left.className = right.className ∧
    left.field = right.field ∧ left.value.same right.value = true ∧ left.message = right.message := by
  change left.same right = true ↔ _
  simp [same, and_assoc]

theorem beq_refl {error : CheckError} (plain : error.Plain) : (error == error) = true :=
  beq_iff.mpr ⟨rfl, rfl, plain.same_refl, rfl⟩

theorem beq_symm {left right : CheckError} (plain : left.Plain) (otherPlain : right.Plain)
    (equal : (left == right) = true) : (right == left) = true := by
  obtain ⟨className, field, value, message⟩ := beq_iff.mp equal
  exact beq_iff.mpr ⟨className.symm, field.symm, plain.same_symm otherPlain value, message.symm⟩

theorem beq_trans {left middle right : CheckError} (plain : left.Plain) (equal : (left == middle) = true)
    (next : (middle == right) = true) : (left == right) = true := by
  obtain ⟨className, field, value, message⟩ := beq_iff.mp equal
  obtain ⟨nextName, nextField, nextValue, nextMessage⟩ := beq_iff.mp next
  exact beq_iff.mpr ⟨className.trans nextName, field.trans nextField, plain.same_trans value nextValue,
    message.trans nextMessage⟩

theorem general_ne_release (message field : Text) (value : Datum) (filled : message ≠ [])
    (error : ReleaseError) :
    (general message field value filled == release error) = false ∧
      (release error == general message field value filled) = false := by
  have apart : className (general message field value filled) ≠ className (release error) := by
    simp [className]
  constructor
  · exact Bool.eq_false_iff.mpr fun equal => apart (beq_iff.mp equal).1
  · exact Bool.eq_false_iff.mpr fun equal => apart (beq_iff.mp equal).1.symm

theorem release?_plain {raw : Datum} (plain : raw.Plain) {reason : Text} (filled : reason ≠ []) :
    release? raw (.text reason) = .ok (.release ⟨raw, reason, raw.written, plain.literal?, filled⟩) := by
  unfold release?
  dsimp only
  rw [dif_neg filled]
  split
  · rename_i literal written
    obtain rfl := Except.ok.inj (written.symm.trans plain.literal?)
    rfl
  · rename_i fault unwritten
    rw [plain.literal?] at unwritten
    cases unwritten

theorem release_beq_iff {left right : ReleaseError} (plain : left.raw.Plain) (otherPlain : right.raw.Plain) :
    (release left == release right) = true ↔ left.literal = right.literal ∧ left.reason = right.reason := by
  constructor
  · intro equal
    obtain ⟨raws, reasons⟩ := ReleaseError.message_unique plain otherPlain (beq_iff.mp equal).2.2.2
    have literals := left.literal_eq
    rw [raws, right.literal_eq] at literals
    exact ⟨(Except.ok.inj literals).symm, reasons⟩
  · rintro ⟨literals, reasons⟩
    have messages : left.message = right.message := by
      unfold ReleaseError.message
      rw [literals, reasons]
    have values : left.raw.same right.raw = true := by
      rw [← (ReleaseError.message_unique plain otherPlain messages).1]
      exact plain.same_refl
    exact beq_iff.mpr ⟨rfl, rfl, values, messages⟩

-- Equality of errors is an equivalence that keeps the two classes apart. Errors about a release are equal
-- just where the literals and the reasons are: no two of them share a message, so values that are equal but
-- have different literals make different errors.
theorem errors_compared :
    (∀ error : CheckError, error.Plain → (error == error) = true) ∧
    (∀ left right : CheckError, left.Plain → right.Plain → (left == right) = true →
      (right == left) = true) ∧
    (∀ left middle right : CheckError, left.Plain → middle.Plain → right.Plain →
      (left == middle) = true → (middle == right) = true → (left == right) = true) ∧
    (∀ left right : CheckError, (left != right) = !(left == right)) ∧
    (∀ (message field : Text) (value : Datum) (filled : message ≠ []) (error : ReleaseError),
      (general message field value filled == release error) = false ∧
        (release error == general message field value filled) = false) ∧
    ∀ (raw other : Datum) (reason second : Text), raw.Plain → other.Plain → reason ≠ [] → second ≠ [] →
      ∃ left right : ReleaseError,
        release? raw (.text reason) = .ok (.release left) ∧
        release? other (.text second) = .ok (.release right) ∧
        raw.literal? = .ok left.literal ∧ other.literal? = .ok right.literal ∧
        ((release left == release right) = true ↔ left.literal = right.literal ∧ reason = second) ∧
        (left.message = right.message → raw = other ∧ reason = second) := by
  refine ⟨fun error => beq_refl, fun left right => beq_symm,
    fun left middle right plain _ _ => beq_trans plain, fun left right => rfl, general_ne_release,
    fun raw other reason second plain otherPlain filled otherFilled => ?_⟩
  refine ⟨_, _, release?_plain plain filled, release?_plain otherPlain otherFilled, plain.literal?,
    otherPlain.literal?, release_beq_iff plain otherPlain, ReleaseError.message_unique plain otherPlain⟩

def counted : Datum := .list [.integer 1, .dict [(['a'], .null), (['b'], .truth false)]]

def judged : Datum := .list [.truth true, .dict [(['b'], .integer 0), (['a'], .null)]]

theorem counted_plain : counted.Plain := by
  refine .list fun item member => ?_
  rcases List.mem_pair.mp member with rfl | rfl
  · exact .integer (by decide)
  · refine .dict (by decide) fun entry inside => ?_
    rcases List.mem_pair.mp inside with rfl | rfl
    · exact .null
    · exact .truth false

theorem judged_plain : judged.Plain := by
  refine .list fun item member => ?_
  rcases List.mem_pair.mp member with rfl | rfl
  · exact .truth true
  · refine .dict (by decide) fun entry inside => ?_
    rcases List.mem_pair.mp inside with rfl | rfl
    · exact .integer (by decide)
    · exact .null

def about (value : Datum) : CheckError := .general ['m'] [] value (by decide)

theorem counted_judged_apart :
    counted.Plain ∧ judged.Plain ∧ (about counted == about counted) = true ∧
      (about counted == about judged) = true ∧ (about judged == about counted) = true ∧
      ∃ left right : ReleaseError, release? counted (.text ['r']) = .ok (.release left) ∧
        release? judged (.text ['r']) = .ok (.release right) ∧
        (release left == release right) = false := by
  obtain ⟨-, symm, trans, -, -, releases⟩ := errors_compared
  have equal : (about counted == about judged) = true := by decide +kernel
  have back := symm (about counted) (about judged) counted_plain judged_plain equal
  have whole := trans (about counted) (about judged) (about counted) counted_plain judged_plain counted_plain
    equal back
  obtain ⟨left, right, built, other, literal, otherLiteral, told, -⟩ :=
    releases counted judged ['r'] ['r'] counted_plain judged_plain (by decide) (by decide)
  refine ⟨counted_plain, judged_plain, whole, equal, back, left, right, built, other, ?_⟩
  refine Bool.eq_false_iff.mpr fun alike => ?_
  have literals := (told.mp alike).1
  rw [counted_plain.literal?] at literal
  rw [judged_plain.literal?] at otherLiteral
  rw [← Except.ok.inj literal, ← Except.ok.inj otherLiteral] at literals
  exact absurd literals (by decide +kernel)

end CheckError
end ProbeCheck
