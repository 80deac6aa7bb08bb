import ProbeCheck.Proofs.LenientDecoding
import ProbeCheck.Proofs.LineEnds

namespace ProbeCheck.Utf8

namespace MaximalIllFormed
variable {bad rest : Bytes}

theorem shrink {before after : Bytes} (illFormed : MaximalIllFormed bad (before ++ after)) :
    MaximalIllFormed bad before := by
  have within : bad ++ before <+: bad ++ (before ++ after) := ⟨after, by simp⟩
  exact ⟨illFormed.filled, fun c start => illFormed.unreadable c (start.trans within),
    illFormed.part, fun longer c start => illFormed.longest longer c (start.trans within)⟩

theorem grow {byte : UInt8} (illFormed : MaximalIllFormed bad rest) (ascii : byte.toNat < 0x80)
    (after : Bytes) : MaximalIllFormed bad (rest ++ byte :: after) := by
  have within : ∀ longer c, longer <+: bad ++ (rest ++ byte :: after) →
      longer <+: String.utf8EncodeChar c → longer <+: bad ++ rest := by
    intro longer c start possible
    rw [← List.append_assoc] at start
    rcases prefix_seam start with inner | ⟨first, same, wider⟩
    · exact inner
    · cases same
      have empty := ascii_begins (wider.trans possible) ascii
      exact absurd (List.append_eq_nil_iff.mp empty).1 illFormed.filled
  exact ⟨illFormed.filled,
    fun c start => illFormed.unreadable c (within _ c start List.prefix_rfl), illFormed.part,
    fun longer c start possible => illFormed.longest longer c (within longer c start possible) possible⟩

end MaximalIllFormed

theorem Decodes.append_ascii {before after : Bytes} {text later : Text} {byte : UInt8}
    (first : Decodes before text) (ascii : byte.toNat < 0x80) (second : Decodes after later) :
    Decodes (before ++ byte :: after) (text ++ Char.ofNat byte.toNat :: later) := by
  induction first with
  | done =>
    have whole := Decodes.scalar (Char.ofNat byte.toNat) second
    rwa [encodeChar_of_wellFormed (.one ascii)] at whole
  | scalar c following ih =>
    rw [List.append_assoc]
    exact .scalar c ih
  | malformed illFormed following ih =>
    rw [List.append_assoc]
    exact .malformed (illFormed.grow ascii after) ih

theorem Decodes.split_ascii {bytes : Bytes} {text later : Text} {c : Char}
    (decoded : Decodes bytes (text ++ c :: later)) (ascii : c.toNat < 0x80) :
    ∃ before after, bytes = before ++ UInt8.ofNat c.toNat :: after ∧
      Decodes before text ∧ Decodes after later := by
  generalize whole : text ++ c :: later = shown at decoded
  induction decoded generalizing text with
  | done => simp at whole
  | @scalar rest others d following ih =>
    cases text with
    | nil =>
      cases whole
      exact ⟨[], rest, by rw [encodeChar_ascii ascii]; rfl, .done, following⟩
    | cons e text =>
      cases whole
      obtain ⟨before, after, rfl, first, second⟩ := ih rfl
      exact ⟨String.utf8EncodeChar d ++ before, after, by simp, .scalar d first, second⟩
  | @malformed bad rest others illFormed following ih =>
    cases text with
    | nil =>
      cases whole
      exact absurd ascii (by decide)
    | cons e text =>
      cases whole
      obtain ⟨before, after, rfl, first, second⟩ := ih rfl
      exact ⟨bad ++ before, after, by simp, .malformed illFormed.shrink first, second⟩

theorem Decodes.encode_eq {bytes : Bytes} {text : Text} (decoded : Decodes bytes text)
    (clean : '\ufffd' ∉ text) : encode text = bytes := by
  induction decoded with
  | done => rfl
  | scalar c following ih =>
    have rest := ih fun member => clean (List.mem_cons_of_mem c member)
    rw [← rest]
    rfl
  | malformed => exact absurd List.mem_cons_self clean

@[simp] theorem decodeLossy_nil : decodeLossy [] = [] := rfl

theorem decodeLossy_eq_nil_iff {bytes : Bytes} : decodeLossy bytes = [] ↔ bytes = [] := by
  constructor
  · intro empty
    rw [← (decodeLossy_eq_iff.mp empty).encode_eq List.not_mem_nil]
    rfl
  · rintro rfl
    exact decodeLossy_nil

theorem decodeLossy_append_ascii {byte : UInt8} (ascii : byte.toNat < 0x80) (before after : Bytes) :
    decodeLossy (before ++ byte :: after) =
      decodeLossy before ++ Char.ofNat byte.toNat :: decodeLossy after :=
  decodeLossy_eq_iff.mpr ((decodes before).append_ascii ascii (decodes after))

theorem exists_of_decodeLossy {bytes : Bytes} {text later : Text} {c : Char} (ascii : c.toNat < 0x80)
    (shown : decodeLossy bytes = text ++ c :: later) :
    ∃ before after, bytes = before ++ UInt8.ofNat c.toNat :: after ∧
      decodeLossy before = text ∧ decodeLossy after = later := by
  obtain ⟨before, after, equal, first, second⟩ := (decodeLossy_eq_iff.mp shown).split_ascii ascii
  exact ⟨before, after, equal, decodeLossy_eq_iff.mpr first, decodeLossy_eq_iff.mpr second⟩

def Ascii (word : Text) : Prop := ∀ c ∈ word, c.toNat < 0x80

theorem ascii_of_all {word : Text} (all : (word.all fun c => c.toNat < 0x80) = true) : Ascii word :=
  fun c member => of_decide_eq_true (List.all_eq_true.mp all c member)

theorem encode_cons (c : Char) (text : Text) :
    encode (c :: text) = String.utf8EncodeChar c ++ encode text := rfl

section
variable {word : Text} (filled : word ≠ []) (ascii : Ascii word)
include filled ascii

theorem decodeLossy_append_word (before after : Bytes) :
    decodeLossy (before ++ encode word ++ after) =
      decodeLossy before ++ word ++ decodeLossy after := by
  induction word generalizing before with
  | nil => contradiction
  | cons c word ih =>
    have small : c.toNat < 0x80 := ascii c List.mem_cons_self
    have byte : (UInt8.ofNat c.toNat).toNat = c.toNat := by rw [UInt8.toNat_ofNat']; omega
    have cut := decodeLossy_append_ascii (byte.trans_lt small) before (encode word ++ after)
    rw [byte, Char.ofNat_toNat] at cut
    rw [encode_cons, encodeChar_ascii small]
    simp only [List.append_assoc, List.cons_append, List.nil_append]
    rw [cut]
    cases word with
    | nil => rfl
    | cons d word =>
      have rest := ih (by simp) (fun e member => ascii e (List.mem_cons_of_mem c member)) []
      simpa using rest

theorem exists_of_decodeLossy_word {bytes : Bytes} {text later : Text}
    (shown : decodeLossy bytes = text ++ word ++ later) :
    ∃ before after, bytes = before ++ encode word ++ after ∧
      decodeLossy before = text ∧ decodeLossy after = later := by
  induction word generalizing bytes text with
  | nil => contradiction
  | cons c word ih =>
    have small : c.toNat < 0x80 := ascii c List.mem_cons_self
    rw [List.append_assoc, List.cons_append] at shown
    obtain ⟨before, after, rfl, first, second⟩ := exists_of_decodeLossy small shown
    cases word with
    | nil => exact ⟨before, after, by simp [encode, encodeChar_ascii small], first, second⟩
    | cons d word =>
      have opened : decodeLossy after = [] ++ d :: word ++ later := second
      obtain ⟨between, rest, rfl, empty, last⟩ := ih (by simp)
        (fun e member => ascii e (List.mem_cons_of_mem c member)) opened
      rw [decodeLossy_eq_nil_iff] at empty
      subst empty
      exact ⟨before, rest, by rw [encode_cons c, encodeChar_ascii small]; simp, first, last⟩

theorem encode_infix_iff {bytes : Bytes} : encode word <:+: bytes ↔ word <:+: decodeLossy bytes := by
  constructor
  · rintro ⟨before, after, rfl⟩
    exact ⟨decodeLossy before, decodeLossy after, (decodeLossy_append_word filled ascii _ _).symm⟩
  · rintro ⟨text, later, shown⟩
    obtain ⟨before, after, rfl, -⟩ := exists_of_decodeLossy_word filled ascii shown.symm
    exact ⟨before, after, rfl⟩

end

def isBreakByte (byte : UInt8) : Bool := byte == 0x0A || byte == 0x0D

theorem isBreakByte_ascii {byte : UInt8} (broken : isBreakByte byte = true) :
    byte.toNat < 0x80 ∧ Text.isLineBreak (Char.ofNat byte.toNat) = true := by
  simp only [isBreakByte, Bool.or_eq_true, beq_iff_eq] at broken
  rcases broken with rfl | rfl <;> decide

theorem isLineBreak_ascii {c : Char} (broken : Text.isLineBreak c = true) :
    c.toNat < 0x80 ∧ isBreakByte (UInt8.ofNat c.toNat) = true := by
  simp only [Text.isLineBreak, Bool.or_eq_true, beq_iff_eq] at broken
  rcases broken with rfl | rfl <;> decide

theorem splitOnP_decodeLossy (bytes : Bytes) :
    (decodeLossy bytes).splitOnP Text.isLineBreak =
      (bytes.splitOnP isBreakByte).map decodeLossy := by
  by_cases present : ∃ byte ∈ bytes, isBreakByte byte = true
  · obtain ⟨byte, member, broken⟩ := present
    obtain ⟨before, after, equal⟩ := List.append_of_mem member
    have total : bytes.length = before.length + (after.length + 1) := by simp [equal]
    obtain ⟨ascii, shown⟩ := isBreakByte_ascii broken
    rw [equal, decodeLossy_append_ascii ascii, List.splitOnP_append_cons _ _ shown,
      List.splitOnP_append_cons _ _ broken, List.map_append, splitOnP_decodeLossy before,
      splitOnP_decodeLossy after]
  · have unbroken : ∀ byte ∈ bytes, isBreakByte byte = false := by
      intro byte member
      exact Bool.eq_false_iff.mpr fun broken => present ⟨byte, member, broken⟩
    have unbrokenText : ∀ c ∈ decodeLossy bytes, Text.isLineBreak c = false := by
      intro c member
      refine Bool.eq_false_iff.mpr fun broken => ?_
      obtain ⟨text, later, shown⟩ := List.append_of_mem member
      obtain ⟨ascii, byteBroken⟩ := isLineBreak_ascii broken
      obtain ⟨before, after, rfl, -⟩ := exists_of_decodeLossy ascii shown
      exact present ⟨_, by simp, byteBroken⟩
    rw [List.splitOnP_eq_singleton unbroken, List.splitOnP_eq_singleton unbrokenText]
    rfl
termination_by bytes.length

end ProbeCheck.Utf8
