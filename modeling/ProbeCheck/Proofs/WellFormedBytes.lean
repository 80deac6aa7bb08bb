import ProbeCheck.Utf8
import Mathlib.Data.List.Infix

namespace ProbeCheck.Utf8

abbrev Trailing (byte : UInt8) : Prop := 0x80 ≤ byte.toNat ∧ byte.toNat ≤ 0xBF

-- Only the second byte has ranges that depend on the first.
inductive WellFormed : Bytes → Nat → Prop
  | one {byte : UInt8} (ascii : byte.toNat < 0x80) : WellFormed [byte] byte.toNat
  | two {lead second : UInt8} {code : Nat} (opening : 0xC2 ≤ lead.toNat ∧ lead.toNat < 0xE0)
      (next : Trailing second)
      (payload : code = lead.toNat % 0x20 * 0x40 + second.toNat % 0x40) :
      WellFormed [lead, second] code
  | three {lead second third : UInt8} {code : Nat}
      (opening : 0xE0 ≤ lead.toNat ∧ lead.toNat < 0xF0) (next : Trailing second)
      (shortest : lead.toNat = 0xE0 → 0xA0 ≤ second.toNat)
      (noSurrogate : lead.toNat = 0xED → second.toNat ≤ 0x9F) (last : Trailing third)
      (payload : code =
        (lead.toNat % 0x10 * 0x40 + second.toNat % 0x40) * 0x40 + third.toNat % 0x40) :
      WellFormed [lead, second, third] code
  | four {lead second third fourth : UInt8} {code : Nat}
      (opening : 0xF0 ≤ lead.toNat ∧ lead.toNat < 0xF5) (next : Trailing second)
      (shortest : lead.toNat = 0xF0 → 0x90 ≤ second.toNat)
      (bounded : lead.toNat = 0xF4 → second.toNat ≤ 0x8F) (later : Trailing third)
      (last : Trailing fourth)
      (payload : code =
        ((lead.toNat % 0x08 * 0x40 + second.toNat % 0x40) * 0x40 + third.toNat % 0x40) * 0x40 +
          fourth.toNat % 0x40) :
      WellFormed [lead, second, third, fourth] code

theorem wellFormed_encodeChar (c : Char) : WellFormed (String.utf8EncodeChar c) c.toNat := by
  have valid : c.toNat < 0xD800 ∨ 0xDFFF < c.toNat ∧ c.toNat < 0x110000 := c.valid
  unfold String.utf8EncodeChar
  simp only [show c.val.toNat = c.toNat from rfl]
  generalize c.toNat = code at valid ⊢
  split
  · have byte : (UInt8.ofNat code).toNat = code := by rw [UInt8.toNat_ofNat']; omega
    have ascii : WellFormed [UInt8.ofNat code] _ := .one (by omega)
    rwa [byte] at ascii
  · split
    · refine .two ?_ ?_ ?_ <;> simp only [Trailing, UInt8.toNat_ofNat'] <;> omega
    · split
      · refine .three ?_ ?_ ?_ ?_ ?_ ?_ <;> simp only [Trailing, UInt8.toNat_ofNat'] <;> omega
      · refine .four ?_ ?_ ?_ ?_ ?_ ?_ ?_ <;> simp only [Trailing, UInt8.toNat_ofNat'] <;> omega

theorem wellFormed_valid {bytes : Bytes} {code : Nat} (given : WellFormed bytes code) :
    code.isValidChar := by
  unfold Nat.isValidChar
  cases given with
  | one ascii => omega
  | two opening next payload => omega
  | three opening next shortest noSurrogate last payload => omega
  | four opening next shortest bounded later last payload => omega

theorem ofNat_eq {n : Nat} {byte : UInt8} (value : n = byte.toNat) : UInt8.ofNat n = byte := by
  rw [value, UInt8.ofNat_toNat]

theorem toNat_ofNat {code : Nat} (valid : code.isValidChar) : (Char.ofNat code).toNat = code := by
  unfold Char.ofNat
  rw [dif_pos valid]
  rfl

theorem encodeChar_of_wellFormed {bytes : Bytes} {code : Nat} (given : WellFormed bytes code) :
    String.utf8EncodeChar (Char.ofNat code) = bytes := by
  have value : (Char.ofNat code).val.toNat = code := toNat_ofNat (wellFormed_valid given)
  unfold String.utf8EncodeChar
  rw [value]
  cases given with
  | one ascii => rw [if_pos (by omega), ofNat_eq rfl]
  | two opening next payload =>
    rw [if_neg (by omega), if_pos (by omega)]
    simp only [List.cons.injEq, and_true]
    exact ⟨ofNat_eq (by omega), ofNat_eq (by omega)⟩
  | three opening next shortest noSurrogate last payload =>
    rw [if_neg (by omega), if_neg (by omega), if_pos (by omega)]
    simp only [List.cons.injEq, and_true]
    exact ⟨ofNat_eq (by omega), ofNat_eq (by omega), ofNat_eq (by omega)⟩
  | four opening next shortest bounded later last payload =>
    rw [if_neg (by omega), if_neg (by omega), if_neg (by omega)]
    simp only [List.cons.injEq, and_true]
    exact ⟨ofNat_eq (by omega), ofNat_eq (by omega), ofNat_eq (by omega), ofNat_eq (by omega)⟩

theorem wellFormed_length {lead : UInt8} {rest others : Bytes} {code other : Nat}
    (first : WellFormed (lead :: rest) code) (second : WellFormed (lead :: others) other) :
    rest.length = others.length := by
  cases first <;> cases second <;> first | rfl | omega

theorem wellFormed_code {bytes : Bytes} {code other : Nat} (first : WellFormed bytes code)
    (second : WellFormed bytes other) : code = other := by
  cases first <;> cases second <;> omega

theorem wellFormed_trailing {lead : UInt8} {rest : Bytes} {code : Nat}
    (given : WellFormed (lead :: rest) code) : ∀ byte ∈ rest, Trailing byte := by
  cases given with
  | one ascii => simp
  | two opening next payload => simpa using next
  | three opening next shortest noSurrogate last payload => simpa using ⟨next, last⟩
  | four opening next shortest bounded later last payload => simpa using ⟨next, later, last⟩

theorem encodeChar_begins {c d : Char}
    (start : String.utf8EncodeChar c <+: String.utf8EncodeChar d) : c = d := by
  have first := wellFormed_encodeChar c
  have second := wellFormed_encodeChar d
  obtain ⟨lead, rest, opened⟩ := List.exists_cons_of_ne_nil (String.utf8EncodeChar_ne_nil (c := c))
  obtain ⟨after, whole⟩ := start
  rw [opened] at first whole
  rw [← whole, List.cons_append] at second
  have sizes := wellFormed_length first second
  have closed : after = [] := List.eq_nil_of_length_eq_zero (by rw [List.length_append] at sizes; omega)
  rw [closed, List.append_nil] at second
  rw [← Char.ofNat_toNat c, ← Char.ofNat_toNat d, wellFormed_code first second]

theorem ascii_begins {before : Bytes} {byte : UInt8} {c : Char}
    (start : before ++ [byte] <+: String.utf8EncodeChar c) (ascii : byte.toNat < 0x80) :
    before = [] := by
  cases before with
  | nil => rfl
  | cons lead more =>
    obtain ⟨after, whole⟩ := start
    have given := wellFormed_encodeChar c
    rw [← whole] at given
    have trailing := wellFormed_trailing given byte (by simp)
    exact absurd trailing.1 (by omega)

theorem encodeChar_ascii {c : Char} (ascii : c.toNat < 0x80) :
    String.utf8EncodeChar c = [UInt8.ofNat c.toNat] := by
  have small : c.val.toNat ≤ 0x7f := Nat.le_of_lt_succ ascii
  unfold String.utf8EncodeChar
  exact if_pos small

end ProbeCheck.Utf8
