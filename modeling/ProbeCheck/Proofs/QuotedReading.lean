import Mathlib.Data.List.Basic
import ProbeCheck.Proofs.WellFormedBytes
import ProbeCheck.Text.Quoted

namespace ProbeCheck.Text

theorem hex_length (width n : Nat) : (hex width n).length = width := by
  induction width generalizing n with
  | zero => rfl
  | succ width ih => simp [hex, ih]

theorem digitChar_inj : ∀ m < 16, ∀ n < 16, Nat.digitChar m = Nat.digitChar n → m = n := by decide

theorem hex_inj {width m n : Nat} (small : m < Nat.pow 16 width) (less : n < Nat.pow 16 width)
    (same : hex width m = hex width n) : m = n := by
  induction width generalizing m n with
  | zero =>
    change m < 1 at small
    change n < 1 at less
    omega
  | succ width ih =>
    change m < Nat.pow 16 width * 16 at small
    change n < Nat.pow 16 width * 16 at less
    obtain ⟨front, last⟩ := List.append_inj' same rfl
    have quotients := ih (Nat.div_lt_of_lt_mul (by omega)) (Nat.div_lt_of_lt_mul (by omega)) front
    have digits := digitChar_inj (m % 16) (Nat.mod_lt m (by decide)) (n % 16) (Nat.mod_lt n (by decide))
      (List.cons.inj last).1
    omega

def escapeWidth (letter : Char) : Nat :=
  if letter = 'x' then 2 else if letter = 'u' then 4 else if letter = 'U' then 8 else 0

def escapeMeaning (letter : Char) : Char :=
  if letter = 't' then '\t' else if letter = 'n' then '\n' else if letter = 'r' then '\r' else letter

structure Coded (c letter : Char) (form : Text) : Prop where
  form_eq : form = '\\' :: letter :: hex (escapeWidth letter) c.toNat
  meaning : escapeWidth letter = 0 → escapeMeaning letter = c
  small : 0 < escapeWidth letter → c.toNat < Nat.pow 16 (escapeWidth letter)

theorem escapeCode_coded (c : Char) : ∃ letter, Coded c letter (escapeCode c.toNat) := by
  unfold escapeCode
  split
  · rename_i small
    exact ⟨'x', rfl, by simp [escapeWidth], fun _ => small⟩
  split
  · rename_i small
    exact ⟨'u', rfl, by simp [escapeWidth], fun _ => small⟩
  · exact ⟨'U', rfl, by simp [escapeWidth], fun _ => c.val.toNat_lt⟩

section
variable {shown : Char → Bool} {mark : Char} (quote : mark = '\'' ∨ mark = '"')
include quote

theorem escape_cases (c : Char) :
    (escape shown mark c = [c] ∧ c ≠ '\\' ∧ c ≠ mark) ∨ ∃ letter, Coded c letter (escape shown mark c) := by
  unfold escape
  split
  · rename_i special
    have plain : escapeWidth c = 0 ∧ escapeMeaning c = c := by
      rcases special with rfl | rfl
      · decide
      · rcases quote with rfl | rfl <;> decide
    refine .inr ⟨c, ?_, fun _ => plain.2, fun wide => by omega⟩
    rw [plain.1]
    rfl
  rename_i ordinary
  rw [not_or] at ordinary
  split
  · rename_i equal
    exact .inr ⟨'t', rfl, fun _ => equal.symm, fun wide => by cases wide⟩
  split
  · rename_i equal
    exact .inr ⟨'n', rfl, fun _ => equal.symm, fun wide => by cases wide⟩
  split
  · rename_i equal
    exact .inr ⟨'r', rfl, fun _ => equal.symm, fun wide => by cases wide⟩
  split
  · exact .inl ⟨rfl, ordinary⟩
  · exact .inr (escapeCode_coded c)

theorem escape_unique {c d : Char} {after rest : Text}
    (same : escape shown mark c ++ after = escape shown mark d ++ rest) : c = d ∧ after = rest := by
  rcases @escape_cases shown mark quote c with ⟨first, plain, -⟩ | ⟨letter, first, meaning, small⟩ <;>
    rcases escape_cases quote d with ⟨second, other, -⟩ | ⟨next, second, meant, less⟩ <;>
    rw [first, second] at same
  · exact List.cons.inj same
  · exact absurd (List.cons.inj same).1 plain
  · exact absurd (List.cons.inj same).1.symm other
  · obtain ⟨rfl, tail⟩ := List.cons.inj (List.cons.inj same).2
    obtain ⟨digits, equal⟩ := List.append_inj tail (by rw [hex_length, hex_length])
    refine ⟨?_, equal⟩
    rcases Nat.eq_zero_or_pos (escapeWidth letter) with none | wide
    · rw [← meaning none, meant none]
    · exact Char.toNat_inj.mp (hex_inj (small wide) (less wide) digits)

theorem escape_open (c : Char) : ∃ first rest, escape shown mark c = first :: rest ∧ first ≠ mark := by
  have apart : '\\' ≠ mark := by rcases quote with rfl | rfl <;> decide
  rcases @escape_cases shown mark quote c with ⟨form, -, other⟩ | ⟨letter, form, -, -⟩
  · exact ⟨c, [], form, other⟩
  · exact ⟨'\\', _, form, apart⟩

theorem escapes_unique {text other after rest : Text}
    (same : text.flatMap (escape shown mark) ++ mark :: after =
      other.flatMap (escape shown mark) ++ mark :: rest) : text = other ∧ after = rest := by
  have unended (c : Char) (others more : Text) : mark :: more ≠ escape shown mark c ++ others := by
    obtain ⟨first, tail, form, apart⟩ := @escape_open shown mark quote c
    rw [form]
    exact fun equal => apart (List.cons.inj equal).1.symm
  induction text generalizing other with
  | nil =>
    cases other with
    | nil => exact ⟨rfl, (List.cons.inj same).2⟩
    | cons d others =>
      rw [List.flatMap_cons, List.append_assoc] at same
      exact absurd same (unended d _ _)
  | cons c text ih =>
    rw [List.flatMap_cons, List.append_assoc] at same
    cases other with
    | nil => exact absurd same.symm (unended c _ _)
    | cons d others =>
      rw [List.flatMap_cons, List.append_assoc] at same
      obtain ⟨rfl, tail⟩ := escape_unique quote same
      obtain ⟨rfl, equal⟩ := ih tail
      exact ⟨rfl, equal⟩

end

theorem quoteMark_cases (text : Text) : quoteMark text = '\'' ∨ quoteMark text = '"' := by
  unfold quoteMark
  split
  · exact .inr rfl
  · exact .inl rfl

theorem quotedWith_unique {shown : Char → Bool} {text other after rest : Text}
    (same : quotedWith shown text ++ after = quotedWith shown other ++ rest) : text = other ∧ after = rest := by
  simp only [quotedWith, List.cons_append, List.append_assoc, List.nil_append] at same
  obtain ⟨mark, tail⟩ := List.cons.inj same
  rw [← mark] at tail
  exact escapes_unique (quoteMark_cases text) tail

theorem quoted_unique {text other after rest : Text} (same : quoted text ++ after = quoted other ++ rest) :
    text = other ∧ after = rest := quotedWith_unique same

theorem quotedBytes_unique {bytes others : List UInt8} {after rest : Text}
    (same : quotedBytes bytes ++ after = quotedBytes others ++ rest) : bytes = others ∧ after = rest := by
  obtain ⟨chars, equal⟩ := quotedWith_unique (List.cons.inj same).2
  have told : Function.Injective fun byte : UInt8 => Char.ofNat byte.toNat := by
    intro byte other equal
    have valid (byte : UInt8) : byte.toNat.isValidChar := .inl (by have small := byte.toNat_lt; omega)
    have codes := congrArg Char.toNat equal
    rw [Utf8.toNat_ofNat (valid byte), Utf8.toNat_ofNat (valid other)] at codes
    exact UInt8.toNat_inj.mp codes
  exact ⟨List.map_injective_iff.mpr told chars, equal⟩

end ProbeCheck.Text
