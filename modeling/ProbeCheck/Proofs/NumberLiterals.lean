import ProbeCheck.Datum
import ProbeCheck.Proofs.RecordNames
import ProbeCheck.Proofs.WrittenObjects

namespace ProbeCheck

namespace Numeral

theorem signed_inj {m n : Int} (same : signed m = signed n) : m = n := by
  have read := Json.word?_signed m
  rw [same, Json.word?_signed, Option.some.injEq, Json.Tree.number.injEq] at read
  exact read.symm

end Numeral

namespace Fraction
open Numeral

variable {f g : Fraction} {c : Char}

theorem mem_pointed (member : c ∈ f.pointed) : c = '.' ∨ c.isDigit = true := by
  unfold pointed at member
  rcases List.mem_append.mp member with whole | rest
  · exact .inr (KernelRelease.digits_isDigit whole)
  · exact (List.mem_cons.mp rest).imp_right mem_padded

theorem mem_scientific (member : c ∈ f.scientific) :
    c = '.' ∨ c = 'e' ∨ c = '-' ∨ c.isDigit = true := by
  unfold scientific at member
  dsimp only at member
  rw [List.mem_append, List.mem_append, List.mem_cons, List.mem_cons] at member
  rcases member with (first | places) | mark | sign | exponent
  · exact .inr (.inr (.inr (KernelRelease.digits_isDigit (List.mem_of_mem_take first))))
  · split at places
    · cases places
    · rcases List.mem_cons.mp places with point | later
      · exact .inl point
      · exact .inr (.inr (.inr (KernelRelease.digits_isDigit (List.mem_of_mem_drop later))))
  · exact .inr (.inl mark)
  · exact .inr (.inr (.inl sign))
  · exact .inr (.inr (.inr (mem_padded exponent)))

theorem mem_unsigned (member : c ∈ f.unsigned) : c = '.' ∨ c = 'e' ∨ c = '-' ∨ c.isDigit = true := by
  unfold unsigned at member
  split at member
  · exact mem_scientific member
  · exact (mem_pointed member).imp_right fun digit => .inr (.inr digit)

theorem mem_numeral (member : c ∈ f.numeral) : c = '.' ∨ c = 'e' ∨ c = '-' ∨ c.isDigit = true := by
  unfold numeral at member
  rcases List.mem_append.mp member with sign | size
  · split at sign
    · exact .inr (.inr (.inl (List.mem_singleton.mp sign)))
    · cases sign
  · exact mem_unsigned size

theorem pointed_marked : '.' ∈ f.pointed := by
  unfold pointed
  simp

theorem scientific_marked : 'e' ∈ f.scientific := by
  unfold scientific
  simp

theorem numeral_marked : '.' ∈ f.numeral ∨ 'e' ∈ f.numeral := by
  have marked : '.' ∈ f.unsigned ∨ 'e' ∈ f.unsigned := by
    unfold unsigned
    split
    · exact .inr scientific_marked
    · exact .inl pointed_marked
  exact marked.imp (List.mem_append_right _) (List.mem_append_right _)

theorem numeral_ne_signed (n : Int) : f.numeral ≠ signed n := by
  intro same
  have marked := @numeral_marked f
  rw [same] at marked
  rcases marked with point | exponent
  · exact absurd (Json.mem_signed point) (by decide)
  · exact absurd (Json.mem_signed exponent) (by decide)

theorem pointed_inj (same : f.pointed = g.pointed) :
    f.mantissa.natAbs = g.mantissa.natAbs ∧ f.places = g.places := by
  have pointless (width n : Nat) : '.' ∉ padded width n := fun member => absurd (mem_padded member) (by decide)
  obtain ⟨wholes, parts⟩ := Text.append_mark_inj (pointless _ _) (pointless _ _) same
  have wide (f : Fraction) :
      (padded f.places (f.mantissa.natAbs % Nat.pow 10 f.places)).length = f.places :=
    padded_length f.fractional (Nat.mod_lt _ (Nat.pow_pos (by decide)))
  have places : f.places = g.places := by rw [← wide f, parts, wide g]
  have quotients := congrArg value wholes
  have remainders := congrArg value parts
  simp only [value_digits, value_padded, places] at quotients remainders
  refine ⟨?_, places⟩
  rw [← Nat.div_add_mod f.mantissa.natAbs, quotients, remainders, Nat.div_add_mod]

theorem exists_digits (n : Nat) :
    ∃ first rest, digits n = first :: rest ∧ first.isDigit = true ∧ ∀ c ∈ digits n, c ≠ '.' := by
  obtain ⟨first, rest, opened⟩ := List.exists_cons_of_ne_nil (@Nat.toDigits_ne_nil n 10)
  refine ⟨first, rest, opened, ?_, fun c member point => ?_⟩
  · exact KernelRelease.digits_isDigit (by rw [digits, opened]; exact List.mem_cons_self)
  · exact KernelRelease.dot_not_mem_digits n (point ▸ member)

theorem scientific_digits (n : Nat) :
    ((digits n).take 1 ++ if (digits n).length = 1 then [] else '.' :: (digits n).drop 1).filter (· ≠ '.') =
      digits n := by
  obtain ⟨first, rest, opened, -, pointless⟩ := exists_digits n
  rw [opened] at pointless ⊢
  have kept := List.filter_eq_self.mpr fun c member => decide_eq_true (pointless c member)
  cases rest with
  | nil => exact kept
  | cons second rest => simpa [List.filter_cons] using kept

theorem scientific_inj (small : (digits f.mantissa.natAbs).length + 4 ≤ f.places)
    (less : (digits g.mantissa.natAbs).length + 4 ≤ g.places) (same : f.scientific = g.scientific) :
    f.mantissa.natAbs = g.mantissa.natAbs ∧ f.places = g.places := by
  have unmarked (n : Nat) : 'e' ∉ '-' :: padded 2 n := by
    intro member
    rcases List.mem_cons.mp member with sign | digit
    · cases sign
    · exact absurd (mem_padded digit) (by decide)
  obtain ⟨shown, exponents⟩ := Text.append_mark_inj (unmarked _) (unmarked _) same
  have sizes := congrArg (List.filter (· ≠ '.')) shown
  rw [scientific_digits, scientific_digits] at sizes
  have mantissas := congrArg value sizes
  have powers := congrArg value (List.cons.inj exponents).2
  rw [value_digits, value_digits] at mantissas
  rw [value_padded, value_padded, sizes] at powers
  rw [sizes] at small
  exact ⟨mantissas, by omega⟩

theorem unsigned_inj (same : f.unsigned = g.unsigned) :
    f.mantissa.natAbs = g.mantissa.natAbs ∧ f.places = g.places := by
  have exponentless (f : Fraction) : 'e' ∉ f.pointed := fun member => absurd (mem_pointed member) (by decide)
  unfold unsigned at same
  split at same <;> split at same
  · exact scientific_inj ‹_› ‹_› same
  · exact absurd (same ▸ scientific_marked) (exponentless g)
  · exact absurd (same ▸ scientific_marked) (exponentless f)
  · exact pointed_inj same

theorem unsigned_head : f.unsigned.head? ≠ some '-' := by
  have signless {first : Char} (digit : first.isDigit = true) : first ≠ '-' := by
    rintro rfl
    cases digit
  unfold unsigned
  split
  · obtain ⟨first, rest, opened, digit, -⟩ := exists_digits f.mantissa.natAbs
    simpa [scientific, opened] using signless digit
  · obtain ⟨first, rest, opened, digit, -⟩ := exists_digits (f.mantissa.natAbs / Nat.pow 10 f.places)
    rw [pointed, opened]
    simpa using signless digit

theorem numeral_inj (same : f.numeral = g.numeral) : f = g := by
  have signed : (f.mantissa < 0 ↔ g.mantissa < 0) ∧ f.unsigned = g.unsigned := by
    unfold numeral at same
    split at same <;> split at same
    · rename_i negative less
      exact ⟨iff_of_true negative less, List.append_cancel_left same⟩
    · exact absurd (congrArg List.head? same).symm unsigned_head
    · exact absurd (congrArg List.head? same) unsigned_head
    · rename_i natural other
      exact ⟨iff_of_false natural other, same⟩
  obtain ⟨sizes, places⟩ := unsigned_inj signed.2
  have mantissas : f.mantissa = g.mantissa := by
    have signs := signed.1
    omega
  cases f
  cases g
  cases mantissas
  cases places
  rfl

end Fraction

end ProbeCheck
