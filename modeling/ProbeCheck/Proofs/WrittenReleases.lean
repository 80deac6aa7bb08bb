import Mathlib.Data.List.TakeWhile
import ProbeCheck.KernelRelease
import ProbeCheck.Proofs.WritableNumbers

namespace ProbeCheck

theorem Text.isDigit_bounds {c : Char} (digit : c.isDigit = true) : 48 ≤ c.toNat ∧ c.toNat ≤ 57 := by
  simpa [Char.isDigit, UInt32.le_iff_toNat_le] using digit

theorem Text.isBlank_of_isDigit {c : Char} (digit : c.isDigit = true) : isBlank c = false := by
  have bounds := isDigit_bounds digit
  simp [isBlank, blankRanges, CodeRanges.holds]
  omega

theorem Text.trim_of_blankless {text : Text} (blankless : ∀ c ∈ text, isBlank c = false) :
    trim text = text := by
  have kept : ∀ part : Text, (∀ c ∈ part, isBlank c = false) → part.dropWhile isBlank = part := by
    intro part clean
    cases part with
    | nil => rfl
    | cons c rest => exact List.dropWhile_cons_of_neg (by simp [clean c List.mem_cons_self])
  rw [trim, kept text blankless, kept text.reverse (fun c member => blankless c (List.mem_reverse.mp member)),
    List.reverse_reverse]

section
variable {ε α β : Type} {first : Except ε α} {next : α → Except ε β}

theorem bind_ok_iff {result : β} :
    first >>= next = .ok result ↔ ∃ value, first = .ok value ∧ next value = .ok result := by
  cases first with
  | error fault => simp [bind, Except.bind]
  | ok value => simp [bind, Except.bind]

theorem bind_error_iff {fault : ε} :
    first >>= next = .error fault ↔
      first = .error fault ∨ ∃ value, first = .ok value ∧ next value = .error fault := by
  cases first with
  | error other => simp [bind, Except.bind]
  | ok value => simp [bind, Except.bind]

end

namespace KernelRelease

theorem version?_natural {raw : Text} {version : Version} (accepted : version? raw = .ok version) :
    ∃ major minor patch : Nat, version = ⟨major, minor, patch⟩ := by
  unfold version? at accepted
  split at accepted
  · cases accepted
  · simp only [bind_ok_iff] at accepted
    obtain ⟨major, -, minor, -, patch, -, made⟩ := accepted
    cases made
    exact ⟨major, minor, patch, rfl⟩
  · cases accepted

theorem code_nonneg {raw : Text} {version : Version} (accepted : version? raw = .ok version) :
    0 ≤ version.code := by
  obtain ⟨major, minor, patch, rfl⟩ := version?_natural accepted
  simp only [Version.code, Version.majorWeight, Version.minorWeight]
  omega

theorem number?_numeral {raw text : Text} {field : Field} {fault : Numeral.Fault}
    (refused : number? raw field text = .error (.numeral fault)) :
    ∃ digits, Numeral.limit < digits ∧ fault = .tooLongToRead digits := by
  unfold number? at refused
  dsimp only at refused
  split at refused
  · cases refused
  · split at refused
    · cases refused
    · rename_i unread
      cases refused
      unfold Numeral.read? at unread
      split at unread
      · rename_i long
        cases unread
        exact ⟨_, long, rfl⟩
      · cases unread

theorem version?_numeral {raw : Text} {fault : Numeral.Fault}
    (refused : version? raw = .error (.numeral fault)) :
    ∃ digits, Numeral.limit < digits ∧ fault = .tooLongToRead digits := by
  unfold version? at refused
  split at refused
  · cases refused
  · simp only [bind_error_iff] at refused
    rcases refused with major | ⟨_, -, minor | ⟨_, -, patch | ⟨_, -, made⟩⟩⟩
    · exact number?_numeral major
    · exact number?_numeral minor
    · exact number?_numeral patch
    · cases made
  · cases refused

def written (major minor patch : Nat) : Text :=
  Numeral.digits major ++ '.' :: (Numeral.digits minor ++ '.' :: Numeral.digits patch)

theorem digits_isDigit {n : Nat} {c : Char} (member : c ∈ Numeral.digits n) : c.isDigit = true :=
  Nat.isDigit_of_mem_toDigits (by decide) (by decide) member

theorem dot_not_mem_digits (n : Nat) : '.' ∉ Numeral.digits n := by
  intro member
  exact absurd (digits_isDigit member) (by decide)

theorem mem_written {major minor patch : Nat} {c : Char} (member : c ∈ written major minor patch) :
    c = '.' ∨ c.isDigit = true := by
  simp only [written, List.mem_append, List.mem_cons] at member
  rcases member with digit | rfl | digit | rfl | digit
  · exact .inr (digits_isDigit digit)
  · exact .inl rfl
  · exact .inr (digits_isDigit digit)
  · exact .inl rfl
  · exact .inr (digits_isDigit digit)

theorem fields_written (major minor patch : Nat) :
    fields (written major minor patch) =
      [Numeral.digits major, Numeral.digits minor, Numeral.digits patch] := by
  have blankless : ∀ c ∈ written major minor patch, Text.isBlank c = false := by
    intro c member
    rcases mem_written member with rfl | digit
    · decide
    · exact Text.isBlank_of_isDigit digit
  have started : (written major minor patch).dropWhile (fun c => !c.isDigit) = written major minor patch := by
    obtain ⟨c, rest, opened⟩ := List.exists_cons_of_ne_nil (Nat.toDigits_ne_nil (b := 10) (n := major))
    have digit : c.isDigit = true := digits_isDigit (n := major) (by rw [Numeral.digits, opened]; simp)
    rw [written, Numeral.digits, opened]
    exact List.dropWhile_cons_of_neg (by simp [digit])
  rw [fields, Text.trim_of_blankless blankless, started, written,
    List.splitOn_append_cons_self_of_not_mem (dot_not_mem_digits major),
    List.splitOn_append_cons_self_of_not_mem (dot_not_mem_digits minor),
    List.splitOn_eq_singleton (dot_not_mem_digits patch)]

theorem number?_digits (raw : Text) (field : Field) {n : Nat} (short : n < Numeral.bound) :
    number? raw field (Numeral.digits n) = .ok n := by
  have whole : (Numeral.digits n).takeWhile Char.isDigit = Numeral.digits n :=
    List.takeWhile_eq_self_iff.mpr fun c member => digits_isDigit member
  have filled : Numeral.digits n ≠ [] := Nat.toDigits_ne_nil
  have within := (Numeral.digits_length_le_iff n).mpr short
  unfold number?
  simp only [whole]
  rw [if_neg filled, Numeral.read?, if_neg (by omega), Numeral.value_digits]

theorem version?_written {major minor patch : Nat} (majorShort : major < Numeral.bound)
    (minorShort : minor < Numeral.bound) (patchShort : patch < Numeral.bound) :
    version? (written major minor patch) = .ok ⟨major, minor, patch⟩ := by
  have split := fields_written major minor patch
  unfold version?
  split
  · rename_i single
    rw [split] at single
    exact absurd (List.cons.inj single).2 (List.cons_ne_nil _ _)
  · rename_i first second third more several
    rw [split] at several
    cases several
    rw [number?_digits _ _ majorShort, number?_digits _ _ minorShort, number?_digits _ _ patchShort]
    rfl
  · rename_i few
    exact absurd split (few _ _ _ _)

end KernelRelease
end ProbeCheck
