import ProbeCheck.Proofs.JsonReading
import ProbeCheck.Proofs.WritableNumbers
import ProbeCheck.Proofs.WrittenReleases

namespace ProbeCheck

namespace Numeral

theorem digits_head {n : Nat} (positive : 0 < n) : (digits n).head? ≠ some '0' := by
  induction n using Nat.strongRecOn with
  | ind n ih =>
    unfold digits at ih ⊢
    rw [Nat.toDigits_eq_if (by decide)]
    split
    · rename_i small
      have digit : ∀ m < 10, 0 < m → ([Nat.digitChar m] : Text).head? ≠ some '0' := by decide
      exact digit n small positive
    · have shorter := ih (n / 10) (by omega) (by omega)
      cases front : Nat.toDigits 10 (n / 10) with
      | nil => exact absurd front Nat.toDigits_ne_nil
      | cons c rest =>
        rw [front] at shorter
        exact shorter

end Numeral

namespace Json
open Numeral (digits signed)

def Value.tree : Value → Tree
  | .text value => .text value
  | .number value => .number value
  | .texts values => .list (values.map .text)

def Object.tree (object : Object) : Tree := .object (object.map fun field => (field.1, field.2.tree))

theorem natural?_digits (n : Nat) : natural? (digits n) = some n := by
  have filled : digits n ≠ [] := Nat.toDigits_ne_nil
  have numeric : (digits n).all Char.isDigit = true :=
    List.all_eq_true.mpr fun _ member => KernelRelease.digits_isDigit member
  have plain : (digits n).head? = some '0' → digits n = ['0'] := by
    intro zero
    cases n with
    | zero => rfl
    | succ n => exact absurd zero (Numeral.digits_head n.succ_pos)
  rw [natural?, if_pos ⟨filled, numeric, plain⟩, Numeral.value_digits]

theorem word?_signed (n : Int) : word? (signed n) = some (.number n) := by
  unfold signed
  split
  · rename_i negative
    have same : -(n.natAbs : Int) = n := by omega
    rw [word?, natural?_digits, Option.map_some, same]
  · rename_i positive
    have same : (n.natAbs : Int) = n := by omega
    have first : ∀ c rest, digits n.natAbs = c :: rest → c.isDigit = true := by
      intro c rest split
      exact KernelRelease.digits_isDigit (split ▸ List.mem_cons_self)
    unfold word?
    split
    · rename_i split
      cases first _ _ split
    · rename_i split
      cases first _ _ split
    · rename_i split
      cases first _ _ split
    · rename_i split
      cases first _ _ split
    · rw [natural?_digits, Option.map_some, same]

theorem mem_signed {n : Int} {c : Char} (member : c ∈ signed n) : c = '-' ∨ c.isDigit = true := by
  unfold signed at member
  split at member
  · exact (List.mem_cons.mp member).imp_right KernelRelease.digits_isDigit
  · exact .inr (KernelRelease.digits_isDigit member)

theorem solid_of_numeric {c : Char} (numeric : c = '-' ∨ c.isDigit = true) :
    endsWord c = false ∧ c ≠ '"' := by
  rcases numeric with rfl | digit
  · decide
  · have bounds := Text.isDigit_bounds digit
    have digits : ∀ code < 58, 48 ≤ code → endsWord (Char.ofNat code) = false ∧ Char.ofNat code ≠ '"' := by
      decide
    have solid := digits c.toNat (by omega) bounds.1
    rwa [Char.ofNat_toNat] at solid

theorem scan_word {run : Text} (solid : ∀ c ∈ run, endsWord c = false) (before : Text) :
    scan (.word before) run = some ([], .word (before ++ run)) := by
  induction run generalizing before with
  | nil => simp [scan]
  | cons c run ih =>
    have inside := solid c List.mem_cons_self
    have further := ih (fun d member => solid d (List.mem_cons_of_mem c member)) (before ++ [c])
    simp only [scan, Mode.step, inside, Bool.false_eq_true, if_false, further, Option.bind_eq_bind,
      Option.bind_some, List.append_assoc]
    rfl

theorem start_solid {c : Char} (solid : endsWord c = false) (unquoted : c ≠ '"') :
    start c = ([], .word [c]) := by
  unfold endsWord at solid
  rw [Bool.or_eq_false_iff, Option.isSome_eq_false_iff, Option.isNone_iff_eq_none] at solid
  simp [start, solid, unquoted]

theorem signed_ne_nil (n : Int) : signed n ≠ [] := by
  unfold signed
  split
  · exact List.cons_ne_nil _ _
  · exact Nat.toDigits_ne_nil

theorem scan_signed (n : Int) : scan .between (signed n) = some ([], .word (signed n)) := by
  have solid : ∀ c ∈ signed n, endsWord c = false ∧ c ≠ '"' :=
    fun c member => solid_of_numeric (mem_signed member)
  cases written : signed n with
  | nil => exact absurd written (signed_ne_nil n)
  | cons c rest =>
    rw [written] at solid
    obtain ⟨inside, unquoted⟩ := solid c List.mem_cons_self
    have opened : scan .between [c] = some ([], .word [c]) := by
      simp [scan, Mode.step, start_solid inside unquoted]
    exact scan_append opened (scan_word (fun d member => (solid d (List.mem_cons_of_mem c member)).1) [c])

theorem scan_ended {run rest : Text} {tree : Tree} {c : Char} {tokens : List Token} {last : Mode}
    (read : word? run = some tree) (ends : endsWord c = true)
    (following : scan .between (c :: rest) = some (tokens, last)) :
    scan (.word run) (c :: rest) = some (.scalar tree :: tokens, last) := by
  -- The character after a word ends it and is then read as it would be by itself.
  simp only [scan, Mode.step, Option.bind_eq_bind, Option.bind_some, Option.bind_eq_some_iff,
    Prod.exists] at following ⊢
  obtain ⟨later, final, scanned, joined⟩ := following
  cases joined
  refine ⟨.scalar tree :: (start c).1, (start c).2, ?_, later, last, scanned, rfl⟩
  rw [if_pos ends, read]
  rfl

def laterItems (texts : List Text) : List Token := texts.flatMap fun text => [.comma, .scalar (.text text)]

def Value.tokens : Value → List Token
  | .text value => [.scalar (.text value)]
  | .number value => [.scalar (.number value)]
  | .texts [] => [.openList, .closeList]
  | .texts (first :: rest) => .openList :: .scalar (.text first) :: laterItems rest ++ [.closeList]

theorem scan_join (first : Text) (rest : List Text) :
    scan .between (Text.join ",\n        " ((first :: rest).map quoted)) =
      some (.scalar (.text first) :: laterItems rest, .between) := by
  have comma : scan .between (",\n        " : Text) = some ([.comma], .between) := by
    rw [Text.ofString_eq]
    rfl
  induction rest generalizing first with
  | nil =>
    rw [List.map_singleton, Text.join, List.intercalate_singleton]
    exact scan_quoted first
  | cons next rest ih =>
    rw [List.map_cons, List.map_cons, Text.join, List.intercalate_cons_cons]
    exact scan_append (scan_append (scan_quoted first) comma) (ih next)

theorem Value.scan_draft {value : Value} (writable : value.Writable) {c : Char} {rest : Text}
    {tokens : List Token} {last : Mode} (ends : endsWord c = true)
    (following : scan .between (c :: rest) = some (tokens, last)) :
    scan .between (value.draft.text ++ c :: rest) = some (value.tokens ++ tokens, last) := by
  cases value with
  | text value => exact scan_append (scan_quoted value) following
  | number n =>
    have shown : (number n).draft.text = signed n := by
      rw [draft, Numeral.write?_ok writable]
      rfl
    rw [shown]
    have whole := scan_append (scan_signed n) (scan_ended (word?_signed n) ends following)
    exact whole
  | texts values =>
    cases values with
    | nil =>
      have empty : scan .between ("[]" : Text) = some ([.openList, .closeList], .between) := by
        rw [Text.ofString_eq]
        rfl
      exact scan_append empty following
    | cons first others =>
      have opened : scan .between ("[\n        " : Text) = some ([.openList], .between) := by
        rw [Text.ofString_eq]
        rfl
      have closed : scan .between ("\n    ]" : Text) = some ([.closeList], .between) := by
        rw [Text.ofString_eq]
        rfl
      exact scan_append (scan_append (scan_append opened (scan_join first others)) closed) following

def fieldTokens (field : Text × Value) : List Token :=
  .scalar (.text field.1) :: .colon :: field.2.tokens

def laterFields (object : Object) : List Token := object.flatMap fun field => .comma :: fieldTokens field

theorem Draft.append_text {before : Draft} (whole : before.fault = none) (after : Draft) :
    (before ++ after).text = before.text ++ after.text := by
  change (before.append after).text = _
  unfold append
  rw [whole]

section
variable {key : Text} {value : Value} {rest : Object}

theorem members_cons (writable : value.Writable) (lead : Text) :
    (members lead ((key, value) :: rest)).text =
      lead ++ quoted key ++ (": " : Text) ++ value.draft.text ++ (members ",\n    " rest).text := by
  have whole := Value.draft_fault writable
  rw [members, Draft.append_text (Draft.append_fault rfl whole), Draft.append_text rfl]
  rfl

theorem scan_field (writable : value.Writable) {lead after : Text} {tokens led : List Token}
    (begins : scan .between lead = some (led, .between)) {c : Char} (ends : endsWord c = true)
    (following : scan .between (c :: after) = some (tokens, .between)) :
    scan .between (lead ++ quoted key ++ (": " : Text) ++ value.draft.text ++ c :: after) =
      some (led ++ fieldTokens (key, value) ++ tokens, .between) := by
  have colon : scan .between (": " : Text) = some ([.colon], .between) := by
    rw [Text.ofString_eq]
    rfl
  have valued := value.scan_draft writable ends following
  have whole := scan_append (scan_append (scan_append begins (scan_quoted key)) colon) valued
  simpa [fieldTokens] using whole

end

theorem exists_later {object : Object} (writable : ∀ field ∈ object, field.2.Writable) :
    ∃ c after, (members ",\n    " object).text ++ ['\n', '\x7d'] = c :: after ∧ endsWord c = true := by
  -- Each value is followed by the comma of the next field or by the line of the closing brace.
  cases object with
  | nil => exact ⟨'\n', ['\x7d'], rfl, rfl⟩
  | cons field rest =>
    rw [members_cons (writable field List.mem_cons_self), Text.ofString_eq]
    exact ⟨',', _, rfl, rfl⟩

theorem scan_later {object : Object} (writable : ∀ field ∈ object, field.2.Writable) :
    scan .between ((members ",\n    " object).text ++ ['\n', '\x7d']) =
      some (laterFields object ++ [.closeObject], .between) := by
  induction object with
  | nil => rfl
  | cons field rest ih =>
    obtain ⟨key, value⟩ := field
    have comma : scan .between (",\n    " : Text) = some ([.comma], .between) := by
      rw [Text.ofString_eq]
      rfl
    obtain ⟨own, others⟩ := List.forall_mem_cons.mp writable
    have following := ih others
    obtain ⟨c, after, split, ends⟩ := exists_later others
    rw [split] at following
    rw [members_cons own, List.append_assoc, split, scan_field own comma ends following]
    simp [laterFields]

def Object.tokens : Object → List Token
  | [] => [.openObject, .closeObject]
  | first :: rest => .openObject :: fieldTokens first ++ laterFields rest ++ [.closeObject]

theorem scan_draft {object : Object} (writable : ∀ field ∈ object, field.2.Writable) :
    scan .between (draft object).text = some (object.tokens, .between) := by
  have opened : scan .between ['\x7b'] = some ([.openObject], .between) := rfl
  have whole : (draft object).text =
      ['\x7b'] ++ ((members "\n    " object).text ++ ['\n', '\x7d']) := by
    rw [draft, Draft.append_text (Draft.append_fault rfl (members_fault writable _)),
      Draft.append_text rfl, List.append_assoc]
    rfl
  rw [whole]
  cases object with
  | nil => rfl
  | cons field rest =>
    obtain ⟨key, value⟩ := field
    have line : scan .between ("\n    " : Text) = some ([], .between) := by
      rw [Text.ofString_eq]
      rfl
    obtain ⟨own, others⟩ := List.forall_mem_cons.mp writable
    have following := scan_later others
    obtain ⟨c, after, split, ends⟩ := exists_later others
    rw [split] at following
    rw [members_cons own, List.append_assoc, split,
      scan_append opened (scan_field own line ends following)]
    simp [Object.tokens]

theorem step_items (items : List Tree) (outer : List Frame) (texts : List Text) (more : List Token) :
    (laterItems texts ++ .closeList :: more).foldlM Awaiting.step (.afterItem items outer) =
      more.foldlM Awaiting.step (place (.list (items ++ texts.map .text)) outer) := by
  induction texts generalizing items with
  | nil => simp [laterItems, Awaiting.step]
  | cons first rest ih =>
    have stepped := ih (items ++ [.text first])
    simpa [laterItems, Awaiting.step, begin?, place] using stepped

theorem step_value (value : Value) (outer : List Frame) (more : List Token) :
    (value.tokens ++ more).foldlM Awaiting.step (.value outer) =
      more.foldlM Awaiting.step (place value.tree outer) := by
  cases value with
  | text value => rfl
  | number n => rfl
  | texts values =>
    cases values with
    | nil => rfl
    | cons first rest =>
      have stepped := step_items [.text first] outer rest more
      simpa [Value.tokens, Value.tree, Awaiting.step, begin?, place] using stepped

theorem step_fields (fields : List (Text × Tree)) (outer : List Frame) (object : Object) (more : List Token) :
    (laterFields object ++ .closeObject :: more).foldlM Awaiting.step (.afterField fields outer) =
      more.foldlM Awaiting.step
        (place (.object (fields ++ object.map fun field => (field.1, field.2.tree))) outer) := by
  induction object generalizing fields with
  | nil => simp [laterFields, Awaiting.step]
  | cons field rest ih =>
    obtain ⟨key, value⟩ := field
    have stepped := step_value value (.field fields key :: outer) (laterFields rest ++ .closeObject :: more)
    rw [place, ih] at stepped
    simpa [laterFields, fieldTokens, Awaiting.step] using stepped

theorem step_object (object : Object) :
    object.tokens.foldlM Awaiting.step (.value []) = some (.nothing object.tree) := by
  cases object with
  | nil => rfl
  | cons field rest =>
    obtain ⟨key, value⟩ := field
    have stepped := step_value value [.field [] key] (laterFields rest ++ [.closeObject])
    rw [place, step_fields] at stepped
    simpa [Object.tokens, Object.tree, fieldTokens, Awaiting.step, begin?, place] using stepped

theorem read?_draft {object : Object} (writable : ∀ field ∈ object, field.2.Writable) :
    read? (draft object).text = some object.tree := by
  rw [read?, scan_draft writable]
  simp only [Mode.finish, Option.bind_eq_bind, Option.bind_some, List.append_nil, step_object]
  rfl

end Json
end ProbeCheck
