import ProbeCheck.Proofs.NumberLiterals
import ProbeCheck.Proofs.QuotedReading

namespace ProbeCheck.Datum

-- Values whose integers can be written and whose dictionaries have each key once.
inductive Plain : Datum → Prop
  | null : Plain .null
  | truth (value : Bool) : Plain (.truth value)
  | integer {value : Int} (short : (Numeral.digits value.natAbs).length ≤ Numeral.limit) :
      Plain (.integer value)
  | fraction (value : Fraction) : Plain (.fraction value)
  | text (value : Text) : Plain (.text value)
  | bytes (value : Bytes) : Plain (.bytes value)
  | list {items : List Datum} (each : ∀ item ∈ items, Plain item) : Plain (.list items)
  | dict {entries : List (Text × Datum)} (distinct : (entries.map Prod.fst).Nodup)
      (each : ∀ entry ∈ entries, Plain entry.2) : Plain (.dict entries)

mutual
def written : Datum → Text
  | .null => "None"
  | .truth true => "True"
  | .truth false => "False"
  | .integer n => Numeral.signed n
  | .fraction f => f.numeral
  | .text t => Text.quoted t
  | .bytes b => Text.quotedBytes b
  | .list items => '[' :: Text.join ", " (writtenItems items) ++ [']']
  | .dict entries => '\x7b' :: Text.join ", " (writtenEntries entries) ++ ['\x7d']

def writtenItems : List Datum → List Text
  | [] => []
  | item :: rest => written item :: writtenItems rest

def writtenEntries : List (Text × Datum) → List Text
  | [] => []
  | (key, value) :: rest => (Text.quoted key ++ ": " ++ written value) :: writtenEntries rest
end

def writtenEntry (entry : Text × Datum) : Text := Text.quoted entry.1 ++ ": " ++ written entry.2

theorem writtenItems_eq (items : List Datum) : writtenItems items = items.map written := by
  induction items with
  | nil => rfl
  | cons item rest ih => rw [writtenItems, ih, List.map_cons]

theorem writtenEntries_eq (entries : List (Text × Datum)) :
    writtenEntries entries = entries.map writtenEntry := by
  induction entries with
  | nil => rfl
  | cons entry rest ih => rw [writtenEntries, ih, List.map_cons, writtenEntry]

theorem literals?_written {items : List Datum} (each : ∀ item ∈ items, item.literal? = .ok item.written) :
    literals? items = .ok (writtenItems items) := by
  induction items with
  | nil => rfl
  | cons item rest ih =>
    rw [literals?, each item List.mem_cons_self, ih fun item later => each item (List.mem_cons_of_mem _ later)]
    rfl

theorem entryLiterals?_written {entries : List (Text × Datum)}
    (each : ∀ entry ∈ entries, entry.2.literal? = .ok entry.2.written) :
    entryLiterals? entries = .ok (writtenEntries entries) := by
  induction entries with
  | nil => rfl
  | cons entry rest ih =>
    rw [entryLiterals?, each entry List.mem_cons_self,
      ih fun entry later => each entry (List.mem_cons_of_mem _ later)]
    rfl

theorem Plain.literal? {datum : Datum} (plain : datum.Plain) : datum.literal? = .ok datum.written := by
  induction plain with
  | integer short => exact if_neg (by omega)
  | truth value => cases value <;> rfl
  | list each ih => rw [Datum.literal?, literals?_written ih]; rfl
  | dict distinct each ih => rw [Datum.literal?, entryLiterals?_written ih]; rfl
  | null | fraction | text | bytes => rfl

inductive Kind
  | null
  | truth
  | number
  | text
  | bytes
  | list
  | dict
deriving DecidableEq

def Kind.opened (c : Char) : Kind :=
  if c = 'N' then .null
  else if c = 'T' ∨ c = 'F' then .truth
  else if c = '\'' ∨ c = '"' then .text
  else if c = 'b' then .bytes
  else if c = '[' then .list
  else if c = '\x7b' then .dict
  else .number

def kind : Datum → Kind
  | .null => .null
  | .truth _ => .truth
  | .integer _ => .number
  | .fraction _ => .number
  | .text _ => .text
  | .bytes _ => .bytes
  | .list _ => .list
  | .dict _ => .dict

def Stops (c : Char) : Prop := c = ',' ∨ c = ' ' ∨ c = ']' ∨ c = '\x7d'

def Ends (rest : Text) : Prop := ∀ c, rest.head? = some c → Stops c

instance : DecidablePred Stops := fun c =>
  inferInstanceAs (Decidable (c = ',' ∨ c = ' ' ∨ c = ']' ∨ c = '\x7d'))

theorem number_opened {c : Char} (inNumeral : c = '.' ∨ c = 'e' ∨ c = '-' ∨ c.isDigit = true) :
    Kind.opened c = .number ∧ ¬ Stops c := by
  rcases inNumeral with rfl | rfl | rfl | digit
  · decide
  · decide
  · decide
  · have other {d : Char} (letter : d.isDigit = false) : c ≠ d := by
      rintro rfl
      rw [digit] at letter
      cases letter
    simp [Kind.opened, Stops, other]

theorem numeral_of_number {datum : Datum} (number : datum.kind = .number) :
    datum.written ≠ [] ∧ ∀ c ∈ datum.written, c = '.' ∨ c = 'e' ∨ c = '-' ∨ c.isDigit = true := by
  cases datum with
  | integer n =>
    exact ⟨Json.signed_ne_nil n, fun c member => .inr (.inr (Json.mem_signed member))⟩
  | fraction f =>
    refine ⟨fun empty => ?_, fun c member => Fraction.mem_numeral member⟩
    have marked := @Fraction.numeral_marked f
    rw [show f.numeral = [] from empty] at marked
    simp at marked
  | _ => cases number

theorem quoted_opened (shown : Char → Bool) (text : Text) :
    ∃ first rest, Text.quotedWith shown text = first :: rest ∧ Kind.opened first = .text ∧ ¬ Stops first := by
  refine ⟨Text.quoteMark text, _, rfl, ?_⟩
  rcases Text.quoteMark_cases text with single | double
  · rw [single]; decide
  · rw [double]; decide

theorem written_opened (datum : Datum) :
    ∃ first rest, datum.written = first :: rest ∧ Kind.opened first = datum.kind ∧ ¬ Stops first := by
  by_cases number : datum.kind = .number
  · obtain ⟨filled, numeral⟩ := numeral_of_number number
    obtain ⟨first, rest, opened⟩ := List.exists_cons_of_ne_nil filled
    have told := number_opened (numeral first (opened ▸ List.mem_cons_self))
    exact ⟨first, rest, opened, told.1.trans number.symm, told.2⟩
  cases datum with
  | null => exact ⟨'N', "one".toList, by simp [written], by decide⟩
  | truth value =>
    cases value with
    | false => exact ⟨'F', "alse".toList, by simp [written], by decide⟩
    | true => exact ⟨'T', "rue".toList, by simp [written], by decide⟩
  | text value => exact quoted_opened _ value
  | bytes value => exact ⟨'b', _, rfl, rfl, by decide⟩
  | list items => exact ⟨'[', _, rfl, rfl, by decide⟩
  | dict entries => exact ⟨'\x7b', _, rfl, rfl, by decide⟩
  | integer | fraction => exact absurd rfl number

section
variable {datum other : Datum} {after rest : Text}

theorem kind_eq (same : datum.written ++ after = other.written ++ rest) : datum.kind = other.kind := by
  obtain ⟨first, tail, opened, kind, -⟩ := written_opened datum
  obtain ⟨second, tail, otherOpened, otherKind, -⟩ := written_opened other
  rw [opened, otherOpened] at same
  rw [← kind, ← otherKind, (List.cons.inj same).1]

theorem numerals_unique {numeral second : Text}
    (run : ∀ c ∈ numeral, ¬ Stops c) (otherRun : ∀ c ∈ second, ¬ Stops c) (ends : Ends after)
    (otherEnds : Ends rest) (same : numeral ++ after = second ++ rest) : numeral = second ∧ after = rest := by
  have upTo {run more : Text} (clean : ∀ c ∈ run, ¬ Stops c) (ends : Ends more) :
      (run ++ more).takeWhile (fun c => !decide (Stops c)) = run := by
    rw [List.takeWhile_append_of_pos (fun c member => by simpa using clean c member)]
    cases more with
    | nil => simp
    | cons c more => simp [ends c rfl]
  have equal : numeral = second := by rw [← upTo run ends, same, upTo otherRun otherEnds]
  rw [equal] at same
  exact ⟨equal, List.append_cancel_left same⟩

theorem number_unique (number : datum.kind = .number) (otherNumber : other.kind = .number)
    (ends : Ends after) (otherEnds : Ends rest) (same : datum.written ++ after = other.written ++ rest) :
    datum = other ∧ after = rest := by
  have clean {datum : Datum} (number : datum.kind = .number) : ∀ c ∈ datum.written, ¬ Stops c :=
    fun c member => (number_opened ((numeral_of_number number).2 c member)).2
  obtain ⟨numerals, equal⟩ := numerals_unique (clean number) (clean otherNumber) ends otherEnds same
  refine ⟨?_, equal⟩
  cases datum with
  | integer m =>
    cases other with
    | integer n => rw [Numeral.signed_inj numerals]
    | fraction f => exact absurd numerals.symm (Fraction.numeral_ne_signed m)
    | _ => cases otherNumber
  | fraction f =>
    cases other with
    | integer n => exact absurd numerals (Fraction.numeral_ne_signed n)
    | fraction g => rw [Fraction.numeral_inj numerals]
    | _ => cases otherNumber
  | _ => cases number

end

section
variable {α : Type} {form : α → Text} {close : Char} {after rest : Text}

def closed (form : α → Text) (close : Char) (after : Text) (items : List α) : Text :=
  Text.join ", " (items.map form) ++ close :: after

def following (form : α → Text) (close : Char) (after : Text) : List α → Text
  | [] => close :: after
  | next :: items => ',' :: ' ' :: closed form close after (next :: items)

theorem closed_cons (item : α) (items : List α) :
    closed form close after (item :: items) = form item ++ following form close after items := by
  cases items with
  | nil => simp [closed, following, Text.join]
  | cons next items => simp [closed, following, Text.join, List.intercalate_cons_cons]

theorem following_ends (stops : Stops close) (items : List α) : Ends (following form close after items) := by
  intro c first
  cases items with
  | nil => cases first; exact stops
  | cons next items => cases first; exact .inl rfl

theorem closed_unique (stops : Stops close) (bracket : close ≠ ',')
    (opened : ∀ item : α, ∃ first tail, form item = first :: tail ∧ ¬ Stops first) {items others : List α}
    (each : ∀ item ∈ items, ∀ {other : α} {after rest : Text}, Ends after → Ends rest →
      form item ++ after = form other ++ rest → item = other ∧ after = rest)
    (same : closed form close after items = closed form close rest others) :
    items = others ∧ after = rest := by
  -- Items are told apart one by one, and the bracket by the first character of a form.
  have unclosed (item : α) (more rest : Text) : close :: rest ≠ form item ++ more := by
    obtain ⟨first, tail, form, free⟩ := opened item
    rw [form]
    exact fun equal => free ((List.cons.inj equal).1 ▸ stops)
  induction items generalizing others with
  | nil =>
    cases others with
    | nil => exact ⟨rfl, (List.cons.inj same).2⟩
    | cons other others => exact absurd (same.trans (closed_cons other others)) (unclosed _ _ _)
  | cons item items ih =>
    cases others with
    | nil => exact absurd (same.symm.trans (closed_cons item items)) (unclosed _ _ _)
    | cons other others =>
      rw [closed_cons, closed_cons] at same
      obtain ⟨rfl, tail⟩ := each item List.mem_cons_self (following_ends stops items)
        (following_ends stops others) same
      cases items with
      | nil =>
        cases others with
        | nil => exact ⟨rfl, (List.cons.inj tail).2⟩
        | cons other others => exact absurd (List.cons.inj tail).1 bracket
      | cons next items =>
        cases others with
        | nil => exact absurd (List.cons.inj tail).1.symm bracket
        | cons other others =>
          obtain ⟨equal, last⟩ := ih (fun item later => each item (List.mem_cons_of_mem _ later))
            (List.cons.inj (List.cons.inj tail).2).2
          rw [equal]
          exact ⟨rfl, last⟩

end

def Unique (datum : Datum) : Prop :=
  ∀ {other : Datum} {after rest : Text}, Ends after → Ends rest →
    datum.written ++ after = other.written ++ rest → datum = other ∧ after = rest

theorem entry_unique {entry : Text × Datum} (value : entry.2.Unique) {other : Text × Datum}
    {after rest : Text} (ends : Ends after) (otherEnds : Ends rest)
    (same : writtenEntry entry ++ after = writtenEntry other ++ rest) : entry = other ∧ after = rest := by
  simp only [writtenEntry, List.append_assoc] at same
  obtain ⟨keys, tail⟩ := Text.quoted_unique same
  obtain ⟨values, equal⟩ := value ends otherEnds (List.append_cancel_left tail)
  exact ⟨Prod.ext keys values, equal⟩

theorem list_unique {items : List Datum} (each : ∀ item ∈ items, item.Unique) : (list items).Unique := by
  intro other after rest ends otherEnds same
  have kinds := kind_eq same
  cases other with
  | list others =>
    simp only [written, writtenItems_eq, List.cons_append, List.append_assoc, List.nil_append] at same
    have opened (item : Datum) : ∃ first tail, item.written = first :: tail ∧ ¬ Stops first := by
      obtain ⟨first, tail, form, -, free⟩ := written_opened item
      exact ⟨first, tail, form, free⟩
    obtain ⟨rfl, equal⟩ := closed_unique (by decide) (by decide) opened each (List.cons.inj same).2
    exact ⟨rfl, equal⟩
  | _ => cases kinds

theorem dict_unique {entries : List (Text × Datum)} (each : ∀ entry ∈ entries, entry.2.Unique) :
    (dict entries).Unique := by
  intro other after rest ends otherEnds same
  have kinds := kind_eq same
  cases other with
  | dict others =>
    simp only [written, writtenEntries_eq, List.cons_append, List.append_assoc, List.nil_append] at same
    have opened (entry : Text × Datum) :
        ∃ first tail, writtenEntry entry = first :: tail ∧ ¬ Stops first := by
      obtain ⟨first, tail, form, -, free⟩ := quoted_opened Text.isPrintable entry.1
      exact ⟨first, _, by rw [writtenEntry, Text.quoted, form]; rfl, free⟩
    obtain ⟨rfl, equal⟩ := closed_unique (by decide) (by decide) opened
      (fun entry member => entry_unique (each entry member)) (List.cons.inj same).2
    exact ⟨rfl, equal⟩
  | _ => cases kinds

-- A literal is the literal of one value, and no literal is the beginning of another that ends later.
theorem Plain.unique {datum : Datum} (plain : datum.Plain) : datum.Unique := by
  induction plain with
  | list each ih => exact list_unique ih
  | dict distinct each ih => exact dict_unique ih
  | integer short => exact fun ends otherEnds same => number_unique rfl (kind_eq same).symm ends otherEnds same
  | fraction value => exact fun ends otherEnds same => number_unique rfl (kind_eq same).symm ends otherEnds same
  | null =>
    intro other after rest ends otherEnds same
    have kinds := kind_eq same
    cases other with
    | null => exact ⟨rfl, List.append_cancel_left same⟩
    | _ => cases kinds
  | truth value =>
    intro other after rest ends otherEnds same
    have kinds := kind_eq same
    cases other with
    | truth second => cases value <;> cases second <;> simp [written] at same <;> simp [same]
    | _ => cases kinds
  | text value =>
    intro other after rest ends otherEnds same
    have kinds := kind_eq same
    cases other with
    | text second =>
      obtain ⟨rfl, equal⟩ := Text.quoted_unique same
      exact ⟨rfl, equal⟩
    | _ => cases kinds
  | bytes value =>
    intro other after rest ends otherEnds same
    have kinds := kind_eq same
    cases other with
    | bytes second =>
      obtain ⟨rfl, equal⟩ := Text.quotedBytes_unique same
      exact ⟨rfl, equal⟩
    | _ => cases kinds

end ProbeCheck.Datum
