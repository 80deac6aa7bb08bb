import ProbeCheck.Json

namespace ProbeCheck.Json

inductive Tree
  | null
  | truth (value : Bool)
  | number (value : Int)
  | text (value : Text)
  | list (items : List Tree)
  | object (fields : List (Text × Tree))

inductive Token
  | openList
  | closeList
  | openObject
  | closeObject
  | comma
  | colon
  | scalar (tree : Tree)

def isSpace (c : Char) : Bool := c = ' ' || c = '\t' || c = '\n' || c = '\r'

def mark? : Char → Option Token
  | '[' => some .openList
  | ']' => some .closeList
  | '\x7b' => some .openObject
  | '\x7d' => some .closeObject
  | ',' => some .comma
  | ':' => some .colon
  | _ => none

def endsWord (c : Char) : Bool := isSpace c || (mark? c).isSome

def natural? (run : Text) : Option Nat :=
  if run ≠ [] ∧ run.all Char.isDigit ∧ (run.head? = some '0' → run = ['0']) then
    some (Numeral.value run)
  else none

def word? : Text → Option Tree
  | ['n', 'u', 'l', 'l'] => some .null
  | ['t', 'r', 'u', 'e'] => some (.truth true)
  | ['f', 'a', 'l', 's', 'e'] => some (.truth false)
  | '-' :: digits => (natural? digits).map fun n : Nat => .number (-n)
  | digits => (natural? digits).map fun n : Nat => .number n

def short? : Char → Option Nat
  | '"' => some 0x22
  | '\\' => some 0x5C
  | '/' => some 0x2F
  | 'b' => some 0x08
  | 'f' => some 0x0C
  | 'n' => some 0x0A
  | 'r' => some 0x0D
  | 't' => some 0x09
  | _ => none

def hexValue? (c : Char) : Option Nat :=
  if '0' ≤ c ∧ c ≤ '9' then some (c.toNat - 0x30)
  else if 'a' ≤ c ∧ c ≤ 'f' then some (c.toNat - 0x57)
  else if 'A' ≤ c ∧ c ≤ 'F' then some (c.toNat - 0x37)
  else none

def isHigh (unit : Nat) : Bool := 0xD800 ≤ unit && unit < 0xDC00
def isLow (unit : Nat) : Bool := 0xDC00 ≤ unit && unit < 0xE000

def scalar? (unit : Nat) : Option Char :=
  if unit.isValidChar then some (Char.ofNat unit) else none

-- The text of a row of units. Two halves of a surrogate pair are one character, and a half without the
-- other is none.
def ofUnits? : List Nat → Option Text
  | [] => some []
  | [unit] => (scalar? unit).map ([·])
  | high :: low :: rest =>
    if isHigh high && isLow low then
      (ofUnits? rest).map (Char.ofNat (0x10000 + (high - 0xD800) * 0x400 + (low - 0xDC00)) :: ·)
    else do
      let c ← scalar? high
      let others ← ofUnits? (low :: rest)
      return c :: others

-- Where the first pass stands: between tokens, in a word without quotes, in quotes, after a backslash, or
-- in the four digits of a unit.
inductive Mode
  | between
  | word (run : Text)
  | quoted (units : List Nat)
  | escaped (units : List Nat)
  | coded (units : List Nat) (missing value : Nat)

def start (c : Char) : List Token × Mode :=
  match mark? c with
  | some token => ([token], .between)
  | none =>
    if c = '"' then ([], .quoted [])
    else if isSpace c then ([], .between)
    else ([], .word [c])

-- A word has no end of its own. The character after it is looked at again.
def Mode.step : Mode → Char → Option (List Token × Mode)
  | .between, c => some (start c)
  | .word run, c =>
    if endsWord c then (word? run).map fun tree => (.scalar tree :: (start c).1, (start c).2)
    else some ([], .word (run ++ [c]))
  | .quoted units, c =>
    if c = '"' then (ofUnits? units).map fun text => ([.scalar (.text text)], .between)
    else if c = '\\' then some ([], .escaped units)
    else if c.toNat < 0x20 then none
    else some ([], .quoted (units ++ [c.toNat]))
  | .escaped units, c =>
    if c = 'u' then some ([], .coded units 4 0)
    else (short? c).map fun unit => ([], .quoted (units ++ [unit]))
  | .coded units missing value, c =>
    (hexValue? c).map fun digit =>
      if missing ≤ 1 then ([], .quoted (units ++ [value * 16 + digit]))
      else ([], .coded units (missing - 1) (value * 16 + digit))

def Mode.finish : Mode → Option (List Token)
  | .between => some []
  | .word run => (word? run).map fun tree => [.scalar tree]
  | _ => none

def scan : Mode → Text → Option (List Token × Mode)
  | mode, [] => some ([], mode)
  | mode, c :: rest => do
    let (tokens, next) ← mode.step c
    let (later, last) ← scan next rest
    return (tokens ++ later, last)

inductive Frame
  | list (items : List Tree)
  | field (fields : List (Text × Tree)) (key : Text)

inductive Awaiting
  | value (outer : List Frame)
  | firstItem (outer : List Frame)
  | afterItem (items : List Tree) (outer : List Frame)
  | firstKey (outer : List Frame)
  | nextKey (fields : List (Text × Tree)) (outer : List Frame)
  | colon (fields : List (Text × Tree)) (key : Text) (outer : List Frame)
  | afterField (fields : List (Text × Tree)) (outer : List Frame)
  | nothing (tree : Tree)

def place (tree : Tree) : List Frame → Awaiting
  | [] => .nothing tree
  | .list items :: outer => .afterItem (items ++ [tree]) outer
  | .field fields key :: outer => .afterField (fields ++ [(key, tree)]) outer

def begin? (outer : List Frame) : Token → Option Awaiting
  | .scalar tree => some (place tree outer)
  | .openList => some (.firstItem outer)
  | .openObject => some (.firstKey outer)
  | _ => none

def Awaiting.step : Awaiting → Token → Option Awaiting
  | .value outer, token => begin? outer token
  | .firstItem outer, .closeList => some (place (.list []) outer)
  | .firstItem outer, token => begin? (.list [] :: outer) token
  | .afterItem items outer, .comma => some (.value (.list items :: outer))
  | .afterItem items outer, .closeList => some (place (.list items) outer)
  | .firstKey outer, .closeObject => some (place (.object []) outer)
  | .firstKey outer, .scalar (.text key) => some (.colon [] key outer)
  | .nextKey fields outer, .scalar (.text key) => some (.colon fields key outer)
  | .colon fields key outer, .colon => some (.value (.field fields key :: outer))
  | .afterField fields outer, .comma => some (.nextKey fields outer)
  | .afterField fields outer, .closeObject => some (place (.object fields) outer)
  | _, _ => none

def Awaiting.tree? : Awaiting → Option Tree
  | .nothing tree => some tree
  | _ => none

def read? (text : Text) : Option Tree := do
  let (tokens, last) ← scan .between text
  let ending ← last.finish
  let final ← (tokens ++ ending).foldlM Awaiting.step (.value [])
  final.tree?

theorem scan_append {mode middle last : Mode} {before after : Text} {tokens later : List Token}
    (first : scan mode before = some (tokens, middle)) (second : scan middle after = some (later, last)) :
    scan mode (before ++ after) = some (tokens ++ later, last) := by
  induction before generalizing mode tokens with
  | nil =>
    cases first
    exact second
  | cons c before ih =>
    simp only [scan, Option.bind_eq_bind, Option.bind_eq_some_iff, Prod.exists] at first
    obtain ⟨head, next, stepped, rest, final, scanned, joined⟩ := first
    cases joined
    simp only [List.cons_append, scan, stepped, ih scanned, Option.bind_eq_bind, Option.bind_some,
      List.append_assoc]
    rfl

section
variable {units : List Nat}

theorem hexValue?_digitChar : ∀ digit < 16, hexValue? (Nat.digitChar digit) = some digit := by
  decide

theorem scan_hex {n : Nat} (small : n < 0x10000) :
    scan (.coded units 4 0) (Text.hex 4 n) = some ([], .quoted (units ++ [n])) := by
  have digit : ∀ m : Nat, hexValue? (Nat.digitChar (m % 16)) = some (m % 16) :=
    fun m => hexValue?_digitChar (m % 16) (Nat.mod_lt m (by decide))
  have whole : ((n / 16 / 16 / 16 % 16 * 16 + n / 16 / 16 % 16) * 16 + n / 16 % 16) * 16 + n % 16 = n := by
    omega
  simpa [Text.hex, scan, Mode.step, digit] using whole

theorem scan_escapeUnit {unit : Nat} (small : unit < 0x10000) :
    scan (.quoted units) (escapeUnit unit) = some ([], .quoted (units ++ [unit])) := by
  have opened : scan (.quoted units) ['\\', 'u'] = some ([], .coded units 4 0) := by
    simp [scan, Mode.step]
  exact scan_append opened (scan_hex small)

end

def unitsOf (c : Char) : List Nat :=
  if c.toNat < 0x10000 then [c.toNat]
  else [0xD800 + (c.toNat - 0x10000) / 0x400, 0xDC00 + (c.toNat - 0x10000) % 0x400]

theorem toNat_lt (c : Char) : c.toNat < 0x110000 := by
  have valid : c.toNat < 0xD800 ∨ 0xDFFF < c.toNat ∧ c.toNat < 0x110000 := c.valid
  omega

theorem short?_some {letter : Char} {unit : Nat} (means : short? letter = some unit) :
    letter ≠ 'u' ∧ letter.toNat < 0x80 ∧ unit < 0x10000 := by
  unfold short? at means
  split at means
  all_goals cases means
  all_goals decide

inductive Escaped (c : Char) : Text → Prop
  | short {letter : Char} (means : short? letter = some c.toNat) : Escaped c ['\\', letter]
  | shown (visible : 0x20 ≤ c.toNat ∧ c.toNat < 0x7F) (unquoted : c ≠ '"') (unescaped : c ≠ '\\') :
      Escaped c [c]
  | unit (small : c.toNat < 0x10000) : Escaped c (escapeUnit c.toNat)
  | pair (large : ¬ c.toNat < 0x10000) :
      Escaped c (escapeUnit (0xD800 + (c.toNat - 0x10000) / 0x400) ++
        escapeUnit (0xDC00 + (c.toNat - 0x10000) % 0x400))

theorem escaped (c : Char) : Escaped c (escape c) := by
  unfold escape
  split
  · rename_i special
    rcases special with rfl | rfl
    · exact .short rfl
    · exact .short rfl
  iterate 5
    split
    · rename_i special
      subst special
      exact .short rfl
  split
  · rename_i plain _ _ _ _ _ visible
    exact .shown visible (fun quote => plain (.inl quote)) fun backslash => plain (.inr backslash)
  split
  · rename_i small
    exact .unit small
  · rename_i large
    exact .pair large

theorem scan_escape (units : List Nat) (c : Char) :
    scan (.quoted units) (escape c) = some ([], .quoted (units ++ unitsOf c)) := by
  have way := escaped c
  generalize escape c = written at way ⊢
  cases way with
  | short means =>
    obtain ⟨unit, -, small⟩ := short?_some means
    simp [scan, Mode.step, means, unit, unitsOf, small]
  | shown visible unquoted unescaped =>
    have small : c.toNat < 0x10000 := by omega
    have printed : ¬ c.toNat < 0x20 := by omega
    simp [scan, Mode.step, unquoted, unescaped, printed, unitsOf, small]
  | unit small =>
    rw [unitsOf, if_pos small]
    exact scan_escapeUnit small
  | pair large =>
    have bound := toNat_lt c
    have high : 0xD800 + (c.toNat - 0x10000) / 0x400 < 0x10000 := by omega
    have low : 0xDC00 + (c.toNat - 0x10000) % 0x400 < 0x10000 := by omega
    have both := scan_append (@scan_escapeUnit units _ high) (scan_escapeUnit low)
    rw [unitsOf, if_neg large]
    rwa [List.append_assoc] at both

theorem scan_escapes (units : List Nat) (text : Text) :
    scan (.quoted units) (text.flatMap escape) = some ([], .quoted (units ++ text.flatMap unitsOf)) := by
  induction text generalizing units with
  | nil => simp [scan]
  | cons c text ih =>
    have whole := scan_append (scan_escape units c) (ih (units ++ unitsOf c))
    rwa [List.append_assoc] at whole

theorem scalar?_toNat (c : Char) : scalar? c.toNat = some c := by
  have valid : c.toNat.isValidChar := c.valid
  rw [scalar?, if_pos valid, Char.ofNat_toNat]

theorem isHigh_toNat (c : Char) : isHigh c.toNat = false := by
  have valid : c.toNat < 0xD800 ∨ 0xDFFF < c.toNat ∧ c.toNat < 0x110000 := c.valid
  simp only [isHigh, Bool.and_eq_false_iff, decide_eq_false_iff_not]
  omega

theorem ofUnits?_unitsOf (text : Text) : ofUnits? (text.flatMap unitsOf) = some text := by
  induction text with
  | nil => rfl
  | cons c text ih =>
    rw [List.flatMap_cons]
    by_cases small : c.toNat < 0x10000
    · rw [unitsOf, if_pos small]
      cases rest : text.flatMap unitsOf with
      | nil =>
        rw [rest] at ih
        cases ih
        simp [ofUnits?, scalar?_toNat]
      | cons unit units =>
        rw [rest] at ih
        simp [ofUnits?, isHigh_toNat, scalar?_toNat, ih]
    · rw [unitsOf, if_neg small]
      have bound := toNat_lt c
      have high : isHigh (0xD800 + (c.toNat - 0x10000) / 0x400) = true := by
        simp only [isHigh, Bool.and_eq_true, decide_eq_true_iff]
        omega
      have low : isLow (0xDC00 + (c.toNat - 0x10000) % 0x400) = true := by
        simp only [isLow, Bool.and_eq_true, decide_eq_true_iff]
        omega
      have code : 0x10000 + (c.toNat - 0x10000) / 0x400 * 0x400 + (c.toNat - 0x10000) % 0x400 = c.toNat := by
        omega
      simp [ofUnits?, high, low, code, ih]

theorem scan_quoted (text : Text) :
    scan .between (quoted text) = some ([.scalar (.text text)], .between) := by
  have opened : scan .between ['"'] = some ([], .quoted []) := by simp [scan, Mode.step, start, mark?]
  have closed : scan (.quoted (text.flatMap unitsOf)) ['"'] =
      some ([.scalar (.text text)], .between) := by
    simp [scan, Mode.step, ofUnits?_unitsOf]
  exact scan_append (scan_append opened (scan_escapes [] text)) closed

end ProbeCheck.Json
