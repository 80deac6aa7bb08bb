import ProbeCheck.Text.Quoted
import ProbeCheck.Numeral
import ProbeCheck.Utf8

namespace ProbeCheck

-- A decimal fraction in lowest form: `mantissa / 10 ^ places`, never a whole number. A floating-point
-- number is the shortest fraction that is read as it; whole numbers, the infinities and NaN are left
-- out, and of these NaN would not even be equal to itself.
structure Fraction where
  mantissa : Int
  places : Nat
  lowest : mantissa % 10 ≠ 0
  fractional : 0 < places
deriving DecidableEq

inductive Datum
  | null
  | truth (value : Bool)
  | integer (value : Int)
  | fraction (value : Fraction)
  | text (value : Text)
  | bytes (value : Bytes)
  | list (items : List Datum)
  | dict (entries : List (Text × Datum))

namespace Fraction

def pointed (f : Fraction) : Text :=
  let size := f.mantissa.natAbs
  let scale := Nat.pow 10 f.places
  Numeral.digits (size / scale) ++ '.' :: Numeral.padded f.places (size % scale)

def scientific (f : Fraction) : Text :=
  let digits := Numeral.digits f.mantissa.natAbs
  let places := if digits.length = 1 then [] else '.' :: digits.drop 1
  digits.take 1 ++ places ++ 'e' :: '-' :: Numeral.padded 2 (f.places + 1 - digits.length)

-- Point notation, unless four or more zeros would follow the point.
def unsigned (f : Fraction) : Text :=
  if (Numeral.digits f.mantissa.natAbs).length + 4 ≤ f.places then f.scientific else f.pointed

def numeral (f : Fraction) : Text :=
  (if f.mantissa < 0 then ['-'] else []) ++ f.unsigned

example : numeral ⟨-12, 5, by decide, by decide⟩ = "-0.00012".toList := by decide +kernel
example : numeral ⟨-12, 6, by decide, by decide⟩ = "-1.2e-05".toList := by decide +kernel

end Fraction

namespace Datum

def typeName : Datum → Text
  | .null => "NoneType"
  | .truth _ => "bool"
  | .integer _ => "int"
  | .fraction _ => "float"
  | .text _ => "str"
  | .bytes _ => "bytes"
  | .list _ => "list"
  | .dict _ => "dict"

mutual
def literal? : Datum → Except Numeral.Fault Text
  | .null => .ok "None"
  | .truth true => .ok "True"
  | .truth false => .ok "False"
  | .integer n => Numeral.write? n
  | .fraction f => .ok f.numeral
  | .text t => .ok (Text.quoted t)
  | .bytes b => .ok (Text.quotedBytes b)
  | .list items => (literals? items).map fun parts => '[' :: Text.join ", " parts ++ [']']
  | .dict entries =>
    (entryLiterals? entries).map fun parts => '\x7b' :: Text.join ", " parts ++ ['\x7d']

def literals? : List Datum → Except Numeral.Fault (List Text)
  | [] => .ok []
  | item :: rest => do
    let first ← literal? item
    let others ← literals? rest
    return first :: others

def entryLiterals? : List (Text × Datum) → Except Numeral.Fault (List Text)
  | [] => .ok []
  | (key, value) :: rest => do
    let first ← literal? value
    let others ← entryLiterals? rest
    return (Text.quoted key ++ ": " ++ first) :: others
end

def integer? : Datum → Option Int
  | .truth value => some (if value then 1 else 0)
  | .integer value => some value
  | _ => none

-- Equality of values. Entries are compared by key, whatever their order.
mutual
def same : Datum → Datum → Bool
  | .null, .null => true
  | .fraction f, .fraction g => f = g
  | .text t, .text u => t = u
  | .bytes b, .bytes c => b = c
  | .list items, .list others => sameItems items others
  | .dict entries, .dict others => entries.length = others.length && sameEntries entries others
  | .truth value, other => other.integer? = some (if value then 1 else 0)
  | .integer value, other => other.integer? = some value
  | _, _ => false

def sameItems : List Datum → List Datum → Bool
  | [], [] => true
  | item :: rest, other :: others => same item other && sameItems rest others
  | _, _ => false

def sameEntries : List (Text × Datum) → List (Text × Datum) → Bool
  | [], _ => true
  | (key, value) :: rest, others =>
    (match others.lookup key with
      | some other => same value other
      | none => false) && sameEntries rest others
end

end Datum
end ProbeCheck
