namespace ProbeCheck

abbrev Text := List Char

namespace Text

-- A string literal as a text. It is opened by its lemma and not by evaluation, so that a definition
-- with a literal in each of its cases stays cheap to unfold.
@[irreducible] def ofString (string : String) : Text := string.toList

@[simp] theorem ofString_eq (string : String) : ofString string = string.toList := by
  unfold ofString; rfl

instance : Coe String Text := ⟨ofString⟩

def has (part : Text) : Text → Bool
  | [] => part.isEmpty
  | c :: rest => part.isPrefixOf (c :: rest) || has part rest

-- What follows the last place where `separator` stands, if it stands anywhere.
-- Later places replace earlier ones, so overlapping places are decided by the rightmost.
def afterLast? (separator text : Text) : Option Text :=
  go text none
where
  go : Text → Option Text → Option Text
    | [], found => found
    | c :: rest, found =>
      go rest (if separator.isPrefixOf (c :: rest) then some ((c :: rest).drop separator.length)
        else found)

def join (separator : Text) (parts : List Text) : Text :=
  separator.intercalate parts

def toString (text : Text) : String := String.ofList text

end Text
end ProbeCheck
