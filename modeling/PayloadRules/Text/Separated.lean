/-!
# Separated text

A text is split at every occurrence of a separator character, so there is one
part more than there are separators, and joining the parts gives the text back.
-/

namespace PayloadRules

namespace Text

/-- The parts of a text between the separators. -/
def splitAt (separator : Char) : List Char → List (List Char)
  | [] => [[]]
  | c :: rest =>
    if c = separator then [] :: splitAt separator rest
    else match splitAt separator rest with
      | [] => [[c]]
      | part :: parts => (c :: part) :: parts

/-- The parts of a string between the separators. -/
def split (separator : Char) (text : String) : List String :=
  (splitAt separator text.toList).map String.ofList

end Text

end PayloadRules
