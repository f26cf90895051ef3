/-!
# Quoted fields

A list of texts is written as fields in double quotes with commas between them;
a quote inside a field is written twice, so fields may hold quotes, commas and
line breaks. `readFields?` accepts what `writeFields` produces and nothing else.
-/

namespace PayloadRules

namespace Text

/-- A field's characters with every quote doubled. -/
def doubleQuotes : List Char → List Char
  | [] => []
  | c :: rest => if c = '"' then '"' :: '"' :: doubleQuotes rest else c :: doubleQuotes rest

/-- One field in quotes. -/
def writeField (field : List Char) : List Char := '"' :: (doubleQuotes field ++ ['"'])

/-- The fields with commas between them; no fields give no text. -/
def writeFields (fields : List (List Char)) : List Char :=
  [','].intercalate (fields.map writeField)

/-- Reads on after an opening quote: the fields from the current one on, whose
characters so far are given last one first. -/
def readFrom? (current : List Char) : List Char → Option (List (List Char))
  | [] => none
  | ['"'] => some [current.reverse]
  | '"' :: '"' :: rest => readFrom? ('"' :: current) rest
  | '"' :: ',' :: '"' :: rest => (readFrom? [] rest).map (current.reverse :: ·)
  | c :: rest => if c = '"' then none else readFrom? (c :: current) rest

/-- The fields that a text spells. -/
def readFields? : List Char → Option (List (List Char))
  | [] => some []
  | '"' :: rest => readFrom? [] rest
  | _ :: _ => none

end Text

end PayloadRules
