import PayloadRules.Text.Uppercase

/-!
# Message templates

A template is text with tokens: a colon and the longest name after it that
starts with an ASCII letter or underscore and goes on with letters, digits and
underscores. A token takes the value of the first parameter that it names. A
token may spell the name as it is, with its first letter in upper case, or all
in upper case, and the value is changed in the same way. A token that names no
parameter stays as it is.

The template is cut into pieces once and each piece is rendered by itself, so
what a value brings in is never read as a token.
-/

namespace PayloadRules

namespace Template

/-- A character of the text, or a token's name. -/
inductive Piece where
  | char (c : Char)
  | token (name : List Char)
deriving DecidableEq, Repr

/-! ## Cutting -/

def isNameStart (c : Char) : Bool := c.isAlpha || c == '_'

def isNameChar (c : Char) : Bool := c.isAlphanum || c == '_'

/-- What has been read and belongs to no piece yet. -/
inductive Pending where
  | text
  | colon
  | token (name : List Char)
deriving DecidableEq, Repr

/-- The pieces of a text that is read after something pending. -/
def piecesAfter : Pending → List Char → List Piece
  | .text, [] => []
  | .colon, [] => [.char ':']
  | .token name, [] => [.token name]
  | .text, c :: rest =>
    if c = ':' then piecesAfter .colon rest else .char c :: piecesAfter .text rest
  | .colon, c :: rest =>
    if isNameStart c then piecesAfter (.token [c]) rest
    else if c = ':' then .char ':' :: piecesAfter .colon rest
    else .char ':' :: .char c :: piecesAfter .text rest
  | .token name, c :: rest =>
    if isNameChar c then piecesAfter (.token (name ++ [c])) rest
    else if c = ':' then .token name :: piecesAfter .colon rest
    else .token name :: .char c :: piecesAfter .text rest

/-- The pieces of a template. -/
def pieces (template : List Char) : List Piece := piecesAfter .text template

/-! ## Rendering -/

/-- The value a token takes from one parameter, if the token names it. -/
def valueFrom? (token name value : List Char) : Option (List Char) :=
  if token = name then some value
  else if token = Text.upperFirst name then some (Text.upperFirst value)
  else if token = Text.upper name then some (Text.upper value)
  else none

/-- The value a token takes from the first parameter it names. -/
def value? (token : List Char) (params : List (String × String)) : Option (List Char) :=
  params.findSome? fun p => valueFrom? token p.1.toList p.2.toList

/-- The text of one piece. -/
def renderPiece (params : List (String × String)) : Piece → List Char
  | .char c => [c]
  | .token name => (value? name params).getD (':' :: name)

/-- The text of a template. -/
def renderChars (params : List (String × String)) (template : List Char) : List Char :=
  (pieces template).flatMap (renderPiece params)

/-- The text of a template. -/
def render (template : String) (params : List (String × String)) : String :=
  String.ofList (renderChars params template.toList)

end Template

end PayloadRules
