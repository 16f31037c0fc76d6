/-!
# Values of the JSON data model

`Json` is a document as a tree. Numbers keep what the library needs of them: a whole number is its
value, any other number stays as it is written. A string is a list of characters in which half of a
surrogate pair may stand alone; such a string is a value, but it has no text.
-/

set_option autoImplicit false

namespace FlowAtlas

/-- The characters of a string, with `none` for half of a surrogate pair. -/
abbrev JsonText := List (Option Char)

namespace JsonText

/-- The string of a text. -/
def ofString (s : String) : JsonText := s.toList.map some

/-- The text of a string in which no half of a surrogate pair stands alone. -/
def string? (t : JsonText) : Option String := (t.mapM id).map String.ofList

end JsonText

/-- A value of the JSON data model. -/
inductive Json
  | null
  | bool (value : Bool)
  /-- A number written without fraction and exponent, other than negative zero. -/
  | integer (value : Int)
  /-- Any other number, as it is written. -/
  | real (lexeme : List Char)
  | string (text : JsonText)
  | array (items : List Json)
  | object (members : List (JsonText × Json))
  deriving Repr, Inhabited

namespace Json

/-- The string value of a text. -/
def ofString (s : String) : Json := string (.ofString s)

/-- The value of a natural number. -/
def ofNat (n : Nat) : Json := integer n

/-- An object with the given members, in this order. -/
def record (members : List (String × Json)) : Json :=
  object (members.map fun m => (.ofString m.1, m.2))

/-- The value of something that may be missing. -/
def ofOption {α : Type} (f : α → Json) : Option α → Json
  | some a => f a
  | none => null

/-- The member of a record that is left out when its value is missing. -/
def optional {α : Type} (name : String) (f : α → Json) : Option α → List (String × Json)
  | some a => [(name, f a)]
  | none => []

end Json
end FlowAtlas
