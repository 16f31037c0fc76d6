import FlowAtlas.Json.Record
import FlowAtlas.Json.Text

/-!
# Stored values

A type whose values can be stored is written as a JSON value and read back from one. `Stored.text`
and `Stored.ofText?` go all the way to text.
-/

set_option autoImplicit false

namespace FlowAtlas

/-- How the values of a type are stored. -/
class Stored (α : Type) where
  /-- Write a value. -/
  toJson : α → Json
  /-- Read a value. -/
  ofJson? : Json → Option α

namespace Stored

variable {α : Type} [Stored α]

/-- The text in which a value is stored. -/
def text (a : α) : String := (toJson a).compact

/-- The value that a text stores. -/
def ofText? (text : String) : Option α := Json.ofText? text >>= ofJson?

end Stored
end FlowAtlas
