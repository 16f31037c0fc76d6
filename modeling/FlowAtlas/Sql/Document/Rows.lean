import FlowAtlas.Sql.Document.Function

/-!
# Rows of documents

`DocumentTable.rows` gives a row for each part of a document: for the items or members of it, or for
all that is in it, however deep.
-/

set_option autoImplicit false

namespace FlowAtlas
namespace Sql

open Database (Value Encoding)

/-- A function whose value is a table of the parts of a document. -/
inductive DocumentTable
  /-- Of its own items or members. -/
  | each
  /-- Of the document and all that is in it. -/
  | tree
  deriving DecidableEq, Repr, Inhabited

namespace DocumentTable

open Document

/-- The table of a name. -/
def ofName? (name : String) : Option DocumentTable :=
  match name.toLower with
  | "json_each" => some each
  | "json_tree" => some tree
  | _ => none

/-- The name of the function. -/
def name : DocumentTable → String
  | each => "json_each"
  | tree => "json_tree"

/-- The names of the columns. -/
def columns : List String := ["key", "value", "type", "atom", "id", "parent", "fullkey", "path"]

/-- The columns that are told only by name: the document and the path to where the rows begin. -/
def givenColumns : List String := ["json", "root"]

/-- The number of the column that has the values. -/
def valueColumn : Nat := 1

/-- The number of the column, which has no name, that has the values as parts of documents. -/
def partColumn : Nat := (columns ++ givenColumns).length

/-- A part of a document in a table. -/
structure TablePart where
  part : DocumentPart
  key : Value := .null
  /-- The number of the part that it belongs to. -/
  parent : Value := .null
  fullPath : Letters
  path : Letters

variable (e : Encoding)

/-- The step to a member. A name that is not a word stands in quotation marks. -/
def memberStep (name : Lettering) : Letters :=
  if name.letters.head?.any Char.isAlpha && name.letters.all Char.isAlphanum then '.' :: name.letters
  else '.' :: '"' :: (name.letters ++ ['"'])

/-- The step to an item. -/
def itemStep (place : Nat) : Letters := '[' :: (Nat.toDigits 10 place ++ [']'])

/-- The parts of a part that is found at a path, with the number of the part itself if it is told. -/
def partsAt (parent : Value) (p : DocumentPart) (path : Letters) : List TablePart :=
  p.parts.zipIdx.map fun (q, i) =>
    match q.name with
    | some t => ⟨q, textValue e t.decoded, parent, path ++ memberStep t, path⟩
    | none => ⟨q, .integer i, parent, path ++ itemStep i, path⟩

/-- A part and all parts that are in it, so many levels deep. -/
def within : (fuel : Nat) → TablePart → List TablePart
  | 0, t => [t]
  | fuel + 1, t =>
    t :: (partsAt e (.integer t.part.start) t.part t.fullPath).flatMap (within fuel)

/-- How far a path leads to the document that the first part of it is found in, if that is told. Only
the first item or member of a document is known to be in it. -/
def parentPath (d : Document) (p : DocumentPart) (path : Letters) : Letters :=
  let ends := ((List.range path.length).reverse.filter fun n =>
    0 < n && (path[n]? = some '[' || path[n]? = some '.'))
  let isParent := fun n =>
    match find d ((path.take n).drop 1) with
    | .ok q => (q.parts.head?.any fun first => first.start = p.start)
    | .error _ => false
  path.take ((ends.find? isParent).getD (min 1 path.length))

/-- The value that the last step of a path tells. -/
def keyOf (step : Letters) : Value :=
  match step with
  | [] => .null
  | '[' :: rest => .integer (NumberText.clamp (NumberText.ofChars rest).wholeValue)
  | '.' :: '"' :: rest => textValue e rest.dropLast
  | _ :: rest => textValue e rest

/-- The parts that the table tells of a document, from where a path leads on. -/
def parts (t : DocumentTable) (d : Document) (p : DocumentPart) (path : Letters) :
    List TablePart :=
  match t with
  | each =>
    if p.document.isContainer then partsAt e .null p path
    else [{ part := p, fullPath := path, path }]
  | tree =>
    let parent := parentPath d p path
    let key := if path.length = 1 then .null else keyOf e (path.drop parent.length)
    within e (depthLimit + 1) { part := p, key, fullPath := path, path := parent }

/-- The values of a row, where the binary form of all of the document is given. -/
def rowOf (given root : Value) (binary : Letters) (t : TablePart) :
    Except SqlError (List Value) := do
  let d := t.part.document
  let v ← d.value e false
  return [t.key, v, Texts.ofString e d.typeName, if d.isContainer then .null else v,
    .integer t.part.start, t.parent, textValue e t.fullPath, textValue e t.path, given, root,
    if d.isContainer then bytesValue ((binary.drop t.part.offset).take d.size) else v]

/-- The rows that the table tells, for a value that holds a document and a path, if they are given. -/
def rows (t : DocumentTable) (args : List Value) : Except SqlError (List (List Value)) := do
  match args with
  | [] | .null :: _ | [_, .null] => return []
  | given :: more =>
    let d ← ofPresent e given
    let path := more.head?.elim ['$'] (letters e)
    let steps ← behindRoot path
    match find d steps with
    | .error .missing => return []
    | .error .unfit => throw (badPath path)
    | .ok p =>
      (t.parts e d p path).mapM (rowOf e given (textValue e path) d.binary)

end DocumentTable
end Sql
end FlowAtlas
