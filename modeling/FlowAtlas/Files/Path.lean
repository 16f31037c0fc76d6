/-!
# Paths

A path is a text in which slashes separate names. The functions here work on the text alone and
never look at files.
-/

set_option autoImplicit false

namespace FlowAtlas
namespace Path

/-- Whether a path starts at the root of the file system. -/
def isAbsolute (p : String) : Bool := p.toList.head? == some '/'

/-- Continue a path by another one. An absolute path replaces what it should continue. -/
def join (p q : String) : String :=
  if isAbsolute q then q
  else if p.isEmpty || p.toList.getLast? == some '/' then p ++ q
  else p ++ "/" ++ q

/-- The names in a path, without empty ones and without the name of the current directory, which
counts only at the head of a relative path. -/
def names (p : String) : List String :=
  let pieces := (p.toList.splitOn '/').map String.ofList
  let kept := pieces.drop 1 |>.filter fun s => s != "" && s != "."
  match pieces with
  | "" :: _ => kept
  | first :: _ => first :: kept
  | [] => []

/-- The last name of a path, if it is the name of a file or directory. -/
def fileName? (p : String) : Option String :=
  match (names p).getLast? with
  | some name => if name == ".." || name == "." then none else some name
  | none => none

/-- Split a file name at its last dot, unless that dot comes first: the stem, and what follows. The
name of the parent directory has no extension. -/
def splitExtension {α : Type} [BEq α] (dot : α) (name : List α) : List α × Option (List α) :=
  let last := name.reverse.takeWhile (· != dot)
  match name.reverse.drop last.length with
  | _ :: stem@(_ :: _) =>
    if name == [dot, dot] then (name, none) else (stem.reverse, some last.reverse)
  | _ => (name, none)

/-- What remains of a path below another one. -/
def strip? (root p : String) : Option String :=
  if isAbsolute root == isAbsolute p && (names root).isPrefixOf (names p) then
    some ("/".intercalate ((names p).drop (names root).length))
  else none

end Path
end FlowAtlas
