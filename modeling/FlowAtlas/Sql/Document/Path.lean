import FlowAtlas.Sql.Document.Binary

/-!
# Paths in documents

A path leads from a document to a part of it, by the names of members and the places of items. What is
looked for at a path (`Document.find`) comes with its place in the binary form. A change may also make
a part where none is (`Document.edit`).
-/

set_option autoImplicit false

namespace FlowAtlas
namespace Sql
namespace Document

/-! ## Paths -/

/-- A step of a path. -/
inductive PathStep
  | member (name : Lettering)
  | item (place : Nat)
  /-- An item by how many items stand from it on. -/
  | fromEnd (count : Nat)

/-- Why nothing is found at a path. -/
inductive PathFault
  | missing
  /-- It is not a path. -/
  | unfit
  deriving DecidableEq, Repr, Inhabited

/-- The number that digits tell, in 32 bits. -/
def placeOf (digits : Letters) : Nat :=
  digits.foldl (fun n c => (10 * n + (c.toNat - '0'.toNat)) % Nat.pow 2 32) 0

/-- What stands behind the end of a place. -/
def behindPlace? (s : PathStep) : Letters → Option (PathStep × Letters)
  | ']' :: rest => some (s, rest)
  | _ => none

/-- The place of an item, behind the letter that begins it. -/
def placeStep? (cs : Letters) : Option (PathStep × Letters) :=
  let digits := fun cs : Letters => cs.takeWhile Char.isDigit
  let rest := fun cs : Letters => cs.dropWhile Char.isDigit
  match cs with
  | '#' :: '-' :: more =>
    if (digits more).isEmpty then none
    else behindPlace? (.fromEnd (placeOf (digits more))) (rest more)
  | '#' :: more => behindPlace? (.fromEnd 0) more
  | cs => if (digits cs).isEmpty then none else behindPlace? (.item (placeOf (digits cs))) (rest cs)

/-- The first step of a path, and what follows. -/
def pathStep? : Letters → Option (PathStep × Letters)
  | '.' :: '"' :: rest =>
    let name := rest.takeWhile (· ≠ '"')
    let spelling := if name.contains '\\' then Spelling.extended else .raw
    match rest.dropWhile (· ≠ '"') with
    | _ :: rest => some (.member ⟨spelling, name⟩, rest)
    | [] => none
  | '.' :: rest =>
    let isPart := fun c => c ≠ '.' && c ≠ '['
    let name := rest.takeWhile isPart
    if name.isEmpty then none else some (.member ⟨.raw, name⟩, rest.dropWhile isPart)
  | '[' :: rest => placeStep? rest
  | _ => none

/-- The step that a path takes in a document, and what follows. Where there are no items, none is
looked for, whatever the path tells of its place. -/
def firstStep (d : Document) (path : Letters) : Except PathFault (PathStep × Letters) :=
  match pathStep? path, d with
  | some s, _ => .ok s
  | none, .array _ => .error .unfit
  | none, _ => .error (if path.head? = some '[' then .missing else .unfit)

/-! ## Parts -/

/-- A part of a document. -/
structure DocumentPart where
  document : Document
  /-- The text that names it, if it is a member. -/
  name : Option Lettering := none
  /-- How many letters stand before it in the binary form, without its name. -/
  offset : Nat := 0

namespace DocumentPart

/-- How many letters the name of a part fills, if it has one. -/
def nameSize (name : Option Lettering) : Nat := name.elim 0 fun t => headedSize t.letters.length

/-- How many letters stand before it and its name in the binary form. -/
def start (p : DocumentPart) : Nat := p.offset - nameSize p.name

/-- Its own parts with their names. -/
def named (p : DocumentPart) : List (Option Lettering × Document) :=
  match p.document with
  | .array items => items.map (none, ·)
  | .object members => members.map fun (t, d) => (some t, d)
  | _ => []

/-- The parts of a part. -/
def parts (p : DocumentPart) : List DocumentPart :=
  let step := fun ((done, place) : List DocumentPart × Nat)
      ((name, document) : Option Lettering × Document) =>
    let offset := place + nameSize name
    ({ document, name, offset } :: done, offset + document.size)
  let first := p.offset + (p.document.size - p.document.bodySize)
  ((p.named.foldl step ([], first)).1).reverse

end DocumentPart

/-- The part of a part at a path, at most so many steps away. -/
def findFrom : (fuel : Nat) → DocumentPart → Letters → Except PathFault DocumentPart
  | 0, _, _ => .error .unfit
  | _, p, [] => .ok p
  | fuel + 1, p, path => do
    let (s, rest) ← firstStep p.document path
    let found := match p.document, s with
      | .object _, .member t => p.parts.find? fun q => q.name.any (·.isSame t)
      | .array _, .item n => p.parts[n]?
      | .array items, .fromEnd n => if items.length < n then none else p.parts[items.length - n]?
      | _, _ => none
    match found with
    | some q => findFrom fuel q rest
    | none => .error .missing

/-- The part of a document at a path. -/
def find (d : Document) (path : Letters) : Except PathFault DocumentPart :=
  findFrom (path.length + 1) { document := d } path

/-! ## Changes -/

/-- A change of what is found at a path. -/
inductive Change
  | remove
  | replace (d : Document)
  /-- Put a part where none is. -/
  | insert (d : Document)
  /-- Put a part, whether there is one or not. -/
  | set (d : Document)

namespace Change

/-- What becomes of a part. -/
def applied : Change → Document → Option Document
  | remove, _ => none
  | replace d, _ | set d, _ => some d
  | insert _, d => some d

/-- Whether parts are made where none are. -/
def makes : Change → Bool
  | insert _ | set _ => true
  | remove | replace _ => false

end Change

/-- An item changed, or left out. -/
def withItem (items : List Document) (i : Nat) : Option Document → List Document
  | some d => items.set i d
  | none => items.eraseIdx i

/-- A member changed, or left out. -/
def withMember (members : List (Lettering × Document)) (i : Nat) :
    Option Document → List (Lettering × Document)
  | some d => members.modify i fun (t, _) => (t, d)
  | none => members.eraseIdx i

/-- What a document becomes by a change at a path, of at most so many steps. -/
def editFrom (c : Change) : (fuel : Nat) → Document → Letters → Except PathFault (Option Document)
  | 0, _, _ => .error .unfit
  | _, d, [] => .ok (c.applied d)
  | fuel + 1, d, path => do
    let (s, rest) ← firstStep d path
    let made := do
      if !c.makes then throw PathFault.missing
      let empty := if rest.head? = some '.' then object [] else array []
      match c, rest with
      | .insert d, [] => return d
      | c, rest => return (← editFrom c fuel empty rest).getD empty
    match d, s with
    | .object members, .member t =>
      match members.findIdx? (·.1.isSame t) with
      | some i =>
        let d := (members.getD i (t, null)).2
        return some (.object (withMember members i (← editFrom c fuel d rest)))
      | none => return some (.object (members ++ [(t, ← made)]))
    | .array items, s =>
      let i ← match s with
        | .item n => pure n
        | .fromEnd n => if items.length < n then throw .missing else pure (items.length - n)
        | .member _ => throw .missing
      match items[i]? with
      | some d => return some (.array (withItem items i (← editFrom c fuel d rest)))
      | none =>
        if items.length < i then throw .missing
        return some (.array (items ++ [← made]))
    | _, _ => throw .missing

/-- What a document becomes by a change at a path. Nothing is left of one that is removed. -/
def edit (c : Change) (d : Document) (path : Letters) : Except PathFault (Option Document) :=
  editFrom c (path.length + 1) d path

/-! ## Patches -/

mutual

/-- A document changed as another one tells: members of it are put in or merged, and those that are
nothing are left out. -/
def merged (d : Document) : Document → Document
  | .object patch =>
    .object (mergedMembers (match d with
      | .object members => members
      | _ => []) patch)
  | patch => patch

/-- Members changed as others tell. -/
def mergedMembers (members : List (Lettering × Document)) :
    List (Lettering × Document) → List (Lettering × Document)
  | [] => members
  | (t, patch) :: rest =>
    let place := members.findIdx? (·.1.isSame t)
    let old := (place.bind (members[·]?)).elim null (·.2)
    let new := merged old patch
    mergedMembers (match patch, place with
      | .null, some i => members.eraseIdx i
      | .null, none => members
      | _, some i => withMember members i (some new)
      | _, none => members ++ [(t, new)]) rest

end

end Document
end Sql
end FlowAtlas
