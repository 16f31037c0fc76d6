import FlowAtlas.Files.System

/-!
# Files in memory

A `FileTree` is a directory with all that is below it, and a `Place` adds the current directory and
the time, so that computations on files are functions from one `Place` to another.

What was put into a tree is found there (`FileTree.find?_put_self`), and what stands elsewhere is
left alone (`FileTree.find?_put_of_not_prefix`).
-/

set_option autoImplicit false

namespace FlowAtlas

/-- The names that lead to a file or directory from the root. -/
abbrev Location := List Bytes

/-- A file, or a directory with what its names stand for. -/
inductive FileTree
  | file (contents : Bytes)
  | directory (entries : List (Bytes × FileTree))

namespace FileTree

/-- A directory without entries. -/
def empty : FileTree := directory []

instance : Inhabited FileTree := ⟨empty⟩

/-- Whether this is a file or a directory. -/
def kind : FileTree → FileKind
  | file _ => .file
  | directory _ => .directory

/-- What stands at a location. -/
def find? : FileTree → Location → Option FileTree
  | t, [] => some t
  | file _, _ :: _ => none
  | directory entries, name :: l => (entries.lookup name).bind fun t => find? t l

/-- Put a file or directory at a location. Nothing changes where the directory for it is not
there. -/
def put : FileTree → Location → FileTree → FileTree
  | _, [], new => new
  | file contents, _ :: _, _ => file contents
  | directory entries, name :: l, new =>
    match entries.lookup name, l with
    | none, _ :: _ => directory entries
    | none, [] => directory ((name, new) :: entries)
    | some t, l => directory ((name, put t l new) :: entries.filter (·.1 != name))

/-- Take away what stands at a location, with everything below it. The root stays. -/
def remove : FileTree → Location → FileTree
  | t, [] => t
  | file contents, _ => file contents
  | directory entries, [name] => directory (entries.filter (·.1 != name))
  | directory entries, name :: next :: l =>
    directory (entries.map fun e => if e.1 == name then (e.1, remove e.2 (next :: l)) else e)

/-! ## What is found after a change -/

@[simp] theorem find?_nil (t : FileTree) : t.find? [] = some t := by cases t <;> rfl

@[simp] theorem find?_directory_cons (entries : List (Bytes × FileTree)) (name : Bytes)
    (l : Location) :
    (directory entries).find? (name :: l) = (entries.lookup name).bind fun t => t.find? l := rfl

/-- What was put is found, if there is a directory for it. -/
theorem find?_put_self {t : FileTree} {l : Location} (new : FileTree)
    (h : l = [] ∨ ∃ entries, t.find? l.dropLast = some (directory entries)) :
    (t.put l new).find? l = some new := by
  induction l generalizing t with
  | nil => cases t <;> simp [put]
  | cons name l ih =>
    cases t with
    | file contents => cases l <;> simp [find?] at h
    | directory entries =>
      cases hl : entries.lookup name with
      | none =>
        cases l with
        | nil => simp [put, hl]
        | cons next l => simp [hl] at h
      | some t =>
        have ih := ih (t := t) (by
          cases l with
          | nil => exact .inl rfl
          | cons next l => simpa [hl] using h)
        simpa [put, hl] using ih

/-- The entries of other names stay when those of one name go. -/
theorem lookup_filter_ne (entries : List (Bytes × FileTree)) {name other : Bytes}
    (h : other ≠ name) :
    (entries.filter (·.1 != name)).lookup other = entries.lookup other := by
  induction entries with
  | nil => rfl
  | cons e entries ih =>
    obtain ⟨key, t⟩ := e
    by_cases hk : key = name
    · subst hk
      simp [List.lookup_cons, ih, beq_eq_false_iff_ne.2 h]
    · simp [List.lookup_cons, hk, ih]

/-- What stands elsewhere is left alone. -/
theorem find?_put_of_not_prefix {t : FileTree} {l k : Location} (new : FileTree)
    (hl : ¬l <+: k) (hk : ¬k <+: l) : (t.put l new).find? k = t.find? k := by
  induction l generalizing t k with
  | nil => exact absurd (List.nil_prefix) hl
  | cons name l ih =>
    cases k with
    | nil => exact absurd (List.nil_prefix) hk
    | cons other k =>
      cases t with
      | file contents => rfl
      | directory entries =>
        by_cases hn : other = name
        · subst hn
          have hl' : ¬l <+: k := fun h => hl (List.cons_prefix_cons.2 ⟨rfl, h⟩)
          have hk' : ¬k <+: l := fun h => hk (List.cons_prefix_cons.2 ⟨rfl, h⟩)
          cases hf : entries.lookup other with
          | none =>
            cases l with
            | nil => exact absurd List.nil_prefix hl'
            | cons next l => simp [put, hf]
          | some t => simp [put, hf, ih hl' hk']
        · have hb := beq_eq_false_iff_ne.2 hn
          cases hf : entries.lookup name with
          | none => cases l <;> simp [put, hf, List.lookup_cons, hb]
          | some t => simp [put, hf, List.lookup_cons, hb, lookup_filter_ne entries hn]

/-! ## From paths to locations -/

/-- No name is longer than this. -/
def nameLimit : Nat := 255

/-- Every path is shorter than this. -/
def pathLimit : Nat := 4096

/-- The name of a directory in itself. -/
def here : Bytes := [0x2e]

/-- The name of the directory above in a directory. -/
def above : Bytes := [0x2e, 0x2e]

/-- The names in a path, between its slashes. -/
def pieces (path : String) : List Bytes :=
  ((Bytes.ofText path).splitOn 0x2f).filter (!·.isEmpty)

/-- Refuse what is no path. -/
def checkPath (path : String) : Except FileError Unit :=
  if path.toList.contains '\x00' then .error .invalidName
  else if pathLimit ≤ path.utf8ByteSize then .error .nameTooLong
  else .ok ()

/-- Go from a directory along pieces. All but the last must lead to directories. -/
def walk (t : FileTree) : Location → List Bytes → Except FileError Location
  | l, [] => .ok l
  | l, piece :: rest =>
    match t.find? l with
    | none => .error .notFound
    | some (file _) => .error .notADirectory
    | some (directory _) =>
      if nameLimit < piece.length then .error .nameTooLong
      else if piece = here then walk t l rest
      else if piece = above then walk t l.dropLast rest
      else walk t (l ++ [piece]) rest

/-- Where the pieces of a path start, seen from a directory. -/
def start (current : Location) (path : String) : Location :=
  if path.toList.head? == some '/' then [] else current

/-- The location of a path, seen from a directory. A slash at the end asks for a directory. -/
def locate (t : FileTree) (current : Location) (path : String) : Except FileError Location := do
  checkPath path
  if path.isEmpty then .error .notFound
  else
    let asked := if path.toList.getLast? == some '/' then [here] else []
    t.walk (start current path) (pieces path ++ asked)

/-- The absolute path of a location. Names that are no text show as empty. -/
def path (l : Location) : String :=
  if l.isEmpty then "/" else String.join (l.map fun name => "/" ++ (name.text?).getD "")

/-! ## Operations -/

/-- The contents of the file at a location. -/
def read (t : FileTree) (l : Location) : Except FileError Bytes :=
  match t.find? l with
  | none => .error .notFound
  | some (directory _) => .error .isADirectory
  | some (file bs) => .ok bs

/-- The names in the directory at a location. -/
def names (t : FileTree) (l : Location) : Except FileError (List Bytes) :=
  match t.find? l with
  | none => .error .notFound
  | some (file _) => .error .notADirectory
  | some (directory entries) => .ok (entries.map (·.1))

/-- Give the file at a location new contents. -/
def write (t : FileTree) (l : Location) (bs : Bytes) : Except FileError FileTree :=
  match t.find? l, t.find? l.dropLast with
  | some (directory _), _ => .error .isADirectory
  | _, some (directory _) => .ok (t.put l (file bs))
  | _, _ => .error .notFound

/-- Make the missing directories along pieces, from a directory on. The answer is what the tree
becomes, also when that fails half way. A file in the way is told apart by whether anything was
made before, or is asked for behind it. -/
def makeAlong (made : Bool) (t : FileTree) :
    Location → List Bytes → FileTree × Except FileError Unit
  | _, [] => (t, .ok ())
  | l, piece :: rest =>
    if piece = here then makeAlong made t l rest
    else if piece = above then makeAlong made t l.dropLast rest
    else if nameLimit < piece.length then (t, .error .nameTooLong)
    else
      let next := l ++ [piece]
      match t.find? next with
      | some (directory _) => makeAlong made t next rest
      | some (file _) =>
        (t, .error (if made || rest.isEmpty then .alreadyExists else .notADirectory))
      | none => makeAlong true (t.put next empty) next rest

/-- Make a directory and every missing one above it. A name of the directory in itself at the end
of the pieces does not name a directory that could be made, so only those above it are. -/
def makeDirs (t : FileTree) (l : Location) (pieces : List Bytes) :
    FileTree × Except FileError Unit :=
  if pieces.getLast? = some here then
    let named := (pieces.reverse.dropWhile (· == here)).reverse
    let entered := fun (t : FileTree) => (t.walk l (named ++ [here])).map fun _ => ()
    match entered t with
    | .error .notFound =>
      match makeAlong false t l named.dropLast with
      | (t, .ok ()) => (t, entered t)
      | failed => failed
    | found => (t, found)
  else makeAlong false t l pieces

end FileTree

/-! ## Computations on files -/

/-- Files, the current directory, and the time. -/
structure Place where
  tree : FileTree := .empty
  current : Location := []
  time : String := ""
  deriving Inhabited

namespace Place

/-- Where a path leads. -/
def locate (w : Place) (path : String) : Except FileError Location := w.tree.locate w.current path

/-- Change the files, or leave them when that fails. -/
def change (f : Place → Except FileError FileTree) :
    StateM Place (Except FileError Unit) := fun w =>
  match f w with
  | .ok tree => (.ok (), { w with tree })
  | .error e => (.error e, w)

instance : FileSystem (StateM Place) where
  kind? path := fun w =>
    (((w.locate path).toOption.bind w.tree.find?).map FileTree.kind, w)
  read path := fun w => (w.locate path >>= w.tree.read, w)
  write path bs := change fun w => do w.tree.write (← w.locate path) bs
  remove path := change fun w => do
    let l ← w.locate path
    let _ ← w.tree.read l
    return w.tree.remove l
  makeDirs path := fun w =>
    match FileTree.checkPath path with
    | .error e => (.error e, w)
    | .ok () =>
      let (tree, result) := w.tree.makeDirs (FileTree.start w.current path) (FileTree.pieces path)
      (result, { w with tree })
  entries path := fun w => (w.locate path >>= w.tree.names, w)
  readEntry path name := fun w => (do w.tree.read ((← w.locate path) ++ [name]), w)
  canonical path := fun w =>
    let found := do
      let l ← w.locate path
      match w.tree.find? l with
      | none => .error .notFound
      | some _ => .ok (FileTree.path l)
    (found, w)
  currentDir := fun w => (FileTree.path w.current, w)

instance : Clock (StateM Place) where
  now := fun w => (w.time, w)

end Place
end FlowAtlas
