import FlowAtlas.Files.Tree
import FlowAtlas.Load.Files
import FlowAtlas.Proofs.Files.Goals
import FlowAtlas.Proofs.Stateful

/-!
# Files that were written are read back

A file can be written at a path that leads into a directory, unless a directory stands there itself
(`Place.writable_iff`).  Writing it leaves all directories where they are, so that every other path
leads where it led before.

`Place.exists_writeFiles` is the main theorem: files that can be written, at paths that lead to
different locations, are all written, and hold what was written into them in the end.
-/

set_option autoImplicit false

namespace FlowAtlas

/-! ## Trees -/

namespace FileTree

variable {t t' x : FileTree} {l k current : Location} {ps : List Bytes} {name other bs : Bytes}
  {entries : List (Bytes × FileTree)} {path : String}

/-- A directory stands at the location. -/
def IsDirectory (t : FileTree) (l : Location) : Prop :=
  ∃ entries, t.find? l = some (directory entries)

/-- There is a directory for a file at the location, and no directory in its place. -/
structure HasRoom (t : FileTree) (l : Location) : Prop where
  above : t.IsDirectory l.dropLast
  free : ¬t.IsDirectory l

theorem not_isDirectory_file : ¬(file bs).IsDirectory l := by
  rintro ⟨entries, h⟩
  cases l with
  | nil => cases h
  | cons name l => cases h

/-- Whatever stands at a location, directories lead there. -/
theorem isDirectory_of_find? (h : t.find? k = some x) (hl : l <+: k) (hne : l ≠ k) :
    t.IsDirectory l := by
  induction l generalizing t k with
  | nil =>
    cases t with
    | directory entries => exact ⟨entries, find?_nil _⟩
    | file contents =>
      cases k with
      | nil => exact absurd rfl hne
      | cons name k => cases h
  | cons name l ih =>
    obtain ⟨rest, rfl⟩ := hl
    cases t with
    | file contents => cases h
    | directory entries =>
      rw [List.cons_append, find?_directory_cons] at h
      obtain ⟨t, ht, h⟩ := Option.bind_eq_some_iff.1 h
      obtain ⟨below, hbelow⟩ := ih h (List.prefix_append l rest) fun heq => hne (congrArg _ heq)
      exact ⟨below, by rw [find?_directory_cons, ht, Option.bind_some, hbelow]⟩

theorem IsDirectory.of_prefix (h : t.IsDirectory k) (hl : l <+: k) : t.IsDirectory l := by
  obtain ⟨entries, hk⟩ := h
  by_cases heq : l = k
  · exact ⟨entries, heq ▸ hk⟩
  · exact isDirectory_of_find? hk hl heq

/-- Directories lead to where there is room. -/
theorem HasRoom.isDirectory (h : t.HasRoom l) (hk : k <+: l) (hne : k ≠ l) : t.IsDirectory k := by
  rcases List.eq_nil_or_concat l with rfl | ⟨above, name, rfl⟩
  · exact absurd (List.prefix_nil.1 hk) hne
  · have habove := h.above
    rw [List.concat_eq_append] at hk hne habove
    rw [List.dropLast_concat] at habove
    exact habove.of_prefix ((List.prefix_concat_iff.1 hk).resolve_left hne)

/-- Of two locations with room for a file, none is above the other. -/
theorem HasRoom.not_prefix (hl : t.HasRoom l) (hk : t.HasRoom k) (hne : l ≠ k) : ¬l <+: k :=
  fun hprefix => hl.free (hk.isDirectory hprefix hne)

theorem exists_put_cons (entries : List (Bytes × FileTree)) (name : Bytes) (l : Location)
    (new : FileTree) : ∃ found, (directory entries).put (name :: l) new = directory found := by
  cases hname : entries.lookup name with
  | some t => simp [FileTree.put, hname]
  | none => cases l <;> simp [FileTree.put, hname]

theorem find?_put_cons_self (new : FileTree) (hname : entries.lookup name = some t) :
    ((directory entries).put (name :: l) new).find? (name :: k) = (t.put l new).find? k := by
  simp [FileTree.put, hname]

theorem find?_put_cons_of_ne (new : FileTree) (hne : other ≠ name) :
    ((directory entries).put (name :: l) new).find? (other :: k) =
      (directory entries).find? (other :: k) := by
  have hb := beq_eq_false_iff_ne.2 hne
  cases hname : entries.lookup name with
  | none => cases l <;> simp [FileTree.put, hname, List.lookup_cons, hb]
  | some t => simp [FileTree.put, hname, List.lookup_cons, hb, lookup_filter_ne entries hne]

/-- Directories stay when a file is put where none of them is. -/
theorem IsDirectory.put (hk : t.IsDirectory k) (hl : ¬t.IsDirectory l) :
    (t.put l (file bs)).IsDirectory k := by
  induction l generalizing t k with
  | nil =>
    cases t with
    | file contents => exact absurd hk not_isDirectory_file
    | directory entries => exact absurd ⟨entries, find?_nil _⟩ hl
  | cons name l ih =>
    cases t with
    | file contents => exact absurd hk not_isDirectory_file
    | directory entries =>
      cases k with
      | nil =>
        obtain ⟨found, hput⟩ := exists_put_cons entries name l (file bs)
        exact ⟨found, by rw [hput, find?_nil]⟩
      | cons other k =>
        by_cases hne : other = name
        · subst hne
          obtain ⟨found, hk⟩ := hk
          rw [find?_directory_cons] at hk
          obtain ⟨t, ht, hk⟩ := Option.bind_eq_some_iff.1 hk
          have hl : ¬t.IsDirectory l := by
            rintro ⟨below, hbelow⟩
            exact hl ⟨below, by rw [find?_directory_cons, ht, Option.bind_some, hbelow]⟩
          rw [IsDirectory, find?_put_cons_self _ ht]
          exact ih ⟨found, hk⟩ hl
        · rw [IsDirectory, find?_put_cons_of_ne _ hne]
          exact hk

theorem HasRoom.find?_put_self (hl : t.HasRoom l) :
    (t.put l (file bs)).find? l = some (file bs) := FileTree.find?_put_self _ (Or.inr hl.above)

theorem HasRoom.find?_put (hl : t.HasRoom l) (hk : t.HasRoom k) (hne : l ≠ k) :
    (t.put l (file bs)).find? k = t.find? k :=
  find?_put_of_not_prefix _ (hl.not_prefix hk hne) (hk.not_prefix hl hne.symm)

/-- There is room where there was room. -/
theorem HasRoom.put (hl : t.HasRoom l) (hk : t.HasRoom k) : (t.put l (file bs)).HasRoom k := by
  refine ⟨hk.above.put hl.free, ?_⟩
  by_cases hne : l = k
  · subst hne
    rw [IsDirectory, hl.find?_put_self]
    exact nofun
  · rw [IsDirectory, hl.find?_put hk hne]
    exact hk.free

/-- A file is written where there is room for it, and nowhere else. -/
theorem write_eq_ok_iff : t.write l bs = .ok t' ↔ t.HasRoom l ∧ t' = t.put l (file bs) := by
  rw [write]
  constructor
  · intro h
    split at h
    · cases h
    · rename_i entries habove hfree
      cases h
      exact ⟨⟨⟨entries, habove⟩, fun ⟨found, hl⟩ => hfree found hl⟩, rfl⟩
    · cases h
  · rintro ⟨⟨⟨entries, habove⟩, hfree⟩, rfl⟩
    rw [habove]
    split
    · rename_i found hl
      exact absurd ⟨found, hl⟩ hfree
    · rfl
    · rename_i hnone
      exact absurd rfl (hnone entries)

section

variable (h : ∀ k, t.IsDirectory k → t'.IsDirectory k)

include h

/-- A way through directories stays while they do. -/
theorem walk_of_isDirectory (hl : t.walk l ps = .ok k) : t'.walk l ps = .ok k := by
  induction ps generalizing l with
  | nil => exact hl
  | cons piece ps ih =>
    rw [walk] at hl ⊢
    cases hfind : t.find? l with
    | none =>
      rw [hfind] at hl
      cases hl
    | some x =>
      rw [hfind] at hl
      cases x with
      | file contents => cases hl
      | directory entries =>
        obtain ⟨entries', hfind'⟩ := h l ⟨entries, hfind⟩
        rw [hfind']
        dsimp only at hl ⊢
        split at hl
        · cases hl
        · rename_i hlength
          rw [if_neg hlength]
          split at hl
          · rename_i hhere
            rw [if_pos hhere]
            exact ih hl
          · rename_i hhere
            rw [if_neg hhere]
            split at hl
            · rename_i habove
              rw [if_pos habove]
              exact ih hl
            · rename_i habove
              rw [if_neg habove]
              exact ih hl

theorem locate_of_isDirectory (hl : t.locate current path = .ok l) :
    t'.locate current path = .ok l := by
  rw [locate] at hl ⊢
  obtain ⟨u, hpath, hl⟩ := Except.bind_eq_ok_iff.1 hl
  refine Except.bind_eq_ok_iff.2 ⟨u, hpath, ?_⟩
  split at hl
  · cases hl
  · rename_i hempty
    rw [if_neg hempty]
    exact walk_of_isDirectory h hl

end

end FileTree

/-! ## Places -/

namespace Place

open FileTree (HasRoom file)

variable {w : Place} {l k : Location} {path : String} {bs : Bytes} {files : List (String × Bytes)}

/-- A file can be written at the path, whatever it is to hold. -/
def Writable (w : Place) (path : String) : Prop :=
  ∀ bs, ((FileSystem.write path bs : StateM Place (Except FileError Unit)) w).1 = .ok ()

/-- The file at the path can be read, and holds these bytes. -/
def Holds (w : Place) (path : String) (bs : Bytes) : Prop :=
  (FileSystem.read path : StateM Place (Except FileError Bytes)) w = (.ok bs, w)

/-- A file holds one thing. -/
theorem Holds.unique {w : Place} {path : String} {bs bs' : Bytes} (h : w.Holds path bs)
    (h' : w.Holds path bs') : bs = bs' :=
  Except.ok.inj (Prod.mk.inj (h.symm.trans h')).1

/-- The place after a file was put at a location. -/
def withFile (w : Place) (l : Location) (bs : Bytes) : Place :=
  { w with tree := w.tree.put l (file bs) }

theorem write_eq (hl : w.locate path = .ok l) (hroom : w.tree.HasRoom l) (bs : Bytes) :
    (FileSystem.write path bs : StateM Place (Except FileError Unit)) w =
      (.ok (), w.withFile l bs) := by
  have hwrite : w.tree.write l bs = .ok (w.tree.put l (file bs)) :=
    FileTree.write_eq_ok_iff.2 ⟨hroom, rfl⟩
  show change (fun w => do w.tree.write (← w.locate path) bs) w = _
  rw [change, hl]
  dsimp only [bind, Except.bind]
  rw [hwrite]
  rfl

/-- **A file can be written where there is room for it.** -/
theorem writable_iff : w.Writable path ↔ ∃ l, w.locate path = .ok l ∧ w.tree.HasRoom l := by
  constructor
  · intro h
    have h : (change (fun w => do w.tree.write (← w.locate path) []) w).1 = .ok () := h []
    rw [change] at h
    cases hwrite : w.locate path >>= fun l => w.tree.write l [] with
    | error e =>
      rw [hwrite] at h
      cases h
    | ok tree =>
      obtain ⟨l, hl, hwrite⟩ := Except.bind_eq_ok_iff.1 hwrite
      exact ⟨l, hl, (FileTree.write_eq_ok_iff.1 hwrite).1⟩
  · rintro ⟨l, hl, hroom⟩ bs
    rw [write_eq hl hroom]

/-- What a written file leaves where it was. -/
theorem locate_withFile (hroom : w.tree.HasRoom l) (hk : w.locate path = .ok k) :
    (w.withFile l bs).locate path = .ok k :=
  FileTree.locate_of_isDirectory (fun _ h => h.put hroom.free) hk

theorem Writable.withFile (hroom : w.tree.HasRoom l) (h : w.Writable path) :
    (w.withFile l bs).Writable path := by
  obtain ⟨k, hk, hk'⟩ := writable_iff.1 h
  exact writable_iff.2 ⟨k, locate_withFile hroom hk, hroom.put hk'⟩

theorem holds_iff (hk : w.locate path = .ok k) :
    w.Holds path bs ↔ w.tree.find? k = some (file bs) := by
  rw [Holds]
  show (w.locate path >>= w.tree.read, w) = _ ↔ _
  rw [hk]
  dsimp only [bind, Except.bind]
  rw [FileTree.read]
  constructor
  · intro h
    split at h
    · cases h
    · cases h
    · rename_i hfind
      cases h
      exact hfind
  · intro h
    rw [h]

/-- **Files at different locations are written one after the other, and hold in the end what was
written into them.**  So does every other file that could be written as well. -/
theorem exists_writeFiles (hwritable : ∀ f ∈ files, w.Writable f.1)
    (hapart : files.Pairwise fun f f' => w.locate f.1 ≠ w.locate f'.1) :
    ∃ w', (writeFiles files : StateM Place (Except ExportError Unit)) w = (.ok (), w') ∧
      (∀ f ∈ files, w'.Holds f.1 f.2) ∧
      ∀ path bs, w.Writable path → w.Holds path bs →
        (∀ f ∈ files, w.locate path ≠ w.locate f.1) → w'.Holds path bs := by
  induction files generalizing w with
  | nil => exact ⟨w, rfl, nofun, fun _ _ _ h _ => h⟩
  | cons f files ih =>
    obtain ⟨hf, hfiles⟩ := List.forall_mem_cons.1 hwritable
    obtain ⟨hne, hapart⟩ := List.pairwise_cons.1 hapart
    obtain ⟨l, hl, hroom⟩ := writable_iff.1 hf
    -- the file leaves the other paths as they are
    have hsame : ∀ path, w.Writable path → (w.withFile l f.2).locate path = w.locate path := by
      intro path hpath
      obtain ⟨k, hk, -⟩ := writable_iff.1 hpath
      rw [hk, locate_withFile hroom hk]
    obtain ⟨w', hwrite, hholds, hkeeps⟩ := ih (w := w.withFile l f.2)
      (fun f' hf' => (hfiles f' hf').withFile hroom)
      (hapart.imp_of_mem fun ha hb h => by
        rwa [hsame _ (hfiles _ ha), hsame _ (hfiles _ hb)])
    refine ⟨w', ?_, List.forall_mem_cons.2 ⟨?_, hholds⟩, fun path bs hpath hbs hne => ?_⟩
    · have hfirst := write_eq hl hroom f.2
      rw [writeFiles, StateM.bind_of_eq hfirst]
      exact hwrite
    · refine hkeeps _ _ (hf.withFile hroom) ?_ fun f' hf' => ?_
      · exact (holds_iff (locate_withFile hroom hl)).2 hroom.find?_put_self
      · rw [hsame _ hf, hsame _ (hfiles _ hf')]
        exact hne f' hf'
    · obtain ⟨k, hk, hk'⟩ := writable_iff.1 hpath
      obtain ⟨hnef, hne⟩ := List.forall_mem_cons.1 hne
      have hlk : l ≠ k := fun heq => hnef (by rw [hk, hl, heq])
      refine hkeeps path bs (hpath.withFile hroom) ?_ fun f' hf' => ?_
      · have hfind : (w.withFile l f.2).tree.find? k = w.tree.find? k :=
          hroom.find?_put hk' hlk
        rw [holds_iff (locate_withFile hroom hk), hfind]
        exact (holds_iff hk).1 hbs
      · rw [hsame _ hpath, hsame _ (hfiles _ hf')]
        exact hne f' hf'

end Place

/-!
## Paths that differ in their endings

Files that are named after one thing lie side by side, and their names differ in the ending.
`Place.locate_ne_of_endings` says that such paths never lead to the same location, whatever the
directory and the name are: the ending stays with the last name of the location.
-/

/-! ### Endings -/

/-- The text begins with a dot, holds no slash, and is longer than the name of the directory
above. -/
structure Path.IsEnding (ending : String) : Prop where
  dot : ending.toList.head? = some '.'
  no_slash : '/' ∉ ending.toList
  long : 2 < ending.toList.length

namespace Path

variable {ending : String}

/-- An ending is put behind what it is an ending of, whatever comes before. -/
theorem exists_join_eq (dir name : String) :
    ∃ stem, ∀ ending, IsEnding ending → join dir (name ++ ending) = stem ++ ending := by
  have habsolute : ∀ ending, IsEnding ending → isAbsolute (name ++ ending) = isAbsolute name := by
    intro ending h
    rw [isAbsolute, isAbsolute, String.toList_append]
    cases name.toList with
    | nil =>
      rw [List.nil_append, h.dot]
      rfl
    | cons c cs => rfl
  refine ⟨join dir name, fun ending h => ?_⟩
  rw [join, join, habsolute ending h]
  split
  · rfl
  · split <;> simp only [String.append_assoc]

end Path

namespace FileTree

variable {t : FileTree} {current l k : Location} {stem ending ending' : String}

/-- Paths that differ in their endings lead to different locations. -/
theorem ne_of_endings (hending : Path.IsEnding ending) (hending' : Path.IsEnding ending')
    (hne : ending ≠ ending') (hl : t.locate current (stem ++ ending) = .ok l)
    (hk : t.locate current (stem ++ ending') = .ok k) : l ≠ k := by
  rw [eq_goal_of_locate hl, eq_goal_of_locate hk]
  exact goal_append_ne hending.no_slash hending.long hending'.no_slash hending'.long hne

end FileTree

namespace Place

variable {w : Place} {dir name ending ending' : String}

/-- **Files of one name lie apart when their endings differ**, provided that they can be written. -/
theorem locate_ne_of_endings (hending : Path.IsEnding ending)
    (hending' : Path.IsEnding ending') (hne : ending ≠ ending')
    (hw : w.Writable (Path.join dir (name ++ ending)))
    (hw' : w.Writable (Path.join dir (name ++ ending'))) :
    w.locate (Path.join dir (name ++ ending)) ≠ w.locate (Path.join dir (name ++ ending')) := by
  obtain ⟨stem, hstem⟩ := Path.exists_join_eq dir name
  rw [hstem _ hending] at hw ⊢
  rw [hstem _ hending'] at hw' ⊢
  obtain ⟨l, hl, -⟩ := writable_iff.1 hw
  obtain ⟨k, hk, -⟩ := writable_iff.1 hw'
  rw [hl, hk]
  exact fun heq => FileTree.ne_of_endings hending hending' hne hl hk (Except.ok.inj heq)

end Place
end FlowAtlas
