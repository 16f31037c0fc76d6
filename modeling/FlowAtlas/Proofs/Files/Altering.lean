import FlowAtlas.Proofs.Files.Goals
import FlowAtlas.Proofs.Files.Writing

/-!
# What is left alone

What can be seen of a tree is which files hold what and where directories are (`FileTree.sight?`).
A file that is written or removed is the only thing that changes (`sight?_put_file`,
`sight?_remove`), and making directories changes no file (`sight?_put_empty`).

`Place.Alters` says this of any computation on files: directories stay, and so do the files, except
at certain locations.  So files that were read before are read after it as well (`Alters.holds`).
Writing and removing files makes no directories either (`Place.Rewrites`), so what could be written
before can be written after it (`Rewrites.writable`).
-/

set_option autoImplicit false

namespace FlowAtlas

/-! ## Trees -/

/-- What can be seen at a location. -/
inductive Sight
  | file (contents : Bytes)
  | directory
  deriving DecidableEq

namespace FileTree

variable {t : FileTree} {l k : Location} {bs name : Bytes} {s : Sight}
  {entries : List (Bytes × FileTree)}

/-- What can be seen of a file or directory from outside. -/
def sight : FileTree → Sight
  | file bs => .file bs
  | directory _ => .directory

/-- What can be seen at a location, if anything stands there. -/
def sight? (t : FileTree) (l : Location) : Option Sight := (t.find? l).map sight

theorem isDirectory_iff : t.IsDirectory l ↔ t.sight? l = some .directory := by
  rw [IsDirectory, sight?, Option.map_eq_some_iff]
  constructor
  · rintro ⟨entries, h⟩
    exact ⟨_, h, rfl⟩
  · rintro ⟨x, h, hx⟩
    cases x with
    | file => cases hx
    | directory entries => exact ⟨entries, h⟩

theorem find?_eq_file_iff : t.find? l = some (file bs) ↔ t.sight? l = some (.file bs) := by
  rw [sight?, Option.map_eq_some_iff]
  constructor
  · exact fun h => ⟨_, h, rfl⟩
  · rintro ⟨x, h, hx⟩
    cases x with
    | file =>
      cases hx
      exact h
    | directory => cases hx

@[simp] theorem sight?_nil (t : FileTree) : t.sight? [] = some t.sight := by
  rw [sight?, find?_nil]
  rfl

@[simp] theorem sight?_file_cons (name : Bytes) (l : Location) :
    (file bs).sight? (name :: l) = none := rfl

@[simp] theorem sight?_directory_cons (entries : List (Bytes × FileTree)) (name : Bytes)
    (l : Location) :
    (directory entries).sight? (name :: l) = (entries.lookup name).bind (·.sight? l) := by
  rw [sight?, find?_directory_cons, Option.map_bind]
  rfl

theorem sight?_put_cons_of_ne {other : Bytes} (new : FileTree) (hne : other ≠ name) :
    ((directory entries).put (name :: l) new).sight? (other :: k) =
      (directory entries).sight? (other :: k) := by
  rw [sight?, sight?, find?_put_cons_of_ne new hne]

theorem sight?_put_cons_self {x : FileTree} (new : FileTree)
    (hname : entries.lookup name = some x) :
    ((directory entries).put (name :: l) new).sight? (name :: k) = (x.put l new).sight? k := by
  rw [sight?, sight?, find?_put_cons_self new hname]

theorem sight?_put_singleton (new : FileTree) (hname : entries.lookup name = none) :
    ((directory entries).put [name] new).sight? (name :: k) = new.sight? k := by
  simp [FileTree.put, hname]

/-- Nothing is seen below what is no directory. -/
theorem sight?_eq_none (h : ¬t.IsDirectory l) (hl : l <+: k) (hne : l ≠ k) :
    t.sight? k = none := by
  cases hfind : t.find? k with
  | none =>
    rw [sight?, hfind]
    rfl
  | some x => exact absurd (isDirectory_of_find? hfind hl hne) h

/-- Only the file that is put is seen in addition. -/
theorem sight?_put_file (h : t.HasRoom l) (bs : Bytes) (k : Location) :
    (t.put l (file bs)).sight? k = if k = l then some (.file bs) else t.sight? k := by
  by_cases heq : k = l
  · rw [if_pos heq, heq, sight?, h.find?_put_self]
    rfl
  rw [if_neg heq]
  by_cases hbelow : l <+: k
  · rw [sight?_eq_none h.free hbelow (Ne.symm heq),
      sight?_eq_none (h.put h).free hbelow (Ne.symm heq)]
  by_cases habove : k <+: l
  · have hk := h.isDirectory habove heq
    rw [isDirectory_iff.1 hk, isDirectory_iff.1 (hk.put h.free)]
  · rw [sight?, sight?, find?_put_of_not_prefix _ hbelow habove]

/-- A new directory is all that is seen in addition. -/
theorem sight?_put_empty (h : t.find? l = none) (k : Location) :
    (t.put l empty).sight? k = t.sight? k ∨
      t.sight? k = none ∧ (t.put l empty).sight? k = some .directory := by
  induction l generalizing t k with
  | nil =>
    rw [find?_nil] at h
    cases h
  | cons name l ih =>
    cases t with
    | file contents => exact .inl rfl
    | directory entries =>
      cases k with
      | nil =>
        obtain ⟨found, hput⟩ := exists_put_cons entries name l empty
        rw [hput, sight?_nil, sight?_nil]
        exact .inl rfl
      | cons other k =>
        by_cases hne : other = name
        · subst hne
          cases hname : entries.lookup other with
          | some x =>
            rw [find?_directory_cons, hname, Option.bind_some] at h
            rw [sight?_put_cons_self _ hname, sight?_directory_cons, hname, Option.bind_some]
            exact ih h k
          | none =>
            cases l with
            | nil =>
              rw [sight?_put_singleton _ hname, sight?_directory_cons, hname, Option.bind_none]
              cases k with
              | nil => exact .inr ⟨rfl, sight?_nil _⟩
              | cons first k => exact .inl rfl
            | cons next l =>
              refine .inl ?_
              simp [FileTree.put, hname]
        · exact .inl (sight?_put_cons_of_ne _ hne)

theorem lookup_map_entries (f : FileTree → FileTree) (entries : List (Bytes × FileTree))
    (name other : Bytes) :
    (entries.map fun e => if e.1 == name then (e.1, f e.2) else e).lookup other =
      (entries.lookup other).map fun x => if other = name then f x else x := by
  induction entries with
  | nil => rfl
  | cons e entries ih =>
    obtain ⟨key, x⟩ := e
    have hhead : (if key == name then (key, f x) else (key, x)) =
        (key, if key = name then f x else x) := by
      simp only [beq_iff_eq]
      split <;> rfl
    rw [List.map_cons, hhead]
    by_cases hkey : other = key
    · subst hkey
      rw [List.lookup_cons_self, List.lookup_cons_self, Option.map_some]
    · have hne : (other == key) = false := beq_eq_false_iff_ne.2 hkey
      rw [List.lookup_cons, List.lookup_cons, hne]
      exact ih

theorem lookup_filter_self (entries : List (Bytes × FileTree)) (name : Bytes) :
    (entries.filter (·.1 != name)).lookup name = none := by
  refine List.lookup_eq_none_iff.2 fun e he => ?_
  have hne : e.1 ≠ name := bne_iff_ne.1 (List.mem_filter.1 he).2
  exact bne_iff_ne.2 hne.symm

/-- The file that is removed is all that is not seen any more. -/
theorem sight?_remove (h : t.find? l = some (file bs)) (hl : l ≠ []) (k : Location) :
    (t.remove l).sight? k = if k = l then none else t.sight? k := by
  induction l generalizing t k with
  | nil => exact absurd rfl hl
  | cons name l ih =>
    cases t with
    | file contents => cases h
    | directory entries =>
      rw [find?_directory_cons] at h
      obtain ⟨x, hname, hx⟩ := Option.bind_eq_some_iff.1 h
      cases l with
      | nil =>
        rw [find?_nil] at hx
        cases hx
        rw [FileTree.remove]
        cases k with
        | nil => rfl
        | cons other k =>
          rw [sight?_directory_cons, sight?_directory_cons]
          by_cases hne : other = name
          · subst hne
            rw [lookup_filter_self, hname, Option.bind_none, Option.bind_some]
            cases k <;> simp
          · rw [lookup_filter_ne entries hne, if_neg fun heq => hne (List.cons.inj heq).1]
      | cons next l =>
        rw [FileTree.remove]
        cases k with
        | nil => rfl
        | cons other k =>
          rw [sight?_directory_cons, sight?_directory_cons,
            lookup_map_entries fun x => x.remove (next :: l)]
          by_cases hne : other = name
          · subst hne
            rw [hname, Option.map_some, Option.bind_some, if_pos rfl, ih hx (List.cons_ne_nil _ _),
              Option.bind_some]
            simp only [List.cons.injEq, true_and]
          · simp only [List.cons.injEq, hne, false_and, if_false, Option.map_id']

/-- Directories are all that is seen in addition. -/
def Grows (t t' : FileTree) : Prop :=
  ∀ k, t'.sight? k = t.sight? k ∨ t.sight? k = none ∧ t'.sight? k = some .directory

namespace Grows

theorem refl (t : FileTree) : t.Grows t := fun _ => .inl rfl

theorem trans {t' t'' : FileTree} (h : t.Grows t') (h' : t'.Grows t'') : t.Grows t'' := by
  intro k
  rcases h k with heq | ⟨hnone, hnew⟩
  · rcases h' k with heq' | ⟨hnone, hnew⟩
    · exact .inl (heq'.trans heq)
    · exact .inr ⟨heq ▸ hnone, hnew⟩
  · rcases h' k with heq' | ⟨hnone', -⟩
    · exact .inr ⟨hnone, heq'.trans hnew⟩
    · rw [hnew] at hnone'
      cases hnone'

variable {t' : FileTree} (h : t.Grows t')

include h

theorem isDirectory (hk : t.IsDirectory k) : t'.IsDirectory k := by
  rw [isDirectory_iff] at hk ⊢
  rcases h k with heq | ⟨-, hnew⟩
  · exact heq.trans hk
  · exact hnew

theorem find?_eq_file_iff : t'.find? k = some (file bs) ↔ t.find? k = some (file bs) := by
  rw [FileTree.find?_eq_file_iff, FileTree.find?_eq_file_iff]
  rcases h k with heq | ⟨hnone, hnew⟩
  · rw [heq]
  · rw [hnone, hnew]
    exact iff_of_false nofun nofun

end Grows

theorem grows_makeAlong (made : Bool) (t : FileTree) (l : Location) (ps : List Bytes) :
    t.Grows (makeAlong made t l ps).1 := by
  induction ps generalizing made t l with
  | nil => exact .refl t
  | cons piece ps ih =>
    rw [makeAlong]
    split
    · exact ih made t l
    · split
      · exact ih made t l.dropLast
      · split
        · exact .refl t
        · dsimp only
          split
          · exact ih made t _
          · exact .refl t
          · rename_i hfind
            exact Grows.trans (sight?_put_empty hfind) (ih true _ _)

/-- A name that a directory can have. -/
structure IsPlain (piece : Bytes) : Prop where
  ne_here : piece ≠ here
  ne_above : piece ≠ above
  length_le : piece.length ≤ nameLimit

theorem makeAlong_of_isDirectory {made : Bool} {ps : List Bytes} (h : t.IsDirectory (l ++ ps))
    (hplain : ∀ piece ∈ ps, IsPlain piece) : makeAlong made t l ps = (t, .ok ()) := by
  induction ps generalizing l with
  | nil => rfl
  | cons piece ps ih =>
    obtain ⟨hpiece, hplain⟩ := List.forall_mem_cons.1 hplain
    rw [← List.singleton_append, ← List.append_assoc] at h
    obtain ⟨entries, hnext⟩ := h.of_prefix (List.prefix_append _ _)
    rw [makeAlong, if_neg hpiece.ne_here, if_neg hpiece.ne_above,
      if_neg (Nat.not_lt.2 hpiece.length_le)]
    dsimp only
    rw [hnext]
    exact ih h hplain

/-- Making directories leaves all files alone, whether it succeeds or not. -/
theorem grows_makeDirs (l : Location) (ps : List Bytes) : t.Grows (t.makeDirs l ps).1 := by
  have hgrows := fun named : List Bytes => grows_makeAlong false t l named
  rw [makeDirs]
  split
  · dsimp only
    split
    · split
      · rename_i tree hmake
        exact (congrArg Prod.fst hmake : _ = tree) ▸ hgrows _
      · exact hgrows _
    · exact .refl t
  · exact hgrows ps

theorem isDirectory_root_of_walk {ps : List Bytes} (h : t.walk l ps = .ok k) (hne : ps ≠ []) :
    t.IsDirectory [] := by
  obtain ⟨piece, ps, rfl⟩ := List.exists_cons_of_ne_nil hne
  rw [walk] at h
  split at h
  · cases h
  · cases h
  · rename_i entries hfind
    exact IsDirectory.of_prefix ⟨entries, hfind⟩ List.nil_prefix

/-- Whatever a path leads to, the root is a directory. -/
theorem isDirectory_root_of_locate {current : Location} {path : String}
    (h : t.locate current path = .ok l) : t.IsDirectory [] := by
  rw [locate] at h
  obtain ⟨-, -, h⟩ := Except.bind_eq_ok_iff.1 h
  split at h
  · cases h
  · rename_i hempty
    refine isDirectory_root_of_walk h fun hnil => ?_
    obtain ⟨hpieces, hasked⟩ := List.append_eq_nil_iff.1 hnil
    have hne : path.toList ≠ [] :=
      fun hnil => hempty (String.isEmpty_iff.2 (String.toList_eq_nil_iff.1 hnil))
    -- without a slash at the end, the last letter belongs to a piece
    obtain ⟨init, c, hpath⟩ := (List.eq_nil_or_concat path.toList).resolve_left hne
    rw [List.concat_eq_append] at hpath
    have hc : '/' ∉ (String.ofList [c]).toList := by
      rw [String.toList_ofList, List.mem_singleton]
      rintro rfl
      rw [hpath, List.getLast?_concat, if_pos (beq_self_eq_true _)] at hasked
      cases hasked
    obtain ⟨front, last, hpieces', -⟩ := exists_pieces_append (String.ofList init)
    have heq : path = String.ofList init ++ String.ofList [c] := by
      rw [← String.ofList_append, ← hpath, String.ofList_toList]
    rw [heq, hpieces' _ hc (fun hempty => ?_)] at hpieces
    · exact List.concat_ne_nil _ _ hpieces
    · have hnil := congrArg String.toList hempty
      rw [String.toList_ofList] at hnil
      cases hnil

end FileTree

/-! ## Places -/

namespace Place

open FileTree (file goal)

variable {touched touched' : Location → Prop} {w w' w'' : Place} {path : String} {bs : Bytes}
  {l : Location}

theorem holds_iff_goal : w.Holds path bs ↔ w.locate path = .ok (goal w.current path) ∧
    w.tree.find? (goal w.current path) = some (file bs) := by
  constructor
  · intro h
    cases hl : w.locate path with
    | error e =>
      have hread : (w.locate path >>= w.tree.read, w) = (.ok bs, w) := h
      rw [hl] at hread
      cases hread
    | ok l =>
      obtain rfl := FileTree.eq_goal_of_locate hl
      exact ⟨rfl, (holds_iff hl).1 h⟩
  · rintro ⟨hl, hfind⟩
    exact (holds_iff hl).2 hfind

/-- Directories stay, and so do the files, except at certain locations. -/
structure Alters (touched : Location → Prop) (w w' : Place) : Prop where
  current_eq : w'.current = w.current
  isDirectory : ∀ k, w.tree.IsDirectory k → w'.tree.IsDirectory k
  file_iff : ∀ k bs, ¬touched k →
    (w'.tree.find? k = some (file bs) ↔ w.tree.find? k = some (file bs))

namespace Alters

theorem refl (touched : Location → Prop) (w : Place) : Alters touched w w :=
  ⟨rfl, fun _ h => h, fun _ _ _ => Iff.rfl⟩

theorem trans (h : Alters touched w w') (h' : Alters touched w' w'') : Alters touched w w'' :=
  ⟨h'.current_eq.trans h.current_eq, fun k hk => h'.isDirectory k (h.isDirectory k hk),
    fun k bs hk => (h'.file_iff k bs hk).trans (h.file_iff k bs hk)⟩

theorem mono (h : Alters touched w w') (hle : ∀ l, touched l → touched' l) :
    Alters touched' w w' :=
  ⟨h.current_eq, h.isDirectory, fun k bs hk => h.file_iff k bs fun htouched => hk (hle k htouched)⟩

/-- Paths lead where they led. -/
theorem locate_eq_ok (h : Alters touched w w') (hl : w.locate path = .ok l) :
    w'.locate path = .ok l := by
  rw [locate, h.current_eq]
  exact FileTree.locate_of_isDirectory h.isDirectory hl

/-- Files elsewhere hold what they held. -/
theorem holds (h : Alters touched w w') (hpath : ¬touched (goal w.current path))
    (hbs : w.Holds path bs) : w'.Holds path bs := by
  obtain ⟨hl, hfind⟩ := holds_iff_goal.1 hbs
  exact (holds_iff (h.locate_eq_ok hl)).2 ((h.file_iff _ bs hpath).2 hfind)

end Alters

/-- Only files change, at certain locations: directories neither come nor go. -/
structure Rewrites (touched : Location → Prop) (w w' : Place) : Prop
    extends Alters touched w w' where
  isDirectory_of : ∀ k, w'.tree.IsDirectory k → w.tree.IsDirectory k

namespace Rewrites

theorem refl (touched : Location → Prop) (w : Place) : Rewrites touched w w :=
  ⟨.refl touched w, fun _ h => h⟩

theorem trans (h : Rewrites touched w w') (h' : Rewrites touched w' w'') :
    Rewrites touched w w'' :=
  ⟨h.toAlters.trans h'.toAlters, fun k hk => h.isDirectory_of k (h'.isDirectory_of k hk)⟩

theorem mono (h : Rewrites touched w w') (hle : ∀ l, touched l → touched' l) :
    Rewrites touched' w w' :=
  ⟨h.toAlters.mono hle, h.isDirectory_of⟩

/-- What could be written can be written. -/
theorem writable (h : Rewrites touched w w') (hw : w.Writable path) : w'.Writable path := by
  obtain ⟨l, hl, hroom⟩ := writable_iff.1 hw
  exact writable_iff.2 ⟨l, h.locate_eq_ok hl, h.isDirectory _ hroom.above,
    fun hdirectory => hroom.free (h.isDirectory_of l hdirectory)⟩

end Rewrites

/-! ### Writing -/

/-- Where a file can be read, a file can be written. -/
theorem Holds.hasRoom (h : w.Holds path bs) : w.tree.HasRoom (goal w.current path) := by
  obtain ⟨hl, hfind⟩ := holds_iff_goal.1 h
  have hfree : ¬w.tree.IsDirectory (goal w.current path) := by
    rintro ⟨entries, hdirectory⟩
    rw [hfind] at hdirectory
    cases hdirectory
  have hne : goal w.current path ≠ [] :=
    fun hnil => hfree (hnil ▸ FileTree.isDirectory_root_of_locate hl)
  refine ⟨FileTree.isDirectory_of_find? hfind (List.dropLast_prefix _) fun heq => ?_, hfree⟩
  have hlength := congrArg List.length heq
  have hpos := List.length_pos_iff.2 hne
  rw [List.length_dropLast] at hlength
  omega

/-- Where a file can be read, another one is written. -/
theorem Holds.write_eq (h : w.Holds path bs) (bs' : Bytes) :
    (FileSystem.write path bs' : StateM Place (Except FileError Unit)) w =
      (.ok (), w.withFile (goal w.current path) bs') :=
  Place.write_eq (holds_iff_goal.1 h).1 h.hasRoom bs'

theorem holds_withFile (hl : w.locate path = .ok l) (hroom : w.tree.HasRoom l) (bs : Bytes) :
    (w.withFile l bs).Holds path bs :=
  (holds_iff (locate_withFile hroom hl)).2 hroom.find?_put_self

theorem Rewrites.withFile (hroom : w.tree.HasRoom l) (bs : Bytes) :
    Rewrites (· = l) w (w.withFile l bs) where
  current_eq := rfl
  isDirectory k hk := hk.put hroom.free
  file_iff k bs' hk := by
    have hsight := FileTree.sight?_put_file hroom bs k
    rw [if_neg hk] at hsight
    rw [FileTree.find?_eq_file_iff, FileTree.find?_eq_file_iff, Place.withFile, hsight]
  isDirectory_of k hk := by
    have hsight := FileTree.sight?_put_file hroom bs k
    rw [FileTree.isDirectory_iff, Place.withFile, hsight] at hk
    split at hk
    · cases hk
    · exact FileTree.isDirectory_iff.2 hk

/-- A file is written at the location to which its path leads, or not at all. -/
theorem write_cases (w : Place) (path : String) (bs : Bytes) :
    (∃ e, (FileSystem.write path bs : StateM Place (Except FileError Unit)) w = (.error e, w)) ∨
      w.locate path = .ok (goal w.current path) ∧ w.tree.HasRoom (goal w.current path) ∧
        (FileSystem.write path bs : StateM Place (Except FileError Unit)) w =
          (.ok (), w.withFile (goal w.current path) bs) := by
  show (∃ e, change (fun w => do w.tree.write (← w.locate path) bs) w = _) ∨ _
  cases hwrite : w.locate path >>= fun l => w.tree.write l bs with
  | error e => exact .inl ⟨e, by rw [change, hwrite]⟩
  | ok tree =>
    obtain ⟨l, hl, htree⟩ := Except.bind_eq_ok_iff.1 hwrite
    obtain ⟨hroom, -⟩ := FileTree.write_eq_ok_iff.1 htree
    obtain rfl := FileTree.eq_goal_of_locate hl
    exact .inr ⟨hl, hroom, write_eq hl hroom bs⟩

theorem rewrites_write (w : Place) (path : String) (bs : Bytes) :
    Rewrites (· = goal w.current path) w
      ((FileSystem.write path bs : StateM Place (Except FileError Unit)) w).2 := by
  obtain ⟨e, hwrite⟩ | ⟨-, hroom, hwrite⟩ := write_cases w path bs
  · rw [hwrite]
    exact .refl _ _
  · rw [hwrite]
    exact .withFile hroom bs

theorem holds_of_write
    (h : (FileSystem.write path bs : StateM Place (Except FileError Unit)) w = (.ok (), w')) :
    w'.Holds path bs := by
  obtain ⟨e, hwrite⟩ | ⟨hl, hroom, hwrite⟩ := write_cases w path bs
  · rw [hwrite] at h
    cases h
  · rw [hwrite] at h
    cases h
    exact holds_withFile hl hroom bs

/-! ### Removing -/

/-- The place after a file was removed from a location. -/
def withoutFile (w : Place) (l : Location) : Place := { w with tree := w.tree.remove l }

/-- Where a file can be read, a file can be removed. -/
theorem Holds.remove_eq (h : w.Holds path bs) :
    (FileSystem.remove path : StateM Place (Except FileError Unit)) w =
      (.ok (), w.withoutFile (goal w.current path)) := by
  obtain ⟨hl, hfind⟩ := holds_iff_goal.1 h
  have hread : w.tree.read (goal w.current path) = .ok bs := by rw [FileTree.read, hfind]
  show change _ w = _
  rw [change, hl]
  dsimp only [bind, Except.bind]
  rw [hread]
  rfl

/-- A file is removed from the location to which its path leads, or not at all. -/
theorem remove_cases (w : Place) (path : String) :
    (∃ e, (FileSystem.remove path : StateM Place (Except FileError Unit)) w = (.error e, w)) ∨
      (∃ bs, w.Holds path bs) ∧
        (FileSystem.remove path : StateM Place (Except FileError Unit)) w =
          (.ok (), w.withoutFile (goal w.current path)) := by
  cases hread : w.locate path >>= w.tree.read with
  | ok bs =>
    have hbs : w.Holds path bs := congrArg (·, w) hread
    exact .inr ⟨⟨bs, hbs⟩, hbs.remove_eq⟩
  | error e =>
    refine .inl ⟨e, ?_⟩
    show change _ w = _
    rw [change]
    cases hl : w.locate path with
    | error e' =>
      rw [hl] at hread
      cases hread
      rfl
    | ok l =>
      rw [hl] at hread
      have hread : w.tree.read l = .error e := hread
      dsimp only [bind, Except.bind]
      rw [hread]

/-- Only the file that is removed is not seen any more. -/
theorem Holds.sight?_withoutFile (h : w.Holds path bs) (k : Location) :
    (w.withoutFile (goal w.current path)).tree.sight? k =
      if k = goal w.current path then none else w.tree.sight? k := by
  obtain ⟨hl, hfind⟩ := holds_iff_goal.1 h
  refine FileTree.sight?_remove hfind (fun hnil => ?_) k
  obtain ⟨entries, hroot⟩ := FileTree.isDirectory_root_of_locate hl
  rw [hnil, hroot] at hfind
  cases hfind

theorem Rewrites.withoutFile (h : w.Holds path bs) :
    Rewrites (· = goal w.current path) w (w.withoutFile (goal w.current path)) where
  current_eq := rfl
  isDirectory k hk := by
    rw [FileTree.isDirectory_iff] at hk ⊢
    have hne : k ≠ goal w.current path := by
      rintro rfl
      rw [FileTree.find?_eq_file_iff.1 (holds_iff_goal.1 h).2] at hk
      cases hk
    rw [h.sight?_withoutFile, if_neg hne, hk]
  file_iff k bs' hk := by
    rw [FileTree.find?_eq_file_iff, FileTree.find?_eq_file_iff, h.sight?_withoutFile, if_neg hk]
  isDirectory_of k hk := by
    rw [FileTree.isDirectory_iff, h.sight?_withoutFile] at hk
    split at hk
    · cases hk
    · exact FileTree.isDirectory_iff.2 hk

theorem rewrites_remove (w : Place) (path : String) :
    Rewrites (· = goal w.current path) w
      ((FileSystem.remove path : StateM Place (Except FileError Unit)) w).2 := by
  obtain ⟨e, hremove⟩ | ⟨⟨bs, h⟩, hremove⟩ := remove_cases w path
  · rw [hremove]
    exact .refl _ _
  · rw [hremove]
    exact .withoutFile h

/-! ### Making directories -/

theorem makeDirs_eq (w : Place) (path : String) :
    (FileSystem.makeDirs path : StateM Place (Except FileError Unit)) w =
      match FileTree.checkPath path with
      | .error e => (.error e, w)
      | .ok () =>
        let made := w.tree.makeDirs (FileTree.start w.current path) (FileTree.pieces path)
        (made.2, { w with tree := made.1 }) := rfl

theorem alters_makeDirs (w : Place) (path : String) :
    Alters (fun _ => False) w
      ((FileSystem.makeDirs path : StateM Place (Except FileError Unit)) w).2 := by
  rw [makeDirs_eq]
  split
  · exact .refl _ _
  · have hgrows := FileTree.grows_makeDirs (t := w.tree) (FileTree.start w.current path)
      (FileTree.pieces path)
    exact ⟨rfl, fun _ => hgrows.isDirectory, fun _ _ _ => hgrows.find?_eq_file_iff⟩

/-- Directories that are there are not made again. -/
theorem makeDirs_of_isDirectory (hpath : FileTree.checkPath path = .ok ())
    (hplain : ∀ piece ∈ FileTree.pieces path, FileTree.IsPlain piece)
    (h : w.tree.IsDirectory (FileTree.start w.current path ++ FileTree.pieces path)) :
    (FileSystem.makeDirs path : StateM Place (Except FileError Unit)) w = (.ok (), w) := by
  have hlast : (FileTree.pieces path).getLast? ≠ some FileTree.here :=
    fun hlast => (hplain _ (List.mem_of_getLast? hlast)).ne_here rfl
  rw [makeDirs_eq, hpath]
  dsimp only
  rw [FileTree.makeDirs, if_neg hlast, FileTree.makeAlong_of_isDirectory h hplain]

end Place
end FlowAtlas
