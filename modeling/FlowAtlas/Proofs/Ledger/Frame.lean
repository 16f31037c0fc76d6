import FlowAtlas.Command.Run
import FlowAtlas.Proofs.Files.Altering

/-!
# What recording a load leaves alone

Work on a ledger reads and writes the file of the ledger, and up to three files beside it
(`LedgerFile.Around`).  A journal beside the file could tell of a change of several databases, and
then name a further file that is done away with.  `LedgerFile.Quiet` says that the file is there and
that no journal does so, which every step of the work keeps (`LedgerFile.Reaches`).

`LedgerFile.stays_recordLoad` puts the steps together: whatever a load has come to, and whether the
ledger takes the record or refuses it, no other file is touched.
-/

set_option autoImplicit false

namespace FlowAtlas

open FileTree (goal)

/-! ## Computations that keep something -/

/-- What holds before the computation holds after it. -/
def Place.Keeps {α : Type} (p : Place → Prop) (x : StateM Place α) : Prop := ∀ w, p w → p (x w).2

namespace Place.Keeps

variable {α β : Type} {p : Place → Prop} {x : StateM Place α} {f : α → StateM Place β}

theorem of_eq (h : ∀ w, (x w).2 = w) : Keeps p x := by
  intro w hp
  rw [h]
  exact hp

theorem pure (a : α) : Keeps p (Pure.pure a : StateM Place α) := of_eq fun _ => rfl

theorem bind (hx : Keeps p x) (hf : ∀ a, Keeps p (f a)) : Keeps p (x >>= f) :=
  fun w hp => hf _ _ (hx w hp)

theorem map (g : α → β) (hx : Keeps p x) : Keeps p (g <$> x) := fun w hp => hx w hp

end Place.Keeps

namespace LedgerFile

open Place (Keeps)

variable {file path : String} {w₀ w : Place} {bs : Bytes}

/-! ## The files of a ledger -/

/-- The location is that of the file of a ledger, or of what may stand beside it. -/
def Around (current : Location) (file : String) (l : Location) : Prop :=
  ∃ path ∈ [file, journalPath file, logPath file, sharedPath file], l = goal current path

/-- The file of the ledger is there, and no journal beside it tells of a change of several
databases. -/
structure Quiet (file : String) (w : Place) : Prop where
  stands : ∃ bs, w.Holds file bs
  calm : ∀ journal, w.tree.find? (goal w.current (journalPath file)) = some (.file journal) →
    Database.Journal.commonFile? journal = none

theorem journal_ne_file (current : Location) (file : String) :
    goal current (journalPath file) ≠ goal current file :=
  FileTree.goal_append_ne_self (by decide) (by decide)

theorem journal_ne_log (current : Location) (file : String) :
    goal current (journalPath file) ≠ goal current (logPath file) :=
  FileTree.goal_append_ne (by decide) (by decide) (by decide) (by decide) (by decide)

theorem journal_ne_shared (current : Location) (file : String) :
    goal current (journalPath file) ≠ goal current (sharedPath file) :=
  FileTree.goal_append_ne (by decide) (by decide) (by decide) (by decide) (by decide)

theorem log_ne_file (current : Location) (file : String) :
    goal current (logPath file) ≠ goal current file :=
  FileTree.goal_append_ne_self (by decide) (by decide)

theorem shared_ne_file (current : Location) (file : String) :
    goal current (sharedPath file) ≠ goal current file :=
  FileTree.goal_append_ne_self (by decide) (by decide)

namespace Quiet

variable {touched : Location → Prop} {w' : Place}

/-- Other files do not matter to the ledger. -/
theorem of_alters (h : Quiet file w) (ha : w.Alters touched w')
    (hfile : ¬touched (goal w.current file))
    (hjournal : ¬touched (goal w.current (journalPath file))) : Quiet file w' := by
  obtain ⟨bs, hbs⟩ := h.stands
  refine ⟨⟨bs, ha.holds hfile hbs⟩, fun journal hfind => ?_⟩
  rw [ha.current_eq, ha.file_iff _ _ hjournal] at hfind
  exact h.calm journal hfind

/-- The file itself can hold anything. -/
theorem write_file (h : Quiet file w) (bs : Bytes) :
    Quiet file (w.withFile (goal w.current file) bs) := by
  obtain ⟨found, hfound⟩ := h.stands
  have hroom := hfound.hasRoom
  obtain ⟨hl, -⟩ := Place.holds_iff_goal.1 hfound
  refine ⟨⟨bs, Place.holds_withFile hl hroom bs⟩, fun journal hfind => h.calm journal ?_⟩
  exact ((Place.Rewrites.withFile hroom bs).file_iff _ _ (journal_ne_file _ _)).1 hfind

/-- Without its journal the ledger is quiet. -/
theorem remove_journal {journal : Bytes} (hstands : ∃ bs, w.Holds file bs)
    (hjournal : w.Holds (journalPath file) journal) :
    Quiet file (w.withoutFile (goal w.current (journalPath file))) := by
  obtain ⟨bs, hbs⟩ := hstands
  refine ⟨⟨bs, (Place.Rewrites.withoutFile hjournal).holds (journal_ne_file _ _).symm hbs⟩,
    fun journal hfind => ?_⟩
  have hsight := hjournal.sight?_withoutFile (goal w.current (journalPath file))
  rw [if_pos rfl] at hsight
  rw [FileTree.find?_eq_file_iff] at hfind
  cases hsight.symm.trans hfind

end Quiet

/-- Only the files of the ledger were touched, and it can be worked on further. -/
structure Reaches (file : String) (w₀ w : Place) : Prop where
  rewrites : w₀.Rewrites (Around w₀.current file) w
  quiet : Quiet file w

namespace Reaches

variable {w' : Place}

theorem refl (h : Quiet file w) : Reaches file w w := ⟨.refl _ _, h⟩

theorem step (h : Reaches file w₀ w)
    (hpath : path ∈ [file, journalPath file, logPath file, sharedPath file])
    (hr : w.Rewrites (· = goal w.current path) w') (hquiet : Quiet file w') :
    Reaches file w₀ w' := by
  refine ⟨h.rewrites.trans (hr.mono fun l hl => ⟨path, hpath, ?_⟩), hquiet⟩
  rw [hl, h.rewrites.current_eq]

/-- What stands beside the file, apart from the journal, does not matter to the ledger. -/
theorem step_beside (h : Reaches file w₀ w) (hpath : path ∈ [logPath file, sharedPath file])
    (hr : w.Rewrites (· = goal w.current path) w') : Reaches file w₀ w' := by
  refine h.step (List.mem_cons_of_mem _ (List.mem_cons_of_mem _ hpath)) hr
    (h.quiet.of_alters hr.toAlters ?_ ?_)
  · rcases List.mem_pair.1 hpath with rfl | rfl
    · exact (log_ne_file _ _).symm
    · exact (shared_ne_file _ _).symm
  · rcases List.mem_pair.1 hpath with rfl | rfl
    · exact journal_ne_log _ _
    · exact journal_ne_shared _ _

end Reaches

/-! ## Steps on the files -/

theorem keeps_write_beside (hpath : path ∈ [logPath file, sharedPath file]) (bs : Bytes) :
    Keeps (Reaches file w₀) (FileSystem.write path bs : StateM Place (Except FileError Unit)) :=
  fun w h => h.step_beside hpath (w.rewrites_write path bs)

theorem keeps_remove_beside (hpath : path ∈ [logPath file, sharedPath file]) :
    Keeps (Reaches file w₀) (FileSystem.remove path : StateM Place (Except FileError Unit)) :=
  fun w h => h.step_beside hpath (w.rewrites_remove path)

/-- The file is written, since it is there. -/
theorem Quiet.write_eq (h : Quiet file w) (bs : Bytes) :
    (FileSystem.write file bs : StateM Place (Except FileError Unit)) w =
      (.ok (), w.withFile (goal w.current file) bs) := by
  obtain ⟨found, hfound⟩ := h.stands
  exact hfound.write_eq bs

theorem keeps_write_file (bs : Bytes) :
    Keeps (Reaches file w₀) (FileSystem.write file bs : StateM Place (Except FileError Unit)) := by
  intro w h
  have hrewrites := w.rewrites_write file bs
  rw [h.quiet.write_eq bs] at hrewrites ⊢
  exact h.step List.mem_cons_self hrewrites (h.quiet.write_file bs)

theorem keeps_remove_journal : Keeps (Reaches file w₀)
    (FileSystem.remove (journalPath file) : StateM Place (Except FileError Unit)) := by
  intro w h
  have hrewrites := w.rewrites_remove (journalPath file)
  obtain ⟨e, hremove⟩ | ⟨⟨journal, hjournal⟩, hremove⟩ := w.remove_cases (journalPath file)
  · rw [hremove]
    exact h
  · rw [hremove] at hrewrites ⊢
    exact h.step (by simp) hrewrites (.remove_journal h.quiet.stands hjournal)

/-- A journal without contents tells nothing. -/
theorem keeps_write_blank : Keeps (Reaches file w₀)
    (FileSystem.write (journalPath file) [] : StateM Place (Except FileError Unit)) := by
  intro w h
  have hrewrites := w.rewrites_write (journalPath file) []
  obtain ⟨e, hwrite⟩ | ⟨hl, hroom, hwrite⟩ := w.write_cases (journalPath file) []
  · rw [hwrite]
    exact h
  · rw [hwrite] at hrewrites ⊢
    obtain ⟨bs, hbs⟩ := h.quiet.stands
    refine h.step (by simp) hrewrites
      ⟨⟨bs, hrewrites.holds (journal_ne_file _ _).symm hbs⟩, fun journal hfind => ?_⟩
    cases hroom.find?_put_self.symm.trans hfind
    decide

/-- Once a journal is there, the file is written, and the journal is removed. -/
theorem Reaches.journaled (contents : Bytes) {journal : Bytes}
    (hr : w₀.Rewrites (Around w₀.current file) w) (hfile : ∃ bs, w.Holds file bs)
    (hjournal : w.Holds (journalPath file) journal) :
    ∃ w', (FileSystem.write file contents : StateM Place (Except FileError Unit)) w = (.ok (), w') ∧
      ∃ w'', (FileSystem.remove (journalPath file) : StateM Place (Except FileError Unit)) w' =
          (.ok (), w'') ∧ Reaches file w₀ w'' := by
  obtain ⟨bs, hbs⟩ := hfile
  have hlocated := (Place.holds_iff_goal.1 hbs).1
  have hwritten := Place.Rewrites.withFile hbs.hasRoom contents
  have hjournal := hwritten.holds (journal_ne_file _ _) hjournal
  refine ⟨_, hbs.write_eq contents, _, hjournal.remove_eq, ?_, ?_⟩
  · refine (hr.trans (hwritten.mono ?_)).trans ((Place.Rewrites.withoutFile hjournal).mono ?_)
    · exact fun l hl => ⟨file, by simp, by rw [hl, hr.current_eq]⟩
    · exact fun l hl =>
        ⟨journalPath file, by simp, by rw [hl, hwritten.current_eq, hr.current_eq]⟩
  · exact .remove_journal ⟨contents, Place.holds_withFile hlocated hbs.hasRoom contents⟩ hjournal

/-- While the file is written, a journal stands beside it, and it is gone in the end. -/
theorem keeps_write (mode : WriteMode) (contents : Bytes) :
    Keeps (Reaches file w₀)
      (write file mode contents : StateM Place (Except LedgerError Unit)) := by
  have hplain : ∀ mode, mode ≠ .journaled → Keeps (Reaches file w₀)
      (write file mode contents : StateM Place (Except LedgerError Unit)) := by
    intro mode hmode
    rw [write, if_neg hmode]
    refine .bind (keeps_write_file contents) fun result => ?_
    cases result with
    | error e => exact .pure _
    | ok u =>
      simp only [if_neg hmode]
      exact .pure _
  cases mode with
  | fixed => exact hplain _ nofun
  | logged => exact hplain _ nofun
  | journaled =>
    intro w h
    obtain ⟨e, hwrite⟩ | ⟨hl, hroom, hwrite⟩ := w.write_cases (journalPath file) contents
    · rw [write, if_pos rfl, StateM.bind_of_eq hwrite]
      exact h
    · have hwritten := Place.Rewrites.withFile hroom contents
      obtain ⟨bs, hbs⟩ := h.quiet.stands
      obtain ⟨w', hfile, w'', hremove, hreaches⟩ := Reaches.journaled contents
        (h.rewrites.trans (hwritten.mono fun l hl => ⟨journalPath file, by simp,
          by rw [hl, h.rewrites.current_eq]⟩))
        ⟨bs, hwritten.holds (journal_ne_file _ _).symm hbs⟩ (Place.holds_withFile hl hroom contents)
      rw [write, if_pos rfl, StateM.bind_of_eq hwrite]
      dsimp only
      rw [StateM.bind_of_eq hfile]
      dsimp only
      rw [if_pos rfl, StateM.bind_of_eq hremove]
      exact hreaches

theorem keeps_readOrMake : Keeps (Reaches file w₀)
    (readOrMake file : StateM Place (Except FileError Bytes)) := by
  rw [readOrMake]
  refine .bind (.of_eq fun _ => rfl) fun found => ?_
  split
  · exact .map _ (keeps_write_file [])
  · exact .pure _

/-- A journal that is taken back names no other file. -/
theorem keeps_takeBack (contents : Bytes) : Keeps (Reaches file w₀)
    (takeBack file contents : StateM Place (Except LedgerError Bytes)) := by
  intro w h
  obtain ⟨found, hread⟩ : ∃ found,
      (FileSystem.read (journalPath file) : StateM Place (Except FileError Bytes)) w =
        (found, w) := ⟨_, rfl⟩
  rw [takeBack, StateM.bind_of_eq hread]
  split
  · exact h
  · exact h
  · exact h
  · rename_i first tail
    have hcalm := h.quiet.calm _ (Place.holds_iff_goal.1 hread).2
    split
    · exact h
    · simp only [hcalm, ite_self]
      have hrest : ∀ before : Bytes, Keeps (Reaches file w₀) (do
          let _ ← (FileSystem.remove (journalPath file) : StateM Place (Except FileError Unit))
          return .ok before : StateM Place (Except LedgerError Bytes)) :=
        fun before => .bind keeps_remove_journal fun _ => .pure _
      refine Keeps.bind (.pure _) (fun isComplete => ?_) w h
      generalize (if isComplete = true then contents else _) = before
      split
      · exact .bind (keeps_write_file _) fun _ => hrest _
      · exact hrest _

theorem keeps_putLog (contents log : Bytes) : Keeps (Reaches file w₀)
    (putLog file contents log : StateM Place (Except LedgerError (Bytes × WriteMode))) := by
  rw [putLog]
  refine .bind (.of_eq fun _ => rfl) fun isFixed => ?_
  split
  · exact .pure _
  · split
    · dsimp only
      split
      · exact .bind (keeps_write_beside (by simp) _) fun _ => .pure _
      · exact .pure _
    · have hrest : ∀ result : Except LedgerError (Bytes × WriteMode), Keeps (Reaches file w₀) (do
          let _ ← (FileSystem.remove (logPath file) : StateM Place (Except FileError Unit))
          let _ ← (FileSystem.remove (sharedPath file) : StateM Place (Except FileError Unit))
          return result : StateM Place (Except LedgerError (Bytes × WriteMode))) :=
        fun result => .bind (keeps_remove_beside (by simp)) fun _ =>
          .bind (keeps_remove_beside (by simp)) fun _ => .pure _
      dsimp only
      split
      · split
        · exact .bind (keeps_write_beside (by simp) _) fun _ => .pure _
        · exact .pure _
      · split
        · exact .bind (keeps_write_file _) fun _ => hrest _
        · exact hrest _

theorem keeps_enterLog (contents : Bytes) : Keeps (Reaches file w₀)
    (enterLog file contents : StateM Place (Except LedgerError (Bytes × WriteMode))) := by
  rw [enterLog]
  refine .bind (.of_eq fun _ => rfl) fun found => ?_
  split
  · exact .pure _
  · dsimp only
    split
    · split
      · exact .bind (keeps_remove_beside (by simp)) fun _ => .pure _
      · exact .pure _
    · split
      · exact keeps_putLog _ _
      · exact .pure _

/-! ## Work on the ledger -/

/-- Whatever the work comes to, the ledger stays in its file, and only the files of the ledger were
touched. -/
def Stays {α : Type} (file : String) (w₀ : Place) (x : StateT LedgerFile (StateM Place) α) : Prop :=
  ∀ l, l.file = file → ∀ w, Reaches file w₀ w →
    (x.run l w).1.2.file = file ∧ Reaches file w₀ (x.run l w).2

namespace Stays

variable {α β : Type}

theorem bind {x : StateT LedgerFile (StateM Place) α}
    {f : α → StateT LedgerFile (StateM Place) β} (hx : Stays file w₀ x)
    (hf : ∀ a, Stays file w₀ (f a)) : Stays file w₀ (x >>= f) := by
  intro l hl w h
  obtain ⟨hl', h'⟩ := hx l hl w h
  exact hf _ _ hl' _ h'

theorem pure (a : α) : Stays file w₀ (Pure.pure a : StateT LedgerFile (StateM Place) α) :=
  fun _ hl _ h => ⟨hl, h⟩

theorem lift {x : StateM Place α} (hx : Keeps (Reaches file w₀) x) :
    Stays file w₀ (liftM x : StateT LedgerFile (StateM Place) α) :=
  fun _ hl w h => ⟨hl, hx w h⟩

variable {x : LedgerWork (StateM Place) α} {f : α → LedgerWork (StateM Place) β}

theorem work_bind (hx : Stays file w₀ x.run) (hf : ∀ a, Stays file w₀ (f a).run) :
    Stays file w₀ (x >>= f).run := by
  rw [ExceptT.run_bind]
  refine bind hx fun result => ?_
  cases result with
  | error e => exact pure _
  | ok a => exact hf a

theorem work_pure (a : α) : Stays file w₀ (Pure.pure a : LedgerWork (StateM Place) α).run :=
  pure _

theorem work_step {x : StateM Place (Except LedgerError α)} (hx : Keeps (Reaches file w₀) x) :
    Stays file w₀ (step x).run :=
  fun _ hl w h => ⟨hl, hx w h⟩

theorem work_lift {x : StateM Place α} (hx : Keeps (Reaches file w₀) x) :
    Stays file w₀ (liftM x : LedgerWork (StateM Place) α).run :=
  fun _ hl w h => ⟨hl, hx w h⟩

/-- The ledger that work finds is in the file. -/
theorem work_get {f : LedgerFile → LedgerWork (StateM Place) β}
    (hf : ∀ l, l.file = file → Stays file w₀ (f l).run) :
    Stays file w₀ ((MonadState.get : LedgerWork (StateM Place) LedgerFile) >>= f).run :=
  fun l hl w h => hf l hl l hl w h

theorem work_set {l : LedgerFile} (hl : l.file = file) :
    Stays file w₀ (set l : LedgerWork (StateM Place) PUnit).run :=
  fun _ _ _ h => ⟨hl, h⟩

theorem work_modify {g : LedgerFile → LedgerFile} (hg : ∀ l, (g l).file = l.file) :
    Stays file w₀ (modify g : LedgerWork (StateM Place) Unit).run :=
  fun l hl _ h => ⟨(hg l).trans hl, h⟩

end Stays

theorem stays_read : Stays file w₀ (read : LedgerWork (StateM Place) _).run := by
  rw [read]
  refine .work_get fun l hl => ?_
  subst hl
  split
  · exact .work_pure _
  · refine .work_bind (.work_step (.map _ keeps_readOrMake)) fun contents => ?_
    refine .work_bind (.work_step (keeps_takeBack contents)) fun contents => ?_
    refine .work_bind (.work_step (keeps_enterLog contents)) fun (contents, mode) => ?_
    refine .work_bind (.work_step (.pure _)) fun d => ?_
    cases mode with
    | journaled | fixed => exact .work_pure _
    | logged => exact .work_bind (.work_set rfl) fun _ => .work_pure _

theorem stays_keep (o : Sql.Outcome) (d : Database) (contents : Bytes) (mode : WriteMode) :
    Stays file w₀ (keep o d contents mode : LedgerWork (StateM Place) Unit).run := by
  rw [keep]
  refine .work_get fun l hl => ?_
  subst hl
  dsimp only
  split
  · refine .work_bind (.work_step (keeps_write mode _)) fun _ => ?_
    split
    · exact .work_modify fun _ => rfl
    · exact .work_pure _
  · split
    · refine .work_bind (.work_step (.bind keeps_write_blank fun result => ?_)) fun _ =>
        .work_bind (.work_lift keeps_remove_journal) fun _ => .work_pure _
      split <;> exact .pure _
    · exact .work_pure _

theorem stays_update (change : Sql.Tally → Database → Sql.Outcome) :
    Stays file w₀ (update change : LedgerWork (StateM Place) Unit).run := by
  rw [update]
  refine .work_bind stays_read fun (d, contents, mode) => ?_
  refine .work_get fun l _ => ?_
  refine .work_bind (.work_modify fun _ => rfl) fun _ => ?_
  refine .work_bind (stays_keep _ d contents mode) fun _ => ?_
  split
  · exact .work_step (.pure _)
  · exact .work_pure _

theorem stays_insert (r : LoadRun) :
    Stays file w₀ (LedgerTables.insert r : LedgerWork (StateM Place) Int).run :=
  .work_bind (stays_update _) fun _ => .work_get fun _ _ => .work_pure _

theorem stays_putTotals (id : Int) (totals : List ClusterTotals) :
    Stays file w₀ (LedgerTables.putTotals id totals : LedgerWork (StateM Place) Unit).run :=
  stays_update _

theorem stays_record (t : TraceLayout) (traceHash : Option String) (startedAt finishedAt : String)
    (result : Except LoadError ProcessGraph) :
    Stays file w₀ (record t traceHash startedAt finishedAt result) := by
  rw [record]
  refine .bind (stays_insert _) fun inserted => ?_
  split
  · exact .pure _
  · split
    · exact .pure _
    · exact .bind (stays_putTotals _ _) fun _ => .pure _

/-! ## Ledgers with a log -/

section Logged

variable {l l' : LedgerFile} {w' : Place} {d : Database} {tally : Sql.Tally}

theorem run_bind_of_eq {α β : Type} {x : LedgerWork (StateM Place) α}
    {f : α → LedgerWork (StateM Place) β} {a : α} (h : x.run.run l w = ((.ok a, l'), w')) :
    (x >>= f).run.run l w = (f a).run.run l' w' := by
  rw [ExceptT.run_bind, StateT.run_bind, StateM.bind_of_eq h]

/-- What is known of a ledger with a log is kept in memory.  A change to it is written over whatever
the file has come to hold. -/
theorem holds_of_update {change : Sql.Tally → Database → Sql.Outcome} (hstands : w.Holds file bs)
    (hchange : (change tally d).database.pages ≠ d.pages) :
    ((update change : LedgerWork (StateM Place) Unit).run.run ⟨file, some d, tally⟩ w).2.Holds file
      ((change tally d).database.toBytes []) := by
  have hlocated := (Place.holds_iff_goal.1 hstands).1
  have hwrite : (write file .logged ((change tally d).database.toBytes []) :
      StateM Place (Except LedgerError Unit)) w =
        (.ok (), w.withFile (goal w.current file) ((change tally d).database.toBytes [])) := by
    rw [write, if_neg nofun]
    dsimp only
    rw [StateM.bind_of_eq (hstands.write_eq _)]
    rfl
  have hstep : (step (write file .logged ((change tally d).database.toBytes [])) :
      LedgerWork (StateM Place) Unit).run.run ⟨file, some d, (change tally d).tally⟩ w =
        ((.ok (), ⟨file, some d, (change tally d).tally⟩),
          w.withFile (goal w.current file) ((change tally d).database.toBytes [])) :=
    StateM.bind_of_eq hwrite
  have hkeep : (keep (change tally d) d [] .logged : LedgerWork (StateM Place) Unit).run.run
      ⟨file, some d, (change tally d).tally⟩ w =
        ((.ok (), ⟨file, some (change tally d).database, (change tally d).tally⟩),
          w.withFile (goal w.current file) ((change tally d).database.toBytes [])) := by
    rw [keep, run_bind_of_eq (x := get) rfl]
    simp only [if_pos hchange]
    rw [run_bind_of_eq hstep]
    rfl
  rw [update, run_bind_of_eq (x := read) rfl]
  dsimp only
  rw [run_bind_of_eq (x := get) rfl, run_bind_of_eq (x := modify _) rfl, run_bind_of_eq hkeep]
  have hholds := Place.holds_withFile hlocated hstands.hasRoom
    ((change tally d).database.toBytes [])
  split <;> exact hholds

end Logged

end LedgerFile

/-- Reading files one after another leaves everything as it is. -/
theorem Place.keeps_readAll {p : Place → Prop} (paths : List String) :
    Keeps p (readAll paths : StateM Place (Except DigestError Bytes)) := by
  induction paths with
  | nil => exact .pure _
  | cons path paths ih =>
    rw [readAll]
    refine .bind (.of_eq fun _ => rfl) fun found => ?_
    cases found with
    | error e => exact .pure _
    | ok bs => exact .bind ih fun _ => .pure _

/-- **A record of a load touches the files of the ledger alone**, whatever the load has come to and
whether the ledger takes the record or not. -/
theorem LedgerFile.stays_recordLoad {file : String} {w₀ : Place} (startedAt : String)
    (t : TraceLayout) (result : Except LoadError ProcessGraph) :
    Stays file w₀ (Command.recordLoad startedAt t result) := by
  rw [Command.recordLoad]
  refine .bind (.lift ?_) fun traceHash => .bind (.lift (.of_eq fun _ => rfl)) fun _ =>
    stays_record t traceHash startedAt _ result
  exact .bind (.bind (Place.keeps_readAll t.files) fun _ => .pure _) fun _ => .pure _

end FlowAtlas
