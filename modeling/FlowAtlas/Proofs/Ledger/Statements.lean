import FlowAtlas.Ledger.Basic
import FlowAtlas.Proofs.Text.Lines
import Mathlib.Data.List.Nodup

/-!
# What the statements of a ledger come to

The statements of a ledger name the columns of its two tables, and each names them in its own order.
On tables in memory, a load that was put in is read back as it was (`runOf_seen`), and so are totals
(`totalsIn_seen`).

`Ledger.Holds` says what is in the two tables. For each statement there is one lemma that says what
they hold behind it, and for each query one that says what it lists.
-/

set_option autoImplicit false

namespace FlowAtlas

/-- The name of an outcome is read as the outcome. -/
@[simp] theorem RunStatus.ofText_text (status : RunStatus) :
    RunStatus.ofText status.text = .ok status := by
  cases status <;> rfl

namespace LedgerTables

/-! ## Rows -/

/-- The row of a load. -/
def runRow (s : StoredRun) : LedgerRow :=
  [("id", .integer s.id), ("process", .text s.run.process), ("trace_dir", .text s.run.traceDir),
    ("trace_hash", .ofOption s.run.traceHash), ("status", .text s.run.status.text),
    ("error", .ofOption s.run.error), ("started_at", .text s.run.startedAt),
    ("finished_at", .text s.run.finishedAt)]

/-- Totals of a load, with the number of their row. -/
structure StoredTotals where
  id : Int
  run : Int
  totals : ClusterTotals

/-- The row of totals. -/
def totalsRow (t : StoredTotals) : LedgerRow :=
  [("id", .integer t.id), ("run_id", .integer t.run), ("cluster", .text t.totals.cluster),
    ("nodes", .integer t.totals.nodes), ("edges", .integer t.totals.edges),
    ("executable_blocks", .integer t.totals.executableBlocks),
    ("entry_points", .integer t.totals.entryPoints),
    ("exit_points", .integer t.totals.exitPoints),
    ("unreachable", .integer t.totals.unreachable),
    ("missed_entries", .integer t.totals.missedEntries)]

/-- The table of loads. -/
def runsTable (stored : List StoredRun) (last : Int) : RowTable :=
  ⟨runsForm.columns, stored.map runRow, last⟩

/-- The table of totals. -/
def totalsTable (entries : List StoredTotals) (last : Int) : RowTable :=
  ⟨totalsForm.columns, entries.map totalsRow, last⟩

variable {stored : List StoredRun} {entries : List StoredTotals} {last : Int}

@[simp] theorem parents_runsTable : (runsTable stored last).parents = [] := rfl

@[simp] theorem parents_totalsTable :
    (totalsTable entries last).parents = [("run_id", runsName)] := rfl

/-- Loads depend on nothing. -/
@[simp] theorem without_runsTable (name : String) (gone : List LedgerRow) :
    (runsTable stored last).without name gone = runsTable stored last := by
  simp only [RowTable.without, parents_runsTable, List.all_nil]
  rw [List.filter_eq_self.2 fun _ _ => rfl]

theorem get_id_runRow (s : StoredRun) : (runRow s).get "id" = .integer s.id := by
  simp [LedgerRow.get, runRow]

theorem get_process_runRow (s : StoredRun) : (runRow s).get "process" = .text s.run.process := by
  simp [LedgerRow.get, runRow, List.lookup_cons]

theorem get_run_totalsRow (t : StoredTotals) : (totalsRow t).get "run_id" = .integer t.run := by
  simp [LedgerRow.get, totalsRow, List.lookup_cons]

theorem get_cluster_totalsRow (t : StoredTotals) :
    (totalsRow t).get "cluster" = .text t.totals.cluster := by
  simp [LedgerRow.get, totalsRow, List.lookup_cons]

@[simp] theorem holds_id_runRow (s : StoredRun) (id : Int) :
    LedgerRow.holds "id" (.integer id) (runRow s) = (s.id == id) := by
  simp [LedgerRow.holds, get_id_runRow, Bool.beq_eq_decide_eq]

@[simp] theorem holds_process_runRow (s : StoredRun) (process : String) :
    LedgerRow.holds "process" (.text process) (runRow s) = (s.run.process == process) := by
  simp [LedgerRow.holds, get_process_runRow, Bool.beq_eq_decide_eq]

@[simp] theorem holds_run_totalsRow (t : StoredTotals) (id : Int) :
    LedgerRow.holds "run_id" (.integer id) (totalsRow t) = (t.run == id) := by
  simp [LedgerRow.holds, get_run_totalsRow, Bool.beq_eq_decide_eq]

/-! ## Putting rows in -/

/-- The values of a new load go to their columns. -/
theorem nextRow_runsTable (r : LoadRun) :
    (runsTable stored last).nextRow (runInsertion.columns.zip [.text r.process, .text r.traceDir,
      .ofOption r.traceHash, .text r.status.text, .ofOption r.error, .text r.startedAt,
      .text r.finishedAt]) = runRow ⟨last + 1, r⟩ := by
  simp [RowTable.nextRow, runsTable, runsForm, runInsertion, runRow, List.lookup_cons]

/-- The values of new totals go to their columns. -/
theorem nextRow_totalsTable (run : Int) (t : ClusterTotals) :
    (totalsTable entries last).nextRow (totalsInsertion.columns.zip (.integer run ::
      .text t.cluster :: [t.nodes, t.edges, t.executableBlocks, t.entryPoints, t.exitPoints,
        t.unreachable, t.missedEntries].map .integer)) = totalsRow ⟨last + 1, run, t⟩ := by
  simp [RowTable.nextRow, totalsTable, totalsForm, totalsInsertion, totalsColumns, totalsRow,
    List.lookup_cons]

theorem allows_runRow (s : StoredRun) : (runsTable stored last).allows (runRow s) = true := by
  simp [RowTable.allows, runsTable, runsForm, runRow, LedgerRow.get, ColumnRule.allows,
    List.lookup_cons]

theorem allows_totalsRow (t : StoredTotals) :
    (totalsTable entries last).allows (totalsRow t) = true := by
  simp [RowTable.allows, totalsTable, totalsForm, totalsRow, LedgerRow.get, ColumnRule.allows,
    List.lookup_cons]

/-! ## Reading rows back -/

/-- A row as a query lists it. -/
def seenRow (q : SqlQuery) (r : LedgerRow) : Listed :=
  q.columns.map fun c => (c, .ofDatum (r.get c))

/-- A load is read as it was put in, though it is listed in another order. -/
theorem runOf_seen (process : Option String) (s : StoredRun) :
    runOf (seenRow (runsQuery process) (runRow s)) = .ok s := by
  obtain ⟨id, process, traceDir, traceHash, status, error, startedAt, finishedAt⟩ := s
  have hstatus : RunStatus.ofText status.text = .ok status := RunStatus.ofText_text status
  cases traceHash <;> cases error <;>
    simp [runOf, seenRow, runsQuery, LedgerRow.get, runRow, List.lookup_cons, Listed.text,
      Listed.integer, Listed.optionalText, SeenValue.ofDatum, Datum.ofOption, bind, Except.bind,
      pure, Except.pure, Functor.map, Except.map]

/-- Totals are read as they were put in. -/
theorem totalsIn_seen (run : Int) (t : StoredTotals) :
    totalsIn (seenRow (totalsQuery run) (totalsRow t)) = .ok t.totals := by
  simp [totalsIn, seenRow, totalsQuery, totalsColumns, LedgerRow.get, totalsRow, List.lookup_cons,
    Listed.text, Listed.integer, SeenValue.ofDatum, bind, Except.bind, pure, Except.pure]

/-- Listed rows are read one after another, if each makes sense. -/
theorem read_rows {α β : Type} {f : Listed → Except LedgerError β} {q : SqlQuery}
    {row : α → LedgerRow} {g : α → β} (h : ∀ a, f (seenRow q (row a)) = .ok (g a)) (as : List α) :
    (SqlAnswer.mk ((as.map row).map (seenRow q)) none).read f = .ok (as.map g) := by
  have hrows : ((as.map row).map (seenRow q)).mapM f = .ok (as.map g) := by
    induction as with
    | nil => rfl
    | cons a as ih =>
      rw [List.map_cons, List.map_cons, List.mapM_cons, h, ih]
      rfl
  rw [SqlAnswer.read, hrows]
  rfl

end LedgerTables

namespace Ledger

open LedgerTables

/-! ## What the tables hold -/

/-- What the two tables of a ledger hold. -/
structure Holds (l : Ledger) (stored : List StoredRun) (last : Int) (entries : List StoredTotals)
    (lastEntry : Int) : Prop where
  runs : l.table? runsName = some (runsTable stored last)
  totals : l.table? totalsName = some (totalsTable entries lastEntry)

@[simp] theorem table?_mapTables (l : Ledger) (f : String → RowTable → RowTable) (name : String) :
    (l.mapTables f).table? name = (l.table? name).map (f name) := by
  obtain ⟨version, tables, lastRow⟩ := l
  induction tables with
  | nil => rfl
  | cons t tables ih =>
    obtain ⟨key, t⟩ := t
    by_cases hkey : name = key
    · subst hkey
      simp [mapTables, table?]
    · have hne : (name == key) = false := beq_false_of_ne hkey
      simpa [mapTables, table?, List.lookup_cons, hne] using ih

@[simp] theorem table?_push (l : Ledger) (key : String) (t : RowTable) (r : LedgerRow)
    (name : String) : (l.push key t r).table? name =
      (l.table? name).map fun u => if name = key then t.push r else u :=
  table?_mapTables l (fun other u => if other = key then t.push r else u) name

@[simp] theorem table?_remove (l : Ledger) (key : String) (t : RowTable)
    (isGone : LedgerRow → Bool) (name : String) : (l.remove key t isGone).table? name =
      (l.table? name).map fun u =>
        if name = key then { u with rows := u.rows.filter (!isGone ·) }
        else u.without key (t.rows.filter isGone) :=
  table?_mapTables l (fun other u =>
    if other = key then { u with rows := u.rows.filter (!isGone ·) }
    else u.without key (t.rows.filter isGone)) name

theorem runsName_ne_totalsName : runsName ≠ totalsName := by decide

variable {l : Ledger} {stored : List StoredRun} {entries : List StoredTotals} {last lastEntry : Int}

/-! ## Putting rows in -/

/-- A row that the rules of the columns allow is put in if what it depends on is there. -/
theorem perform_insert {x : Insertion} {values : List Datum} {t : RowTable} {r : LedgerRow}
    (hopen : l.open? x.table = .ok t) (hrow : t.nextRow (x.columns.zip values) = r)
    (hallowed : t.allows r = true) :
    perform (.insert x values) l =
      if l.isBacked t r then .ok (l.push x.table t r) else .error (.database .parentMissing) := by
  rw [perform, hopen]
  simp only [bind, Except.bind, hrow, hallowed, pure, Except.pure]
  cases l.isBacked t r <;> rfl

namespace Holds

theorem openRuns (h : Holds l stored last entries lastEntry) :
    l.open? runsName = .ok (runsTable stored last) := by
  rw [open?, table, h.runs]
  rfl

theorem openTotals (h : Holds l stored last entries lastEntry) :
    l.open? totalsName = .ok (totalsTable entries lastEntry) := by
  rw [open?, table, h.totals]
  simp [bind, Except.bind, h.runs, pure, Except.pure]

/-- A load gets the next number. -/
theorem addRun (h : Holds l stored last entries lastEntry) (r : LoadRun) :
    ∃ l', performAll (runScript r).commands l = (none, l') ∧ l'.lastRow = last + 1 ∧
      Holds l' (stored ++ [⟨last + 1, r⟩]) (last + 1) entries lastEntry := by
  have hperform := perform_insert (x := runInsertion) h.openRuns (nextRow_runsTable r)
    (allows_runRow ⟨last + 1, r⟩)
  have hbacked (s : StoredRun) : l.isBacked (runsTable stored last) (runRow s) = true := by
    simp [isBacked]
  rw [hbacked, if_pos rfl] at hperform
  refine ⟨l.push runsName (runsTable stored last) (runRow ⟨last + 1, r⟩), ?_, rfl, ?_, ?_⟩
  · rw [runScript, SqlScript.commands, performAll, hperform]
    rfl
  · rw [table?_push, h.runs]
    simp [runsTable, RowTable.push]
  · rw [table?_push, h.totals]
    simp [runsName_ne_totalsName.symm]

/-- Totals depend on a load that has got the number. -/
theorem isBacked_totalsRow (h : Holds l stored last entries lastEntry) (t : StoredTotals) :
    l.isBacked (totalsTable entries lastEntry) (totalsRow t) = stored.any (·.id == t.run) := by
  simp only [isBacked, parents_totalsTable, List.all_cons, List.all_nil, Bool.and_true, h.runs,
    get_run_totalsRow, Option.any_some, runsTable, List.any_map]
  congr 1
  funext s
  exact holds_id_runRow s t.run

/-- Totals are put in behind all others, if there is a load of the number. -/
theorem addTotals (h : Holds l stored last entries lastEntry) (run : Int) (t : ClusterTotals) :
    stored.any (·.id == run) = true ∧ (∃ l', perform (LedgerTables.addTotals run t) l = .ok l' ∧
        Holds l' stored last (entries ++ [⟨lastEntry + 1, run, t⟩]) (lastEntry + 1)) ∨
      stored.any (·.id == run) = false ∧
        perform (LedgerTables.addTotals run t) l = .error (.database .parentMissing) := by
  have hperform := perform_insert (x := totalsInsertion) h.openTotals (nextRow_totalsTable run t)
    (allows_totalsRow ⟨lastEntry + 1, run, t⟩)
  rw [h.isBacked_totalsRow] at hperform
  cases hknown : stored.any (·.id == run) with
  | false => exact .inr ⟨rfl, by rw [LedgerTables.addTotals, hperform, hknown, if_neg nofun]⟩
  | true =>
    rw [hknown, if_pos rfl] at hperform
    refine .inl ⟨rfl, _, hperform, ?_, ?_⟩
    · rw [table?_push, h.runs]
      simp [totalsInsertion, runsName_ne_totalsName]
    · rw [table?_push, h.totals]
      simp [totalsTable, RowTable.push, totalsInsertion]

/-- Totals of a load that has got its number are put in one after another. -/
theorem addAllTotals (h : Holds l stored last entries lastEntry) {run : Int}
    (hknown : stored.any (·.id == run) = true) (totals : List ClusterTotals) :
    ∃ l' added lastAdded, performAll (totals.map (LedgerTables.addTotals run)) l = (none, l') ∧
      Holds l' stored last (entries ++ added) lastAdded ∧ (∀ t ∈ added, t.run = run) ∧
      added.map (·.totals) = totals := by
  induction totals generalizing l entries lastEntry with
  | nil => exact ⟨l, [], lastEntry, rfl, by simpa using h, by simp, rfl⟩
  | cons t totals ih =>
    -- the loads are as before behind each row, so the load stays known
    rcases h.addTotals run t with ⟨-, l', hperform, h'⟩ | ⟨hunknown, -⟩
    · obtain ⟨l'', added, lastAdded, hall, h'', hrun, hadded⟩ := ih h'
      refine ⟨l'', ⟨lastEntry + 1, run, t⟩ :: added, lastAdded, ?_, by simpa using h'',
        List.forall_mem_cons.2 ⟨rfl, hrun⟩, ?_⟩
      · rw [List.map_cons, performAll, hperform]
        exact hall
      · rw [List.map_cons, hadded]
    · rw [hknown] at hunknown
      cases hunknown

/-! ## Taking rows out -/

/-- The totals of a load are taken out, and nothing depends on them. -/
theorem removeTotals (h : Holds l stored last entries lastEntry) (run : Int) :
    ∃ l', perform (.delete totalsDeletion (.integer run)) l = .ok l' ∧ l'.lastRow = l.lastRow ∧
      Holds l' stored last (entries.filter (·.run != run)) lastEntry := by
  refine ⟨l.remove totalsName (totalsTable entries lastEntry)
    (LedgerRow.holds "run_id" (.integer run)), ?_, rfl, ?_, ?_⟩
  · rw [perform, totalsDeletion, takeOut, table, h.totals]
    rfl
  · rw [table?_remove, h.runs]
    simp [runsName_ne_totalsName]
  · rw [table?_remove, h.totals]
    simp [totalsTable, List.filter_map, Function.comp_def, bne]

/-- The totals of a load are replaced, if there is a load of the number or there are no new ones.
Otherwise a statement fails before it puts in a row. -/
theorem replaceTotals (h : Holds l stored last entries lastEntry) (run : Int)
    (totals : List ClusterTotals) :
    (totals = [] ∨ run ∈ stored.map (·.id)) ∧ (∃ l' added lastAdded,
        performAll (totalsScript run totals).commands l = (none, l') ∧
        Holds l' stored last (entries.filter (·.run != run) ++ added) lastAdded ∧
        (∀ t ∈ added, t.run = run) ∧ added.map (·.totals) = totals) ∨
      (totals ≠ [] ∧ run ∉ stored.map (·.id)) ∧ ∃ e l',
        performAll (totalsScript run totals).commands l = (some e, l') ∧
        l'.lastRow = l.lastRow := by
  obtain ⟨l₁, hremove, hlast, h₁⟩ := h.removeTotals run
  have hprepare : perform (.prepare totalsInsertion) l₁ = .ok l₁ := by
    rw [perform, totalsInsertion, h₁.openTotals]
    rfl
  have hsteps : performAll (totalsScript run totals).commands l =
      performAll (totals.map (LedgerTables.addTotals run)) l₁ := by
    rw [totalsScript, SqlScript.commands, performAll, hremove]
    dsimp only
    rw [performAll, hprepare]
  have hmem : run ∈ stored.map (·.id) ↔ stored.any (·.id == run) = true := by simp
  rw [hsteps, hmem]
  cases totals with
  | nil => exact .inl ⟨.inl rfl, l₁, [], lastEntry, rfl, by simpa using h₁, by simp, rfl⟩
  | cons t totals =>
    cases hknown : stored.any (·.id == run) with
    | true =>
      exact .inl ⟨.inr rfl, h₁.addAllTotals hknown (t :: totals)⟩
    | false =>
      rcases h₁.addTotals run t with ⟨hno, -⟩ | ⟨-, hfail⟩
      · rw [hknown] at hno
        cases hno
      · -- the first row is refused, so that no number was given out
        refine .inr ⟨⟨nofun, nofun⟩, .database .parentMissing, l₁, ?_, hlast⟩
        rw [List.map_cons, performAll, hfail]

end Holds

/-! ## Queries -/

/-- What is listed are rows of the table. -/
theorem ask_eq {q : SqlQuery} {t : RowTable} (h : l.table? q.table = some t) :
    l.ask q = .ok ⟨(t.select q).map (seenRow q), none⟩ := by
  rw [ask, table, h]
  rfl

/-- Numbers are sorted by size. -/
theorem le_integer (a b : Int) : Datum.le (.integer a) (.integer b) = decide (a ≤ b) := rfl

/-- Texts are sorted by their bytes, which is how they are ordered. -/
theorem le_text (a b : String) : Datum.le (.text a) (.text b) = decide (a ≤ b) := by
  rw [Datum.le, decide_eq_decide]
  exact Bytes.ofText_le_ofText_iff

/-- The loads of a process, or all, are found by the values in their rows. -/
theorem filter_runRow (process : Option String) :
    (stored.map runRow).filter (fun r => (process.map fun p => ("process", Datum.text p)).all
      fun (column, v) => r.holds column v) =
      (stored.filter fun s => process.all (s.run.process == ·)).map runRow := by
  rw [List.filter_map]
  congr 2
  funext s
  cases process <;> simp

/-- Loads are listed in the order of their numbers, which is the order in which they came. -/
theorem select_runs (hrising : stored.Pairwise (·.id < ·.id)) (process : Option String) :
    (runsTable stored last).select (runsQuery process) =
      (stored.filter fun s => process.all (s.run.process == ·)).map runRow := by
  have hsorted : ((stored.filter fun s => process.all (s.run.process == ·)).map runRow).Pairwise
      fun a b => Datum.le (a.get "id") (b.get "id") = true := by
    rw [List.pairwise_map]
    refine (hrising.filter _).imp fun hab => ?_
    rw [get_id_runRow, get_id_runRow, le_integer]
    exact decide_eq_true (Int.le_of_lt hab)
  simp only [RowTable.select, runsQuery, runsTable, Option.elim_none, filter_runRow]
  exact List.mergeSort_of_pairwise hsorted

/-- A list is sorted into another one that holds the same, unless something stands beside something
else. -/
theorem mergeSort_eq_of_perm {α : Type} {le : α → α → Bool} {as bs : List α}
    (htrans : ∀ a b c, le a b = true → le b c = true → le a c = true)
    (htotal : ∀ a b, (le a b || le b a) = true)
    (hanti : ∀ a ∈ as, ∀ b ∈ as, le a b = true → le b a = true → a = b) (hperm : as.Perm bs)
    (hsorted : bs.Pairwise fun a b => le a b = true) : as.mergeSort le = bs := by
  refine List.Perm.eq_of_pairwise (fun a b ha hb => hanti a ?_ b ?_)
    (List.pairwise_mergeSort htrans htotal as) hsorted ((List.mergeSort_perm as le).trans hperm)
  · exact (List.mergeSort_perm as le).mem_iff.1 ha
  · exact hperm.mem_iff.2 hb

/-- Loads with numbers that rise are turned around when the greatest number comes first. -/
theorem mergeSort_falling (hrising : stored.Pairwise (·.id < ·.id)) :
    (stored.mergeSort fun a b => decide (b.id ≤ a.id)) = stored.reverse := by
  have hnodup : (stored.map (·.id)).Nodup := by
    rw [List.Nodup, List.pairwise_map]
    exact hrising.imp fun hab => Int.ne_of_lt hab
  refine mergeSort_eq_of_perm ?_ ?_ ?_ (List.reverse_perm stored).symm ?_
  · intro a b c hab hbc
    rw [decide_eq_true_eq] at hab hbc ⊢
    omega
  · intro a b
    rw [Bool.or_eq_true, decide_eq_true_eq, decide_eq_true_eq]
    omega
  · intro a ha b hb hab hba
    rw [decide_eq_true_eq] at hab hba
    exact List.inj_on_of_nodup_map hnodup ha hb (Int.le_antisymm hba hab)
  · rw [List.pairwise_reverse]
    exact hrising.imp fun hab => decide_eq_true (Int.le_of_lt hab)

/-- The latest load of a process is the last one that came. -/
theorem select_latest (hrising : stored.Pairwise (·.id < ·.id)) (process : String) :
    (runsTable stored last).select (latestQuery process) =
      ((stored.filter (·.run.process == process)).getLast?.toList).map runRow := by
  have hmet : (stored.map runRow).filter (LedgerRow.holds "process" (.text process)) =
      (stored.filter (·.run.process == process)).map runRow := filter_runRow (some process)
  have hsorted : ((stored.filter (·.run.process == process)).map runRow).mergeSort
      (fun a b => Datum.le (b.get "id") (a.get "id")) =
      (stored.filter (·.run.process == process)).reverse.map runRow := by
    rw [← mergeSort_falling (hrising.filter _), List.map_mergeSort]
    intro a _ b _
    rw [get_id_runRow, get_id_runRow, le_integer]
  simp only [RowTable.select, latestQuery, runsTable, Option.all_some, Option.elim_some, if_true,
    hmet, hsorted]
  rw [← List.map_take, List.take_one, List.head?_reverse]

/-- The totals of a load are listed by the names of the clusters. -/
theorem select_totals (run : Int) :
    (totalsTable entries last).select (totalsQuery run) =
      ((entries.filter (·.run == run)).mergeSort
        fun a b => decide (a.totals.cluster ≤ b.totals.cluster)).map totalsRow := by
  have hmet : (entries.map totalsRow).filter (LedgerRow.holds "run_id" (.integer run)) =
      (entries.filter (·.run == run)).map totalsRow := by
    rw [List.filter_map]
    congr 2
    funext t
    exact holds_run_totalsRow t run
  have hsorted : ((entries.filter (·.run == run)).map totalsRow).mergeSort
      (fun a b => Datum.le (a.get "cluster") (b.get "cluster")) =
      ((entries.filter (·.run == run)).mergeSort
        fun a b => decide (a.totals.cluster ≤ b.totals.cluster)).map totalsRow := by
    rw [List.map_mergeSort]
    intro a _ b _
    rw [get_cluster_totalsRow, get_cluster_totalsRow, le_text]
  simp only [RowTable.select, totalsQuery, totalsTable, Option.all_some, Option.elim_none, hmet]
  exact hsorted

end Ledger
end FlowAtlas
