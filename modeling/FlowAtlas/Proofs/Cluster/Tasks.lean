import FlowAtlas.Proofs.Cluster.Requests
import FlowAtlas.Proofs.Graph.EdgeRuns

/-!
# What edge records ask of the clusters, one cluster at a time

An edge record that is resolved asks of its clusters to join two nodes, to lead a node to the exit
of a signature, or to lead the entry of a signature to a node.  A `Cluster.Task` is one of these
three, and `Clusters.perform` does tasks one after another, each in its own cluster.

* `perform_eq_ok_iff` takes the clusters apart: tasks succeed together exactly when each cluster's
  own tasks succeed in it, and then every cluster is as its own tasks leave it.
* `Cluster.Widens` is what a task that succeeds keeps, and `Cluster.Done` that what a task asks for
  is there.  A task that succeeded is done from then on (`Cluster.widens_run`, `Done.of_widens`), and
  a task that is done succeeds and changes nothing (`run_of_done`).  So tasks that were done once can
  be done again (`Clusters.perform_again`).
-/

set_option autoImplicit false

namespace FlowAtlas

open EStateM

/-! ## Tasks -/

namespace Cluster

/-- What can be asked of a cluster on behalf of an edge record. -/
inductive Task
  /-- Join two nodes. -/
  | join (source target : NodeId) (kind : EdgeKind) (ordinal : UInt8)
  /-- Lead a node to the exit of a signature. -/
  | leave (source : NodeId) (transfer : Transfer)
  /-- Lead the entry of a signature to a node. -/
  | enter (target : NodeId) (transfer : Transfer)

/-- Find or make a boundary node on behalf of a node, whose unit owns it when it is new, and join
the two. -/
def bridge (n : NodeId) (place : UnitId → Cluster → (NodeId × Bool) × Cluster)
    (link : NodeId → EStateM GraphError Cluster EdgeOutcome) :
    EStateM GraphError Cluster ((NodeId × Bool) × EdgeOutcome) := do
  let owner := ((← get).graph.node n).unit
  let placed ← modifyGet (place owner)
  let outcome ← link placed.1
  return (placed, outcome)

/-- Lead a node to the exit of a signature. -/
def leave (a : NodeId) (t : Transfer) :
    EStateM GraphError Cluster ((NodeId × Bool) × EdgeOutcome) :=
  bridge a (fun owner c => c.addExitFor t.signature owner t.isCallback) fun n =>
    addEdge a n t.kind t.ordinal

/-- Lead the entry of a signature to a node. -/
def enter (b : NodeId) (t : Transfer) :
    EStateM GraphError Cluster ((NodeId × Bool) × EdgeOutcome) :=
  bridge b (fun owner c => c.addEntryFor t.signature owner t.isCallback) fun n =>
    addEdge n b .crossCustomModule 0

namespace Task

/-- Do what is asked for. -/
def run : Task → EStateM GraphError Cluster Unit
  | join a b k o => addEdge a b k o >>= fun _ => pure ()
  | leave a t => Cluster.leave a t >>= fun _ => pure ()
  | enter b t => Cluster.enter b t >>= fun _ => pure ()

/-- The nodes of the task are there. -/
def Proper (c : Cluster) : Task → Prop
  | join a b _ _ => c.graph.hasNode a ∧ c.graph.hasNode b
  | leave a _ => c.graph.hasNode a
  | enter b _ => c.graph.hasNode b

end Task

/-- Do tasks one after another, up to the first that is refused. -/
def perform (tasks : List Task) : EStateM GraphError Cluster Unit := tasks.forM Task.run

end Cluster

namespace Clusters

open Cluster (Task)

/-- Do tasks one after another, each in its cluster, up to the first that is refused. -/
def perform (tasks : List (ClusterId × Task)) : EStateM GraphError Clusters Unit :=
  tasks.forM fun q => on q.1 q.2.run

/-- The tasks for one cluster. -/
def tasksAt (i : ClusterId) (tasks : List (ClusterId × Task)) : List Task :=
  (tasks.filter (·.1 = i)).map (·.2)

variable {ε α β : Type} {cs cs' : Clusters} {i : ClusterId} {q : ClusterId × Task}
  {tasks : List (ClusterId × Task)} {x : EStateM ε Cluster α} {f : α → EStateM ε Cluster β}

/-! ## One cluster at a time -/

theorem ext_get (hsize : cs.size = cs'.size) (hget : ∀ i, cs.get i = cs'.get i) : cs = cs' := by
  refine Array.ext hsize fun n hn hn' => ?_
  have hn := hget ⟨n⟩
  rw [get, get, Array.getD_eq_getD_getElem?, Array.getD_eq_getD_getElem?] at hn
  simpa [*] using hn

theorem set_get_self (cs : Clusters) (i : ClusterId) :
    cs.setIfInBounds i.index (cs.get i) = cs := by
  refine ext_get Array.size_setIfInBounds fun j => ?_
  rw [get_setIfInBounds]
  split
  · rename_i hj
    rw [hj.1]
  · rfl

theorem on_eq_ok_iff {a : α} :
    on i x cs = .ok a cs' ↔ ∃ c, x (cs.get i) = .ok a c ∧ cs' = cs.setIfInBounds i.index c := by
  refine ⟨on_eq_ok, ?_⟩
  rintro ⟨c, hx, rfl⟩
  rw [on, hx]
  exact congrArg (Result.ok a) (Array.setIfInBounds_setIfInBounds _)

theorem on_of_error {cause : ε} {c : Cluster}
    (h : x (cs.get i) = .error cause c) :
    on i x cs = .error cause (cs.setIfInBounds i.index c) := by
  rw [on, h]
  exact congrArg (Result.error cause) (Array.setIfInBounds_setIfInBounds _)

/-- Steps in one cluster can be done one by one. -/
theorem on_bind (hi : i.index < cs.size) :
    on i (x >>= f) cs = (on i x >>= fun a => on i (f a)) cs := by
  cases hx : x (cs.get i) with
  | ok a c =>
    have hon : on i x cs = .ok a (cs.setIfInBounds i.index c) := on_eq_ok_iff.2 ⟨c, hx, rfl⟩
    have hget : get (cs.setIfInBounds i.index c) i = c := by
      rw [get_setIfInBounds, if_pos ⟨rfl, hi⟩]
    rw [bind_of_ok hon, on, on, bind_of_ok hx, hget]
    simp only [Array.setIfInBounds_setIfInBounds]
  | error cause c =>
    have hon : on i x cs = .error cause (cs.setIfInBounds i.index c) := by
      rw [on, hx]
      exact congrArg (Result.error cause) (Array.setIfInBounds_setIfInBounds _)
    rw [bind_of_error hon, on, bind_of_error hx]
    exact congrArg (Result.error cause) (Array.setIfInBounds_setIfInBounds _)

theorem on_pure (b : β) : on i (pure b) cs = (.ok b cs : EStateM.Result ε Clusters β) :=
  on_eq_ok_iff.2 ⟨cs.get i, rfl, (set_get_self cs i).symm⟩

theorem perform_cons_eq_ok_iff :
    perform (q :: tasks) cs = .ok () cs' ↔ ∃ c, q.2.run (cs.get q.1) = .ok () c ∧
      perform tasks (cs.setIfInBounds q.1.index c) = .ok () cs' := by
  rw [perform, forM_cons_eq_ok_iff]
  constructor
  · rintro ⟨cs₁, hq, htasks⟩
    obtain ⟨c, hc, rfl⟩ := on_eq_ok hq
    exact ⟨c, hc, htasks⟩
  · rintro ⟨c, hc, htasks⟩
    exact ⟨_, on_eq_ok_iff.2 ⟨c, hc, rfl⟩, htasks⟩

theorem tasksAt_cons_self : tasksAt q.1 (q :: tasks) = q.2 :: tasksAt q.1 tasks := by
  simp [tasksAt]

theorem tasksAt_cons_of_ne (hi : i ≠ q.1) : tasksAt i (q :: tasks) = tasksAt i tasks := by
  simp [tasksAt, hi.symm]

/-- **Tasks succeed together exactly when each cluster's own tasks succeed in it**, and each cluster
is then as its own tasks leave it. -/
theorem perform_eq_ok_iff (hi : ∀ q ∈ tasks, q.1.index < cs.size) :
    perform tasks cs = .ok () cs' ↔ cs'.size = cs.size ∧
      ∀ i, Cluster.perform (tasksAt i tasks) (cs.get i) = .ok () (cs'.get i) := by
  induction tasks generalizing cs with
  | nil =>
    constructor
    · intro h
      cases h
      exact ⟨rfl, fun i => rfl⟩
    · rintro ⟨hsize, hget⟩
      have heq : cs = cs' := by
        refine ext_get hsize.symm fun i => ?_
        have hi : Result.ok () (cs.get i) = Result.ok () (cs'.get i) := hget i
        exact (Result.ok.inj hi).2
      rw [heq]
      rfl
  | cons q tasks ih =>
    have hq := hi q List.mem_cons_self
    have hsize : ∀ c : Cluster, (cs.setIfInBounds q.1.index c).size = cs.size := fun c =>
      Array.size_setIfInBounds
    have hrest : ∀ c, ∀ q' ∈ tasks, q'.1.index < (cs.setIfInBounds q.1.index c).size :=
      fun c q' hq' => (hsize c).symm ▸ hi q' (List.mem_cons_of_mem q hq')
    have hself : ∀ c, get (cs.setIfInBounds q.1.index c) q.1 = c := fun c => by
      rw [get_setIfInBounds, if_pos ⟨rfl, hq⟩]
    have hother : ∀ c i, i ≠ q.1 → get (cs.setIfInBounds q.1.index c) i = cs.get i :=
      fun c i hne => by rw [get_setIfInBounds, if_neg fun h => hne h.1]
    rw [perform_cons_eq_ok_iff]
    constructor
    · rintro ⟨c, hc, htasks⟩
      obtain ⟨hsize', hget⟩ := (ih (hrest c)).1 htasks
      refine ⟨hsize'.trans (hsize c), fun i => ?_⟩
      by_cases hne : i = q.1
      · subst hne
        have hget := hget q.1
        rw [hself] at hget
        rw [tasksAt_cons_self]
        exact forM_cons_eq_ok_iff.2 ⟨c, hc, hget⟩
      · have hget := hget i
        rwa [hother c i hne, ← tasksAt_cons_of_ne hne] at hget
    · rintro ⟨hsize', hget⟩
      have hgetq := hget q.1
      rw [tasksAt_cons_self] at hgetq
      obtain ⟨c, hc, hgetq⟩ := forM_cons_eq_ok_iff.1 hgetq
      refine ⟨c, hc, (ih (hrest c)).2 ⟨hsize'.trans (hsize c).symm, fun i => ?_⟩⟩
      by_cases hne : i = q.1
      · subst hne
        rw [hself]
        exact hgetq
      · have hget := hget i
        rwa [tasksAt_cons_of_ne hne, ← hother c i hne] at hget

end Clusters

/-! ## What a task keeps -/

namespace Cluster

variable {c c' c₁ c₂ c₃ : Cluster} {n m : Nat} {a b : NodeId} {k : EdgeKind} {o : UInt8} {z : Edge}
  {t : Transfer} {outcome : EdgeOutcome} {task : Task} {tasks : List Task} {x : Node}
  {placed : NodeId × Bool} {result : (NodeId × Bool) × EdgeOutcome} {u : Unit}

/-- The cluster `c'` has come of `c` without new blocks, and has at most `n` more edges.  What an
edge stood for, an edge still stands for. -/
structure Widens (c c' : Cluster) (n : Nat) : Prop where
  coherent : c'.Coherent
  extends_ : c.Extends c'
  sameBlocks : c.SameBlocks c'
  serves : ∀ z, c.graph.Serves z → c'.graph.Serves z
  edgeCount_le : c'.graph.edgeCount ≤ c.graph.edgeCount + n

theorem Widens.refl (h : c.Coherent) : c.Widens c 0 where
  coherent := h
  extends_ := Extends.refl c
  sameBlocks _ _ _ := rfl
  serves _ hz := hz
  edgeCount_le := Nat.le_refl _

theorem Widens.trans (h : c₁.Widens c₂ n) (h' : c₂.Widens c₃ m) : c₁.Widens c₃ (n + m) where
  coherent := h'.coherent
  extends_ := h.extends_.trans h'.extends_
  sameBlocks unit tag version :=
    (h'.sameBlocks unit tag version).trans (h.sameBlocks unit tag version)
  serves z hz := h'.serves z (h.serves z hz)
  edgeCount_le := by
    have hn := h.edgeCount_le
    have hm := h'.edgeCount_le
    omega

theorem NodeStep.edges_eq (hs : NodeStep c x (placed, c')) : c'.graph.edges = c.graph.edges := by
  have hnew : ∀ y : Node, (c.graph.addNode y).2.edges = c.graph.edges := fun y => by
    rw [Graph.addNode]
    split
    · rfl
    · rfl
  cases hs with
  | knownEntry | knownExit | knownRoot => rfl
  | entry | exit | root | block => exact hnew _

/-- A boundary node brings no edges. -/
theorem NodeStep.widens (hs : NodeStep c x (placed, c')) (h : c.Coherent) (hx : x.edges = {})
    (hblock : x.key.isBlock = false) : c.Widens c' 0 where
  coherent := hs.coherent h hx
  extends_ := hs.extends_
  sameBlocks unit tag version := by
    refine hs.find?_eq_of_ne fun hkey => ?_
    rw [hkey] at hblock
    cases hblock
  serves z hz := hz.of_edges_eq hs.edges_eq
  edgeCount_le := by rw [Graph.edgeCount, hs.edges_eq]; exact Nat.le_refl _

/-- An edge that is granted is served. -/
theorem widens_addEdge (h : c.Coherent) (ha : c.graph.hasNode a) (hb : c.graph.hasNode b)
    (hr : addEdge a b k o c = .ok outcome c') :
    c.Widens c' 1 ∧ c'.graph.Serves ⟨a, b, k, o⟩ := by
  have hgrow := grows_addEdge h ha hb hr
  have hblocks := sameBlocks_addEdge hr
  obtain ⟨g, hg, rfl⟩ := addEdge_eq_ok hr
  refine ⟨⟨hgrow.coherent, hgrow.extends_, hblocks, fun z hz => ?_, ?_⟩, h.graph.serves_addEdge hg⟩
  · have hkept := hz.addEdge (s := a) (t := b) (k := k) (o := o) h.graph
    rwa [hg] at hkept
  · have hcount := h.graph.edgeCount_addEdge_le (s := a) (t := b) (k := k) (o := o)
    rwa [hg] at hcount

/-- A boundary node that is placed and joined to another node brings the edge between the two. -/
theorem NodeStep.widens_addEdge (hs : NodeStep c x (placed, c₁)) (h : c.Coherent)
    (hx : x.edges = {}) (hblock : x.key.isBlock = false) (ha : c₁.graph.hasNode a)
    (hb : c₁.graph.hasNode b) (hr : addEdge a b k o c₁ = .ok outcome c') :
    c.Widens c' 1 ∧ c₁.Extends c' ∧ c'.graph.Serves ⟨a, b, k, o⟩ := by
  have hplaced := hs.widens h hx hblock
  obtain ⟨hjoined, hz⟩ := Cluster.widens_addEdge hplaced.coherent ha hb hr
  exact ⟨hplaced.trans hjoined, hjoined.extends_, hz⟩

theorem addEdge_of_graph {g : Graph} (h : Graph.addEdge a b k o c.graph = .ok outcome g) :
    addEdge a b k o c = .ok outcome { c with graph := g } := by
  rw [addEdge, onGraph]
  dsimp only
  rw [h]

/-- A request for an edge that is served changes nothing. -/
theorem addEdge_of_serves (h : c.Coherent) (hz : c.graph.Serves ⟨a, b, k, o⟩) :
    ∃ outcome, addEdge a b k o c = .ok outcome c := by
  obtain ⟨outcome, hr, -⟩ := h.graph.addEdge_of_serves hz
  exact ⟨outcome, addEdge_of_graph hr⟩

/-- Making a bridge succeeds when the edge is granted, after the boundary node was placed. -/
theorem bridge_eq_ok_iff {node : NodeId} {place : UnitId → Cluster → (NodeId × Bool) × Cluster}
    {link : NodeId → EStateM GraphError Cluster EdgeOutcome} :
    bridge node place link c = .ok result c' ↔ ∃ c₁,
      place (c.graph.node node).unit c = (result.1, c₁) ∧ link result.1.1 c₁ = .ok result.2 c' := by
  have hbridge : bridge node place link c =
      (link (place (c.graph.node node).unit c).1.1 >>= fun outcome =>
        pure ((place (c.graph.node node).unit c).1, outcome))
          (place (c.graph.node node).unit c).2 := rfl
  rw [hbridge, bind_eq_ok_iff]
  constructor
  · rintro ⟨outcome, c₂, hlink, hpure⟩
    cases hpure
    exact ⟨_, rfl, hlink⟩
  · rintro ⟨c₁, hplace, hlink⟩
    rw [hplace]
    exact ⟨result.2, c', hlink, rfl⟩

/-- A node is led to the exit of a new signature through a new boundary node. -/
theorem exists_run_leave {g : Graph} (hnone : c.exitPoint? t.signature = none)
    (hx : x = .boundary t.signature .clusterExit t.isCallback (c.graph.node a).unit)
    (hnew : c.graph.find? x.key = none)
    (hedge : Graph.addEdge a ⟨c.graph.nodeCount⟩ t.kind t.ordinal (c.graph.withNode x) =
      .ok outcome g) :
    ∃ c', (Task.leave a t).run c = .ok () c' ∧ c'.graph = g ∧ c'.name = c.name := by
  have hplace : c.addExitFor t.signature (c.graph.node a).unit t.isCallback =
      ((⟨c.graph.nodeCount⟩, true), { c with
        graph := c.graph.withNode x
        exits := c.exits.insert x.hash ⟨c.graph.nodeCount⟩ }) := by
    have hhash : c.exits[x.hash]? = none := hx ▸ hnone
    rw [addExitFor, addExit, ← hx, hhash]
    dsimp only
    rw [Graph.addNode_of_new hnew]
    rfl
  have hbridge : Cluster.leave a t c = .ok ((⟨c.graph.nodeCount⟩, true), outcome) _ :=
    bridge_eq_ok_iff.2 ⟨_, hplace, addEdge_of_graph hedge⟩
  exact ⟨_, bind_of_ok hbridge, rfl, rfl⟩

/-- The entry of a new signature leads to a node from a new boundary node. -/
theorem exists_run_enter {g : Graph} (hnone : c.entryPoint? t.signature = none)
    (hx : x = .boundary t.signature .clusterEntry t.isCallback (c.graph.node b).unit)
    (hnew : c.graph.find? x.key = none)
    (hedge : Graph.addEdge ⟨c.graph.nodeCount⟩ b .crossCustomModule 0 (c.graph.withNode x) =
      .ok outcome g) :
    ∃ c', (Task.enter b t).run c = .ok () c' ∧ c'.graph = g ∧ c'.name = c.name := by
  have hplace : c.addEntryFor t.signature (c.graph.node b).unit t.isCallback =
      ((⟨c.graph.nodeCount⟩, true), { c with
        graph := c.graph.withNode x
        entries := c.entries.insert x.hash ⟨c.graph.nodeCount⟩ }) := by
    have hhash : c.entries[x.hash]? = none := hx ▸ hnone
    rw [addEntryFor, addEntry, ← hx, hhash]
    dsimp only
    rw [Graph.addNode_of_new hnew]
    rfl
  have hbridge : Cluster.enter b t c = .ok ((⟨c.graph.nodeCount⟩, true), outcome) _ :=
    bridge_eq_ok_iff.2 ⟨_, hplace, addEdge_of_graph hedge⟩
  exact ⟨_, bind_of_ok hbridge, rfl, rfl⟩

/-! ## Tasks that are done -/

/-- What the task asks for is there. -/
def Done (c : Cluster) : Task → Prop
  | .join a b k o => c.graph.Serves ⟨a, b, k, o⟩
  | .leave a t => ∃ n, c.exitPoint? t.signature = some n ∧
      c.graph.Serves ⟨a, n, t.kind, t.ordinal⟩
  | .enter b t => ∃ n, c.entryPoint? t.signature = some n ∧
      c.graph.Serves ⟨n, b, .crossCustomModule, 0⟩

theorem Done.of_widens (hd : c.Done task) (hw : c.Widens c' n) : c'.Done task := by
  cases task with
  | join a b k o => exact hw.serves _ hd
  | leave a t =>
    obtain ⟨n, hn, hz⟩ := hd
    exact ⟨n, hw.extends_.exitPoint?_eq_some _ _ hn, hw.serves _ hz⟩
  | enter b t =>
    obtain ⟨n, hn, hz⟩ := hd
    exact ⟨n, hw.extends_.entryPoint?_eq_some _ _ hn, hw.serves _ hz⟩

theorem Task.Proper.of_widens (hp : task.Proper c) (hw : c.Widens c' n) : task.Proper c' := by
  have hnode := hw.extends_.graph.hasNode
  cases task with
  | join a b k o => exact ⟨hnode a hp.1, hnode b hp.2⟩
  | leave a t => exact hnode a hp
  | enter b t => exact hnode b hp

/-- **A task that succeeds is done**, and adds an edge at most. -/
theorem widens_run (h : c.Coherent) (hp : task.Proper c) (hr : task.run c = .ok u c') :
    c.Widens c' 1 ∧ c'.Done task := by
  cases task with
  | join a b k o =>
    obtain ⟨outcome, c₁, hr, hpure⟩ := bind_eq_ok_iff.1 hr
    cases hpure
    exact widens_addEdge h hp.1 hp.2 hr
  | leave a t =>
    obtain ⟨result, c₂, hr, hpure⟩ := bind_eq_ok_iff.1 hr
    cases hpure
    obtain ⟨c₁, hplace, hlink⟩ := bridge_eq_ok_iff.1 hr
    have hs := nodeStep_addExitFor c t.signature (c.graph.node a).unit t.isCallback
    rw [hplace] at hs
    obtain ⟨hw, hext, hz⟩ := hs.widens_addEdge h rfl rfl (hs.extends_.graph.hasNode a hp)
      (hs.hasNode h) hlink
    have hexit := hext.exitPoint?_eq_some _ _ (exitPoint?_addExitFor hplace)
    exact ⟨hw, _, hexit, hz⟩
  | enter b t =>
    obtain ⟨result, c₂, hr, hpure⟩ := bind_eq_ok_iff.1 hr
    cases hpure
    obtain ⟨c₁, hplace, hlink⟩ := bridge_eq_ok_iff.1 hr
    have hs := nodeStep_addEntryFor c t.signature (c.graph.node b).unit t.isCallback
    rw [hplace] at hs
    obtain ⟨hw, hext, hz⟩ := hs.widens_addEdge h rfl rfl (hs.hasNode h)
      (hs.extends_.graph.hasNode b hp) hlink
    have hentry := hext.entryPoint?_eq_some _ _ (entryPoint?_addEntryFor hplace)
    exact ⟨hw, _, hentry, hz⟩

/-- **A task that is done succeeds and changes nothing.** -/
theorem run_of_done (h : c.Coherent) (hd : c.Done task) : task.run c = .ok () c := by
  cases task with
  | join a b k o =>
    obtain ⟨outcome, hr⟩ := addEdge_of_serves h hd
    exact bind_of_ok hr
  | leave a t =>
    obtain ⟨n, hn, hz⟩ := hd
    obtain ⟨outcome, hr⟩ := addEdge_of_serves h hz
    have hplace : c.addExitFor t.signature (c.graph.node a).unit t.isCallback =
        ((n, false), c) := by
      rw [exitPoint?] at hn
      rw [addExitFor, addExit, Node.boundary]
      dsimp only
      rw [hn]
    have hbridge : Cluster.leave a t c = .ok ((n, false), outcome) c :=
      bridge_eq_ok_iff.2 ⟨c, hplace, hr⟩
    exact bind_of_ok hbridge
  | enter b t =>
    obtain ⟨n, hn, hz⟩ := hd
    obtain ⟨outcome, hr⟩ := addEdge_of_serves h hz
    have hplace : c.addEntryFor t.signature (c.graph.node b).unit t.isCallback =
        ((n, false), c) := by
      rw [entryPoint?] at hn
      rw [addEntryFor, addEntry, Node.boundary]
      dsimp only
      rw [hn]
    have hbridge : Cluster.enter b t c = .ok ((n, false), outcome) c :=
      bridge_eq_ok_iff.2 ⟨c, hplace, hr⟩
    exact bind_of_ok hbridge

/-- Tasks that succeed one after another are done at the end, and add an edge each at most. -/
theorem widens_perform (h : c.Coherent) (hp : ∀ t ∈ tasks, t.Proper c)
    (hr : perform tasks c = .ok u c') :
    c.Widens c' tasks.length ∧ ∀ t ∈ tasks, c'.Done t := by
  induction tasks generalizing c with
  | nil =>
    cases hr
    exact ⟨Widens.refl h, by simp⟩
  | cons t tasks ih =>
    obtain ⟨c₁, ht, htasks⟩ := forM_cons_eq_ok_iff.1 hr
    obtain ⟨hw₁, hd₁⟩ := widens_run h (hp t List.mem_cons_self) ht
    have hp₁ : ∀ t' ∈ tasks, t'.Proper c₁ := fun t' ht' =>
      (hp t' (List.mem_cons_of_mem t ht')).of_widens hw₁
    obtain ⟨hw₂, hd₂⟩ := ih hw₁.coherent hp₁ htasks
    refine ⟨?_, fun t' ht' => ?_⟩
    · rw [List.length_cons, Nat.add_comm]
      exact hw₁.trans hw₂
    · rcases List.mem_cons.1 ht' with rfl | ht'
      · exact hd₁.of_widens hw₂
      · exact hd₂ t' ht'

/-- Tasks that are done succeed one after another and change nothing. -/
theorem perform_of_done (h : c.Coherent) (hd : ∀ t ∈ tasks, c.Done t) :
    perform tasks c = .ok () c := by
  induction tasks with
  | nil => rfl
  | cons t tasks ih =>
    have ht := run_of_done h (hd t List.mem_cons_self)
    have htasks := ih fun t' ht' => hd t' (List.mem_cons_of_mem t ht')
    exact forM_cons_eq_ok_iff.2 ⟨c, ht, htasks⟩

end Cluster

/-! ## All clusters -/

namespace Clusters

open Cluster (Task)

variable {cs cs' : Clusters} {i : ClusterId} {q : ClusterId × Task}
  {tasks tasks' : List (ClusterId × Task)}

/-- The clusters have the nodes that the tasks are about. -/
def Ready (cs : Clusters) (tasks : List (ClusterId × Task)) : Prop :=
  ∀ q ∈ tasks, q.2.Proper (cs.get q.1)

theorem Ready.index_lt (h : cs.Ready tasks) (hq : q ∈ tasks) : q.1.index < cs.size := by
  have hp := h q hq
  cases ht : q.2 with
  | join a b k o =>
    rw [ht] at hp
    exact index_lt_of_hasNode hp.1
  | leave a t =>
    rw [ht] at hp
    exact index_lt_of_hasNode hp
  | enter b t =>
    rw [ht] at hp
    exact index_lt_of_hasNode hp

theorem mem_tasksAt {t : Task} : t ∈ tasksAt i tasks ↔ (i, t) ∈ tasks := by
  simp [tasksAt]

theorem tasksAt_append : tasksAt i (tasks ++ tasks') = tasksAt i tasks ++ tasksAt i tasks' := by
  simp [tasksAt]

theorem Ready.proper (h : cs.Ready tasks) : ∀ t ∈ tasksAt i tasks, t.Proper (cs.get i) :=
  fun _ ht => h _ (mem_tasksAt.1 ht)

/-- Tasks that succeed keep in each cluster what they should, and are done at the end. -/
theorem widens_perform (h : cs.Coherent) (hready : cs.Ready tasks)
    (hr : perform tasks cs = .ok () cs') (i : ClusterId) :
    (cs.get i).Widens (cs'.get i) (tasksAt i tasks).length ∧
      ∀ t ∈ tasksAt i tasks, (cs'.get i).Done t := by
  have hget := ((perform_eq_ok_iff fun _ hq => hready.index_lt hq).1 hr).2 i
  exact Cluster.widens_perform (h i) hready.proper hget

theorem coherent_perform (h : cs.Coherent) (hready : cs.Ready tasks)
    (hr : perform tasks cs = .ok () cs') : cs'.Coherent :=
  fun i => (widens_perform h hready hr i).1.coherent

theorem sameBlocks_perform (h : cs.Coherent) (hready : cs.Ready tasks)
    (hr : perform tasks cs = .ok () cs') : SameBlocks cs cs' :=
  fun i => (widens_perform h hready hr i).1.sameBlocks

/-- Tasks that were done once can be done again, without effect. -/
theorem perform_again (h : cs.Coherent) (hready : cs.Ready tasks)
    (hr : perform tasks cs = .ok () cs') : perform tasks cs' = .ok () cs' := by
  have hsize := ((perform_eq_ok_iff fun _ hq => hready.index_lt hq).1 hr).1
  refine (perform_eq_ok_iff fun q hq => hsize ▸ hready.index_lt hq).2 ⟨rfl, fun i => ?_⟩
  obtain ⟨hw, hdone⟩ := widens_perform h hready hr i
  exact Cluster.perform_of_done hw.coherent hdone

theorem perform_append_eq_ok_iff :
    perform (tasks ++ tasks') cs = .ok () cs' ↔
      ∃ cs₁, perform tasks cs = .ok () cs₁ ∧ perform tasks' cs₁ = .ok () cs' :=
  forM_append_eq_ok_iff

theorem Ready.of_perform (hready' : cs.Ready tasks') (h : cs.Coherent) (hready : cs.Ready tasks)
    (hr : perform tasks cs = .ok () cs') : cs'.Ready tasks' :=
  fun q hq => (hready' q hq).of_widens (widens_perform h hready hr q.1).1

/-- Tasks that succeeded could each have been done twice on the way. -/
theorem perform_twice (h : cs.Coherent) (hready : cs.Ready tasks) (hready' : cs.Ready tasks')
    (hr : perform (tasks ++ tasks') cs = .ok () cs') :
    perform ((tasks ++ tasks) ++ (tasks' ++ tasks')) cs = .ok () cs' := by
  obtain ⟨cs₁, hr₁, hr₂⟩ := perform_append_eq_ok_iff.1 hr
  have h₁ := coherent_perform h hready hr₁
  have hready₁ := hready'.of_perform h hready hr₁
  exact perform_append_eq_ok_iff.2 ⟨cs₁,
    perform_append_eq_ok_iff.2 ⟨cs₁, hr₁, perform_again h hready hr₁⟩,
    perform_append_eq_ok_iff.2 ⟨cs', hr₂, perform_again h₁ hready₁ hr₂⟩⟩

end Clusters

/-! ## Calls between clusters -/

namespace Crossing

variable {cs cs' : Clusters} {x y : ClusterNode} {t : Transfer}

/-- A bridge that is made in one of the clusters. -/
theorem on_bridge {i : ClusterId} {n : NodeId}
    {place : UnitId → Cluster → (NodeId × Bool) × Cluster}
    {link : NodeId → EStateM GraphError Cluster EdgeOutcome} (hi : i.index < cs.size) :
    Clusters.on i (Cluster.bridge n place link) cs =
      (Clusters.onNode i (place ((cs.get i).graph.node n).unit) >>= fun placed =>
        Clusters.on i (link placed.1) >>= fun outcome => pure (placed, outcome)) cs := by
  have hget : Clusters.on i (get : EStateM GraphError Cluster Cluster) cs = .ok (cs.get i) cs :=
    Clusters.on_eq_ok_iff.2 ⟨cs.get i, rfl, (Clusters.set_get_self cs i).symm⟩
  rw [Cluster.bridge, Clusters.on_bind hi, bind_of_ok hget, Clusters.on_bind hi]
  have hplace : (Clusters.onNode i (place ((cs.get i).graph.node n).unit) cs :
      EStateM.Result GraphError Clusters (NodeId × Bool)) = _ := Clusters.onNode_eq _
  refine (bind_of_ok hplace).trans (Eq.trans ?_ (bind_of_ok hplace).symm)
  rw [Clusters.on_bind (by rwa [Array.size_setIfInBounds])]
  exact congrFun (congrArg _ (funext fun _ => funext fun _ => Clusters.on_pure _)) _

theorem splitExit_eq (hx : x.cluster.index < cs.size) :
    splitExit x t cs = Clusters.on x.cluster (Cluster.leave x.node t) cs := by
  rw [splitExit, bind_of_ok (get_eq_ok cs), Cluster.leave, on_bridge hx]

theorem splitEntry_eq (hy : y.cluster.index < cs.size) :
    splitEntry y t cs = Clusters.on y.cluster (Cluster.enter y.node t) cs := by
  rw [splitEntry, bind_of_ok (get_eq_ok cs), Cluster.enter, on_bridge hy]

/-- A split asks for the half of its source, and if that is granted for the half of its target. -/
theorem split_eq (hxy : x.cluster ≠ y.cluster) (hx : x.cluster.index < cs.size)
    (hy : y.cluster.index < cs.size) :
    split x y t cs =
      match Cluster.leave x.node t (cs.get x.cluster) with
      | .error cause c => .error (.graph cause) (cs.setIfInBounds x.cluster.index c)
      | .ok (exit, exitEdge) c =>
        match Cluster.enter y.node t (cs.get y.cluster) with
        | .error cause d => .error (.graph cause)
            (Array.setIfInBounds (cs.setIfInBounds x.cluster.index c) y.cluster.index d)
        | .ok (entry, entryEdge) d => .ok
            ⟨⟨x.cluster, exit.1⟩, ⟨y.cluster, entry.1⟩, exitEdge, entryEdge, exit.2, entry.2⟩
            (Array.setIfInBounds (cs.setIfInBounds x.cluster.index c) y.cluster.index d) := by
  have hget (c : Cluster) :
      Clusters.get (cs.setIfInBounds x.cluster.index c) y.cluster = cs.get y.cluster := by
    rw [Clusters.get_setIfInBounds, if_neg fun h => hxy h.1.symm]
  have hy' (c : Cluster) : y.cluster.index < (cs.setIfInBounds x.cluster.index c).size := by
    rwa [Array.size_setIfInBounds]
  rw [split, if_neg hxy]
  cases hleave : Cluster.leave x.node t (cs.get x.cluster) with
  | error cause c =>
    have hexit : (splitExit x t).adaptExcept CrossingError.graph cs =
        .error (.graph cause) (cs.setIfInBounds x.cluster.index c) := by
      rw [EStateM.adaptExcept, splitExit_eq hx, Clusters.on_of_error hleave]
    exact bind_of_error hexit
  | ok exit c =>
    have hexit : (splitExit x t).adaptExcept CrossingError.graph cs =
        .ok exit (cs.setIfInBounds x.cluster.index c) := by
      rw [adaptExcept_eq_ok_iff, splitExit_eq hx]
      exact Clusters.on_eq_ok_iff.2 ⟨c, hleave, rfl⟩
    refine (bind_of_ok hexit).trans ?_
    cases henter : Cluster.enter y.node t (cs.get y.cluster) with
    | error cause d =>
      rw [← hget c] at henter
      have hentry : (splitEntry y t).adaptExcept CrossingError.graph
          (cs.setIfInBounds x.cluster.index c) = .error (.graph cause)
            (Array.setIfInBounds (cs.setIfInBounds x.cluster.index c) y.cluster.index d) := by
        rw [EStateM.adaptExcept, splitEntry_eq (hy' c), Clusters.on_of_error henter]
      exact bind_of_error hentry
    | ok entry d =>
      rw [← hget c] at henter
      have hentry : (splitEntry y t).adaptExcept CrossingError.graph
          (cs.setIfInBounds x.cluster.index c) = .ok entry
            (Array.setIfInBounds (cs.setIfInBounds x.cluster.index c) y.cluster.index d) := by
        rw [adaptExcept_eq_ok_iff, splitEntry_eq (hy' c)]
        exact Clusters.on_eq_ok_iff.2 ⟨d, henter, rfl⟩
      exact bind_of_ok hentry

/-- A split leaves one cluster and enters another. -/
theorem split_eq_ok {crossing : Crossing} (hx : x.cluster.index < cs.size)
    (hy : y.cluster.index < cs.size) (hr : split x y t cs = .ok crossing cs') :
    x.cluster ≠ y.cluster ∧ crossing.exit.cluster = x.cluster ∧
      crossing.entry.cluster = y.cluster ∧ ∃ c d,
      Cluster.leave x.node t (cs.get x.cluster) =
        .ok ((crossing.exit.node, crossing.exitCreated), crossing.exitEdge) c ∧
      Cluster.enter y.node t (cs.get y.cluster) =
        .ok ((crossing.entry.node, crossing.entryCreated), crossing.entryEdge) d ∧
      cs' = Array.setIfInBounds (cs.setIfInBounds x.cluster.index c) y.cluster.index d := by
  by_cases hxy : x.cluster = y.cluster
  · rw [split, if_pos hxy] at hr
    cases hr
  · rw [split_eq hxy hx hy] at hr
    cases hleave : Cluster.leave x.node t (cs.get x.cluster) with
    | error cause c =>
      rw [hleave] at hr
      cases hr
    | ok exit c =>
      cases henter : Cluster.enter y.node t (cs.get y.cluster) with
      | error cause d =>
        rw [hleave, henter] at hr
        cases hr
      | ok entry d =>
        rw [hleave, henter] at hr
        cases hr
        exact ⟨hxy, rfl, rfl, c, d, rfl, rfl, rfl⟩

/-- A transfer between clusters is split when the one can be left and the other entered. -/
theorem exists_split_iff (hxy : x.cluster ≠ y.cluster) (hx : x.cluster.index < cs.size)
    (hy : y.cluster.index < cs.size) :
    (∃ crossing, split x y t cs = .ok crossing cs') ↔
      Clusters.perform [(x.cluster, .leave x.node t), (y.cluster, .enter y.node t)] cs =
        .ok () cs' := by
  have hrun : ∀ {half : EStateM GraphError Cluster ((NodeId × Bool) × EdgeOutcome)} {c c'},
      (half >>= fun _ => pure ()) c = .ok () c' ↔ ∃ result, half c = .ok result c' := by
    intro half c c'
    rw [bind_eq_ok_iff]
    constructor
    · rintro ⟨result, c₁, hhalf, hpure⟩
      cases hpure
      exact ⟨result, hhalf⟩
    · rintro ⟨result, hhalf⟩
      exact ⟨result, c', hhalf, rfl⟩
  constructor
  · rintro ⟨crossing, hr⟩
    obtain ⟨-, -, -, c, d, hc, hd, rfl⟩ := split_eq_ok hx hy hr
    have hget : Clusters.get (cs.setIfInBounds x.cluster.index c) y.cluster = cs.get y.cluster := by
      rw [Clusters.get_setIfInBounds, if_neg fun h => hxy h.1.symm]
    exact Clusters.perform_cons_eq_ok_iff.2 ⟨c, hrun.2 ⟨_, hc⟩,
      Clusters.perform_cons_eq_ok_iff.2 ⟨d, hrun.2 ⟨_, hget ▸ hd⟩, rfl⟩⟩
  · intro h
    obtain ⟨c, hc, h⟩ := Clusters.perform_cons_eq_ok_iff.1 h
    obtain ⟨d, hd, h⟩ := Clusters.perform_cons_eq_ok_iff.1 h
    cases h
    obtain ⟨exit, hc⟩ := hrun.1 hc
    obtain ⟨entry, hd⟩ := hrun.1 hd
    rw [Clusters.get_setIfInBounds, if_neg fun h => hxy h.1.symm] at hd
    rw [split_eq hxy hx hy, hc, hd]
    exact ⟨_, rfl⟩

end Crossing
end FlowAtlas
