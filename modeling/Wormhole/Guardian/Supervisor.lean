/-
# Wormhole.Guardian.Supervisor — one goroutine for each runnable.

The node runs its parts as runnables in a supervision tree.  The processor starts a runnable, records how
it ended and, in the GC, restarts the largest subtrees in which every node is DEAD, CANCELED or DONE.
Every operation holds the lock of the tree, so a run is a sequence of these operations in any order
(`Event`), with the goroutines and the schedule requests under way between them.

A runnable is DONE when it says so, not when its goroutine has ended.  The GC takes such a node for finished, and
restarts a subtree under a goroutine that is still running: the next one gets the same name, and the `died`
report of the old one is counted against the new node.  `runs_once`: where the GC does not do this, and no
name contains the dot that separates names, there is one goroutine for each name and every report finds its
own node.
-/
import Mathlib
import Wormhole.Lib.PathTree
import Wormhole.Lib.Transition

namespace Wormhole.Guardian.Supervisor

open Wormhole.Lib Wormhole.Lib.Transition

/-! ## The tree -/

abbrev Name := List Char

/-- A distinguished name. -/
abbrev DN := List Char

/-- The names of a node and its ancestors below the root, its own first. -/
abbrev Path := List Name

def rootName : Name := ['r', 'o', 'o', 't']

inductive NodeState where
  | new
  | healthy
  | dead
  | done
  | canceled
  deriving DecidableEq

structure Node where
  /-- Sets of names of children. -/
  groups : List (List Name)
  state : NodeState
  /-- the node's own `ctxC` has been called -/
  ctxCanceled : Bool
  /-- Which of the nodes created or reset so far this is. -/
  instanceNumber : Nat
  deriving DecidableEq

abbrev Tree := PathTree Name Node

/-- What `reset` leaves of a node. -/
def Node.fresh (instanceNumber : Nat) : Node where
  groups := []
  state := .new
  ctxCanceled := false
  instanceNumber := instanceNumber

/-- A period-separated, inverse-DNS-like name. -/
def dn : Path → DN
  | [] => rootName
  | name :: path => dn path ++ '.' :: name

/-- The walk of `nodeByDN` from the node at `path`; `none` is its panic. -/
def walk (t : Tree) : Path → List Name → Option (Path × Node)
  | path, [] => (t.find path).map fun node => (path, node)
  | path, part :: parts =>
    match t.find (part :: path) with
    | none => none
    | some _ => walk t (part :: path) parts

def nodeByDN (t : Tree) (name : DN) : Option (Path × Node) :=
  match name.splitOn '.' with
  | [] => none
  | part :: parts => if part = rootName then walk t [] parts else none

/-- `ctx.Err() != nil`, of the context of a node, which derives from those of its ancestors. -/
def ctxErr (t : Tree) (path : Path) : Bool :=
  path.tails.any fun ancestor => (t.find ancestor).any Node.ctxCanceled

/-- The group of a child; `none` is `nil`. -/
def Node.groupSiblings (node : Node) (name : Name) : Option (List Name) :=
  node.groups.find? fun group => name ∈ group

/-- `reNodeName`, which has no anchors: some character is allowed. -/
def reNodeName (name : Name) : Bool :=
  name.any fun c => ('a' ≤ c ∧ c ≤ 'z') ∨ ('0' ≤ c ∧ c ≤ '9') ∨ c = '_'

/-! ## Requests and events -/

/-- A schedule request or a goroutine, with the node it is for. -/
structure Task where
  dn : DN
  instanceNumber : Nat
  deriving DecidableEq

structure World where
  tree : Tree
  /-- the schedule requests that wait for the processor or for their backoff -/
  scheduled : List Task
  /-- the goroutines of runnables -/
  running : List Task
  clean : Bool
  /-- the nodes created or reset so far -/
  instances : Nat
  /-- the processor has exited -/
  exited : Bool

/-- What a runnable returned, or panicked with: nothing, an error around `context.Canceled`, or another. -/
inductive RunResult where
  | nil
  | canceled
  | failed
  deriving DecidableEq

inductive SignalType where
  | healthy
  | done
  deriving DecidableEq

inductive Event where
  /-- the processor handles a schedule request -/
  | schedule (task : Task)
  /-- a goroutine ends, and the processor handles its report -/
  | died (task : Task) (err : RunResult)
  /-- the ticker of the GC -/
  | gc
  /-- the context of the supervisor is done -/
  | kill
  /-- `Signal`, called with a context of the name -/
  | signal (name : DN) (signal : SignalType)
  /-- `RunGroup`, called with a context of the name; the names are the keys of a map -/
  | runGroup (name : DN) (runnables : List Name) (nodup : runnables.Nodup)

/-! ## The operations -/

/-- The group siblings of a node. -/
def siblings (t : Tree) : Path → List Path
  | [] => []
  | name :: parent =>
    match t.find parent with
    | none => []
    | some node =>
      (((node.groupSiblings name).getD []).filter fun sibling => sibling ≠ name).map (· :: parent)

def cancel (node : Node) : Node := { node with ctxCanceled := true }

/-- `processDied`, on the node it has found. -/
def processDied (t : Tree) (path : Path) (node : Node) (err : RunResult) : Tree :=
  -- Keep the process as DONE.
  if node.state = .done ∧ err = .nil then t
  -- the context was canceled and the returned error is the context error
  else if ctxErr t path ∧ err = .canceled then
    t.modify path fun node => { node with state := .canceled }
  else
    (t.modify path fun node => cancel { node with state := .dead }).map fun q node =>
      if q ∈ siblings t path then cancel node else node

/-- DONE, CANCELED or DEAD. -/
def NodeState.finished : NodeState → Bool
  | .done | .canceled | .dead => true
  | .new | .healthy => false

/-- Phase two: a subtree is ready iff every node in it is finished. -/
def ready (t : Tree) (path : Path) : Bool :=
  t.paths.all fun q => !(path <:+ q) || (t.find q).all fun node => node.state.finished

/-- Phase three: the node should be restarted. -/
def want (t : Tree) (path : Path) : Bool :=
  (t.find path).any fun node => node.state = .dead ∨ node.state = .canceled

/-- It should be restarted, its subtree is ready, and its parent's context is valid. -/
def canRestart (t : Tree) (path : Path) : Bool :=
  want t path && ready t path &&
    match path with
    | [] => true
    | _ :: parent => !ctxErr t parent

/-- The search from the root does not go below a node that it will restart. -/
def visited (t : Tree) : Path → Bool
  | [] => true
  | _ :: parent => visited t parent && !canRestart t parent

/-- The nodes that the GC restarts. -/
def can (t : Tree) : List Path := t.paths.filter fun path => visited t path && canRestart t path

/-- Reset a node and reschedule it after its backoff. -/
def restart (w : World) (path : Path) : World :=
  { w with
    tree := (w.tree.prune path).modify path fun _ => .fresh w.instances
    scheduled := w.scheduled ++ [⟨dn path, w.instances⟩]
    instances := w.instances + 1 }

/-- `processGC`.  The tables of the three phases are kept by distinguished name; a node whose name finds
another node or none (`nodeByDN`) ends the run here. -/
def processGC (w : World) : Option World :=
  if ∀ path ∈ w.tree.paths, (nodeByDN w.tree (dn path)).map Prod.fst = some path then
    some ((can w.tree).foldl restart w)
  else none

/-- The new state of a node that signals; `none` is a panic. -/
def NodeState.signal : NodeState → SignalType → Option NodeState
  | .new, .healthy => some .healthy
  | .healthy, .done => some .done
  | _, _ => none

/-- A child node of the group, with the request that starts it. -/
def addChild (path : Path) (w : World) (name : Name) : World :=
  { w with
    tree := w.tree.add name path (.fresh w.instances)
    scheduled := w.scheduled ++ [⟨dn (name :: path), w.instances⟩]
    instances := w.instances + 1 }

/-- `runGroup`; `none` is an error.  No group names a child that does not exist, so the error in the middle
of the second loop does not occur. -/
def runGroup (w : World) (path : Path) (node : Node) (runnables : List Name) : Option World :=
  if node.state = .new ∧ ∀ name ∈ runnables, reNodeName name = true ∧
      w.tree.find (name :: path) = none ∧ node.groupSiblings name = none then
    let w := runnables.foldl (addChild path) w
    some { w with
      tree := w.tree.modify path fun node => { node with groups := node.groups ++ [runnables] } }
  else none

/-- One operation; `none` when it cannot happen here, or panics. -/
def step (w : World) : Event → Option World
  | .schedule task =>
    if w.exited = false ∧ task ∈ w.scheduled then do
      let (_, node) ← nodeByDN w.tree task.dn
      some { w with
        scheduled := w.scheduled.erase task
        running := w.running ++ [⟨task.dn, node.instanceNumber⟩]
        clean := false }
    else none
  | .died task err =>
    if w.exited = false ∧ task ∈ w.running then do
      let (path, node) ← nodeByDN w.tree task.dn
      some { w with
        tree := processDied w.tree path node err
        running := w.running.erase task
        clean := false }
    else none
  | .gc =>
    if w.exited then none
    else if w.clean then some w
    else (processGC w).map fun w => { w with clean := true }
  | .kill =>
    if w.exited then none
    else some { w with tree := w.tree.map fun _ => cancel, exited := true }
  | .signal name signal => do
    let (path, node) ← nodeByDN w.tree name
    let state ← node.state.signal signal
    some { w with tree := w.tree.modify path fun node => { node with state } }
  | .runGroup name runnables _ => do
    let (path, node) ← nodeByDN w.tree name
    runGroup w path node runnables

/-- `New`: the root is about to be scheduled. -/
def init : World where
  tree := .single (.fresh 0)
  scheduled := [⟨rootName, 0⟩]
  running := []
  clean := true
  instances := 1
  exited := false

/-! ## Names -/

/-- Without dots in them, the names of a node can be read off its distinguished name. -/
theorem splitOn_dn {path : Path} (h : ∀ name ∈ path, '.' ∉ name) :
    (dn path).splitOn '.' = rootName :: path.reverse := by
  induction path with
  | nil => rfl
  | cons name path ih =>
    obtain ⟨hname, hpath⟩ := List.forall_mem_cons.mp h
    rw [dn, List.splitOn_append_cons_self, ih hpath, List.splitOn_eq_singleton hname, List.reverse_cons]
    rfl

theorem dn_inj {p q : Path} (hp : ∀ name ∈ p, '.' ∉ name) (hq : ∀ name ∈ q, '.' ∉ name)
    (h : dn p = dn q) : p = q := by
  have hsplit := splitOn_dn hp
  rw [h, splitOn_dn hq] at hsplit
  exact (List.reverse_injective (List.cons.inj hsplit).2).symm

/-- The walk to a node that exists. -/
theorem walk_eq {t : Tree} (parts : List Name) {path : Path}
    (h : (t.find (parts.reverse ++ path)).isSome) :
    walk t path parts = (t.find (parts.reverse ++ path)).map fun node => (parts.reverse ++ path, node) := by
  induction parts generalizing path with
  | nil => rfl
  | cons part parts ih =>
    rw [List.reverse_cons, List.append_assoc, List.singleton_append] at h ⊢
    obtain ⟨node, hnode⟩ := Option.isSome_iff_exists.mp (t.isSome_of_suffix (List.suffix_append _ _) h)
    rw [walk, hnode]
    exact ih h

/-- What a walk ends at is a node. -/
theorem walk_find {t : Tree} {parts : List Name} {path q : Path} {node : Node}
    (h : walk t path parts = some (q, node)) : t.find q = some node := by
  induction parts generalizing path with
  | nil =>
    obtain ⟨node', hnode, heq⟩ := Option.map_eq_some_iff.mp h
    obtain ⟨rfl, rfl⟩ := Prod.mk.inj heq
    exact hnode
  | cons part parts ih =>
    rw [walk] at h
    split at h
    · cases h
    · exact ih h

theorem nodeByDN_find {t : Tree} {name : DN} {path : Path} {node : Node}
    (h : nodeByDN t name = some (path, node)) : t.find path = some node := by
  unfold nodeByDN at h
  split at h
  · cases h
  · split at h
    · exact walk_find h
    · cases h

/-- **A node is found by its name.** -/
theorem nodeByDN_dn {t : Tree} {path : Path} {node : Node} (hdots : ∀ name ∈ path, '.' ∉ name)
    (h : t.find path = some node) : nodeByDN t (dn path) = some (path, node) := by
  have hwalk : walk t [] path.reverse = some (path, node) := by
    have hfound : (t.find (path.reverse.reverse ++ [])).isSome := by
      rw [List.reverse_reverse, List.append_nil, h, Option.isSome_some]
    rw [walk_eq _ hfound, List.reverse_reverse, List.append_nil, h, Option.map_some]
  rw [nodeByDN, splitOn_dn hdots]
  exact (if_pos rfl).trans hwalk

/-! ## The invariant -/

/-- Neither the runnable nor its goroutine has ended. -/
def NodeState.Alive (state : NodeState) : Prop := state ≠ .dead ∧ state ≠ .canceled

theorem fresh_alive (instanceNumber : Nat) : (Node.fresh instanceNumber).state.Alive := ⟨nofun, nofun⟩

/-- The task belongs to the node that its name finds, and that node is not known to have ended. -/
def Belongs (t : Tree) (task : Task) : Prop :=
  ∃ path node, task.dn = dn path ∧ t.find path = some node ∧
    node.instanceNumber = task.instanceNumber ∧ node.state.Alive

/-- The tasks of a world, waiting or running. -/
def World.tasks (w : World) : List Task := w.scheduled ++ w.running

structure Inv (w : World) : Prop where
  dotFree : ∀ path, (w.tree.find path).isSome → ∀ name ∈ path, '.' ∉ name
  belongs : ∀ task ∈ w.tasks, Belongs w.tree task
  distinct : (w.tasks.map Task.dn).Nodup

theorem init_inv : Inv init where
  dotFree := by
    intro path h
    cases path with
    | nil => simp
    | cons name path => cases h
  belongs := by
    intro task htask
    obtain rfl := List.mem_singleton.mp htask
    exact ⟨[], .fresh 0, rfl, rfl, rfl, fresh_alive 0⟩
  distinct := List.nodup_singleton _

section Inv

variable {w : World}

/-- The task at a node. -/
theorem Inv.belongs_at (h : Inv w) {path : Path} {node : Node} (hfind : w.tree.find path = some node)
    {task : Task} (htask : task ∈ w.tasks) (hdn : task.dn = dn path) :
    node.instanceNumber = task.instanceNumber ∧ node.state.Alive := by
  obtain ⟨q, node', hq, hnode', hnumber, halive⟩ := h.belongs task htask
  have hdots := h.dotFree path (by rw [hfind, Option.isSome_some])
  have hdots' := h.dotFree q (by rw [hnode', Option.isSome_some])
  obtain rfl := dn_inj hdots hdots' (hdn.symm.trans hq)
  obtain rfl := Option.some.inj (hfind.symm.trans hnode')
  exact ⟨hnumber, halive⟩

/-- Where there is no node, there is no task. -/
theorem Inv.no_task (h : Inv w) {path : Path} (hdots : ∀ name ∈ path, '.' ∉ name)
    (hnone : w.tree.find path = none) : dn path ∉ w.tasks.map Task.dn := by
  intro hmem
  obtain ⟨task, htask, hdn⟩ := List.mem_map.mp hmem
  obtain ⟨q, node, hq, hnode, -⟩ := h.belongs task htask
  have hdots' := h.dotFree q (by rw [hnode, Option.isSome_some])
  obtain rfl := dn_inj hdots hdots' (hdn.symm.trans hq)
  rw [hnone] at hnode
  cases hnode

/-- The name of a task finds its node. -/
theorem Inv.nodeByDN (h : Inv w) {task : Task} (htask : task ∈ w.tasks) :
    ∃ path node, nodeByDN w.tree task.dn = some (path, node) ∧ task.dn = dn path ∧
      w.tree.find path = some node ∧ node.instanceNumber = task.instanceNumber := by
  obtain ⟨path, node, hdn, hfind, hnumber, -⟩ := h.belongs task htask
  have hdots := h.dotFree path (by rw [hfind, Option.isSome_some])
  refine ⟨path, node, ?_, hdn, hfind, hnumber⟩
  rw [hdn]
  exact nodeByDN_dn hdots hfind

/-- A task belongs to a node that keeps its number and has not ended. -/
theorem Belongs.mono {t t' : Tree} {task : Task} (h : Belongs t task)
    (hkeep : ∀ path node, task.dn = dn path → t.find path = some node → node.state.Alive →
      ∃ node', t'.find path = some node' ∧ node'.instanceNumber = node.instanceNumber ∧
        node'.state.Alive) : Belongs t' task := by
  obtain ⟨path, node, hdn, hfind, hnumber, halive⟩ := h
  obtain ⟨node', hfind', hnumber', halive'⟩ := hkeep path node hdn hfind halive
  exact ⟨path, node', hdn, hfind', hnumber'.trans hnumber, halive'⟩

/-! ### One operation -/

/-- **A schedule request** turns into a goroutine of the same node. -/
theorem Inv.schedule (h : Inv w) {task : Task} (htask : task ∈ w.scheduled) {path : Path} {node : Node}
    (hfound : Supervisor.nodeByDN w.tree task.dn = some (path, node)) :
    Inv { w with
      scheduled := w.scheduled.erase task
      running := w.running ++ [⟨task.dn, node.instanceNumber⟩]
      clean := false } := by
  have hnumber : (⟨task.dn, node.instanceNumber⟩ : Task) = task := by
    obtain ⟨path', node', hfound', -, -, hnumber⟩ := h.nodeByDN (List.mem_append_left _ htask)
    obtain ⟨rfl, rfl⟩ := Prod.mk.inj (Option.some.inj (hfound.symm.trans hfound'))
    rw [hnumber]
  have hperm : (w.scheduled.erase task ++ (w.running ++ [task])).Perm w.tasks := calc
    (w.scheduled.erase task ++ (w.running ++ [task])).Perm (w.scheduled.erase task ++ task :: w.running) :=
      (List.perm_append_singleton task w.running).append_left _
    List.Perm _ (task :: (w.scheduled.erase task ++ w.running)) := List.perm_middle
    List.Perm _ (w.scheduled ++ w.running) := (List.perm_cons_erase htask).symm.append_right w.running
  rw [hnumber]
  refine ⟨h.dotFree, ?_, ?_⟩
  · intro task' htask'
    exact h.belongs task' (hperm.subset htask')
  · exact (hperm.map Task.dn).nodup_iff.mpr h.distinct

/-- What a report changes elsewhere: no state and no number. -/
theorem processDied_find {t : Tree} {path q : Path} {node found : Node} {err : RunResult} (hne : q ≠ path)
    (hfind : t.find q = some found) :
    ∃ node', (processDied t path node err).find q = some node' ∧
      node'.instanceNumber = found.instanceNumber ∧ node'.state = found.state := by
  unfold processDied
  split
  · exact ⟨found, hfind, rfl, rfl⟩
  · split
    · exact ⟨found, (t.find_modify_of_ne hne).trans hfind, rfl, rfl⟩
    · rw [PathTree.find_map, t.find_modify_of_ne hne, hfind, Option.map_some]
      refine ⟨_, rfl, ?_⟩
      split
      · exact ⟨rfl, rfl⟩
      · exact ⟨rfl, rfl⟩

theorem isSome_processDied {t : Tree} {path q : Path} {node : Node} {err : RunResult} :
    ((processDied t path node err).find q).isSome = (t.find q).isSome := by
  unfold processDied
  split
  · rfl
  · split
    · exact t.isSome_find_modify
    · rw [PathTree.find_map, Option.isSome_map, t.isSome_find_modify]

/-- **A report** is counted against the node of its goroutine, which has no other task. -/
theorem Inv.died (h : Inv w) {task : Task} (htask : task ∈ w.running) {path : Path} {node : Node}
    (hfound : Supervisor.nodeByDN w.tree task.dn = some (path, node)) (err : RunResult) :
    Inv { w with
      tree := processDied w.tree path node err
      running := w.running.erase task
      clean := false } := by
  have hdn : task.dn = dn path := by
    obtain ⟨path', node', hfound', hdn, -, -⟩ := h.nodeByDN (List.mem_append_right _ htask)
    obtain ⟨rfl, -⟩ := Prod.mk.inj (Option.some.inj (hfound.symm.trans hfound'))
    exact hdn
  have hperm : w.tasks.Perm (task :: (w.scheduled ++ w.running.erase task)) :=
    ((List.perm_cons_erase htask).append_left _).trans List.perm_middle
  obtain ⟨hfresh, hdistinct⟩ := List.nodup_cons.mp ((hperm.map Task.dn).nodup_iff.mp h.distinct)
  refine ⟨?_, ?_, hdistinct⟩
  · intro q hq
    rw [isSome_processDied] at hq
    exact h.dotFree q hq
  · intro task' htask'
    apply (h.belongs task' (hperm.symm.subset (List.mem_cons_of_mem _ htask'))).mono
    intro q found hq hfind halive
    have hne : q ≠ path := by
      rintro rfl
      apply hfresh
      rw [hdn, ← hq]
      exact List.mem_map_of_mem htask'
    obtain ⟨node', hnode', hnumber, hstate⟩ : ∃ node', (processDied w.tree path node err).find q = some node' ∧ _ :=
      processDied_find hne hfind
    exact ⟨node', hnode', hnumber, hstate ▸ halive⟩

/-- A signal does not end a node. -/
theorem signal_alive {state state' : NodeState} {signal : SignalType} (h : state.signal signal = some state') :
    state'.Alive := by
  cases state <;> cases signal <;> cases h <;> exact ⟨by decide, by decide⟩

/-- Changing a node without ending it. -/
theorem Inv.modify (h : Inv w) {path : Path} {f : Node → Node}
    (hf : ∀ node, w.tree.find path = some node → node.state.Alive →
      (f node).instanceNumber = node.instanceNumber ∧ (f node).state.Alive) :
    Inv { w with tree := w.tree.modify path f } := by
  refine ⟨?_, ?_, h.distinct⟩
  · intro q hq
    rw [PathTree.isSome_find_modify] at hq
    exact h.dotFree q hq
  · intro task htask
    apply (h.belongs task htask).mono
    intro q node hq hfind halive
    by_cases hpath : q = path
    · subst hpath
      exact ⟨f node, by rw [PathTree.find_modify_self, hfind, Option.map_some], hf node hfind halive⟩
    · exact ⟨node, (w.tree.find_modify_of_ne hpath).trans hfind, rfl, halive⟩

/-- **The death of the supervisor** ends no node. -/
theorem Inv.kill (h : Inv w) : Inv { w with tree := w.tree.map fun _ => cancel, exited := true } := by
  refine ⟨?_, ?_, h.distinct⟩
  · intro q hq
    rw [PathTree.find_map, Option.isSome_map] at hq
    exact h.dotFree q hq
  · intro task htask
    apply (h.belongs task htask).mono
    intro q node hq hfind halive
    exact ⟨cancel node, by rw [PathTree.find_map, hfind, Option.map_some], rfl, halive⟩

theorem perm_add (w : World) (task : Task) :
    (w.scheduled ++ [task] ++ w.running).Perm (task :: w.tasks) := by
  rw [List.append_assoc]
  exact List.perm_middle

/-- A new task, of a node without one. -/
theorem Inv.add_task {tree : Tree} {path : Path}
    (hdotFree : ∀ path, (tree.find path).isSome → ∀ name ∈ path, '.' ∉ name)
    (hbelongs : ∀ task ∈ w.tasks, Belongs tree task) (hdistinct : (w.tasks.map Task.dn).Nodup)
    (hnew : dn path ∉ w.tasks.map Task.dn) (hfind : tree.find path = some (.fresh w.instances)) :
    Inv { w with
      tree := tree
      scheduled := w.scheduled ++ [⟨dn path, w.instances⟩]
      instances := w.instances + 1 } := by
  have hperm := perm_add w ⟨dn path, w.instances⟩
  refine ⟨hdotFree, ?_, ?_⟩
  · intro task htask
    rcases List.mem_cons.mp (hperm.subset htask) with rfl | hold
    · exact ⟨path, _, rfl, hfind, rfl, fresh_alive _⟩
    · exact hbelongs task hold
  · exact (hperm.map Task.dn).nodup_iff.mpr (List.nodup_cons.mpr ⟨hnew, hdistinct⟩)

/-- **A new child.** -/
theorem Inv.addChild (h : Inv w) {path : Path} {name : Name} (hparent : (w.tree.find path).isSome)
    (hnone : w.tree.find (name :: path) = none) (hname : '.' ∉ name) : Inv (addChild path w name) := by
  have hdots : ∀ part ∈ name :: path, '.' ∉ part :=
    List.forall_mem_cons.mpr ⟨hname, h.dotFree path hparent⟩
  refine Inv.add_task ?_ ?_ h.distinct (h.no_task hdots hnone) (PathTree.find_add_self hparent hnone)
  · intro q hq
    by_cases hpath : q = name :: path
    · rw [hpath]
      exact hdots
    · rw [w.tree.find_add_of_ne hpath] at hq
      exact h.dotFree q hq
  · intro task htask
    apply (h.belongs task htask).mono
    intro q node hq hfind halive
    have hpath : q ≠ name :: path := by
      rintro rfl
      rw [hnone] at hfind
      cases hfind
    exact ⟨node, (w.tree.find_add_of_ne hpath).trans hfind, rfl, halive⟩

/-- **A group of new children.** -/
theorem Inv.addChildren {runnables : List Name} {path : Path} (h : Inv w)
    (hparent : (w.tree.find path).isSome) (hnodup : runnables.Nodup)
    (hnone : ∀ name ∈ runnables, w.tree.find (name :: path) = none) (hnames : ∀ name ∈ runnables, '.' ∉ name) :
    Inv (runnables.foldl (Supervisor.addChild path) w) := by
  induction runnables generalizing w with
  | nil => exact h
  | cons name runnables ih =>
    obtain ⟨hnew, hnodup⟩ := List.nodup_cons.mp hnodup
    obtain ⟨hfree, hnone⟩ := List.forall_mem_cons.mp hnone
    obtain ⟨hname, hnames⟩ := List.forall_mem_cons.mp hnames
    have hother : ∀ q, q ≠ name :: path → (Supervisor.addChild path w name).tree.find q = w.tree.find q :=
      fun q hq => w.tree.find_add_of_ne hq
    refine ih (h.addChild hparent hfree hname) ?_ hnodup ?_ hnames
    · rw [hother path (List.cons_ne_self name path).symm]
      exact hparent
    · intro name' hname'
      rw [hother]
      · exact hnone name' hname'
      · intro heq
        exact hnew ((List.cons.inj heq).1 ▸ hname')

theorem Inv.runGroup (h : Inv w) {path : Path} {node : Node} {runnables : List Name}
    (hfind : w.tree.find path = some node) (hnodup : runnables.Nodup)
    (hnames : ∀ name ∈ runnables, '.' ∉ name) {w' : World}
    (hrun : runGroup w path node runnables = some w') : Inv w' := by
  unfold Supervisor.runGroup at hrun
  split at hrun
  · rename_i hchecked
    obtain rfl := Option.some.inj hrun
    have hgroup := h.addChildren (by rw [hfind, Option.isSome_some]) hnodup
      (fun name hname => (hchecked.2 name hname).2.1) hnames
    apply hgroup.modify
    intro node' hnode' halive
    exact ⟨rfl, halive⟩
  · cases hrun

/-! ### The GC -/

/-- A restart adds no node. -/
theorem isSome_of_restart {path q : Path} (h : ((restart w path).tree.find q).isSome) :
    (w.tree.find q).isSome := by
  rw [restart, PathTree.isSome_find_modify] at h
  by_cases hbelow : path <:+ q ∧ q ≠ path
  · rw [PathTree.find_prune_below _ hbelow] at h
    cases h
  · rwa [PathTree.find_prune_of_not _ hbelow] at h

/-- It changes nothing outside of the subtree. -/
theorem find_restart {path q : Path} (h : ¬path <:+ q) : (restart w path).tree.find q = w.tree.find q := by
  have hne : q ≠ path := by
    rintro rfl
    exact h List.suffix_rfl
  rw [restart, PathTree.find_modify_of_ne _ hne, PathTree.find_prune_of_not _ fun hbelow => h hbelow.1]

/-- No node of the subtree has a task. -/
def Idle (w : World) (path : Path) : Prop :=
  ∀ q, path <:+ q → (w.tree.find q).isSome → dn q ∉ w.tasks.map Task.dn

/-- **A restart** of a subtree without tasks. -/
theorem Inv.restart (h : Inv w) {path : Path} (hpath : (w.tree.find path).isSome) (hidle : Idle w path) :
    Inv (restart w path) := by
  refine Inv.add_task ?_ ?_ h.distinct (hidle path List.suffix_rfl hpath) ?_
  · intro q hq
    exact h.dotFree q (isSome_of_restart hq)
  · intro task htask
    apply (h.belongs task htask).mono
    intro q node hq hfind halive
    have hsuffix : ¬path <:+ q := by
      intro hsuffix
      apply hidle q hsuffix (by rw [hfind, Option.isSome_some])
      rw [← hq]
      exact List.mem_map_of_mem htask
    exact ⟨node, (find_restart hsuffix).trans hfind, rfl, halive⟩
  · obtain ⟨node, hnode⟩ := Option.isSome_iff_exists.mp hpath
    rw [PathTree.find_modify_self, PathTree.find_prune_self, hnode, Option.map_some]

/-- A restart elsewhere gives no node of the subtree a task. -/
theorem Idle.restart (hinv : Inv w) {path other : Path} (h : Idle w other)
    (hpath : (w.tree.find path).isSome) (happart : ¬other <:+ path) : Idle (restart w path) other := by
  intro q hsuffix hq hmem
  have hold := isSome_of_restart hq
  have hperm := perm_add w ⟨dn path, w.instances⟩
  rcases List.mem_cons.mp ((hperm.map Task.dn).subset hmem) with heq | hmem
  · obtain rfl := dn_inj (hinv.dotFree q hold) (hinv.dotFree path hpath) heq
    exact happart hsuffix
  · exact h q hsuffix hold hmem

/-- **The restarts of a GC**, of subtrees that lie apart. -/
theorem Inv.restarts {paths : List Path} (h : Inv w) (hfound : ∀ path ∈ paths, (w.tree.find path).isSome)
    (hidle : ∀ path ∈ paths, Idle w path) (hapart : paths.Pairwise fun p q => ¬p <:+ q ∧ ¬q <:+ p) :
    Inv (paths.foldl Supervisor.restart w) := by
  induction paths generalizing w with
  | nil => exact h
  | cons path paths ih =>
    obtain ⟨hpath, hfound⟩ := List.forall_mem_cons.mp hfound
    obtain ⟨hfree, hidle⟩ := List.forall_mem_cons.mp hidle
    obtain ⟨hother, hapart⟩ := List.pairwise_cons.mp hapart
    refine ih (h.restart hpath hfree) ?_ ?_ hapart
    · intro q hq
      rw [find_restart (hother q hq).1]
      exact hfound q hq
    · intro q hq
      exact (hidle q hq).restart h hpath (hother q hq).2

/-- The search has passed the ancestors of a node it has visited. -/
theorem canRestart_of_visited {t : Tree} {path q : Path} (hsuffix : path <:+ q) (hne : path ≠ q)
    (h : visited t q = true) : canRestart t path = false := by
  induction q with
  | nil => exact absurd (List.suffix_nil.mp hsuffix) hne
  | cons name q ih =>
    simp only [visited, Bool.and_eq_true, Bool.not_eq_true'] at h
    have hparent : path <:+ q := (List.suffix_cons_iff.mp hsuffix).resolve_left hne
    by_cases hpath : path = q
    · rw [hpath]
      exact h.2
    · exact ih hparent hpath h.1

theorem can_apart (t : Tree) : (can t).Pairwise fun p q => ¬p <:+ q ∧ ¬q <:+ p := by
  have hdisjoint : ∀ p ∈ can t, ∀ q ∈ can t, p ≠ q → ¬p <:+ q := by
    intro p hp q hq hne hsuffix
    obtain ⟨-, hp⟩ := List.mem_filter.mp hp
    obtain ⟨-, hq⟩ := List.mem_filter.mp hq
    rw [Bool.and_eq_true] at hp hq
    rw [canRestart_of_visited hsuffix hne hq.1] at hp
    cases hp.2
  apply (t.nodup.filter _).pairwise_of_forall_ne
  intro p hp q hq hne
  exact ⟨hdisjoint p hp q hq hne, hdisjoint q hq p hp hne.symm⟩

/-- A node that has not ended and is finished is DONE. -/
theorem NodeState.Alive.done {state : NodeState} (h : state.Alive) (hfinished : state.finished = true) :
    state = .done := by
  cases state with
  | new => cases hfinished
  | healthy => cases hfinished
  | dead => exact absurd rfl h.1
  | done => rfl
  | canceled => exact absurd rfl h.2

/-- **What is ready is idle**, when the goroutines of its DONE nodes have ended. -/
theorem Inv.idle (h : Inv w) {path : Path} (hready : ready w.tree path = true)
    (hdone : ∀ q ∈ w.tree.paths, path <:+ q →
      (w.tree.find q).any (fun node => node.state = .done) = true → dn q ∉ w.tasks.map Task.dn) :
    Idle w path := by
  intro q hsuffix hq hmem
  obtain ⟨node, hnode⟩ := Option.isSome_iff_exists.mp hq
  have hpaths : q ∈ w.tree.paths := (w.tree.mem_paths q).mpr hq
  have hfinished : node.state.finished = true := by
    have hall := List.all_eq_true.mp hready q hpaths
    simpa [hsuffix, hnode] using hall
  obtain ⟨task, htask, hdn⟩ := List.mem_map.mp hmem
  obtain ⟨-, halive⟩ := h.belongs_at hnode htask hdn
  have hstate := halive.done hfinished
  refine hdone q hpaths hsuffix ?_ hmem
  rw [hnode]
  simp [hstate]

end Inv

/-! ## Runs -/

/-- The GC restarts no subtree with a DONE node whose goroutine has not ended, and no runnable has a dot in
its name. -/
def Orderly (w : World) : Event → Prop
  | .gc => w.clean = false → ∀ path ∈ can w.tree, ∀ q ∈ w.tree.paths, path <:+ q →
      (w.tree.find q).any (fun node => node.state = .done) = true → dn q ∉ w.tasks.map Task.dn
  | .runGroup _ runnables _ => ∀ name ∈ runnables, '.' ∉ name
  | _ => True

instance (w : World) (e : Event) : Decidable (Orderly w e) :=
  match e with
  | .gc => inferInstanceAs (Decidable (w.clean = false → ∀ path ∈ can w.tree, ∀ q ∈ w.tree.paths, path <:+ q →
      (w.tree.find q).any (fun node => node.state = .done) = true → dn q ∉ w.tasks.map Task.dn))
  | .runGroup _ runnables _ => inferInstanceAs (Decidable (∀ name ∈ runnables, '.' ∉ name))
  | .schedule _ | .died _ _ | .kill | .signal _ _ => inferInstanceAs (Decidable True)

/-- **Step.** An orderly operation keeps the invariant. -/
theorem Inv.step {w w' : World} {e : Event} (h : Inv w) (horderly : Orderly w e)
    (hstep : step w e = some w') : Inv w' := by
  cases e with
  | schedule task =>
    simp only [Supervisor.step] at hstep
    split at hstep
    · rename_i henabled
      obtain ⟨⟨path, node⟩, hfound, hstep⟩ := Option.bind_eq_some_iff.mp hstep
      obtain rfl := Option.some.inj hstep
      exact h.schedule henabled.2 hfound
    · cases hstep
  | died task err =>
    simp only [Supervisor.step] at hstep
    split at hstep
    · rename_i henabled
      obtain ⟨⟨path, node⟩, hfound, hstep⟩ := Option.bind_eq_some_iff.mp hstep
      obtain rfl := Option.some.inj hstep
      exact h.died henabled.2 hfound err
    · cases hstep
  | gc =>
    simp only [Supervisor.step] at hstep
    split at hstep
    · cases hstep
    · split at hstep
      · obtain rfl := Option.some.inj hstep
        exact h
      · rename_i hdirty
        obtain ⟨w₁, hgc, rfl⟩ := Option.map_eq_some_iff.mp hstep
        unfold processGC at hgc
        split at hgc
        · obtain rfl := Option.some.inj hgc
          have hall : Inv _ := h.restarts ?_ ?_ (can_apart w.tree)
          · exact ⟨hall.dotFree, hall.belongs, hall.distinct⟩
          · intro path hpath
            exact (w.tree.mem_paths path).mp (List.mem_filter.mp hpath).1
          · intro path hpath
            have hchecked := (List.mem_filter.mp hpath).2
            simp only [canRestart, Bool.and_eq_true] at hchecked
            exact h.idle hchecked.2.1.2 (horderly (Bool.not_eq_true _ ▸ hdirty) path hpath)
        · cases hgc
  | kill =>
    simp only [Supervisor.step] at hstep
    split at hstep
    · cases hstep
    · obtain rfl := Option.some.inj hstep
      exact h.kill
  | signal name signal =>
    simp only [Supervisor.step] at hstep
    obtain ⟨⟨path, node⟩, hfound, hstep⟩ := Option.bind_eq_some_iff.mp hstep
    obtain ⟨state, hsignal, hstep⟩ := Option.bind_eq_some_iff.mp hstep
    obtain rfl := Option.some.inj hstep
    apply h.modify
    intro node' hnode' halive
    exact ⟨rfl, signal_alive hsignal⟩
  | runGroup name runnables hnodup =>
    simp only [Supervisor.step] at hstep
    obtain ⟨⟨path, node⟩, hfound, hrun⟩ := Option.bind_eq_some_iff.mp hstep
    exact h.runGroup (nodeByDN_find hfound) hnodup horderly hrun

/-- One goroutine for each name; and a report, whenever it comes, is counted against the node whose
goroutine has ended. -/
structure RunsOnce (w : World) : Prop where
  distinct : (w.running.map Task.dn).Nodup
  reports : ∀ task ∈ w.running, ∃ path node, nodeByDN w.tree task.dn = some (path, node) ∧
    node.instanceNumber = task.instanceNumber

theorem Inv.runsOnce {w : World} (h : Inv w) : RunsOnce w where
  distinct := by
    have hdistinct := h.distinct
    rw [World.tasks, List.map_append] at hdistinct
    exact hdistinct.of_append_right
  reports := by
    intro task htask
    obtain ⟨path, node, hfound, -, -, hnumber⟩ := h.nodeByDN (List.mem_append_right _ htask)
    exact ⟨path, node, hfound, hnumber⟩

/-- **Each node runs once.** In every orderly run of the supervisor there is at most one goroutine for each
distinguished name, and every report finds the node of its own goroutine. -/
theorem runs_once {w : World} (hrun : Run step Orderly init w) : RunsOnce w := by
  have hinv : Inv w := by
    apply hrun.invariant ?_ init_inv
    intro s e t h horderly hstep
    exact h.step horderly hstep
  exact hinv.runsOnce

/-! ## Inputs -/

def childName : Name := ['a']

/-- The root starts a child. -/
def startChild (root child : Nat) : List Event :=
  [.schedule ⟨rootName, root⟩, .runGroup rootName [childName] (by decide),
    .schedule ⟨dn [childName], child⟩]

/-- The child fails and is restarted. -/
def failedChild : List Event :=
  startChild 0 1 ++ [.died ⟨dn [childName], 1⟩ .failed, .gc, .schedule ⟨dn [childName], 2⟩]

theorem failedChild_once :
    RunsOnce (attempts step init failedChild) ∧
      (attempts step init failedChild).running = [⟨rootName, 0⟩, ⟨dn [childName], 2⟩] := by
  have hstart : Run step Orderly init init := Run.refl init
  have hroot := hstart.attempt (.schedule ⟨rootName, 0⟩) (by decide +kernel)
  have hgroup := hroot.attempt (.runGroup rootName [childName] (by decide)) (by decide +kernel)
  have hchild := hgroup.attempt (.schedule ⟨dn [childName], 1⟩) (by decide +kernel)
  have hdied := hchild.attempt (.died ⟨dn [childName], 1⟩ .failed) (by decide +kernel)
  have hrestarted := hdied.attempt .gc (by decide +kernel)
  have hrun : Run step Orderly init (attempts step init failedChild) :=
    hrestarted.attempt (.schedule ⟨dn [childName], 2⟩) (by decide +kernel)
  exact ⟨runs_once hrun, by decide +kernel⟩

/-- The child signals that it is done and keeps running; the root fails, is restarted and starts the child
again. -/
def doneChild : List Event :=
  startChild 0 1 ++ [.signal (dn [childName]) .healthy, .signal (dn [childName]) .done,
    .died ⟨rootName, 0⟩ .failed, .gc] ++ startChild 2 3

/-- **Two goroutines under one name.** When the first one fails, its report marks the node of the second one
as dead. -/
theorem doneChild_twice :
    Run step (fun _ _ => True) init (attempts step init doneChild) ∧
    (attempts step init doneChild).running =
      [⟨dn [childName], 1⟩, ⟨rootName, 2⟩, ⟨dn [childName], 3⟩] ∧
    ¬RunsOnce (attempts step init doneChild) ∧
    ((attempts step init (doneChild ++ [.died ⟨dn [childName], 1⟩ .failed])).tree.find [childName]).map
      (fun node => (node.instanceNumber, node.state)) = some (3, .dead) := by
  have hrunning : (attempts step init doneChild).running =
      [⟨dn [childName], 1⟩, ⟨rootName, 2⟩, ⟨dn [childName], 3⟩] := by decide +kernel
  refine ⟨run_attempts (P := fun _ => True) _ _ fun _ _ => trivial, hrunning, ?_, by decide +kernel⟩
  intro h
  have hdistinct := h.distinct
  rw [hrunning] at hdistinct
  exact absurd hdistinct (by decide)

end Wormhole.Guardian.Supervisor
