import C4D.Server.Attendance
import C4D.Server.Rolls

/-!
# Nodes, health entries and sessions stay together

In a reachable server the registry and the health map have the same keys
(`Setting.paired_of_reachable`), and every registered node has a connected session
(`Setting.attended_of_reachable`). `handleListNodes` and `MarkNodeFailed` dereference
health entries without a check, and the first invariant is what they rest on. By the
second one no health tick drops the session of a registered node.
-/

set_option autoImplicit false

namespace C4D

open Foundations Guarded

/-! ## Code that dereferences health entries -/

/-- What `GET /nodes` says about one node. -/
structure NodeListing where
  status : Status
  rank : Int
  url : String
  lastHeartbeat : Int
  failureCount : Int
deriving DecidableEq, Repr

def listNode (state : NodeState) (health : NodeHealth) : NodeListing where
  status := state.status
  rank := state.rank
  url := state.nodeURL
  lastHeartbeat := health.lastHeartbeat
  failureCount := health.failureCount

/-- The loop of `handleListNodes` over the registered nodes. -/
def listLoop : List String → Table String NodeListing → Op (Table String NodeListing)
  | [], nodes => return nodes
  | nodeID :: rest, nodes => do
      let s ← read
      match s.nodes.lookup nodeID, s.health.lookup nodeID with
      | some state, some health => listLoop rest (nodes.insert nodeID (listNode state health))
      | some _, none => halt .panicked
      | none, _ => listLoop rest nodes

/-- `APIServer.handleListNodes`: the body of its answer. -/
def handleListNodes (order : Shuffle String) : Op (Table String NodeListing) :=
  withRLock .registryMu do
    let s ← read
    listLoop (order.apply (AList.keys s.nodes)) ∅

/-- `MarkNodeFailed` adds a failure to the health entry of a node. -/
def NodeHealth.markFailed (lastError : String) (health : NodeHealth) : NodeHealth :=
  { health with
    status := .failed
    failureCount := health.failureCount + 1
    lastError := some lastError }

/-- `NodeRegistry.MarkNodeFailed`, with the text of the time of the call. -/
def markNodeFailed (nodeID now : String) : Op (Except ClusterError Unit) :=
  withLock .registryMu do
    let s ← read
    if nodeID ∈ s.nodes then
      update fun s => s.setStatus nodeID .failed
      if nodeID ∈ s.health then
        update fun s => { s with
          health := Table.modify nodeID (.markFailed ("node marked as failed at " ++ now)) s.health }
        return .ok ()
      else halt .panicked
    else return .error (.nodeNotFound nodeID)

/-- The data after a node is marked failed. -/
def Server.markedFailed (nodeID now : String) (s : Server) : Server :=
  let s := s.setStatus nodeID .failed
  { s with
    health := Table.modify nodeID (.markFailed ("node marked as failed at " ++ now)) s.health }

/-! ## One key set -/

/-- A node is registered exactly if it has a health entry. -/
def Paired (s : Server) : Prop := ∀ id, id ∈ s.nodes ↔ id ∈ s.health

variable {setting : Setting} {s s' : Server} {w : World}

namespace Paired

/-- The rolls decide it. -/
theorem iff_roll : Paired s ↔ s.roll.registered = s.roll.checked :=
  ⟨fun paired => funext fun id => propext (paired id), fun same id => iff_of_eq (congrFun same id)⟩

theorem step {a : Action} (paired : Paired w.data) (step : RollStep setting w a s'.roll) :
    Paired s' := by
  rw [iff_roll] at paired ⊢
  generalize s'.roll = after at step ⊢
  cases step with
  | kept => exact paired
  | entered req now round session connected registryFree => rw [Roll.enter, paired]
  | waiting req now round session connected severs => exact paired
  | swept now order => exact paired
  | departed now order => rw [Roll.depart, paired]
  | struck nodeID rounds severs => rw [Roll.strike, paired]

/-- A listing of registered nodes finds the health entry of each. -/
theorem listLoop_run (paired : Paired s) (locks : Lock → RWMutex) (nodeIDs : List String)
    (nodes : Table String NodeListing) :
    ∃ listed, (listLoop nodeIDs nodes).run ⟨s, locks⟩ = .ok listed ⟨s, locks⟩ := by
  induction nodeIDs generalizing nodes with
  | nil => exact ⟨nodes, rfl⟩
  | cons id rest ih =>
      simp only [listLoop, EStateM.run_bind, read_run]
      cases registered : s.nodes.lookup id with
      | none => exact ih nodes
      | some state =>
          have known : id ∈ s.nodes := Table.mem_iff_exists_lookup.mpr ⟨state, registered⟩
          obtain ⟨health, found⟩ := Table.mem_iff_exists_lookup.mp ((paired id).mp known)
          rw [found]
          exact ih _

end Paired

theorem Setting.paired_of_reachable (setting : Setting) (reachable : setting.system.Reachable w) :
    Paired w.data :=
  setting.roll_invariant_of_run
    (fun id => iff_of_false (AList.notMem_empty id) (AList.notMem_empty id))
    (fun paired _ step => paired.step step) reachable

/-! ## No missing entry -/

theorem handleListNodes_ends (settled : Settled w) (paired : Paired w.data)
    (order : Shuffle String) : (w.run (handleListNodes order)).1 ≠ .panicked := by
  obtain ⟨s, locks⟩ := w
  rcases settled.registry with registryFree | ⟨held, _⟩
  · obtain ⟨listed, lists⟩ := paired.listLoop_run
      (Function.update locks .registryMu { readers := 1 }) (order.apply (AList.keys s.nodes)) ∅
    have returns : (handleListNodes order).run ⟨s, locks⟩ = .ok listed ⟨s, locks⟩ :=
      withRLock_run registryFree lists
    rw [World.run_of_ok returns]
    nofun
  · rw [handleListNodes, World.run_of_blocked (withRLock_run_blocked held _)]
    nofun

theorem markNodeFailed_ends (paired : Paired w.data) (nodeID now : String) :
    (w.run (markNodeFailed nodeID now)).1 ≠ .panicked := by
  obtain ⟨s, locks⟩ := w
  by_cases registryFree : locks .registryMu = .free
  case neg =>
    rw [markNodeFailed, World.run_of_blocked (withLock_run_blocked registryFree _)]
    nofun
  by_cases known : nodeID ∈ s.nodes
  · have checked : nodeID ∈ s.health := (paired nodeID).mp known
    have returns : (markNodeFailed nodeID now).run ⟨s, locks⟩ =
        .ok (.ok ()) ⟨s.markedFailed nodeID now, locks⟩ := by
      apply withLock_run registryFree
      simp only [EStateM.run_bind, read_run, if_pos known, if_pos checked, update_run]
      rfl
    rw [World.run_of_ok returns]
    nofun
  · have returns : (markNodeFailed nodeID now).run ⟨s, locks⟩ =
        .ok (.error (.nodeNotFound nodeID)) ⟨s, locks⟩ := by
      apply withLock_run registryFree
      simp only [EStateM.run_bind, read_run, if_neg known, EStateM.run_pure]
    rw [World.run_of_ok returns]
    nofun

/-! ## No session of a registered node expires -/

theorem Server.Connected.checkNodesHealth {locks : Lock → RWMutex} {id : String}
    (connected : s.Connected id) (settled : Settled ⟨s, locks⟩) (now : Int)
    (order : Shuffle String) :
    (World.run (checkNodesHealth setting now order) ⟨s, locks⟩).2.data.sessions.lookup id =
      s.sessions.lookup id := by
  rcases settled.registry with registryFree | ⟨held, _⟩
  · rw [World.run_of_ok (checkNodesHealth_run registryFree settled.sessionFree)]
    rw [Server.sessions_timedOut, connected.cleanupSessions]
  · rw [World.run_of_blocked (checkNodesHealth_run_blocked held)]

/-! ## The three tables -/

/-- **Nodes, health entries and sessions stay together.** -/
theorem together_of_reachable (reachable : setting.system.Reachable w) :
    (∀ id, id ∈ w.data.nodes ↔ id ∈ w.data.health) ∧
    (∀ id, id ∈ w.data.nodes → w.data.Connected id) ∧
    (∀ order, (w.run (handleListNodes order)).1 ≠ .panicked) ∧
    (∀ nodeID now, (w.run (markNodeFailed nodeID now)).1 ≠ .panicked) ∧
    (∀ timeout now id, id ∈ w.data.nodes →
      (w.data.cleanupSessions timeout now).2.sessions.lookup id = w.data.sessions.lookup id) ∧
    (∀ now order id, id ∈ w.data.nodes →
      (w.run (checkNodesHealth setting now order)).2.data.sessions.lookup id =
        w.data.sessions.lookup id) := by
  have settled := setting.settled_of_reachable reachable
  have paired := setting.paired_of_reachable reachable
  have connected : ∀ id, id ∈ w.data.nodes → w.data.Connected id := fun id registered =>
    setting.attended_of_reachable reachable id
      (Registry.statusOf_ne_none.mpr (AList.mem_keys.mp registered))
  exact ⟨paired, connected, handleListNodes_ends settled paired,
    markNodeFailed_ends paired,
    fun timeout now id registered => (connected id registered).cleanupSessions timeout now,
    fun now order id registered => (connected id registered).checkNodesHealth settled now order⟩

theorem together_gathered : ∃ w : World, (AList.keys w.data.nodes).length = 4 ∧
    ((∀ id, id ∈ w.data.nodes ↔ id ∈ w.data.health) ∧
      ∀ id, id ∈ w.data.nodes → w.data.Connected id) := by
  obtain ⟨w, reachable, holds⟩ := System.exists_reachable (S := smallSetting.system) gathering
    (fun w => (AList.keys w.data.nodes).length = 4) rfl (by decide +kernel)
  have together := together_of_reachable reachable
  exact ⟨w, of_decide_eq_true holds, together.1, together.2.1⟩

end C4D
