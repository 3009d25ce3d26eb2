import C4D.Server.Attempt
import C4D.Server.Runs

/-!
# What the operations do to nodes and counters

For every operation: the statuses of the nodes afterwards, the drift of each
counter, and the fields it leaves alone.

The registration of a node that is registered already raises a drift, and so
does an admission that never reaches the registry (`drift_enrolled`,
`drift_sessionRegistered`). A health tick raises drifts whenever it times out a
registered node (`expired_timedOut`). A cleanup and a removal raise the drift of
failed nodes for every failed node they take (`departed_cleanedUp`,
`drift_departed`).
-/

set_option autoImplicit false

namespace C4D

open Foundations

namespace Registry

variable {nodes : Registry}

theorem rankOf_insert_self (id : String) (node : NodeState) :
    rankOf (AList.insert id node nodes) id = node.rank := by
  rw [rankOf, AList.lookup_insert, Option.map_some, Option.getD_some]

theorem rankOf_insert_of_ne {id j : String} (ne : j ≠ id) (node : NodeState) :
    rankOf (AList.insert id node nodes) j = nodes.rankOf j := by
  rw [rankOf, AList.lookup_insert_ne ne, rankOf]

theorem rankOf_erase_of_ne {id j : String} (ne : j ≠ id) :
    rankOf (AList.erase id nodes) j = nodes.rankOf j := by
  rw [rankOf, AList.lookup_erase_ne ne, rankOf]

end Registry

/-- The fields of the lifecycle, with the latency matrix, which only metrics change. -/
structure Lifecycle where
  current : State
  spawned : Nat
  inFlight : Nat
  latencyMatrix : LatencyMatrix

namespace Server

def lifecycle (s : Server) : Lifecycle :=
  { current := s.current, spawned := s.spawned, inFlight := s.inFlight
    latencyMatrix := s.latencyMatrix }

variable {setting : Setting} {s : Server}

/-! ## Admission -/

/-- What an admission by the counters was. -/
inductive Admitted (setting : Setting) (s : Server) : Status → Int → Server → Prop where
  | active (room : s.activeNodes < setting.config.activeNodes) :
      Admitted setting s .active s.activeNodes { s with activeNodes := s.activeNodes + 1 }
  | standby (full : setting.config.activeNodes ≤ s.activeNodes)
      (room : s.standbyNodes < setting.config.standbyNodes) :
      Admitted setting s .standby (-1) { s with standbyNodes := s.standbyNodes + 1 }

theorem admitted_of_admits {status : Status} {rank : Int} {counted : Server}
    (admits : s.admitNode setting = (.ok (status, rank), counted)) :
    Admitted setting s status rank counted := by
  unfold admitNode at admits
  split_ifs at admits with room full
  · cases admits
    exact .active room
  · cases admits
    exact .standby (not_lt.mp room) full
  · cases admits

/-- A refused node is not counted. -/
theorem eq_of_refused {refusal : GrpcError} {s' : Server}
    (refused : s.admitNode setting = (.error refusal, s')) : s' = s := by
  unfold admitNode at refused
  split_ifs at refused <;> cases refused
  rfl

section Register

variable {req : RegisterRequest} {now : Int} {status : Status} {rank : Int} {counted : Server}

/-- The node counted in, with everything else as it was before the request. -/
structure Counted (setting : Setting) (s : Server) (status : Status) (rank : Int)
    (counted : Server) : Prop where
  nodes : counted.nodes = s.nodes
  sessions : counted.sessions = s.sessions
  lifecycle : counted.lifecycle = s.lifecycle
  counter : ∀ st, counted.counter st = s.counter st + if status = st then 1 else 0
  working : status ≠ .failed
  rank : status = .active → rank = s.activeNodes
  room : status = .active → s.activeNodes < setting.config.activeNodes

theorem counted_of_admits
    (admits : (s.captureMaster req).admitNode setting = (.ok (status, rank), counted)) :
    Counted setting s status rank counted := by
  have captured : (s.captureMaster req).nodes = s.nodes ∧
      (s.captureMaster req).sessions = s.sessions ∧
      (s.captureMaster req).lifecycle = s.lifecycle ∧
      (s.captureMaster req).counter = s.counter := by
    unfold captureMaster
    split
    · exact ⟨rfl, rfl, rfl, rfl⟩
    · exact ⟨rfl, rfl, rfl, rfl⟩
  obtain ⟨nodes, sessions, lifecycle, counter⟩ := captured
  have activeNodes : (s.captureMaster req).activeNodes = s.activeNodes :=
    congrFun counter .active
  rcases admitted_of_admits admits with room | ⟨_, _⟩
  · refine ⟨nodes, sessions, lifecycle, fun st => ?_, by decide, fun _ => activeNodes,
      fun _ => activeNodes ▸ room⟩
    rw [← counter]
    cases st <;> simp [Server.counter]
  · refine ⟨nodes, sessions, lifecycle, fun st => ?_, by decide, fun active => ?_, fun active => ?_⟩
    · rw [← counter]
      cases st <;> simp [Server.counter]
    · cases active
    · cases active

theorem counters_captureMaster (s : Server) (req : RegisterRequest) :
    (s.captureMaster req).activeNodes = s.activeNodes ∧
      (s.captureMaster req).standbyNodes = s.standbyNodes := by
  unfold captureMaster
  split
  · exact ⟨rfl, rfl⟩
  · exact ⟨rfl, rfl⟩

/-- An admission finds room by one of the counters. -/
theorem room_of_admits
    (admits : (s.captureMaster req).admitNode setting = (.ok (status, rank), counted)) :
    s.activeNodes < setting.config.activeNodes ∨ s.standbyNodes < setting.config.standbyNodes := by
  obtain ⟨active, standby⟩ := counters_captureMaster s req
  rw [← active, ← standby]
  rcases admitted_of_admits admits with room | ⟨_, room⟩
  · exact .inl room
  · exact .inr room

/-- A refusal finds no room by either counter. -/
theorem full_of_refused {refusal : GrpcError} {s' : Server}
    (refused : (s.captureMaster req).admitNode setting = (.error refusal, s')) :
    ¬ (s.activeNodes < setting.config.activeNodes ∨
      s.standbyNodes < setting.config.standbyNodes) := by
  obtain ⟨active, standby⟩ := counters_captureMaster s req
  rw [← active, ← standby, not_or]
  unfold admitNode at refused
  split_ifs at refused with active standby <;> cases refused
  exact ⟨active, standby⟩

/-- An admitted node gets a connected session. -/
theorem sessionRegistered_eq (s : Server) (req : RegisterRequest) (now : Int) (status : Status)
    (rank : Int) :
    ∃ session, session.isConnected = true ∧ s.sessionRegistered req now status rank =
      { s with sessions := s.sessions.insert req.nodeId session } := by
  unfold sessionRegistered registerSession
  cases s.sessions.lookup req.nodeId with
  | none => exact ⟨_, rfl, rfl⟩
  | some session => exact ⟨_, rfl, rfl⟩

/-- An admitted node gets a connected session and a registry entry. -/
theorem enrolled_eq (s : Server) (req : RegisterRequest) (now : Int) (status : Status)
    (rank : Int) :
    ∃ session, session.isConnected = true ∧ s.enrolled req now status rank =
      { s with
        sessions := s.sessions.insert req.nodeId session
        nodes := AList.insert req.nodeId ⟨req.nodeUrl, status, rank⟩ s.nodes
        health := s.health.insert req.nodeId { lastHeartbeat := now, status } } := by
  obtain ⟨session, connected, same⟩ := sessionRegistered_eq s req now status rank
  refine ⟨session, connected, ?_⟩
  rw [enrolled, same]
  rfl

variable (req now) (counts : Counted setting s status rank counted)

include counts

/-- An admission that does not reach the registry raises a drift. -/
theorem drift_sessionRegistered (st : Status) :
    (counted.sessionRegistered req now status rank).drift st =
      s.drift st + if status = st then 1 else 0 := by
  obtain ⟨_, _, same⟩ := sessionRegistered_eq counted req now status rank
  have drift : (counted.sessionRegistered req now status rank).drift st = counted.drift st := by
    rw [same]
    cases st <;> rfl
  rw [drift, Server.drift, Server.drift, counts.counter, counts.nodes]
  omega

theorem nodes_enrolled :
    (counted.enrolled req now status rank).nodes =
      AList.insert req.nodeId ⟨req.nodeUrl, status, rank⟩ s.nodes := by
  obtain ⟨_, _, same⟩ := enrolled_eq counted req now status rank
  rw [same, ← counts.nodes]

theorem statusOf_enrolled (j : String) :
    (counted.enrolled req now status rank).nodes.statusOf j =
      if j = req.nodeId then some status else s.nodes.statusOf j := by
  rw [nodes_enrolled req now counts, Registry.statusOf_insert]

/-- The registration of a node raises the drift of the status it had. -/
theorem drift_enrolled (st : Status) :
    (counted.enrolled req now status rank).drift st =
      s.drift st + if s.nodes.statusOf req.nodeId = some st then 1 else 0 := by
  have counter : (counted.enrolled req now status rank).counter st = counted.counter st := by
    obtain ⟨_, _, same⟩ := enrolled_eq counted req now status rank
    rw [same]
    cases st <;> rfl
  have inserted : (counted.enrolled req now status rank).nodes.count st = s.nodes.count st
      + (if status = st then 1 else 0)
      - (if s.nodes.statusOf req.nodeId = some st then 1 else 0) := by
    rw [nodes_enrolled req now counts]
    exact Registry.count_insert ⟨req.nodeUrl, status, rank⟩ st
  rw [Server.drift, Server.drift, counter, counts.counter, inserted]
  omega

theorem lifecycle_enrolled :
    (counted.enrolled req now status rank).lifecycle = s.lifecycle := by
  obtain ⟨_, _, same⟩ := enrolled_eq counted req now status rank
  rw [← counts.lifecycle, same]
  rfl

end Register

/-! ## Start -/

section Start

variable (s) (round : Round)

@[simp] theorem statusOf_started (j : String) :
    (s.started round).nodes.statusOf j = s.nodes.statusOf j :=
  Registry.statusOf_assignRanks ..

theorem drift_started (status : Status) : (s.started round).drift status = s.drift status := by
  have count : (s.started round).nodes.count status = s.nodes.count status :=
    Registry.count_assignRanks _ _ status
  rw [drift, drift, count]
  cases status <;> rfl

variable {s round}

theorem mem_startTargets {id : String} :
    id ∈ s.startTargets round ↔ s.nodes.statusOf id = some .active := by
  rw [startTargets, mem_sortBy, Registry.mem_listWith]

theorem nodup_startTargets : (s.startTargets round).Nodup :=
  (sortBy_perm _ _ _).nodup_iff.mpr (Registry.nodup_listWith _ _)

/-- A started node has its position in the order of URLs as its rank. -/
theorem rankOf_started (round : Round) {id : String} (active : s.nodes.statusOf id = some .active) :
    (s.started round).nodes.rankOf id = (s.startTargets round).idxOf id := by
  refine (Registry.rankOf_assignRanks nodup_startTargets (mem_startTargets.mpr active)
    (Registry.mem_iff_statusOf.mpr ⟨_, active⟩) 0).trans ?_
  rw [Nat.zero_add]

end Start

/-! ## Failures -/

section Failures

variable {nodeID : String} {status : Status}

@[simp] theorem statusOf_failedOver (j : String) :
    (s.failedOver nodeID status).nodes.statusOf j =
      if j = nodeID then (s.nodes.statusOf j).map fun _ => .failed else s.nodes.statusOf j := by
  have nodes : (s.failedOver nodeID status).nodes = s.nodes.setStatus nodeID .failed := by
    unfold failedOver
    split <;> cases status <;> rfl
  rw [nodes, Registry.statusOf_setStatus]

/-- A failure that is reported keeps the drifts. -/
theorem drift_failedOver (known : s.nodes.statusOf nodeID = some status) (working : status ≠ .failed)
    (st : Status) : (s.failedOver nodeID status).drift st = s.drift st := by
  have count := Registry.count_setStatus known .failed st
  cases status with
  | active =>
      rw [failedOver, if_pos rfl]
      cases st <;> simp only [drift, counter, failNode, setStatus, count, reduceCtorEq, if_true,
        if_false] <;> omega
  | standby =>
      rw [failedOver, if_neg (by decide)]
      cases st <;> simp only [drift, counter, failNode, setStatus, count, reduceCtorEq, if_true,
        if_false] <;> omega
  | failed => exact absurd rfl working

theorem lifecycle_failedOver (s : Server) (nodeID : String) (status : Status) :
    (s.failedOver nodeID status).lifecycle =
      { s.lifecycle with
        current := .reconfiguring
        spawned := s.spawned + if status = .active then 1 else 0 } := by
  unfold failedOver
  cases status <;> rfl

end Failures

/-! ## Ticks -/

/-- A health tick times the node out. -/
def Stale (setting : Setting) (now : Int) (s : Server) (nodeID : String) : Prop :=
  ∃ health, s.health.lookup nodeID = some health ∧ health.status ≠ .failed ∧
    health.olderThan setting.config.heartbeatTimeout now

/-- A cleanup tick removes the node. -/
def Dead (setting : Setting) (now : Int) (s : Server) (nodeID : String) : Prop :=
  ∃ health, s.health.lookup nodeID = some health ∧
    health.olderThan (setting.config.heartbeatTimeout * 2) now

section Ticks

variable {now : Int} {order : Shuffle String}

theorem mem_timeouts {nodeID : String} :
    nodeID ∈ s.timeouts now setting order ↔ s.Stale setting now nodeID := by
  simp only [timeouts, List.mem_filter, Shuffle.mem_apply, Option.any_eq_true, Stale,
    decide_eq_true_iff, ← AList.mem_keys, Table.mem_iff_exists_lookup]
  constructor
  · rintro ⟨_, health, found⟩
    exact ⟨health, found⟩
  · rintro ⟨health, found⟩
    exact ⟨⟨health, found.1⟩, health, found⟩

theorem mem_deadConnections {nodeID : String} :
    nodeID ∈ s.deadConnections setting now order ↔ s.Dead setting now nodeID := by
  simp only [deadConnections, List.mem_filter, Shuffle.mem_apply, Option.any_eq_true, Dead,
    decide_eq_true_iff, ← AList.mem_keys, Table.mem_iff_exists_lookup]
  constructor
  · rintro ⟨_, health, found⟩
    exact ⟨health, found⟩
  · rintro ⟨health, found⟩
    exact ⟨⟨health, found.1⟩, health, found⟩

/-- The status is read after it was written, so neither branch on the old status is taken. -/
theorem handleNodeTimeout_eq (nodeID : String) :
    s.handleNodeTimeout nodeID = if nodeID ∈ s.nodes then
      { s.setStatus nodeID .failed with failedNodes := s.failedNodes + 1 } else s := by
  unfold handleNodeTimeout
  by_cases registered : nodeID ∈ s.nodes
  · obtain ⟨status, known⟩ := Registry.mem_iff_statusOf.mp registered
    have written : (s.setStatus nodeID .failed).nodes.statusOf nodeID = some .failed := by
      rw [setStatus, Registry.statusOf_setStatus, if_pos rfl, known, Option.map_some]
    simp only [if_pos registered, written, Option.some.injEq, reduceCtorEq, if_false]
    rfl
  · rw [if_neg registered, if_neg registered]

theorem nodes_handleNodeTimeout (nodeID : String) :
    (s.handleNodeTimeout nodeID).nodes = s.nodes.setStatus nodeID .failed ∨
      (s.handleNodeTimeout nodeID).nodes = s.nodes := by
  rw [handleNodeTimeout_eq]
  split
  · exact .inl rfl
  · exact .inr rfl

theorem statusOf_handleNodeTimeout (nodeID j : String) :
    (s.handleNodeTimeout nodeID).nodes.statusOf j =
      if j = nodeID then (s.nodes.statusOf j).map fun _ => .failed else s.nodes.statusOf j := by
  rw [handleNodeTimeout_eq]
  by_cases registered : nodeID ∈ s.nodes
  · rw [if_pos registered]
    exact Registry.statusOf_setStatus j .failed
  · rw [if_neg registered]
    by_cases same : j = nodeID
    · have unknown : s.nodes.statusOf j = none := by
        rw [Registry.statusOf_eq_none, AList.lookup_eq_none, same]
        exact registered
      rw [if_pos same, unknown, Option.map_none]
    · rw [if_neg same]

/-- A time-out of a registered node raises the drift of the status it had. -/
theorem drift_handleNodeTimeout (nodeID : String) (status : Status) :
    (s.handleNodeTimeout nodeID).drift status =
      s.drift status + if s.nodes.statusOf nodeID = some status then 1 else 0 := by
  rw [handleNodeTimeout_eq]
  cases known : s.nodes.statusOf nodeID with
  | none =>
      have unregistered : nodeID ∉ s.nodes := by
        rw [← AList.lookup_eq_none, ← Registry.statusOf_eq_none]
        exact known
      rw [if_neg unregistered, if_neg (by simp), add_zero]
  | some old =>
      rw [if_pos (Registry.mem_iff_statusOf.mpr ⟨old, known⟩)]
      have count := Registry.count_setStatus known .failed status
      cases status <;> simp only [drift, counter, setStatus, count, reduceCtorEq, if_true,
        if_false, Option.some.injEq] <;> omega

/-- The members after the time-outs of some nodes. -/
structure Expired (nodeIDs : List String) (s s' : Server) : Prop where
  status : ∀ j, s'.nodes.statusOf j =
    if j ∈ nodeIDs then (s.nodes.statusOf j).map fun _ => .failed else s.nodes.statusOf j
  rank : ∀ j, s'.nodes.rankOf j = s.nodes.rankOf j
  drift : ∀ status, s.drift status ≤ s'.drift status
  lifecycle : s'.lifecycle = s.lifecycle

theorem expired_handleNodeTimeout (nodeID : String) :
    Expired [nodeID] s (s.handleNodeTimeout nodeID) where
  status j := by simp only [statusOf_handleNodeTimeout, List.mem_singleton]
  rank j := by
    rcases nodes_handleNodeTimeout (s := s) nodeID with nodes | nodes
    · rw [nodes, Registry.rankOf_setStatus]
    · rw [nodes]
  drift status := by
    rw [drift_handleNodeTimeout]
    split <;> omega
  lifecycle := by
    rw [handleNodeTimeout_eq]
    split <;> rfl

theorem expired_foldl (nodeIDs : List String) (s : Server) :
    Expired nodeIDs s (nodeIDs.foldl (fun s nodeID => s.handleNodeTimeout nodeID) s) := by
  induction nodeIDs generalizing s with
  | nil => exact ⟨fun j => by rw [if_neg List.not_mem_nil]; rfl, fun _ => rfl, fun _ => le_rfl, rfl⟩
  | cons id rest ih =>
      have here := expired_handleNodeTimeout (s := s) id
      have after := ih (s.handleNodeTimeout id)
      refine ⟨fun j => ?_, fun j => (after.rank j).trans (here.rank j),
        fun status => (here.drift status).trans (after.drift status),
        after.lifecycle.trans here.lifecycle⟩
      rw [List.foldl_cons, after.status, here.status]
      by_cases same : j = id <;> by_cases later : j ∈ rest <;>
        simp [same, later, Function.comp_def]

/-- Time-outs of nodes that are not registered change nothing. -/
theorem foldl_handleNodeTimeout_unregistered {nodeIDs : List String}
    (unregistered : ∀ id ∈ nodeIDs, id ∉ s.nodes) :
    nodeIDs.foldl (fun s nodeID => s.handleNodeTimeout nodeID) s = s := by
  induction nodeIDs with
  | nil => rfl
  | cons id rest ih =>
      rw [List.foldl_cons, handleNodeTimeout_eq, if_neg (unregistered id List.mem_cons_self)]
      exact ih fun j mem => unregistered j (List.mem_cons_of_mem _ mem)

/-! ## Departures -/

theorem statusOf_deleteNode (nodeID j : String) :
    (s.deleteNode nodeID).nodes.statusOf j = if j = nodeID then none else s.nodes.statusOf j :=
  Registry.statusOf_erase j

@[simp] theorem nodes_countRemoved (status : Status) : (s.countRemoved status).nodes = s.nodes := by
  cases status <;> rfl

/-- A departure raises the drift of failed nodes when the node had failed. -/
theorem drift_departed {nodeID : String} {status : Status}
    (known : s.nodes.statusOf nodeID = some status) (st : Status) :
    ((s.countRemoved status).deleteNode nodeID).drift st =
      s.drift st + if status = .failed ∧ st = .failed then 1 else 0 := by
  have count := Registry.count_erase s.nodes nodeID st
  rw [known] at count
  cases status <;> cases st <;>
    simp only [drift, counter, countRemoved, deleteNode, count, reduceCtorEq, if_true, if_false,
      Option.some.injEq, and_true, and_false] <;> omega

/-- The members after some nodes have left. -/
structure Departed (nodeIDs : List String) (s s' : Server) : Prop where
  status : ∀ j, s'.nodes.statusOf j = if j ∈ nodeIDs then none else s.nodes.statusOf j
  rank : ∀ j, j ∉ nodeIDs → s'.nodes.rankOf j = s.nodes.rankOf j
  drift : ∀ status, s.drift status ≤ s'.drift status
  /-- Only a failed node that leaves raises a drift. -/
  settled : (∀ id ∈ nodeIDs, s.nodes.statusOf id ≠ some .failed) →
    ∀ status, s'.drift status = s.drift status

theorem departed_removeDead (nodeID : String) : Departed [nodeID] s (s.removeDead nodeID) := by
  unfold removeDead
  cases known : s.nodes.statusOf nodeID with
  | none =>
      have counts : ∀ status, (s.deleteNode nodeID).drift status = s.drift status := by
        intro status
        have count := Registry.count_erase s.nodes nodeID status
        rw [known, if_neg (by simp), sub_zero] at count
        cases status <;> simp only [Server.drift, counter, deleteNode, count]
      refine ⟨fun j => ?_, fun j stays => ?_, fun status => (counts status).ge, fun _ => counts⟩
      · simp only [statusOf_deleteNode, List.mem_singleton]
      · rw [List.mem_singleton] at stays
        exact Registry.rankOf_erase_of_ne stays
  | some old =>
      refine ⟨fun j => ?_, fun j stays => ?_, fun status => ?_, fun working status => ?_⟩
      · simp only [statusOf_deleteNode, List.mem_singleton, nodes_countRemoved]
      · rw [List.mem_singleton] at stays
        apply (Registry.rankOf_erase_of_ne stays).trans
        rw [nodes_countRemoved]
      · rw [drift_departed known]
        split <;> omega
      · rw [drift_departed known, if_neg, add_zero]
        rintro ⟨failed, _⟩
        exact working nodeID (List.mem_singleton_self _) (failed ▸ known)

theorem departed_foldl (nodeIDs : List String) (s : Server) :
    Departed nodeIDs s (nodeIDs.foldl removeDead s) := by
  induction nodeIDs generalizing s with
  | nil =>
      exact ⟨fun j => by rw [if_neg List.not_mem_nil]; rfl, fun _ _ => rfl, fun _ => le_rfl,
        fun _ _ => rfl⟩
  | cons id rest ih =>
      have here := departed_removeDead (s := s) id
      have after := ih (s.removeDead id)
      refine ⟨fun j => ?_, fun j stays => ?_,
        fun status => (here.drift status).trans (after.drift status), fun working status => ?_⟩
      · rw [List.foldl_cons, after.status, here.status]
        by_cases same : j = id <;> by_cases later : j ∈ rest <;> simp [same, later]
      · rw [List.mem_cons, not_or] at stays
        rw [List.foldl_cons, after.rank j stays.2, here.rank j (by simpa using stays.1)]
      · rw [List.foldl_cons, after.settled _ status, here.settled _ status]
        · intro j mem
          rw [List.mem_singleton] at mem
          exact mem ▸ working id List.mem_cons_self
        · intro j mem
          rw [here.status]
          split
          · simp
          · exact working j (List.mem_cons_of_mem _ mem)

end Ticks

/-! ## Sessions -/

/-- The node has a session that is connected. -/
def Connected (s : Server) (nodeID : String) : Prop :=
  ∃ session, s.sessions.lookup nodeID = some session ∧ session.isConnected = true

theorem Connected.update {id j : String} {f : SessionState → SessionState}
    (stays : ∀ session, session.isConnected = true → (f session).isConnected = true)
    (connected : s.Connected j) :
    Connected { s with sessions := Table.modify id f s.sessions } j := by
  obtain ⟨session, found, connected⟩ := connected
  by_cases same : j = id
  · exact ⟨f session, by rw [same, Table.lookup_modify_self, ← same, found, Option.map_some],
      stays session connected⟩
  · exact ⟨session, by rw [Table.lookup_modify_of_ne same, found], connected⟩

/-- `CleanupSessions` leaves a connected session. -/
theorem Connected.cleanupSessions {id : String} (connected : s.Connected id)
    (timeout now : Int) :
    (s.cleanupSessions timeout now).2.sessions.lookup id = s.sessions.lookup id := by
  obtain ⟨session, found, connected⟩ := connected
  rw [lookup_cleanupSessions, found]
  simp only [Option.filter_some, connected, true_or, decide_true, if_true]

theorem sessions_foldl_handleNodeTimeout (nodeIDs : List String) :
    (nodeIDs.foldl (fun s nodeID => s.handleNodeTimeout nodeID) s).sessions = s.sessions := by
  induction nodeIDs generalizing s with
  | nil => rfl
  | cons id rest ih =>
      rw [List.foldl_cons, ih, handleNodeTimeout_eq]
      split <;> rfl

section Ticks

variable (setting) (now : Int) (order : Shuffle String)

/-- A health tick does to the sessions what `CleanupSessions` does. -/
theorem sessions_timedOut : (s.timedOut now setting order).sessions =
    (s.cleanupSessions (setting.config.heartbeatTimeout * 2) now).2.sessions := by
  have same := sessions_foldl_handleNodeTimeout (s := s) (s.timeouts now setting order)
  simp only [timedOut, cleanupSessions, same]

/-- What a health tick does to the members. -/
theorem expired_timedOut :
    Expired (s.timeouts now setting order) s (s.timedOut now setting order) :=
  have expired := expired_foldl (s.timeouts now setting order) s
  ⟨expired.status, expired.rank, expired.drift, expired.lifecycle⟩

/-- The data after the sessions of dead nodes are disconnected. -/
theorem disconnected_foldl (nodeIDs : List String) (s : Server) :
    ∃ sessions, nodeIDs.foldl (fun s nodeID => (disconnectSession nodeID now s).2) s =
        { s with sessions } ∧
      ∀ j, sessions.lookup j = (s.sessions.lookup j).map fun session =>
        if j ∈ nodeIDs then { session with isConnected := false, lastSeen := now } else session := by
  induction nodeIDs generalizing s with
  | nil => exact ⟨s.sessions, rfl, fun j => by simp⟩
  | cons id rest ih =>
      obtain ⟨sessions, same, lookup⟩ := ih (disconnectSession id now s).2
      refine ⟨sessions, same, fun j => ?_⟩
      rw [lookup, disconnectSession, Table.lookup_modify, Option.map_map]
      congr 1
      funext session
      by_cases here : j = id <;> by_cases later : j ∈ rest <;> simp [here, later]

theorem lifecycle_foldl_removeDead (nodeIDs : List String) (s : Server) :
    (nodeIDs.foldl removeDead s).lifecycle = s.lifecycle := by
  induction nodeIDs generalizing s with
  | nil => rfl
  | cons id rest ih =>
      rw [List.foldl_cons, ih, removeDead]
      cases s.nodes.statusOf id with
      | none => rfl
      | some status => cases status <;> rfl

/-- What a cleanup tick does to the members. -/
theorem departed_cleanedUp :
    Departed (s.deadConnections setting now order) s (s.cleanedUp now setting order) ∧
      (s.cleanedUp now setting order).lifecycle = s.lifecycle := by
  obtain ⟨sessions, same, _⟩ := disconnected_foldl now (s.deadConnections setting now order) s
  have departed := departed_foldl (s.deadConnections setting now order) { s with sessions }
  rw [cleanedUp, same]
  exact ⟨⟨departed.status, departed.rank, departed.drift, departed.settled⟩,
    lifecycle_foldl_removeDead _ _⟩

end Ticks

end Server

end C4D
