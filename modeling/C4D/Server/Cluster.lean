import C4D.Server.Session
import Mathlib.Data.String.Basic

/-!
# The cluster manager

Start and restart of the program on the nodes, promotion of standby nodes,
removal of a node, and the reconfiguration of the cluster.

Node lists hold registry keys where the source holds pointers into the registry.
A promoted node gets the rank `len(activeNodes) + i` while the list it is
appended to grows, so the ranks of one batch climb by two. A node that did not
answer is looked up in the registry by its URL.
-/

set_option autoImplicit false

namespace C4D

open Foundations Guarded

/-! ## Critical sections and assignments -/

/-- `node.Rank = i` along a list of nodes. -/
def Registry.assignRanks : List String → Nat → Registry → Registry
  | [], _, nodes => nodes
  | id :: rest, i, nodes => assignRanks rest (i + 1) (nodes.setRank id i)

namespace Server

/-- `node.Status = status`, recorded in the history. -/
def setStatus (id : String) (status : Status) (s : Server) : Server :=
  { s with
    nodes := s.nodes.setStatus id status
    statusWrites := s.statusWrites ++
      (s.nodes.statusOf id).toList.map fun old => { nodeID := id, old, new := status } }

/-- The promotion of one standby node. -/
def promote (id : String) (rank : Int) (s : Server) : Server :=
  let s := s.setStatus id .active
  { s with nodes := s.nodes.setRank id rank }

/-- The counters after a batch of promotions. -/
def countPromoted (numToPromote : Int) (s : Server) : Server :=
  { s with
    activeNodes := s.activeNodes + numToPromote
    standbyNodes := s.standbyNodes - numToPromote }

/-- The command `notifyNodeOfConfig` posts to a node. -/
def restartCommand (setting : Setting) (s : Server) (id : String) : Command where
  nodeID := id
  nodeURL := s.nodes.urlOf id
  command := .restart
  rank := s.nodes.rankOf id
  worldSize := setting.config.activeNodes
  masterAddr := setting.getenv "MASTER_ADDR"
  masterPort := setting.getenv "MASTER_PORT"

/-- The command `sendStartCommand` posts to a node of a list. -/
def startCommand (s : Server) (nodes : List String) (id : String) : Command where
  nodeID := id
  nodeURL := s.nodes.urlOf id
  command := .start
  rank := s.nodes.rankOf id
  worldSize := nodes.length
  masterAddr := s.masterAddr
  masterPort := s.masterPort

/-- `notifyNodesInParallel` marks the node it finds under the URL of a node that did not answer. -/
def markFailed (s : Server) (nodeURL : String) : Server :=
  match s.nodes.statusOf nodeURL with
  | none => s
  | some oldStatus =>
      let s := s.setStatus nodeURL .failed
      if oldStatus = .active then
        { s with activeNodes := s.activeNodes - 1, failedNodes := s.failedNodes + 1 }
      else s

/-- The counters after a node of some status has left. -/
def countRemoved (status : Status) (s : Server) : Server :=
  match status with
  | .active => { s with activeNodes := s.activeNodes - 1 }
  | .standby => { s with standbyNodes := s.standbyNodes - 1 }
  | .failed => s

/-- A node and its health leave the registry. -/
def deleteNode (nodeID : String) (s : Server) : Server :=
  { s with nodes := AList.erase nodeID s.nodes, health := s.health.erase nodeID }

end Server

/-! ## Start -/

/-- `ClusterManager.startProgramOnNodes` -/
def startProgramOnNodes (answers : String → Bool) (nodes : List String) :
    Op (Except ClusterError Unit) := do
  update fun s => { s with rounds := s.rounds ++ [nodes.map (s.startCommand nodes)] }
  if nodes.all answers then
    return .ok ()
  else
    return .error (.startFailed (nodes.filter fun id => !answers id))

/-- `ClusterManager.checkAndStartProgram` -/
def checkAndStartProgram (setting : Setting) (round : Round) : Op (Except ClusterError Unit) :=
  withLock .clusterMu do
    let currentState ← current
    if currentState ≠ .initializing ∧ currentState ≠ .running then
      return .error (.cannotStart currentState)
    else
      let s ← read
      let activeNodes := s.nodes.listWith round.order .active
      let expectedActive := setting.config.expectedNodes - setting.config.standbyNodes
      if activeNodes.length < expectedActive then
        return .ok ()
      else
        let currentState ← current
        if currentState = .running then
          return .ok ()
        else
          let activeNodes := sortBy round.ties s.nodes.urlOf activeNodes
          update fun s => { s with nodes := s.nodes.assignRanks activeNodes 0 }
          match ← startProgramOnNodes round.answers activeNodes with
          | .error e => return .error (.programNotStarted e)
          | .ok () =>
              match ← transition .running with
              | .error e => return .error (.runningRefused e)
              | .ok () => return .ok ()

/-! ## Reconfiguration -/

/-- The promotion loop: the list of active nodes grows by every promoted node. -/
def promoteLoop (activeNodes : List String) : List String → Nat → Op (List String)
  | [], _ => return activeNodes
  | id :: rest, i => do
      critical .registryMu fun s => ((), s.promote id (activeNodes.length + i))
      promoteLoop (activeNodes ++ [id]) rest (i + 1)

/-- Promote standby nodes while active nodes are missing. -/
def promoteNeeded (setting : Setting) (activeNodes standbyNodes : List String) :
    Op (List String) := do
  let neededNodes := setting.config.activeNodes - activeNodes.length
  if 0 < neededNodes ∧ 0 < standbyNodes.length then
    let numToPromote := min neededNodes standbyNodes.length
    let activeNodes ← promoteLoop activeNodes (standbyNodes.take numToPromote.toNat) 0
    critical .metricsMu fun s => ((), s.countPromoted numToPromote)
    return activeNodes
  else
    return activeNodes

/-- `ClusterManager.notifyNodesInParallel` -/
def notifyNodesInParallel (setting : Setting) (answers : String → Bool) (nodes : List String) :
    Op (Except ClusterError Unit) := do
  update fun s => { s with nodes := s.nodes.assignRanks nodes 0 }
  update fun s => { s with rounds := s.rounds ++ [nodes.map (s.restartCommand setting)] }
  let s ← read
  let failedNodes := ((nodes.filter fun id => !answers id).map s.nodes.urlOf).dedup
  if 0 < failedNodes.length then
    lock .clusterMu
    update fun s => failedNodes.foldl Server.markFailed s
    unlock .clusterMu
    return .error (.notificationFailed failedNodes.length)
  else
    return .ok ()

/-- The attempts of `reconfigureCluster` that are left, from a given one on. -/
def reconfigureAttempts (setting : Setting) (rounds : Nat → Round) :
    Nat → Nat → Op (Except ClusterError Unit)
  | 0, _ => do
      let _ ← transition .failed
      return .error .reconfigurationFailed
  | left + 1, attempt => do
      let s ← withRLock .registryMu read
      let activeNodes := s.nodes.listWith (rounds attempt).order .active
      let standbyNodes := s.nodes.listWith (rounds attempt).order .standby
      let activeNodes ← promoteNeeded setting activeNodes standbyNodes
      if activeNodes.length < setting.config.activeNodes then
        let _ ← transition .failed
        return .error .insufficientNodes
      else
        let s ← read
        let activeNodes := sortBy (rounds attempt).ties s.nodes.rankOf activeNodes
        match ← notifyNodesInParallel setting (rounds attempt).answers activeNodes with
        | .error _ => reconfigureAttempts setting rounds left (attempt + 1)
        | .ok () =>
            let currentState ← current
            if currentState = .reconfiguring then
              let _ ← transition .running
              return .ok ()
            else
              return .ok ()

/-- `maxAttempts` of `reconfigureCluster`. -/
def maxAttempts : Nat := 3

/-- `ClusterManager.reconfigureCluster` -/
def reconfigureCluster (setting : Setting) (rounds : Nat → Round) :
    Op (Except ClusterError Unit) := do
  let currentState ← current
  if currentState ≠ .reconfiguring then
    match ← transition .reconfiguring with
    | .error e => return .error (.reconfiguringRefused e)
    | .ok () => reconfigureAttempts setting rounds maxAttempts 0
  else
    reconfigureAttempts setting rounds maxAttempts 0

/-- `ClusterManager.removeNode` -/
def removeNode (setting : Setting) (nodeID : String) (rounds : Nat → Round) :
    Op (Except ClusterError Unit) :=
  withLock .clusterMu do
    let s ← read
    match s.nodes.statusOf nodeID with
    | none => return .error (.nodeNotFound nodeID)
    | some status =>
        match ← transition .reconfiguring with
        | .error e => return .error (.reconfiguringRefused e)
        | .ok () =>
            update fun s => s.countRemoved status
            update fun s => s.deleteNode nodeID
            if status = .active then reconfigureCluster setting rounds else return .ok ()

end C4D
