import C4D.Server.Cluster

/-!
# The health monitor

A health tick looks at every health entry under the read lock, releases the lock
around each time-out it handles, and then drops old sessions.

`handleNodeTimeout` writes the status of the node before it reads it to adjust
the counters, so the two branches on the old status are never taken.
-/

set_option autoImplicit false

namespace C4D

open Foundations Guarded

/-- The heartbeat of a node is older than a limit. -/
def NodeHealth.olderThan (health : NodeHealth) (limit now : Int) : Prop :=
  limit < now - health.lastHeartbeat

instance (health : NodeHealth) (limit now : Int) : Decidable (health.olderThan limit now) :=
  inferInstanceAs (Decidable (_ < _))

/-- The body of `HealthMonitor.handleNodeTimeout`. -/
def Server.handleNodeTimeout (nodeID : String) (s : Server) : Server :=
  if nodeID ∈ s.nodes then
    let s := s.setStatus nodeID .failed
    let s := { s with failedNodes := s.failedNodes + 1 }
    if s.nodes.statusOf nodeID = some .active then
      { s with activeNodes := s.activeNodes - 1 }
    else if s.nodes.statusOf nodeID = some .standby then
      { s with standbyNodes := s.standbyNodes - 1 }
    else s
  else s

/-- `HealthMonitor.handleNodeTimeout` -/
def handleNodeTimeout (nodeID : String) : Op Unit :=
  critical .registryMu fun s => ((), s.handleNodeTimeout nodeID)

/-- The loop of `checkNodesHealth`, entered and left with the read lock held. -/
def checkLoop (setting : Setting) (now : Int) : List String → Op Unit
  | [] => return ()
  | nodeID :: rest => do
      let s ← read
      match s.health.lookup nodeID with
      | some health =>
          if health.status ≠ .failed ∧ health.olderThan setting.config.heartbeatTimeout now then
            runlock .registryMu
            handleNodeTimeout nodeID
            rlock .registryMu
            checkLoop setting now rest
          else
            checkLoop setting now rest
      | none => checkLoop setting now rest

/-- `HealthMonitor.checkNodesHealth` -/
def checkNodesHealth (setting : Setting) (now : Int) (order : Shuffle String) : Op Unit := do
  rlock .registryMu
  let s ← read
  checkLoop setting now (order.apply s.health.keys)
  runlock .registryMu
  critical .sessionMu fun s => s.cleanupSessions (setting.config.heartbeatTimeout * 2) now

end C4D
