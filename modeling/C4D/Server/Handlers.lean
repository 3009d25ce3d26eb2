import C4D.Server.Health

/-!
# The gRPC handlers and the cleanup loop

The requests hold the fields the handlers read. A protobuf message that may be
absent is optional, and the order in which a map of latencies is visited is an
argument.
-/

set_option autoImplicit false

namespace C4D

open Foundations Guarded

/-! ## Requests -/

structure RegisterRequest where
  nodeId : String
  nodeUrl : String
  masterAddr : String
  masterPort : String
deriving DecidableEq, Repr

structure RegisterResponse where
  message : String
  nodeId : String
deriving DecidableEq, Repr

structure HeartbeatRequest where
  nodeId : String
deriving DecidableEq, Repr

structure FailureNotificationRequest where
  nodeId : String
  errorMessage : String
  processId : Int
  failureType : String
deriving DecidableEq, Repr

structure RankLatencies where
  rank : Int
  avgLatencies : Table Int ℚ

structure Metrics where
  rankLatencies : Option RankLatencies

structure MetricsRequest where
  nodeId : String
  metrics : Option Metrics

/-! ## Register -/

namespace Server

/-- `Register` keeps the first nonempty master address it is sent. -/
def captureMaster (req : RegisterRequest) (s : Server) : Server :=
  if s.masterAddr = "" then
    { s with masterAddr := req.masterAddr, masterPort := req.masterPort }
  else s

/-- The admission of a node by the counters, under the metrics lock. -/
def admitNode (setting : Setting) (s : Server) : Except GrpcError (Status × Int) × Server :=
  if s.activeNodes < setting.config.activeNodes then
    (.ok (.active, s.activeNodes), { s with activeNodes := s.activeNodes + 1 })
  else if s.standbyNodes < setting.config.standbyNodes then
    (.ok (.standby, -1), { s with standbyNodes := s.standbyNodes + 1 })
  else
    (.error ⟨.resourceExhausted, "maximum nodes reached (active: " ++ toString s.activeNodes ++
      ", standby: " ++ toString s.standbyNodes ++ ")"⟩, s)

/-- A reconnected node gets a fresh health entry with its status. -/
def refreshHealth (nodeID : String) (status : Status) (now : Int) (s : Server) : Server :=
  { s with health := s.health.insert nodeID { lastHeartbeat := now, status } }

end Server

/-- The text of a status. -/
def Status.toString : Status → String
  | .active => "active"
  | .standby => "standby"
  | .failed => "failed"

def registeredResponse (req : RegisterRequest) (status : Status) (rank session : Int) :
    RegisterResponse where
  message := "Node registered as " ++ status.toString ++ " with rank " ++ toString rank ++
    " (session: " ++ toString session ++ ")"
  nodeId := req.nodeId

def reconnectedResponse (req : RegisterRequest) (rank reconnectCount : Int) :
    RegisterResponse where
  message := "Node reconnected with existing rank " ++ toString rank ++
    " (reconnect count: " ++ toString reconnectCount ++ ")"
  nodeId := req.nodeId

/-- The update of the session of a node that reconnects. -/
def reconnectSession (req : RegisterRequest) (now : Int) (node : NodeState)
    (session : SessionState) : SessionState :=
  { session with
    nodeURL := req.nodeUrl
    lastSeen := now
    isConnected := true
    reconnectCount := session.reconnectCount + 1
    status := node.status
    rank := node.rank }

/-- The end of `Register`: the program is started when all expected nodes are counted. -/
def startWhenComplete (setting : Setting) (round : Round) (response : RegisterResponse)
    (totalNodes : Int) : Op (Except GrpcError RegisterResponse) := do
  let currentState ← current
  if setting.config.expects totalNodes ∧ currentState = .initializing then
    match ← checkAndStartProgram setting round with
    | .error _ => return .error ⟨.internal, "failed to start programs"⟩
    | .ok () => return .ok response
  else
    return .ok response

/-- `Register` for a node without a live registration. -/
def registerNew (setting : Setting) (req : RegisterRequest) (now : Int) (round : Round) :
    Op (Except GrpcError RegisterResponse) := do
  match ← critical .metricsMu (Server.admitNode setting) with
  | .error e => return .error e
  | .ok (nodeStatus, nodeRank) =>
      let newSession ← critical .sessionMu
        (Server.registerSession req.nodeId req.nodeUrl nodeStatus nodeRank now)
      critical .registryMu (Server.registerNode req.nodeId req.nodeUrl nodeStatus nodeRank now)
      let s ← read
      startWhenComplete setting round
        (registeredResponse req nodeStatus nodeRank newSession.reconnectCount)
        (s.activeNodes + s.standbyNodes)

/-- `Register` for a node that has a session. -/
def registerKnown (setting : Setting) (req : RegisterRequest) (now : Int) (round : Round)
    (existingSession : SessionState) : Op (Except GrpcError RegisterResponse) := do
  lock .registryMu
  let s ← read
  match s.nodes.lookup req.nodeId with
  | some node =>
      let _ ← critical .sessionMu
        (Server.updateSession req.nodeId (reconnectSession req now node))
      update (Server.refreshHealth req.nodeId node.status now)
      unlock .registryMu
      return .ok (reconnectedResponse req node.rank (existingSession.reconnectCount + 1))
  | none =>
      unlock .registryMu
      registerNew setting req now round

/-- `Register` after the master address is captured. -/
def registerBySession (setting : Setting) (req : RegisterRequest) (now : Int) (round : Round) :
    Op (Except GrpcError RegisterResponse) := do
  match ← getSession req.nodeId with
  | some existingSession => registerKnown setting req now round existingSession
  | none => registerNew setting req now round

/-- `C4DServer.Register` -/
def register (setting : Setting) (req : RegisterRequest) (now : Int) (round : Round) :
    Op (Except GrpcError RegisterResponse) := do
  let currentState ← current
  if currentState = .failed then
    return .error ⟨.unavailable, "server in failed state"⟩
  else if currentState ≠ .initializing ∧ currentState ≠ .running then
    return .error ⟨.unavailable,
      "server not accepting registrations in " ++ currentState.toString ++ " state"⟩
  else
    update (Server.captureMaster req)
    registerBySession setting req now round

/-! ## Heartbeats and metrics -/

namespace Server

/-- The heartbeat of a node that has a health entry. -/
def heartbeat (nodeID : String) (now : Int) (s : Server) : Bool × Server :=
  let beat (health : NodeHealth) : NodeHealth := { health with lastHeartbeat := now }
  (decide (nodeID ∈ s.health), { s with health := Table.modify nodeID beat s.health })

end Server

/-- `C4DServer.SendHeartbeat` -/
def sendHeartbeat (req : HeartbeatRequest) (now : Int) : Op (Except GrpcError String) := do
  if ← critical .registryMu (Server.heartbeat req.nodeId now) then
    return .ok "Heartbeat acknowledged"
  else
    return .error ⟨.notFound, "node not found"⟩

namespace LatencyMatrix

/-- The body of `LatencyMatrix.UpdateLatency`; `none` stands for an index out of range. -/
def updateLatency (source target : Int) (latency : ℚ) (lm : LatencyMatrix) :
    Option LatencyMatrix :=
  if 0 ≤ source ∧ source < lm.size ∧ 0 ≤ target ∧ target < lm.size then
    match lm.data[source.toNat]? with
    | some row =>
        if target.toNat < row.length then
          some { lm with data := lm.data.set source.toNat (row.set target.toNat latency) }
        else none
    | none => none
  else some lm

end LatencyMatrix

/-- `LatencyMatrix.UpdateLatency` -/
def updateLatency (source target : Int) (latency : ℚ) : Op Unit := do
  lock .matrixMu
  let s ← read
  match s.latencyMatrix.updateLatency source target latency with
  | some latencyMatrix =>
      update fun s => { s with latencyMatrix }
      unlock .matrixMu
  | none => halt .panicked

/-- The loop of `ProcessMetrics` over the latencies of one rank. -/
def latencyLoop (latencies : RankLatencies) : List Int → Op Unit
  | [] => return ()
  | remoteRank :: rest => do
      updateLatency latencies.rank remoteRank ((latencies.avgLatencies.lookup remoteRank).getD 0)
      latencyLoop latencies rest

/-- `MetricsProcessor.ProcessMetrics`; its error result is always nil. -/
def processMetrics (metrics : Option Metrics) (order : Shuffle Int) : Op Unit :=
  withLock .metricsMu do
    match metrics with
    | none => halt .panicked
    | some metrics =>
        match metrics.rankLatencies with
        | none => return ()
        | some latencies => latencyLoop latencies (order.apply latencies.avgLatencies.keys)

/-- `C4DServer.SendMetrics` -/
def sendMetrics (req : MetricsRequest) (order : Shuffle Int) : Op (Except GrpcError String) := do
  let currentState ← current
  if currentState ≠ .running then
    return .error ⟨.unavailable, "server not accepting metrics"⟩
  else
    let s ← read
    match s.nodes.statusOf req.nodeId with
    | none => return .error ⟨.notFound, "node " ++ req.nodeId ++ " not found"⟩
    | some status =>
        if status = .active then
          processMetrics req.metrics order
          return .ok "Metrics processed successfully"
        else
          return .ok "Metrics processed successfully"

/-! ## Failures -/

namespace Server

/-- `handleNodeFailure` marks the node failed and adjusts the counters by its old status. -/
def failNode (nodeID : String) (oldStatus : Status) (s : Server) : Server :=
  let s := s.setStatus nodeID .failed
  match oldStatus with
  | .active => { s with activeNodes := s.activeNodes - 1, failedNodes := s.failedNodes + 1 }
  | .standby => { s with standbyNodes := s.standbyNodes - 1, failedNodes := s.failedNodes + 1 }
  | .failed => s

/-- `NotifyFailure` records the reported failure in the health entry. -/
def recordFailure (req : FailureNotificationRequest) (s : Server) : Unit × Server :=
  let record (health : NodeHealth) : NodeHealth :=
    { health with
      status := .failed
      lastError := some (req.failureType ++ ": " ++ req.errorMessage)
      processID := req.processId }
  ((), { s with health := Table.modify req.nodeId record s.health })

end Server

/-- `C4DServer.handleNodeFailure`. When the transition is refused it returns with the registry
lock held. -/
def handleNodeFailure (nodeID : String) : Op Unit := do
  lock .registryMu
  let s ← read
  match s.nodes.statusOf nodeID with
  | none => unlock .registryMu
  | some oldStatus =>
      match ← transition .reconfiguring with
      | .error _ => return ()
      | .ok () =>
          update (Server.failNode nodeID oldStatus)
          unlock .registryMu
          if oldStatus = .active then
            update fun s => { s with spawned := s.spawned + 1 }

/-- `C4DServer.NotifyFailure` -/
def notifyFailure (req : FailureNotificationRequest) : Op (Except GrpcError String) := do
  let s ← withRLock .registryMu read
  if s.nodes.statusOf req.nodeId = none ∨ s.nodes.statusOf req.nodeId = some .failed then
    return .ok "Node already marked as failed or not found"
  else
    handleNodeFailure req.nodeId
    critical .registryMu (Server.recordFailure req)
    return .ok "Failure notification processed"

/-- The goroutine `handleNodeFailure` spawns for an active node. -/
def spawnedReconfigure (setting : Setting) (rounds : Nat → Round) : Op Unit := do
  update fun s => { s with spawned := s.spawned - 1, inFlight := s.inFlight + 1 }
  match ← reconfigureCluster setting rounds with
  | .ok () => update fun s => { s with inFlight := s.inFlight - 1 }
  | .error _ =>
      let _ ← transition .failed
      update fun s => { s with inFlight := s.inFlight - 1 }

/-! ## Dead connections -/

namespace Server

/-- The nodes whose heartbeat is older than twice the time-out. -/
def deadConnections (setting : Setting) (now : Int) (order : Shuffle String) (s : Server) :
    List String :=
  (order.apply s.health.keys).filter fun nodeID => (s.health.lookup nodeID).any fun health =>
    health.olderThan (setting.config.heartbeatTimeout * 2) now

/-- A dead node leaves the counters and the registry. -/
def removeDead (s : Server) (nodeID : String) : Server :=
  match s.nodes.statusOf nodeID with
  | some status => (s.countRemoved status).deleteNode nodeID
  | none => s.deleteNode nodeID

end Server

/-- The loop of `cleanupDeadConnections` that disconnects the sessions of dead nodes. -/
def disconnectLoop (now : Int) : List String → Op Unit
  | [] => return ()
  | nodeID :: rest => do
      critical .sessionMu (Server.disconnectSession nodeID now)
      disconnectLoop now rest

/-- One iteration of `C4DServer.cleanupDeadConnections`. -/
def cleanupDeadConnections (setting : Setting) (now : Int) (order : Shuffle String) : Op Unit :=
  withLock .registryMu do
    let s ← read
    let nodesToRemove := s.deadConnections setting now order
    disconnectLoop now nodesToRemove
    update fun s => nodesToRemove.foldl Server.removeDead s

end C4D
