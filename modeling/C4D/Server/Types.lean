import C4D.Foundations.Guarded
import C4D.Foundations.Ranking
import Mathlib.Data.Rat.Defs

/-!
# The data of the c4d server

The server keeps a registry of nodes with their health, the sessions of the
monitors, three counters of nodes, the lifecycle state, the captured master
address and the latency matrix. All of it is one record here (`Server`), guarded
by the six mutexes of the source (`Lock`).

The part of the configuration that no operation writes is a parameter
(`Setting`), together with the environment of the server process; `MasterAddr`
and `MasterPort`, which `Register` writes, belong to the state. `Deployment` is a
setting that `main` accepts.

A node status, a lifecycle state and a command name are strings or integer
constants in the source and inductive types here. Times are integers in
nanoseconds. The counters, `int32` in the source, are integers: they count
nodes of one registry.

Two fields record history and are read by no operation: the rounds of commands
sent to the nodes, and every assignment to the status of a node.
-/

set_option autoImplicit false

namespace C4D

open Foundations

/-! ## Nodes, health and sessions -/

/-- The status of a node: "active", "standby" or "failed". -/
inductive Status where
  | active
  | standby
  | failed
deriving DecidableEq, Repr

/-- The lifecycle state of the server. -/
inductive State where
  | initializing
  | running
  | reconfiguring
  | shuttingDown
  | failed
deriving DecidableEq, Repr

def State.toString : State → String
  | .initializing => "Initializing"
  | .running => "Running"
  | .reconfiguring => "Reconfiguring"
  | .shuttingDown => "ShuttingDown"
  | .failed => "Failed"

/-- A node of the registry. -/
structure NodeState where
  nodeURL : String
  status : Status
  rank : Int
deriving DecidableEq, Repr

/-- `registry.nodes`: the nodes by node id. -/
abbrev Registry := Table String NodeState

/-- What the server knows about the health of a node. -/
structure NodeHealth where
  lastHeartbeat : Int
  failureCount : Int := 0
  status : Status
  processID : Int := 0
  lastError : Option String := none
deriving DecidableEq, Repr

/-- The session of a monitor. -/
structure SessionState where
  nodeID : String
  nodeURL : String
  status : Status
  rank : Int
  lastSeen : Int
  reconnectCount : Int
  isConnected : Bool
deriving DecidableEq, Repr

/-! ## Settings -/

/-- The configuration values that stay fixed while the server runs. -/
structure ServerConfig where
  expectedNodes : Int
  standbyNodes : Int
  activeNodes : Int
  heartbeatTimeout : Int
deriving DecidableEq, Repr

/-- The number of counted nodes is the expected one. The counters are `int32`, and the expected
number, an `int`, is cut to 32 bits for the comparison. -/
def ServerConfig.expects (config : ServerConfig) (totalNodes : Int) : Prop :=
  Int32.ofInt totalNodes = Int32.ofInt config.expectedNodes

instance (config : ServerConfig) (totalNodes : Int) : Decidable (config.expects totalNodes) :=
  inferInstanceAs (Decidable (_ = _))

theorem ServerConfig.expects_of_eq {config : ServerConfig} {totalNodes : Int}
    (same : totalNodes = config.expectedNodes) : config.expects totalNodes := congrArg Int32.ofInt same

/-- The configuration and the environment of the server process. -/
structure Setting where
  config : ServerConfig
  getenv : String → String

/-- A setting that `main` starts the server with. -/
structure Deployment extends Setting where
  split : config.activeNodes = config.expectedNodes - config.standbyNodes
  positive : 0 < config.activeNodes

/-! ## Commands to the nodes -/

/-- The name of a command the server posts to a monitor. -/
inductive CommandName where
  | start
  | restart
deriving DecidableEq, Repr

/-- A command posted to the URL of a node, with its environment variables `RANK`, `WORLD_SIZE`,
`MASTER_ADDR` and `MASTER_PORT`. The registry key of the node is recorded with it. -/
structure Command where
  nodeID : String
  nodeURL : String
  command : CommandName
  rank : Int
  worldSize : Int
  masterAddr : String
  masterPort : String
deriving DecidableEq, Repr

/-- What the environment decides in one round of commands: the order in which the registry is
visited, the order of equal sort keys, and the nodes that answer with 200. -/
structure Round where
  order : Shuffle String
  ties : Shuffle String
  answers : String → Bool

/-- The round in which the listed nodes do not answer and nothing is reordered. -/
def Round.except (silent : List String) : Round where
  order := .inOrder
  ties := .inOrder
  answers id := decide (id ∉ silent)

/-- An assignment to the status of a node. -/
structure StatusWrite where
  nodeID : String
  old : Status
  new : Status
deriving DecidableEq, Repr

/-! ## The latency matrix -/

/-- The averaged latencies between ranks. -/
structure LatencyMatrix where
  data : List (List ℚ)
  size : Int
deriving DecidableEq

/-! ## Errors -/

/-- The errors the cluster manager and the state machine return. -/
inductive ClusterError where
  /-- "invalid state transition: %v -> %v" -/
  | invalidTransition (source target : State)
  /-- "failed to transition to reconfiguring state: %w" -/
  | reconfiguringRefused (cause : ClusterError)
  /-- "failed to transition server state: %w" -/
  | runningRefused (cause : ClusterError)
  /-- "insufficient nodes" -/
  | insufficientNodes
  /-- "reconfiguration failed" -/
  | reconfigurationFailed
  /-- "some nodes failed notification, marked %d nodes as failed" -/
  | notificationFailed (marked : Nat)
  /-- "node %s not found" -/
  | nodeNotFound (nodeID : String)
  /-- "cannot start programs: server in %s state" -/
  | cannotStart (current : State)
  /-- "failed to start program on all nodes: %v", with the nodes that failed -/
  | startFailed (nodes : List String)
  /-- "failed to start program: %w" -/
  | programNotStarted (cause : ClusterError)
deriving DecidableEq, Repr

/-- The gRPC status codes the handlers use. -/
inductive Code where
  | unavailable
  | resourceExhausted
  | internal
  | notFound
deriving DecidableEq, Repr

/-- An error answer of a handler. -/
structure GrpcError where
  code : Code
  message : String
deriving DecidableEq, Repr

/-! ## The server -/

/-- The mutexes of the server. -/
inductive Lock where
  | registryMu
  | stateMu
  | metricsMu
  | sessionMu
  | clusterMu
  | matrixMu
deriving DecidableEq, Repr

/-- The state of the server. -/
structure Server where
  /-- `state.current` -/
  current : State
  /-- `registry.nodes` -/
  nodes : Registry
  /-- `registry.health` -/
  health : Table String NodeHealth
  /-- `sessionManager.sessions` -/
  sessions : Table String SessionState
  /-- `metrics.metrics.activeNodes` -/
  activeNodes : Int
  /-- `metrics.metrics.standbyNodes` -/
  standbyNodes : Int
  /-- `metrics.metrics.failedNodes` -/
  failedNodes : Int
  /-- `metrics.latencyMatrix` -/
  latencyMatrix : LatencyMatrix
  /-- `config.MasterAddr` -/
  masterAddr : String
  /-- `config.MasterPort` -/
  masterPort : String
  /-- The goroutines running `reconfigureCluster` that were created and have not been scheduled. -/
  spawned : Nat
  /-- The goroutines running `reconfigureCluster` that were scheduled and have not ended. -/
  inFlight : Nat
  /-- History: the rounds of commands sent. -/
  rounds : List (List Command)
  /-- History: the assignments to a node status. -/
  statusWrites : List StatusWrite

/-- The server together with the state of its locks. -/
abbrev World := Shared Lock Server

/-- A piece of the server's code. -/
abbrev Op := Guarded Lock Server

/-- `NewLatencyMatrix`: a square of zeros. -/
def newLatencyMatrix (size : Int) : LatencyMatrix where
  data := List.replicate size.toNat (List.replicate size.toNat 0)
  size := size

/-- `NewC4DServer`: nothing is registered and nothing is running. -/
def Server.new (setting : Setting) : Server where
  current := .initializing
  nodes := ∅
  health := ∅
  sessions := ∅
  activeNodes := 0
  standbyNodes := 0
  failedNodes := 0
  latencyMatrix := newLatencyMatrix setting.config.activeNodes
  masterAddr := ""
  masterPort := ""
  spawned := 0
  inFlight := 0
  rounds := []
  statusWrites := []

/-- A setting with three active nodes and one standby node. -/
def smallSetting : Setting where
  config := { expectedNodes := 4, standbyNodes := 1, activeNodes := 3, heartbeatTimeout := 5 }
  getenv _ := ""

def smallDeployment : Deployment := { smallSetting with split := rfl, positive := by decide }

/-- The fresh server with every lock free. -/
def World.new (setting : Setting) : World where
  data := Server.new setting
  locks := fun _ => .free

end C4D
