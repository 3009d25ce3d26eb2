import C4D.Foundations.Invariant
import C4D.Server.Bookkeeping

/-!
# Readings of the data that operations leave alone

A heartbeat, a failure notification, a report of metrics and the time-outs of a health
tick write a few parts of the data each. A reading that these writes do not affect
(`Ignores`) is the same after such an operation, however it ends.
-/

set_option autoImplicit false

namespace C4D

open Foundations Guarded

/-- However the program ends, it leaves a reading of the data alone. -/
def Leaves {α β : Type} (f : Server → β) (op : Op α) : Prop :=
  ∀ b, Preserves (fun s : Server => f s = b) op

/-- A reading of the data that heartbeats, failures, metrics and time-outs do not affect. -/
structure Ignores {β : Type} (f : Server → β) : Prop where
  current (s : Server) (current : State) : f { s with current } = f s
  latencyMatrix (s : Server) (latencyMatrix : LatencyMatrix) : f { s with latencyMatrix } = f s
  spawned (s : Server) (spawned : Nat) : f { s with spawned } = f s
  heartbeat (s : Server) (nodeID : String) (now : Int) : f (s.heartbeat nodeID now).2 = f s
  failNode (s : Server) (nodeID : String) (oldStatus : Status) :
    f (s.failNode nodeID oldStatus) = f s
  recordFailure (s : Server) (req : FailureNotificationRequest) : f (s.recordFailure req).2 = f s
  handleNodeTimeout (s : Server) (nodeID : String) : f (s.handleNodeTimeout nodeID) = f s

namespace Leaves

variable {α β : Type} {f : Server → β} {op : Op α}

theorem preserves (leaves : Leaves f op) {I : β → Prop} : Preserves (fun s => I (f s)) op := by
  intro w holds
  exact (leaves (f w.data) w rfl).symm ▸ holds

theorem currentState (f : Server → β) : Leaves f C4D.current := fun _ =>
  .bind (.withRLock .read) fun _ => .pure _

variable (ignores : Ignores f)

include ignores

theorem transition (target : State) : Leaves f (transition target) := fun _ =>
  .withLock (.bind .read fun _ => .ite
    (fun _ => .ite (fun _ => .bind (.update fun s same => (ignores.current s _).trans same)
      fun _ => .halt _) fun _ => .pure _)
    fun _ => .ite (fun _ => .bind (.update fun s same => (ignores.current s _).trans same)
      fun _ => .pure _) fun _ => .pure _)

theorem sendHeartbeat (req : HeartbeatRequest) (now : Int) : Leaves f (sendHeartbeat req now) :=
  fun _ => .bind (.critical fun s same => (ignores.heartbeat s req.nodeId now).trans same)
    fun _ => .ite (fun _ => .pure _) fun _ => .pure _

theorem handleNodeFailure (nodeID : String) : Leaves f (handleNodeFailure nodeID) := by
  intro b
  refine .bind .lock fun _ => .bind .read fun s => ?_
  cases s.nodes.statusOf nodeID with
  | none => exact .unlock
  | some oldStatus =>
      refine .bind (transition ignores _ b) ?_
      intro result
      cases result with
      | error _ => exact .pure _
      | ok _ =>
          exact .bind (.update fun s same => (ignores.failNode s nodeID oldStatus).trans same)
            fun _ => .bind .unlock fun _ => .ite
              (fun _ => .update fun s same => (ignores.spawned s _).trans same) fun _ => .pure _

theorem notifyFailure (req : FailureNotificationRequest) : Leaves f (notifyFailure req) := fun b =>
  .bind (.withRLock .read) fun _ => .ite (fun _ => .pure _) fun _ =>
    .bind (handleNodeFailure ignores _ b) fun _ =>
      .bind (.critical fun s same => (ignores.recordFailure s req).trans same) fun _ => .pure _

theorem latencyLoop (latencies : RankLatencies) (ranks : List Int) :
    Leaves f (latencyLoop latencies ranks) := by
  intro b
  induction ranks with
  | nil => exact .pure _
  | cons remoteRank rest ih =>
      refine .bind (.bind .lock fun _ => .bind .read fun s => ?_) fun _ => ih
      split
      · exact .bind (.update fun s same => (ignores.latencyMatrix s _).trans same) fun _ => .unlock
      · exact .halt _

theorem sendMetrics (req : MetricsRequest) (order : Shuffle Int) :
    Leaves f (sendMetrics req order) := by
  intro b
  have processed : Preserves (fun s : Server => f s = b) (processMetrics req.metrics order) := by
    refine .withLock ?_
    split
    · exact .halt _
    · split
      · exact .pure _
      · exact latencyLoop ignores _ _ b
  refine .bind (currentState f b) fun _ => .ite (fun _ => .pure _) fun _ => .bind .read fun s => ?_
  cases s.nodes.statusOf req.nodeId with
  | none => exact .pure _
  | some status => exact .ite (fun _ => .bind processed fun _ => .pure _) fun _ => .pure _

theorem checkLoop (setting : Setting) (now : Int) (nodeIDs : List String) :
    Leaves f (checkLoop setting now nodeIDs) := by
  intro b
  induction nodeIDs with
  | nil => exact .pure _
  | cons nodeID rest ih =>
      refine .bind .read ?_
      intro s
      cases s.health.lookup nodeID with
      | none => exact ih
      | some health =>
          exact .ite (fun _ => .bind .runlock fun _ =>
            .bind (.critical fun s same => (ignores.handleNodeTimeout s nodeID).trans same)
              fun _ => .bind .rlock fun _ => ih) fun _ => ih

end Leaves

end C4D
