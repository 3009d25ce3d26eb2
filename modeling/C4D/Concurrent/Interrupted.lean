import C4D.Server.Charges

/-!
# A reconfiguration beside failures

`reconfigureCluster` collects the standby nodes under one lock section and promotes
them under later ones, through pointers to the nodes. In between a node may be
reported, time out, or leave the registry. `step` takes one step of the call at a
time, with all its attempts, and an `Event` is one lock section of a failure path.
Events come in any order, so every interleaving of the call with any number of
reports, health ticks and cleanups is a run of `interrupted`.

A pointer outlives the registry entry it was taken from. So the nodes that have left
the registry are kept beside the server, and a list may go on to refer to them.
-/

set_option autoImplicit false

namespace C4D

open Foundations

namespace Interrupted

/-! ## Nodes behind pointers -/

/-- A node whose status is set to active by the call, with the status the registry had for it. -/
structure Activation where
  nodeID : String
  found : Option Status
deriving DecidableEq

/-- A success, with the nodes it is declared with and the assignments to statuses since the lists
were read. -/
structure Declaration where
  activeNodes : List String
  writes : List StatusWrite

/-- The server, the nodes that have left its registry, and a record of what the call did. -/
structure Heap where
  server : Server
  departed : Registry
  activations : List Activation
  declarations : List Declaration

/-- The data when the call begins. -/
def Heap.new (before : Server) : Heap := ⟨before, ∅, [], []⟩

namespace Heap

variable (setting : Setting) (h : Heap) (id : String)

/-- The call changes the server. -/
def update (f : Server → Server) : Heap := { h with server := f h.server }

/-- The call assigns to a node, wherever the node is. -/
def assign (here : Server → Server) (gone : Registry → Registry) : Heap :=
  if id ∈ h.server.nodes then h.update here else { h with departed := gone h.departed }

/-- `node.Status = "active"; node.Rank = rank` -/
def promote (rank : Int) : Heap :=
  { h.assign id (Server.promote id rank)
      (fun nodes => (nodes.setStatus id .active).setRank id rank) with
    activations := h.activations ++ [⟨id, h.server.nodes.statusOf id⟩] }

/-- `node.Rank = rank` -/
def setRank (rank : Int) : Heap :=
  h.assign id (fun s => { s with nodes := s.nodes.setRank id rank })
    (fun nodes => nodes.setRank id rank)

/-- `node.Rank` -/
def rankOf : Int := if id ∈ h.server.nodes then h.server.nodes.rankOf id else h.departed.rankOf id

/-- `node.NodeURL` -/
def urlOf : String := if id ∈ h.server.nodes then h.server.nodes.urlOf id else h.departed.urlOf id

/-- The command `notifyNodeOfConfig` posts to a node, wherever the node is. -/
def restartCommand : Command :=
  { h.server.restartCommand setting id with nodeURL := h.urlOf id, rank := h.rankOf id }

/-- The call declares success with the nodes it holds. -/
def declare (activeNodes : List String) (since : Nat) : Heap :=
  { h with declarations := h.declarations ++ [⟨activeNodes, h.server.statusWrites.drop since⟩] }

variable {setting h id} {here : Server → Server} {gone : Registry → Registry} {rank : Int}

theorem record_assign : (h.assign id here gone).activations = h.activations ∧
    (h.assign id here gone).declarations = h.declarations := by
  unfold assign
  split <;> exact ⟨rfl, rfl⟩

theorem server_assign_of_mem (registered : id ∈ h.server.nodes) :
    (h.assign id here gone).server = here h.server := by
  rw [assign, if_pos registered]
  rfl

theorem history_setRank : (h.setRank id rank).server.statusWrites = h.server.statusWrites := by
  unfold setRank assign
  split <;> rfl

end Heap

/-! ## The call -/

/-- What an attempt holds: its number, the length of the history when it read the lists, and the
list of active nodes. -/
structure Held where
  attempt : Nat
  since : Nat
  activeNodes : List String

def Held.add (held : Held) (id : String) : Held :=
  { held with activeNodes := held.activeNodes ++ [id] }

/-- Where the call stands: the step it takes next, with the lists it holds. -/
inductive Point where
  | checkState
  | enter
  | refused
  | readLists (attempt : Nat)
  | promote (held : Held) (promoted : Nat) (left : List String)
  | count (held : Held) (promoted : Nat)
  | sort (held : Held)
  | insufficient
  | assign (held : Held) (i : Nat)
  | notify (held : Held) (left failedNodes : List String) (sent : List Command)
  | mark (attempt : Nat) (left : List String)
  | exhausted
  | checkRunning
  | resume
  | returned

section Step

variable (setting : Setting) (rounds : Nat → Round)

/-- The point after the node lists are read. -/
def startPromotion (held : Held) (standbyNodes : List String) : Point :=
  let neededNodes := setting.config.activeNodes - held.activeNodes.length
  if 0 < neededNodes ∧ 0 < standbyNodes.length then
    .promote held 0 (standbyNodes.take (min neededNodes standbyNodes.length).toNat)
  else .sort held

/-- The point before an attempt, unless the attempts are used up. -/
def retry (attempt : Nat) : Point :=
  if attempt < maxAttempts then .readLists attempt else .exhausted

/-- One step of `reconfigureCluster`. A loop over a set of nodes goes on with the node `next`. -/
def step (next : String) (p : Point) (h : Heap) : Option (Point × Heap) :=
  if h.server.current = .failed then none
  else match p with
  | .checkState =>
      if h.server.current ≠ .reconfiguring then some (.enter, h) else some (.readLists 0, h)
  | .enter =>
      if .reconfiguring ∈ validTransitions h.server.current then
        some (.readLists 0, h.update fun s => { s with current := .reconfiguring })
      else some (.refused, h)
  | .refused => none
  | .readLists attempt =>
      let activeNodes := h.server.nodes.listWith (rounds attempt).order .active
      let standbyNodes := h.server.nodes.listWith (rounds attempt).order .standby
      let held : Held := ⟨attempt, h.server.statusWrites.length, activeNodes⟩
      some (startPromotion setting held standbyNodes, h)
  | .promote held promoted [] => some (.count held promoted, h)
  | .promote held promoted (id :: rest) =>
      some (.promote (held.add id) (promoted + 1) rest,
        h.promote id (held.activeNodes.length + promoted))
  | .count held promoted => some (.sort held, h.update fun s => s.countPromoted promoted)
  | .sort held =>
      if held.activeNodes.length < setting.config.activeNodes then some (.insufficient, h)
      else
        let activeNodes := sortBy (rounds held.attempt).ties h.rankOf held.activeNodes
        some (.assign { held with activeNodes } 0, h)
  | .insufficient => some (.insufficient, h.update Server.terminated)
  | .assign held i =>
      match held.activeNodes[i]? with
      | some id => some (.assign held (i + 1), h.setRank id i)
      | none => some (.notify held held.activeNodes [] [], h)
  | .notify held left failedNodes sent =>
      if next ∈ left then
        let failedNodes := if (rounds held.attempt).answers next then failedNodes
          else failedNodes.insert (h.urlOf next)
        let sent := sent ++ [h.restartCommand setting next]
        some (.notify held (left.erase next) failedNodes sent, h)
      else if left = [] then
        let h := h.update fun s => { s with rounds := s.rounds ++ [sent] }
        if failedNodes = [] then some (.checkRunning, h.declare held.activeNodes held.since)
        else some (.mark held.attempt failedNodes, h)
      else none
  | .mark attempt left =>
      if next ∈ left then
        some (.mark attempt (left.erase next), h.update fun s => s.markFailed next)
      else if left = [] then
        some (retry (attempt + 1), h)
      else none
  | .exhausted => some (.exhausted, h.update Server.terminated)
  | .checkRunning =>
      if h.server.current = .reconfiguring then some (.resume, h) else some (.returned, h)
  | .resume =>
      if .running ∈ validTransitions h.server.current then
        some (.returned, h.update fun s => { s with current := .running })
      else some (.returned, h)
  | .returned => none

end Step

/-! ## The failure paths -/

/-- One lock section of `NotifyFailure`, of a health tick or of a cleanup, whatever was checked
before it. -/
inductive Event where
  | handleNodeFailure (nodeID : String)
  | recordFailure (req : FailureNotificationRequest)
  | handleNodeTimeout (nodeID : String)
  | cleanupSessions (now : Int)
  | cleanupDeadConnections (now : Int) (order : Shuffle String)

/-- What `handleNodeFailure` does to the server. A report that is refused, or is about an unknown
node, changes nothing. -/
def reportFailure (nodeID : String) (s : Server) : Server :=
  match s.nodes.statusOf nodeID with
  | some oldStatus => if s.current.reconfigurable then s.failedOver nodeID oldStatus else s
  | none => s

/-- The registry entries that a cleanup deletes stay behind. -/
def Event.run (setting : Setting) : Event → Heap → Heap
  | .handleNodeFailure nodeID, h => h.update (reportFailure nodeID)
  | .recordFailure req, h => h.update fun s => (s.recordFailure req).2
  | .handleNodeTimeout nodeID, h => h.update (Server.handleNodeTimeout nodeID)
  | .cleanupSessions now, h =>
      h.update fun s => (s.cleanupSessions (setting.config.heartbeatTimeout * 2) now).2
  | .cleanupDeadConnections now order, h =>
      { h.update fun s => s.cleanedUp now setting order with
        departed := h.server.nodes ∪ h.departed }

/-! ## Interleavings -/

/-- Who takes the next step. -/
inductive Turn where
  | call (next : String)
  | event (e : Event)

/-- The call at a point, with the data. -/
structure Scene where
  point : Point
  heap : Heap

/-- The interleavings of a call with events. Nothing happens once the process has ended. -/
def interrupted (setting : Setting) (rounds : Nat → Round) (before : Server) :
    System Scene Turn where
  init c := c = ⟨.checkState, .new before⟩
  next c
    | .call next => (step setting rounds next c.point c.heap).map fun r => ⟨r.1, r.2⟩
    | .event e =>
        if c.heap.server.current = .failed then none
        else some { c with heap := e.run setting c.heap }

end Interrupted

end C4D
