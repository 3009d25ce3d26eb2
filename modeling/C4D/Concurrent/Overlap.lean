import C4D.Concurrent.Registration
import C4D.Server.RankAssignment

/-!
# Reconfigurations that overlap

`reconfigureCluster` holds no lock for its whole duration. It reads the node
lists under the registry lock, promotes one node at a time under the same lock,
adjusts the counters under the metrics lock, sorts, assigns one rank after the
other and sends the notifications, and it checks and changes the lifecycle state
in between. `Reconfiguration.step` takes one of these steps, for a call whose
notifications are all answered with 200, so that its first attempt is its last.
The first step is the report of the failed node, which spawns the call.
-/

set_option autoImplicit false

namespace C4D

open Foundations Guarded

/-- The two calls. -/
inductive Call where
  | first
  | second
deriving DecidableEq, Repr

def Call.other : Call → Call
  | .first => .second
  | .second => .first

/-- What the environment decides in a step: the order in which the registry is visited, the order of
equal ranks, and the node that is notified next. -/
structure Choice where
  order : Shuffle String
  ties : Shuffle String
  next : String

namespace Reconfiguration

/-- Where a call stands: the step it takes next, with the node lists it holds. The list of promoted
nodes is kept for the record once they are counted. -/
inductive Point where
  | report
  | checkState
  | enter
  | refused
  | readLists
  | promote (activeNodes promoted left : List String)
  | count (activeNodes promoted : List String)
  | sort (activeNodes promoted : List String)
  | insufficient (activeNodes promoted : List String)
  | assign (activeNodes promoted : List String) (i : Nat)
  | notify (activeNodes promoted left : List String)
  | checkRunning (activeNodes promoted : List String)
  | resume (activeNodes promoted : List String)
  | returned (activeNodes promoted : List String)

/-- The point after the node lists are read. -/
def startPromotion (setting : Setting) (activeNodes standbyNodes : List String) : Point :=
  let neededNodes := setting.config.activeNodes - activeNodes.length
  if 0 < neededNodes ∧ 0 < standbyNodes.length then
    .promote activeNodes [] (standbyNodes.take (min neededNodes standbyNodes.length).toNat)
  else .sort activeNodes []

/-- One atomic step of a failure report and of the call it spawns. Nothing happens once the process
has ended. -/
def step (setting : Setting) (nodeID : String) (choice : Choice) (p : Point) (s : Server) :
    Option (Point × Server) :=
  if s.current = .failed then none
  else match p with
  | .report =>
      if s.current.reconfigurable ∧ s.nodes.statusOf nodeID = some .active then
        some (.checkState, s.failedOver nodeID .active)
      else none
  | .checkState =>
      if s.current ≠ .reconfiguring then some (.enter, s.scheduled)
      else some (.readLists, s.scheduled)
  | .enter =>
      if .reconfiguring ∈ validTransitions s.current then
        some (.readLists, { s with current := .reconfiguring })
      else some (.refused, s)
  | .refused => some (.refused, s.terminated)
  | .readLists =>
      some (startPromotion setting (s.nodes.listWith choice.order .active)
        (s.nodes.listWith choice.order .standby), s)
  | .promote activeNodes promoted [] => some (.count activeNodes promoted, s)
  | .promote activeNodes promoted (id :: rest) =>
      some (.promote (activeNodes ++ [id]) (promoted ++ [id]) rest,
        s.promote id (activeNodes.length + promoted.length))
  | .count activeNodes promoted =>
      some (.sort activeNodes promoted, s.countPromoted promoted.length)
  | .sort activeNodes promoted =>
      if activeNodes.length < setting.config.activeNodes then
        some (.insufficient activeNodes promoted, s)
      else some (.assign (sortBy choice.ties s.nodes.rankOf activeNodes) promoted 0, s)
  | .insufficient activeNodes promoted => some (.insufficient activeNodes promoted, s.terminated)
  | .assign activeNodes promoted i =>
      match activeNodes[i]? with
      | some id =>
          some (.assign activeNodes promoted (i + 1), { s with nodes := s.nodes.setRank id i })
      | none => some (.notify activeNodes promoted activeNodes, s)
  | .notify activeNodes promoted left =>
      if choice.next ∈ left then
        some (.notify activeNodes promoted (left.erase choice.next),
          { s with rounds := s.rounds ++ [[s.restartCommand setting choice.next]] })
      else if left = [] then some (.checkRunning activeNodes promoted, s)
      else none
  | .checkRunning activeNodes promoted =>
      if s.current = .reconfiguring then some (.resume activeNodes promoted, s)
      else some (.returned activeNodes promoted, { s with inFlight := s.inFlight - 1 })
  | .resume activeNodes promoted =>
      if .running ∈ validTransitions s.current then
        some (.returned activeNodes promoted,
          { s with current := .running, inFlight := s.inFlight - 1 })
      else some (.returned activeNodes promoted, { s with inFlight := s.inFlight - 1 })
  | .returned _ _ => none

/-- The interleavings of two reports of different nodes and the calls they spawn. -/
def overlap (setting : Setting) (reports : Call → String) (before : Server) :
    System (Threads Call Point Server) (Call × Choice) :=
  Threads.interleaving (fun s => s = before) .report fun i => step setting (reports i)

end Reconfiguration

end C4D
