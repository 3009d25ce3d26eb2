import C4D.Foundations.Json
import C4D.Foundations.Threads

/-!
# The task distributor

The distributor keeps the tasks, the task of each node and the status of each node in three
dictionaries. Each method changes them under one lock. A request calls one method, except
that a request for a new task calls five sections in turn: it takes a number, enters the
task, chooses a node, assigns the task to it and marks it as running. The requests of any
number of clients interleave between the sections.

A request whose body is no JSON object with the keys of its endpoint, or whose task id is no
number, is refused before it calls a method. A method that looks up a missing key raises
before it has changed anything (`none`), and the request is answered 500. `get_node_for_task` calls `get_available_node` while it holds
the lock, which cannot be taken twice; here the choice is made. The failure rates
only weight it, so any available node may be chosen. Ids are strings, and an empty one
counts as none where the source tests it.
-/

set_option autoImplicit false

namespace C4D

open Foundations

/-! ## Data -/

inductive TaskStatus where
  | pending
  | running
  | failed
deriving DecidableEq, Repr

inductive NodeAvailability where
  | available
  | busy
deriving DecidableEq, Repr

structure Task where
  data : Json
  status : TaskStatus
  nodeId : Option String

structure TaskDistributor where
  tasks : Table Nat Task
  nodeAssignments : Table String (Option Nat)
  nodeStatus : Table String NodeAvailability
  taskCounter : Nat

namespace TaskDistributor

/-! ## Methods -/

/-- `__init__` -/
def new : TaskDistributor where
  tasks := ∅
  nodeAssignments := ∅
  nodeStatus := ∅
  taskCounter := 0

/-- `get_next_task_id` -/
def getNextTaskId (d : TaskDistributor) : Nat × TaskDistributor :=
  (d.taskCounter + 1, { d with taskCounter := d.taskCounter + 1 })

/-- `register_node`; the URL is only printed. -/
def registerNode (nodeId _nodeUrl : String) (d : TaskDistributor) : TaskDistributor :=
  { d with
    nodeAssignments := d.nodeAssignments.insert nodeId none
    nodeStatus := d.nodeStatus.insert nodeId .available }

/-- The task of a node that is unregistered, if any, has failed. -/
def failTask (assignment : Option Nat) (d : TaskDistributor) : Option TaskDistributor :=
  match assignment with
  | some taskId =>
      if taskId = 0 then some d
      else if taskId ∈ d.tasks then
        some { d with
          tasks := Table.modify taskId (fun task => { task with status := .failed, nodeId := none })
            d.tasks }
      else none
  | none => some d

/-- `unregister_node` -/
def unregisterNode (nodeId : String) (d : TaskDistributor) : Option TaskDistributor := do
  let d ← match d.nodeAssignments.lookup nodeId with
    | some assignment =>
        (d.failTask assignment).map fun d =>
          { d with nodeAssignments := d.nodeAssignments.erase nodeId }
    | none => some d
  return { d with nodeStatus := d.nodeStatus.erase nodeId }

/-- `get_available_node`: the node picked among the available ones. -/
def getAvailableNode (pick : Nat) (d : TaskDistributor) : Option String :=
  let availableNodes := d.nodeStatus.keys.filter fun nodeId =>
    d.nodeStatus.lookup nodeId = some .available
  availableNodes[pick % availableNodes.length]?

/-- `assign_task_to_node` -/
def assignTaskToNode (taskId : Nat) (nodeId : String) (d : TaskDistributor) :
    Option TaskDistributor :=
  if taskId ∈ d.tasks then
    some { d with
      tasks := Table.modify taskId (fun task => { task with nodeId := some nodeId }) d.tasks
      nodeAssignments := d.nodeAssignments.insert nodeId (some taskId)
      nodeStatus := d.nodeStatus.insert nodeId .busy }
  else none

/-- The end of `create_task`, after it has taken a number. -/
def createTask (taskId : Nat) (taskData : Json) (d : TaskDistributor) : TaskDistributor :=
  { d with tasks := d.tasks.insert taskId ⟨taskData, .pending, none⟩ }

/-- `get_task_status` -/
def getTaskStatus (taskId : Nat) (d : TaskDistributor) : Option TaskStatus :=
  (d.tasks.lookup taskId).map Task.status

/-- `update_task_status` -/
def updateTaskStatus (taskId : Nat) (status : TaskStatus) (d : TaskDistributor) :
    TaskDistributor :=
  { d with tasks := Table.modify taskId (fun task => { task with status }) d.tasks }

/-- `get_node_for_task` -/
def getNodeForTask (pick taskId : Nat) (d : TaskDistributor) : Option String :=
  match d.tasks.lookup taskId with
  | none => none
  | some task =>
      match task.nodeId with
      | some previousNodeId =>
          if previousNodeId ≠ "" ∧ d.nodeStatus.lookup previousNodeId = some .available then
            some previousNodeId
          else d.getAvailableNode pick
      | none => d.getAvailableNode pick

end TaskDistributor

/-! ## Requests -/

/-- Why a request is answered before it calls a method. -/
inductive Rejection where
  /-- 415: the body is not declared to be JSON. -/
  | unsupportedMediaType
  /-- 400: the body cannot be parsed. -/
  | badRequest
  /-- 500: a key of the body is missing, or the task id is no number. -/
  | internalServerError
deriving DecidableEq, Repr

/-- The body of a `POST`. -/
inductive Body where
  | undeclared
  | unparsable
  | json (data : Json)

/-- `request.get_json()` -/
def Body.getJson : Body → Except Rejection Json
  | .undeclared => .error .unsupportedMediaType
  | .unparsable => .error .badRequest
  | .json data => .ok data

/-- `data[key]`; of a key that is repeated in the text, the parser keeps the last value. -/
def dataItem (key : String) : Json → Option Json
  | .obj fields => (fields.reverse.find? fun field => field.1 = key).map Prod.snd
  | _ => none

/-- What a client asks for. The task id in the path of a status request is given as what `int` makes
of it. -/
inductive TaskRequest where
  | registerNode (body : Body)
  | unregisterNode (nodeId : String)
  | createTask (body : Body)
  | getTaskStatus (taskId : Option Int)

/-- What a request is answered. -/
inductive TaskReply where
  /-- The request has called no method. -/
  | refused (rejection : Rejection)
  /-- 200 "Node registered" -/
  | registered (nodeId : String)
  /-- 200 "Node {node_id} unregistered" -/
  | unregistered (nodeId : String)
  /-- 200 "Task created and assigned" -/
  | assigned (taskId : Nat) (nodeId : String)
  /-- 503 "Task created but no node available" -/
  | unassigned (taskId : Nat)
  | status (taskId : Nat) (status : TaskStatus)
  /-- 404 "Task not found" -/
  | notFound
  /-- 500: a method has raised. -/
  | raised

/-- The section a request calls next. -/
inductive Endpoint where
  | idle
  | registerNode (nodeId nodeUrl : String)
  | unregisterNode (nodeId : String)
  | getNextTaskId (taskData : Json)
  | createTask (taskId : Nat) (taskData : Json)
  | getNodeForTask (taskId : Nat)
  | assignTaskToNode (taskId : Nat) (nodeId : String)
  | updateTaskStatus (taskId : Nat) (nodeId : String)
  | getTaskStatus (taskId : Nat)
  | returned (reply : TaskReply)

/-- `register_node_endpoint`, up to its method. A node id or URL that is no string is left out. -/
def registerNodeEndpoint (data : Json) : Option Endpoint :=
  match dataItem "node_id" data, dataItem "node_url" data with
  | some (.str nodeId), some (.str nodeUrl) => some (.registerNode nodeId nodeUrl)
  | some _, some _ => none
  | _, _ => some (.returned (.refused .internalServerError))

/-- The first section of a request, or the answer to one that is refused. -/
def TaskRequest.entry : TaskRequest → Option Endpoint
  | .registerNode body =>
      match body.getJson with
      | .error rejection => some (.returned (.refused rejection))
      | .ok data => registerNodeEndpoint data
  | .unregisterNode nodeId => some (.unregisterNode nodeId)
  | .createTask body =>
      match body.getJson with
      | .error rejection => some (.returned (.refused rejection))
      | .ok taskData => some (.getNextTaskId taskData)
  | .getTaskStatus none => some (.returned (.refused .internalServerError))
  -- Tasks are numbered from 1, so a negative number finds as little as 0.
  | .getTaskStatus (some taskId) => some (.getTaskStatus taskId.toNat)

/-- A well-formed registration. -/
def TaskRequest.registration (nodeId nodeUrl : String) : TaskRequest :=
  .registerNode (.json (.obj [("node_id", .str nodeId), ("node_url", .str nodeUrl)]))

/-- Where a request enters the server. -/
inductive Endpoint.Opening : Endpoint → Prop where
  | refused (rejection : Rejection) : Opening (.returned (.refused rejection))
  | registerNode (nodeId nodeUrl : String) : Opening (.registerNode nodeId nodeUrl)
  | unregisterNode (nodeId : String) : Opening (.unregisterNode nodeId)
  | getNextTaskId (taskData : Json) : Opening (.getNextTaskId taskData)
  | getTaskStatus (taskId : Nat) : Opening (.getTaskStatus taskId)

theorem registerNodeEndpoint_opening {data : Json} {p : Endpoint}
    (enters : registerNodeEndpoint data = some p) : p.Opening := by
  unfold registerNodeEndpoint at enters
  split at enters <;> cases enters
  · exact .registerNode _ _
  · exact .refused _

theorem TaskRequest.opening_of_entry {request : TaskRequest} {p : Endpoint}
    (enters : request.entry = some p) : p.Opening := by
  cases request with
  | registerNode body =>
      rw [entry] at enters
      split at enters
      · cases enters
        exact .refused _
      · exact registerNodeEndpoint_opening enters
  | unregisterNode nodeId =>
      cases enters
      exact .unregisterNode nodeId
  | createTask body =>
      rw [entry] at enters
      split at enters <;> cases enters
      · exact .refused _
      · exact .getNextTaskId _
  | getTaskStatus taskId =>
      cases taskId <;> cases enters
      · exact .refused _
      · exact .getTaskStatus _

namespace Endpoint

/-- The next section of a request, where `pick` picks among the available nodes. -/
def call (pick : Nat) (d : TaskDistributor) : Endpoint → Option (Endpoint × TaskDistributor)
  | .idle => none
  | .registerNode nodeId nodeUrl =>
      some (.returned (.registered nodeId), d.registerNode nodeId nodeUrl)
  | .unregisterNode nodeId =>
      match d.unregisterNode nodeId with
      | none => some (.returned .raised, d)
      | some d => some (.returned (.unregistered nodeId), d)
  | .getNextTaskId taskData =>
      let r := d.getNextTaskId
      some (.createTask r.1 taskData, r.2)
  | .createTask taskId taskData => some (.getNodeForTask taskId, d.createTask taskId taskData)
  | .getNodeForTask taskId =>
      match d.getNodeForTask pick taskId with
      | some nodeId =>
          if nodeId = "" then some (.returned (.unassigned taskId), d)
          else some (.assignTaskToNode taskId nodeId, d)
      | none => some (.returned (.unassigned taskId), d)
  | .assignTaskToNode taskId nodeId =>
      match d.assignTaskToNode taskId nodeId with
      | none => some (.returned .raised, d)
      | some d => some (.updateTaskStatus taskId nodeId, d)
  | .updateTaskStatus taskId nodeId =>
      some (.returned (.assigned taskId nodeId), d.updateTaskStatus taskId .running)
  | .getTaskStatus taskId =>
      match d.getTaskStatus taskId with
      | none => some (.returned .notFound, d)
      | some status => some (.returned (.status taskId status), d)
  | .returned _ => none

end Endpoint

/-- What a client's thread does next. -/
inductive EndpointMove where
  | receive (request : TaskRequest)
  | call (pick : Nat)

/-- A step of a thread. It receives a request when it has none, or the last one has returned. -/
def Endpoint.step (move : EndpointMove) (p : Endpoint) (d : TaskDistributor) :
    Option (Endpoint × TaskDistributor) :=
  match move, p with
  | .receive request, .idle => request.entry.map fun p => (p, d)
  | .receive request, .returned _ => request.entry.map fun p => (p, d)
  | .receive _, _ => none
  | .call pick, p => p.call pick d

/-- The threads of the distributor, any number of them. -/
abbrev DistributorThreads := Threads Nat Endpoint TaskDistributor

/-- All interleavings of requests to a fresh distributor. -/
def distributor : System DistributorThreads (Nat × EndpointMove) :=
  Threads.interleaving (fun d => d = .new) .idle fun _ => Endpoint.step

end C4D
