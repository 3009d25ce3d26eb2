import C4D.Failure.Framing
import C4D.Foundations.Performed

/-!
# The failure server among its clients and agents

Any number of clients send requests to the server, agents start and register with it in a loop, and
the server forwards to the agents. The handlers of both servers and the registration loop are
programs over the operations on the table of the server, on the agents and on the network.

A message that is posted may be lost, may be taken up without its sender learning of it, or may be
taken up after its sender has given up. Which host a URL leads to is a parameter `resolve`; what
leads to no agent may answer anything.
-/

set_option autoImplicit false

namespace C4D

open Foundations Program

/-! ## Requests -/

/-- The JSON record of an update and of a state. -/
structure AgentUpdateRequest where
  shouldBeRunning : Bool
  networkDelay : Int32
deriving DecidableEq

/-- A request of a client, with what the decoder makes of its body as either record. -/
structure FailureRequest where
  method : String
  path : String
  /-- `taskId` and `url` -/
  registration : Option (String × String)
  update : Option AgentUpdateRequest
deriving DecidableEq

/-- What the server answers. -/
inductive ServerReply where
  | plain (reply : FailureReply)
  | agents (taskIDs : List String)
  /-- 301 -/
  | redirect
deriving DecidableEq

/-- The patterns that are registered with `http.HandleFunc`, and the redirections of the multiplexer. -/
inductive Route where
  | redirect
  | register
  | agents
  | state (taskID : String)
  | update (taskID : String)
deriving DecidableEq

/-- What follows a prefix. -/
def afterPrefix (pattern path : String) : Option String :=
  if pattern.toList.isPrefixOf path.toList then
    some (String.ofList (path.toList.drop pattern.length))
  else none

/-- The path does not start with a slash, or has a segment `.` or `..` or an empty one before its end. -/
def Unclean (path : String) : Prop :=
  let segments := path.toList.splitOn '/'
  ¬ "/".toList.isPrefixOf path.toList ∨ ".".toList ∈ segments ∨ "..".toList ∈ segments ∨
    [] ∈ segments.tail.dropLast

/-- The paths that are redirected: those that are not clean, and a pattern without its last slash. -/
def Redirected (path : String) : Prop := Unclean path ∨ path = "/agent" ∨ path = "/agent/state"

instance (path : String) : Decidable (Unclean path) := by
  unfold Unclean
  infer_instance

instance (path : String) : Decidable (Redirected path) := by
  unfold Redirected
  infer_instance

/-- The longest pattern that matches a path is taken, unless the path is redirected. -/
def route (path : String) : Option Route :=
  if Redirected path then some .redirect
  else if path = "/register" then some .register
  else if path = "/agents" then some .agents
  else
    match afterPrefix "/agent/state/" path with
    | some taskID => some (.state taskID)
    | none => (afterPrefix "/agent/" path).map .update

/-! ## The network -/

/-- What is posted to another host. -/
inductive Message where
  | register (taskID url : String)
  | update (agentURL : String) (data : List UInt8)
deriving DecidableEq

/-- What becomes of a message that is posted. -/
inductive Passage where
  | lost
  /-- It is taken up after its sender has given up. -/
  | late
  | unanswered
  | answered
deriving DecidableEq

/-- A read of as much as fits, that finds the end of the stream in an empty body only. -/
def fullRead (data : List UInt8) : Read data 5 where
  count := min data.length 5
  ended := data.isEmpty
  fits := Nat.min_le_right _ _
  available := Nat.min_le_left _ _
  progress := fun nonempty _ => Nat.lt_min.mpr ⟨List.length_pos_iff.mpr nonempty, Nat.succ_pos 4⟩
  atEnd := fun ended => by
    rw [List.isEmpty_iff] at ended
    subst ended
    rfl
  noticed := fun empty => List.isEmpty_iff.mpr empty

/-- A body with the one read that is made of it. -/
structure Received where
  body : List UInt8
  read : Read body 5

/-- What the environment decides in an operation. -/
structure NetworkChoice where
  passage : Passage := .answered
  /-- The one read of each body. -/
  read : (body : List UInt8) → Read body 5 := fullRead
  /-- What is answered where there is no agent. -/
  status : Nat := 200
  body : List UInt8 := []
  order : Shuffle String := .inOrder

/-- The table of the server, the agents by their hosts, and the messages that are still on their way. -/
structure FailureNetwork where
  server : FailureServer
  agents : Table String AgentState
  late : List Message

namespace FailureNetwork

def empty : FailureNetwork := ⟨⟨∅⟩, ∅, []⟩

/-- `registerAgent` -/
def registerAgent (taskID url : String) (n : FailureNetwork) : FailureNetwork :=
  { n with server := ⟨n.server.agents.insert taskID url⟩ }

/-- An agent takes up its state. -/
def setAgent (host : String) (s : AgentState) (n : FailureNetwork) : FailureNetwork :=
  { n with agents := n.agents.insert host s }

/-- The status of a reply. -/
def status : FailureReply → Nat
  | .error code _ => code
  | .ok => 200
  | .state _ _ => 200

/-- A message is taken up where it leads to. -/
def takeUp (resolve : String → Option String) (choice : NetworkChoice) (n : FailureNetwork) :
    Message → Nat × FailureNetwork
  | .register taskID url => (200, n.registerAgent taskID url)
  | .update agentURL data =>
      match resolve (agentURL ++ "/update") with
      | none => (choice.status, n)
      | some host =>
          match n.agents.lookup host with
          | none => (choice.status, n)
          | some s =>
              let r := s.handleUpdate "POST" (choice.read data)
              (status r.1, n.setAgent host r.2)

/-- The answer to a request for a state. -/
def stateAt (resolve : String → Option String) (choice : NetworkChoice) (n : FailureNetwork)
    (agentURL : String) : Received :=
  match (resolve (agentURL ++ "/state")).bind n.agents.lookup with
  | some s => ⟨s.getStateBinary, choice.read _⟩
  | none => ⟨choice.body, choice.read _⟩

end FailureNetwork

/-! ## Operations -/

inductive FailureOp where
  /-- A request arrives. -/
  | receive (request : FailureRequest)
  | answer (request : FailureRequest) (reply : ServerReply)
  | registerAgent (taskID url : String)
  | getAgentURL (taskID : String)
  | listAgents
  | post (message : Message)
  | getState (agentURL : String)
  /-- A new agent process on a host. -/
  | startAgent (host : String)
  /-- A message on its way arrives. -/
  | arrive (index : Nat)

abbrev FailureOp.Answer : FailureOp → Type
  | .receive _ => Unit
  | .answer _ _ => Unit
  | .registerAgent _ _ => Unit
  | .getAgentURL _ => Option String
  | .listAgents => List String
  | .post _ => Option Nat
  | .getState _ => Option Received
  | .startAgent _ => Unit
  | .arrive _ => Unit

namespace FailureNetwork

variable (resolve : String → Option String)

/-- What the operations do. -/
def act : Interface FailureOp FailureOp.Answer FailureNetwork NetworkChoice
  | .receive _, _, n => ((), n)
  | .answer _ _, _, n => ((), n)
  | .registerAgent taskID url, _, n => ((), n.registerAgent taskID url)
  | .getAgentURL taskID, _, n => (n.server.agents.lookup taskID, n)
  | .listAgents, choice, n => (choice.order.apply n.server.agents.keys, n)
  | .post message, choice, n =>
      match choice.passage with
      | .lost => (none, n)
      | .late => (none, { n with late := n.late ++ [message] })
      | .unanswered => (none, (n.takeUp resolve choice message).2)
      | .answered => (some (n.takeUp resolve choice message).1, (n.takeUp resolve choice message).2)
  | .getState agentURL, choice, n =>
      match choice.passage with
      | .answered => (some (n.stateAt resolve choice agentURL), n)
      | .lost => (none, n)
      | .late => (none, n)
      | .unanswered => (none, n)
  | .startAgent host, _, n => ((), n.setAgent host .new)
  | .arrive index, choice, n =>
      match n.late[index]? with
      | none => ((), n)
      | some message => ((), { (n.takeUp resolve choice message).2 with late := n.late.eraseIdx index })

end FailureNetwork

abbrev FailureProgram := Program FailureOp FailureOp.Answer

/-- One operation on the network. -/
def FailureOp.call (q : FailureOp) : FailureProgram q.Answer := op q

/-! ## The handlers of the server -/

namespace FailureServer

/-- The handler of "/register". -/
def handleRegister (r : FailureRequest) : FailureProgram FailureReply :=
  if r.method ≠ "POST" then return .error 405 "Method not allowed"
  else
    match r.registration with
    | none => return .error 400 "Invalid request body"
    | some (taskID, url) => do
        let () ← FailureOp.call (.registerAgent taskID url)
        return .ok

/-- The handler of "/agents". -/
def handleAgents (r : FailureRequest) : FailureProgram ServerReply :=
  if r.method ≠ "GET" then return .plain (.error 405 "Method not allowed")
  else do
    let agents ← FailureOp.call .listAgents
    return .agents agents

/-- The handler of "/agent/". -/
def handleAgent (taskID : String) (r : FailureRequest) : FailureProgram FailureReply :=
  if r.method ≠ "POST" then return .error 405 "Method not allowed"
  else do
    match ← FailureOp.call (.getAgentURL taskID) with
    | none => return .error 404 "Agent not found"
    | some agentURL =>
        match r.update with
        | none => return .error 400 "Invalid request body"
        | some updateReq =>
            let data := forward updateReq.shouldBeRunning updateReq.networkDelay
            match ← FailureOp.call (.post (.update agentURL data)) with
            | none => return .error 500 "Failed to update agent"
            | some status =>
                if status ≠ 200 then return .error 500 "Agent update failed"
                else return .ok

/-- The handler of "/agent/state/". -/
def handleAgentState (taskID : String) (r : FailureRequest) : FailureProgram FailureReply :=
  if r.method ≠ "GET" then return .error 405 "Method not allowed"
  else do
    match ← FailureOp.call (.getAgentURL taskID) with
    | none => return .error 404 "Agent not found"
    | some agentURL =>
        match ← FailureOp.call (.getState agentURL) with
        | none => return .error 500 "Failed to get agent state"
        | some received =>
            if received.read.ended then return .error 500 "Failed to read agent state"
            else
              let data := received.read.buffer 0
              return .state (readRunning data) (readDelay data)

/-- The reply to a request. -/
def dispatch (r : FailureRequest) : FailureProgram ServerReply := do
  match route r.path with
  | some .redirect => return .redirect
  | some .register =>
      let reply ← handleRegister r
      return .plain reply
  | some .agents => handleAgents r
  | some (.state taskID) =>
      let reply ← handleAgentState taskID r
      return .plain reply
  | some (.update taskID) =>
      let reply ← handleAgent taskID r
      return .plain reply
  | none => return .plain (.error 404 "404 page not found")

def serve (r : FailureRequest) : FailureProgram Unit := do
  let () ← FailureOp.call (.receive r)
  let reply ← dispatch r
  FailureOp.call (.answer r reply)

end FailureServer

/-! ## The agent -/

/-- `registerWithServer`, for a number of attempts. -/
def registerWithServer (taskID url : String) : Nat → FailureProgram Unit
  | 0 => return ()
  | attempts + 1 => do
      match ← FailureOp.call (.post (.register taskID url)) with
      | some status =>
          if status = 200 then return () else registerWithServer taskID url attempts
      | none => registerWithServer taskID url attempts

/-- The URL an agent registers. -/
def agentURL (hostname : String) : String := "http://" ++ hostname ++ ":8082"

/-- `main` of the agent, up to its loop that registers. -/
def agentMain (taskID hostname : String) (attempts : Nat) : FailureProgram Unit :=
  if taskID = "" then return ()
  else do
    let () ← FailureOp.call (.startAgent hostname)
    registerWithServer taskID (agentURL hostname) attempts

/-! ## The system -/

/-- What a thread can do: serve a request, start an agent, or deliver a message on its way. -/
inductive FailureTask where
  | request (r : FailureRequest)
  | agent (taskID hostname : String) (attempts : Nat)
  | network (index : Nat)

def FailureTask.program : FailureTask → FailureProgram Unit
  | .request r => FailureServer.serve r
  | .agent taskID hostname attempts => agentMain taskID hostname attempts
  | .network index => FailureOp.call (.arrive index)

/-- All ways in which requests, agents and messages can interleave. -/
def failureSystem (resolve : String → Option String) :
    System (Threads Nat (FailureProgram Unit × Trace FailureOp FailureOp.Answer) FailureNetwork)
      (Nat × Move FailureTask NetworkChoice) :=
  recordedTasks (FailureNetwork.act resolve) FailureTask.program fun n => n = .empty

/-! ## A small system -/

/-- One host runs an agent. -/
def oneAgent (url : String) : Option String :=
  if url = "http://agent:8082/update" ∨ url = "http://agent:8082/state" then some "agent" else none

/-- A thread does the first operations of a task, and every message arrives at once. -/
def performs (i : Nat) (task : FailureTask) (steps : Nat) :
    List (Nat × Move FailureTask NetworkChoice) :=
  (i, .begin task) :: List.replicate steps (i, .go {})

def updateRequest : FailureRequest := ⟨"POST", "/agent/task-1", none, some ⟨false, 500⟩⟩

def stateRequest : FailureRequest := ⟨"GET", "/agent/state/task-1", none, none⟩

/-- A thread is about to answer a request. -/
def answersWith (request : FailureRequest) (reply : ServerReply) (p : FailureProgram Unit) : Bool :=
  match p with
  | .perform (.answer r s) _ => r = request && s = reply
  | _ => false

theorem exists_of_answersWith {request : FailureRequest} {reply : ServerReply}
    {p : FailureProgram Unit} (answers : answersWith request reply p = true) :
    ∃ next, p = .perform (.answer request reply) next := by
  unfold answersWith at answers
  split at answers
  · next r s next =>
      rw [Bool.and_eq_true, decide_eq_true_eq, decide_eq_true_eq] at answers
      obtain ⟨rfl, rfl⟩ := answers
      exact ⟨next, rfl⟩
  · cases answers

/-- Some first steps of threads lead to a thread that is about to answer. -/
theorem exists_answering (i : Nat) (request : FailureRequest) (reply : ServerReply)
    (steps : List (Nat × Move FailureTask NetworkChoice))
    (ends : ((failureSystem oneAgent).runAll (fun _ _ => true) ⟨.empty, fun _ => (.done (), [])⟩
      steps).any (fun c => answersWith request reply (c.point i).1) = true) :
    ∃ history c next t, (failureSystem oneAgent).History history c ∧
      c.point i = (.perform (.answer request reply) next, t) := by
  obtain ⟨c, reachable, answers⟩ := System.exists_reachable (S := failureSystem oneAgent) steps
    (fun c => answersWith request reply (c.point i).1) ⟨rfl, fun _ => rfl⟩ ends
  obtain ⟨history, past⟩ := System.History.exists_of_reachable reachable
  obtain ⟨next, stands⟩ := exists_of_answersWith answers
  exact ⟨history, c, next, (c.point i).2, past, Prod.ext stands rfl⟩

end C4D
