import C4D.Failure.Network

/-!
# What the handlers of the failure server perform

A path leads to the handler of the longest pattern that matches it (`route_agent`). Every operation
of a handler is explained by the ones before it (`explained`): a reply by what the server
and the agent have answered, an update that is posted by the request of a client. What the
operations write is read off the messages they take up: the URL of a task
(`lookup_server_act`) and the state of an agent (`lookup_agents_act`).
-/

set_option autoImplicit false

namespace C4D

open Foundations Program

/-! ## Paths -/

theorem afterPrefix_append (pattern rest : String) : afterPrefix pattern (pattern ++ rest) = some rest := by
  have matched : pattern.toList.isPrefixOf (pattern ++ rest).toList = true := by
    rw [List.isPrefixOf_iff_prefix, String.toList_append]
    exact List.prefix_append _ _
  rw [afterPrefix, if_pos matched, String.toList_append, ← String.length_toList, List.drop_left,
    String.ofList_toList]

theorem afterPrefix_eq_none {pattern path : String} (other : ¬ pattern.toList <+: path.toList) :
    afterPrefix pattern path = none := by
  rw [afterPrefix, if_neg]
  rwa [List.isPrefixOf_iff_prefix]

theorem exists_append {pattern path : String} (matched : pattern.toList <+: path.toList) :
    ∃ rest, path = pattern ++ rest := by
  obtain ⟨rest, same⟩ := matched
  refine ⟨String.ofList rest, ?_⟩
  rw [← String.toList_inj, String.toList_append, String.toList_ofList, same]

/-- A path below "/agent/" is none of the exact patterns. -/
theorem route_agent {rest : String} (direct : ¬ Redirected ("/agent/" ++ rest)) :
    route ("/agent/" ++ rest) = match afterPrefix "state/" rest with
    | some taskID => some (.state taskID)
    | none => some (.update rest) := by
  have start : ("/agent/" ++ rest).toList.take 7 = "/agent/".toList := by
    rw [String.toList_append]
    rfl
  have ne : ∀ path : String, path.toList.take 7 ≠ "/agent/".toList → "/agent/" ++ rest ≠ path := by
    rintro path other rfl
    exact other start
  rw [route, if_neg direct, if_neg (ne "/register" (by decide)), if_neg (ne "/agents" (by decide))]
  by_cases below : "state/".toList <+: rest.toList
  · obtain ⟨taskID, rfl⟩ := exists_append below
    rw [← String.append_assoc]
    rw [show "/agent/" ++ "state/" = "/agent/state/" from rfl, afterPrefix_append, afterPrefix_append]
  · rw [afterPrefix_eq_none below, afterPrefix_eq_none, afterPrefix_append]
    · rfl
    · rw [String.toList_append]
      intro le
      refine below ?_
      exact (List.prefix_append_right_inj "/agent/".toList).mp le

/-! ## Traces of handlers -/

abbrev FailureTrace := Trace FailureOp FailureOp.Answer

/-- What the trace of a handler says of its next operation. -/
def Explained (t : FailureTrace) : FailureOp → Prop
  | .answer request (.plain (.state running delay)) =>
      request.method = "GET" ∧ ∃ taskID url received, route request.path = some (.state taskID) ∧
        received.read.ended = false ∧ running = readRunning (received.read.buffer 0) ∧
        delay = readDelay (received.read.buffer 0) ∧
        t = [⟨.receive request, ()⟩, ⟨.getAgentURL taskID, some url⟩,
          ⟨.getState url, some received⟩]
  | .answer request (.plain .ok) =>
      request.method = "POST" ∧
        ((∃ taskID url, route request.path = some .register ∧
            request.registration = some (taskID, url) ∧
            t = [⟨.receive request, ()⟩, ⟨.registerAgent taskID url, ()⟩]) ∨
          ∃ taskID url update, route request.path = some (.update taskID) ∧
            request.update = some update ∧
            t = [⟨.receive request, ()⟩, ⟨.getAgentURL taskID, some url⟩,
              ⟨.post (.update url (FailureServer.forward update.shouldBeRunning
                update.networkDelay)), some 200⟩])
  | .answer request (.plain (.error code _)) =>
      code = 404 → route request.path = none ∨ ∃ taskID,
        (route request.path = some (.state taskID) ∨ route request.path = some (.update taskID)) ∧
        t = [⟨.receive request, ()⟩, ⟨.getAgentURL taskID, none⟩]
  | .post (.update url data) =>
      ∃ request taskID update, request.method = "POST" ∧
        route request.path = some (.update taskID) ∧ request.update = some update ∧
        data = FailureServer.forward update.shouldBeRunning update.networkDelay ∧
        t = [⟨.receive request, ()⟩, ⟨.getAgentURL taskID, some url⟩]
  | _ => True

/-- An operation followed by a program. -/
@[simp] theorem along_call {α : Type} {R : FailureTrace → α → Prop}
    {P : FailureTrace → FailureOp → Prop} {t : FailureTrace} (q : FailureOp)
    (f : q.Answer → FailureProgram α) :
    Along P R t (q.call >>= f) ↔ P t q ∧ ∀ answer, Along P R (t ++ [⟨q, answer⟩]) (f answer) :=
  Iff.rfl

/-- The reply is explained by the trace of the handler. -/
def Replied (r : FailureRequest) (t : FailureTrace) (reply : FailureReply) : Prop :=
  Explained t (.answer r (.plain reply))

theorem along_handleRegister {r : FailureRequest} (leads : route r.path = some .register) :
    Along Explained (Replied r) [⟨.receive r, ()⟩] (FailureServer.handleRegister r) := by
  unfold FailureServer.handleRegister
  split
  · simp [Replied, Explained]
  · next post =>
      cases sent : r.registration with
      | none => simp [Replied, Explained]
      | some data =>
          refine ⟨trivial, fun _ => ?_⟩
          exact ⟨not_not.mp post, .inl ⟨data.1, data.2, leads, sent, rfl⟩⟩

theorem along_handleAgent {r : FailureRequest} {taskID : String}
    (leads : route r.path = some (.update taskID)) :
    Along Explained (Replied r) [⟨.receive r, ()⟩] (FailureServer.handleAgent taskID r) := by
  unfold FailureServer.handleAgent
  split
  · simp [Replied, Explained]
  · next post =>
      rw [along_call]
      refine ⟨trivial, fun url => ?_⟩
      cases url with
      | none => exact fun _ => .inr ⟨taskID, .inr leads, rfl⟩
      | some url =>
          cases sent : r.update with
          | none => simp [Replied, Explained]
          | some update =>
              dsimp only
              rw [along_call]
              refine ⟨⟨r, taskID, update, not_not.mp post, leads, sent, rfl, rfl⟩, fun status => ?_⟩
              cases status with
              | none => simp [Replied, Explained]
              | some status =>
                  by_cases ok : status = 200
                  · subst ok
                    exact ⟨not_not.mp post, .inr ⟨taskID, url, update, leads, sent, rfl⟩⟩
                  · simp [Replied, Explained, ok]

theorem along_handleAgentState {r : FailureRequest} {taskID : String}
    (leads : route r.path = some (.state taskID)) :
    Along Explained (Replied r) [⟨.receive r, ()⟩] (FailureServer.handleAgentState taskID r) := by
  unfold FailureServer.handleAgentState
  split
  · simp [Replied, Explained]
  · next get =>
      rw [along_call]
      refine ⟨trivial, fun url => ?_⟩
      cases url with
      | none => exact fun _ => .inr ⟨taskID, .inl leads, rfl⟩
      | some url =>
          dsimp only
          rw [along_call]
          refine ⟨trivial, fun received => ?_⟩
          cases received with
          | none => simp [Replied, Explained]
          | some received =>
              dsimp only
              cases ended : received.read.ended with
              | true => simp [Replied, Explained]
              | false => exact ⟨not_not.mp get, taskID, url, received, leads, ended, rfl, rfl, rfl⟩

theorem along_dispatch (r : FailureRequest) :
    Along Explained (fun t reply => Explained t (.answer r reply)) [⟨.receive r, ()⟩]
      (FailureServer.dispatch r) := by
  unfold FailureServer.dispatch
  rcases leads : route r.path with _ | _ | _ | _ | taskID | taskID
  · exact fun _ => .inl leads
  · exact trivial
  · exact (along_handleRegister leads).bind fun _ _ replied => replied
  · unfold FailureServer.handleAgents
    dsimp only
    split
    · simp [Explained]
    · exact ⟨trivial, fun _ => trivial⟩
  · exact (along_handleAgentState leads).bind fun _ _ replied => replied
  · exact (along_handleAgent leads).bind fun _ _ replied => replied

theorem along_registerWithServer (taskID url : String) (attempts : Nat) {t : FailureTrace} :
    Along Explained (fun _ _ => True) t (registerWithServer taskID url attempts) := by
  induction attempts generalizing t with
  | zero => trivial
  | succ attempts ih =>
      rw [registerWithServer, along_call]
      refine ⟨trivial, fun status => ?_⟩
      cases status with
      | none => exact ih
      | some status =>
          dsimp only
          split
          · trivial
          · exact ih

/-- **Every task performs explained operations only.** -/
theorem explained (task : FailureTask) : Along Explained (fun _ _ => True) [] task.program := by
  cases task with
  | request r =>
      refine ⟨trivial, fun _ => ?_⟩
      exact (along_dispatch r).bind fun _ _ replied => ⟨replied, fun _ => trivial⟩
  | agent taskID hostname attempts =>
      unfold FailureTask.program agentMain
      dsimp only
      split
      · trivial
      · exact ⟨trivial, fun _ => along_registerWithServer ..⟩
  | network index => exact ⟨trivial, fun _ => trivial⟩

/-- A handler that runs while all messages arrive answers as the handler that asks one agent. -/
theorem run_handleAgentState {resolve : String → Option String} {taskID url host : String}
    {s : AgentState} {n : FailureNetwork} {choices : Nat → NetworkChoice} (r : FailureRequest)
    (registered : n.server.agents.lookup taskID = some url)
    (leads : resolve (url ++ "/state") = some host) (runs : n.agents.lookup host = some s)
    (arrives : (choices 1).passage = .answered) :
    ((FailureServer.handleAgentState taskID r).run (FailureNetwork.act resolve) choices n).value =
      n.server.handleState r.method taskID fun _ => some ((choices 1).read s.getStateBinary) := by
  unfold FailureServer.handleAgentState FailureServer.handleState
  by_cases get : r.method = "GET"
  · have answer : n.stateAt resolve (choices 1) url = ⟨s.getStateBinary, (choices 1).read _⟩ := by
      rw [FailureNetwork.stateAt, leads, Option.bind_some, runs]
    simp only [get, registered, FailureOp.call, op_bind, run_perform, FailureNetwork.act, arrives,
      ne_eq, not_true, if_false, Nat.zero_add]
    rw [answer]
    dsimp only
    split <;> rfl
  · rw [if_pos get, if_pos get]
    rfl

/-! ## What the operations write -/

namespace FailureNetwork

variable (resolve : String → Option String)

/-- The message an operation takes up. -/
def takenUp : FailureOp → NetworkChoice → FailureNetwork → Option Message
  | .registerAgent taskID url, _, _ => some (.register taskID url)
  | .post message, choice, _ =>
      match choice.passage with
      | .lost => none
      | .late => none
      | .unanswered => some message
      | .answered => some message
  | .arrive index, _, n => n.late[index]?
  | _, _, _ => none

/-- The state of the network after an operation that takes up a message, but for the messages on their
way. -/
def afterTakenUp (q : FailureOp) (choice : NetworkChoice) (n : FailureNetwork) : FailureNetwork :=
  ((takenUp q choice n).map fun message => (n.takeUp resolve choice message).2).getD n

/-- The URL that a message registers for a task. -/
def registers (taskID : String) : Message → Option (Option String)
  | .register id url => if id = taskID then some (some url) else none
  | .update _ _ => none

/-- The URL that an operation registers for a task. -/
def registered (taskID : String) (q : FailureOp) (choice : NetworkChoice) (n : FailureNetwork) :
    Option (Option String) :=
  (takenUp q choice n).bind (registers taskID)

/-- The state an agent decodes from a body. -/
def decoded {data : List UInt8} (read : Read data 5) : Option AgentState :=
  if read.ended then none
  else some (.setState (readRunning (read.buffer 0)) (readDelay (read.buffer 0)))

/-- The state that a message stores in the agent on a host. -/
def stores (host : String) (choice : NetworkChoice) (n : FailureNetwork) :
    Message → Option (Option AgentState)
  | .register _ _ => none
  | .update agentURL data =>
      if resolve (agentURL ++ "/update") = some host ∧ host ∈ n.agents then
        (decoded (choice.read data)).map some
      else none

/-- The state that an operation stores in the agent on a host. -/
def stored (host : String) (q : FailureOp) (choice : NetworkChoice) (n : FailureNetwork) :
    Option (Option AgentState) :=
  match q with
  | .startAgent started => if started = host then some (some .new) else none
  | q => (takenUp q choice n).bind (stores resolve host choice n)

theorem lookup_registerAgent (taskID id url : String) (n : FailureNetwork) :
    (n.registerAgent id url).server.agents.lookup taskID =
      if id = taskID then some url else n.server.agents.lookup taskID := by
  by_cases same : id = taskID
  · rw [if_pos same, ← same]
    exact AList.lookup_insert _
  · rw [if_neg same]
    exact AList.lookup_insert_ne (Ne.symm same)

theorem lookup_setAgent (host other : String) (s : AgentState) (n : FailureNetwork) :
    (n.setAgent other s).agents.lookup host =
      if other = host then some s else n.agents.lookup host := by
  by_cases same : other = host
  · rw [if_pos same, ← same]
    exact AList.lookup_insert _
  · rw [if_neg same]
    exact AList.lookup_insert_ne (Ne.symm same)

variable {resolve} {q : FailureOp} {choice : NetworkChoice} {n : FailureNetwork}

/-- Every operation but the start of an agent works through the message it takes up. -/
theorem act_eq_afterTakenUp (other : ∀ host, q ≠ .startAgent host) :
    (act resolve q choice n).2.server = (afterTakenUp resolve q choice n).server ∧
      (act resolve q choice n).2.agents = (afterTakenUp resolve q choice n).agents := by
  cases q with
  | receive request => exact ⟨rfl, rfl⟩
  | answer request reply => exact ⟨rfl, rfl⟩
  | registerAgent id url => exact ⟨rfl, rfl⟩
  | getAgentURL id => exact ⟨rfl, rfl⟩
  | listAgents => exact ⟨rfl, rfl⟩
  | post message =>
      simp only [act, afterTakenUp, takenUp]
      cases choice.passage <;> exact ⟨rfl, rfl⟩
  | getState url =>
      simp only [act, afterTakenUp, takenUp]
      cases choice.passage <;> exact ⟨rfl, rfl⟩
  | startAgent host => exact absurd rfl (other host)
  | arrive index =>
      simp only [act, afterTakenUp, takenUp]
      cases n.late[index]? <;> exact ⟨rfl, rfl⟩

theorem lookup_server_takeUp (taskID : String) (message : Message) :
    (n.takeUp resolve choice message).2.server.agents.lookup taskID =
      (registers taskID message).getD (n.server.agents.lookup taskID) := by
  cases message with
  | register id url =>
      rw [takeUp, lookup_registerAgent, registers]
      split <;> rfl
  | update agentURL data =>
      unfold takeUp
      dsimp only
      split
      · rfl
      · split <;> rfl

/-- The agent takes up what it decodes. -/
theorem handleUpdate_eq_decoded (s : AgentState) {data : List UInt8} (read : Read data 5) :
    (s.handleUpdate "POST" read).2 = (decoded read).getD s := by
  rw [AgentState.handleUpdate, if_neg (not_not.mpr rfl), decoded]
  split <;> rfl

theorem lookup_agents_takeUp (host : String) (message : Message) :
    (n.takeUp resolve choice message).2.agents.lookup host =
      (stores resolve host choice n message).getD (n.agents.lookup host) := by
  cases message with
  | register id url => rfl
  | update agentURL data =>
      unfold takeUp stores
      dsimp only
      cases leads : resolve (agentURL ++ "/update") with
      | none => simp
      | some there =>
          cases runs : n.agents.lookup there with
          | none =>
              rw [if_neg]
              · simp only [runs]
                rfl
              · rintro ⟨same, mem⟩
                obtain rfl := Option.some.inj same
                exact absurd mem (AList.lookup_eq_none.mp runs)
          | some s =>
              simp only [runs]
              rw [lookup_setAgent, handleUpdate_eq_decoded]
              by_cases same : there = host
              · subst same
                have mem : there ∈ n.agents := Table.mem_iff_exists_lookup.mpr ⟨s, runs⟩
                rw [if_pos rfl, if_pos (And.intro rfl mem), runs]
                cases decoded (choice.read data) <;> rfl
              · rw [if_neg same, if_neg (fun both => same (Option.some.inj both.1))]
                rfl

/-- What is stored is the state of a new agent or what an update says. -/
theorem stored_cases {host : String} {v : Option AgentState}
    (changes : stored resolve host q choice n = some v) :
    ∃ s, v = some s ∧ (s = .new ∨ ∃ agentURL data,
      takenUp q choice n = some (.update agentURL data) ∧
      resolve (agentURL ++ "/update") = some host ∧ decoded (choice.read data) = some s) := by
  unfold stored at changes
  split at changes
  · split at changes <;> cases changes
    exact ⟨.new, rfl, .inl rfl⟩
  · obtain ⟨message, taken, changes⟩ := Option.bind_eq_some_iff.mp changes
    cases message with
    | register id url => cases changes
    | update agentURL data =>
        rw [stores] at changes
        split at changes
        · next there =>
            obtain ⟨s, decodes, rfl⟩ := Option.map_eq_some_iff.mp changes
            exact ⟨s, rfl, .inr ⟨agentURL, data, taken, there.1, decodes⟩⟩
        · cases changes

/-- A state that is decoded is capped. -/
theorem capped_of_decoded {data : List UInt8} {read : Read data 5} {s : AgentState}
    (decodes : decoded read = some s) : s.networkDelay.toInt ≤ 2 ^ 20 := by
  rw [decoded] at decodes
  split at decodes
  · cases decodes
  · cases decodes
    rw [toInt_networkDelay]
    exact min_le_right _ _

/-- **An operation changes the table of the server at what it registers.** -/
theorem lookup_server_act (taskID : String) (q : FailureOp) (choice : NetworkChoice)
    (n : FailureNetwork) :
    (act resolve q choice n).2.server.agents.lookup taskID =
      (registered taskID q choice n).getD (n.server.agents.lookup taskID) := by
  by_cases starts : ∃ host, q = .startAgent host
  · obtain ⟨host, rfl⟩ := starts
    rfl
  · have other : ∀ host, q ≠ .startAgent host := fun host same => starts ⟨host, same⟩
    rw [(act_eq_afterTakenUp other).1, afterTakenUp, registered]
    cases takenUp q choice n with
    | none => rfl
    | some message => exact lookup_server_takeUp taskID message

/-- **An operation changes an agent by what it stores.** -/
theorem lookup_agents_act (host : String) (q : FailureOp) (choice : NetworkChoice)
    (n : FailureNetwork) :
    (act resolve q choice n).2.agents.lookup host =
      (stored resolve host q choice n).getD (n.agents.lookup host) := by
  by_cases starts : ∃ started, q = .startAgent started
  · obtain ⟨started, rfl⟩ := starts
    rw [act, lookup_setAgent, stored]
    split <;> rfl
  · have other : ∀ started, q ≠ .startAgent started := fun started same => starts ⟨started, same⟩
    have works : stored resolve host q choice n =
        (takenUp q choice n).bind (stores resolve host choice n) := by
      unfold stored
      split
      · next started => exact absurd rfl (other started)
      · rfl
    rw [(act_eq_afterTakenUp other).2, afterTakenUp, works]
    cases takenUp q choice n with
    | none => rfl
    | some message => exact lookup_agents_takeUp host message

end FailureNetwork

end C4D
