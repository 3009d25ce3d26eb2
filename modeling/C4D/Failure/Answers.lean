import C4D.Failure.Delivery

/-!
# What the answers of the failure server mean

In all interleavings of requests, agents and messages: a state that is answered is what the agent at
the URL registered last had taken up last (`answered_state`), an update that is confirmed was taken
up there (`answered_update`), an agent takes up nothing that no client has asked for
(`stored_requested`), and a task that is registered is found from then on
(`answered_notFound`).
-/

set_option autoImplicit false

namespace C4D

open Foundations Program FailureNetwork

/-- A step of the system with the state before it. -/
abbrev FailureStep := Taken FailureOp.Answer FailureNetwork NetworkChoice FailureTask

abbrev FailureThreads := Threads Nat (FailureProgram Unit × FailureTrace) FailureNetwork

/-! ## Reading a state -/

section Reading

variable {running : Bool} {delay : Int32}

theorem readDelay_sent_iff (read : Read (putState running delay) 5) :
    readDelay (read.buffer 0) = delay ↔ MissingZero read := by
  rw [missingZero_iff read (length_putState _ _), ← readDelay_inj, readDelay_putState]

/-- Missing bytes never raise a delay above zero or what was sent. -/
theorem readDelay_sent_le (read : Read (putState running delay) 5) :
    (readDelay (read.buffer 0)).toInt ≤ max delay.toInt 0 := by
  have sent : readDelay (putState running delay) = delay := readDelay_putState running delay
  have positive := count_pos read (length_putState _ _)
  have fits := read.fits
  have bits := delayBits_lt (putState running delay)
  suffices below : (readDelay (read.buffer 0)).toInt ≤
      max (readDelay (putState running delay)).toInt 0 by rwa [sent] at below
  rw [toInt_readDelay, toInt_readDelay, delayBits_buffer read (length_putState _ _)]
  generalize delayBits (putState running delay) = bits at bits ⊢
  generalize read.count = n at positive fits ⊢
  interval_cases n <;> simp only [Nat.reduceSub, Nat.reducePow] <;> split <;> split <;> omega

/-- The first byte always arrives. -/
theorem readRunning_sent (read : Read (putState running delay) 5) :
    readRunning (read.buffer 0) = running :=
  (readRunning_buffer read (length_putState _ _)).trans (readRunning_putState _ _)

end Reading

/-- What an agent may make of an update: it never invents a delay. -/
def TakesUp (update : AgentUpdateRequest) (s : AgentState) : Prop :=
  s.shouldBeRunning = update.shouldBeRunning ∧
    s.networkDelay.toInt ≤ max (min update.networkDelay.toInt (2 ^ 20)) 0

theorem takesUp_decoded {update : AgentUpdateRequest} {s : AgentState}
    {read : Read (FailureServer.forward update.shouldBeRunning update.networkDelay) 5}
    (decodes : decoded read = some s) : TakesUp update s := by
  rw [decoded] at decodes
  split at decodes
  · cases decodes
  · cases decodes
    refine ⟨readRunning_sent read, ?_⟩
    rw [toInt_networkDelay]
    have below : (readDelay (read.buffer 0)).toInt ≤ max update.networkDelay.toInt 0 :=
      readDelay_sent_le read
    omega

/-- All of an update is taken up if no byte is missing that matters. -/
theorem setState_of_decoded {update : AgentUpdateRequest} {s : AgentState}
    {read : Read (FailureServer.forward update.shouldBeRunning update.networkDelay) 5}
    (decodes : decoded read = some s) :
    s = .setState update.shouldBeRunning update.networkDelay ↔ MissingZero read ∨ PausesLong read := by
  rw [decoded] at decodes
  split at decodes
  · cases decodes
  · cases decodes
    have sent := setState_putState update.shouldBeRunning update.networkDelay
    rw [← setState_buffer_iff read (length_putState _ _), ← sent]
    rfl

section Answers

variable {resolve : String → Option String} {history : List FailureStep} {c : FailureThreads}
variable {i : Nat} {t : FailureTrace} {request : FailureRequest} {next : Unit → FailureProgram Unit}

/-! ## Tables as histories -/

/-- The table of the server holds what was registered last. -/
theorem registered_latest (taskID : String) (past : (failureSystem resolve).History history c) :
    c.data.server.agents.lookup taskID = latest (writes (registered taskID)) none history := by
  apply data_eq_latest (f := fun n => n.server.agents.lookup taskID) _ _ past
  · rintro n rfl
    rfl
  · exact lookup_server_act taskID

/-- The agent on a host is in the state that was stored last. -/
theorem stored_latest (host : String) (past : (failureSystem resolve).History history c) :
    c.data.agents.lookup host = latest (writes (stored resolve host)) none history := by
  apply data_eq_latest (f := fun n => n.agents.lookup host) _ _ past
  · rintro n rfl
    rfl
  · exact lookup_agents_act host

/-- Every operation that is about to be performed is explained by the ones before it. -/
theorem explained_here (past : (failureSystem resolve).History history c) {q : FailureOp}
    {rest : q.Answer → FailureProgram Unit} (here : c.point i = (.perform q rest, t)) :
    Explained t q := by
  have along := along_of_reachable explained past.reachable i
  rw [here] at along
  exact along.1

/-- A handler has looked the URL up in the history of its request. -/
theorem exists_lookup {taskID : String} {url : Option String} {before after : FailureTrace}
    (past : (failureSystem resolve).History history c)
    (split : (c.point i).2 = before ++ ⟨.getAgentURL taskID, url⟩ :: after) :
    ∃ earlier later c₀ e, history = earlier ++ (c₀, (i, .go e)) :: later ∧ SameTask i later ∧
      url = latest (writes (registered taskID)) none earlier := by
  obtain ⟨earlier, later, c₀, e, _, rfl, _, answers, during⟩ := exists_step past split
  exact ⟨earlier, later, c₀, e, rfl, during, answers.trans (registered_latest taskID past.upTo)⟩

/-! ## Reading through the server -/

theorem received_of_answer {url : String} {received : Received} {e : NetworkChoice}
    {n : FailureNetwork} (answers : some received = (act resolve (.getState url) e n).1) :
    received = n.stateAt resolve e url := by
  rw [act] at answers
  cases sent : e.passage <;> rw [sent] at answers <;> cases answers
  rfl

theorem stateAt_agent {url host : String} {s : AgentState} {e : NetworkChoice} {n : FailureNetwork}
    (leads : resolve (url ++ "/state") = some host) (runs : n.agents.lookup host = some s) :
    n.stateAt resolve e url = ⟨s.getStateBinary, e.read s.getStateBinary⟩ := by
  rw [stateAt, leads, Option.bind_some, runs]

/-- No agent keeps a delay above the cap. -/
theorem networkDelay_le (reachable : (failureSystem resolve).Reachable c) {host : String}
    {s : AgentState} (runs : c.data.agents.lookup host = some s) : s.networkDelay.toInt ≤ 2 ^ 20 := by
  have all := data_of_reachable (P := fun n => ∀ host s, n.agents.lookup host = some s →
    s.networkDelay.toInt ≤ 2 ^ 20) ?_ ?_ reachable
  · exact all host s runs
  · rintro n rfl host s runs
    cases runs
  · intro q e n capped host s runs
    rw [lookup_agents_act] at runs
    cases changes : stored resolve host q e n with
    | none =>
        rw [changes] at runs
        exact capped host s runs
    | some v =>
        obtain ⟨s', rfl, fresh | ⟨_, _, _, _, decodes⟩⟩ := stored_cases changes
        · rw [changes] at runs
          cases runs
          rw [fresh]
          decide
        · rw [changes] at runs
          cases runs
          exact capped_of_decoded decodes

/-- **A state that is answered is what the agent had taken up last.** -/
theorem answered_state {running : Bool} {delay : Int32}
    (past : (failureSystem resolve).History history c)
    (here : c.point i = (.perform (.answer request (.plain (.state running delay))) next, t)) :
    ∃ before between after taskID url c₁ e₁ c₂ e₂,
      history = before ++ (c₁, (i, .go e₁)) :: (between ++ (c₂, (i, .go e₂)) :: after) ∧
      SameTask i (between ++ (c₂, (i, .go e₂)) :: after) ∧
      request.method = "GET" ∧ route request.path = some (.state taskID) ∧
      latest (writes (registered taskID)) none before = some url ∧
      ∀ host sender, resolve (url ++ "/state") = some host →
        latest (writes (stored resolve host)) none (before ++ (c₁, (i, .go e₁)) :: between) =
          some sender →
        running = sender.shouldBeRunning ∧
          (delay = sender.networkDelay ↔ MissingZero (e₂.read sender.getStateBinary)) ∧
          delay.toInt ≤ 2 ^ 20 := by
  obtain ⟨get, taskID, url, received, leads, ended, rfl, rfl, rfl⟩ := explained_here past here
  have trace : (c.point i).2 = [⟨.receive request, ()⟩, ⟨.getAgentURL taskID, some url⟩] ++
      ⟨.getState url, some received⟩ :: [] := by rw [here]; rfl
  obtain ⟨upTo, after, c₂, e₂, _, rfl, stands, answers, during⟩ := exists_step past trace
  have earlier : (c₂.point i).2 = [⟨.receive request, ()⟩] ++ ⟨.getAgentURL taskID, some url⟩ :: [] := by
    rw [stands]; rfl
  obtain ⟨before, between, c₁, e₁, rfl, first, found⟩ := exists_lookup past.upTo earlier
  refine ⟨before, between, after, taskID, url, c₁, e₁, c₂, e₂, by simp, ?_, get, leads, found.symm, ?_⟩
  · exact first.insert rfl during
  intro host sender there last
  rw [← stored_latest host past.upTo] at last
  obtain rfl := (received_of_answer answers).trans (stateAt_agent there last)
  refine ⟨readRunning_sent _, readDelay_sent_iff _, ?_⟩
  have capped := networkDelay_le past.upTo.reachable last
  have below : (readDelay ((e₂.read sender.getStateBinary).buffer 0)).toInt ≤
      max sender.networkDelay.toInt 0 := readDelay_sent_le _
  dsimp only
  omega

/-- A state is read after an update. -/
theorem answered_state_updated : ∃ history c next t, (failureSystem oneAgent).History history c ∧
    c.point 2 = (.perform (.answer stateRequest (.plain (.state false 500))) next, t) ∧
    ∃ before taskID url, before <+: history ∧ route stateRequest.path = some (.state taskID) ∧
      latest (writes (registered taskID)) none before = some url := by
  obtain ⟨history, c, next, t, past, here⟩ := exists_answering 2
    stateRequest (.plain (.state false 500))
    (performs 0 (.agent "task-1" "agent" 1) 2 ++ performs 1 (.request updateRequest) 3 ++
      performs 2 (.request stateRequest) 3) (by decide +kernel)
  obtain ⟨before, _, _, taskID, url, _, _, _, _, split, _, _, leads, last, _⟩ := answered_state past here
  exact ⟨history, c, next, t, past, here, before, taskID, url, ⟨_, split.symm⟩, leads, last⟩

/-! ## Updating through the server -/

/-- An update that an agent answers with 200 is stored in it. -/
theorem stored_of_answer {url host : String} {data : List UInt8} {e : NetworkChoice}
    {n : FailureNetwork} (leads : resolve (url ++ "/update") = some host) (runs : host ∈ n.agents)
    (answers : some 200 = (act resolve (.post (.update url data)) e n).1) :
    ∃ s, stored resolve host (.post (.update url data)) e n = some (some s) ∧
      decoded (e.read data) = some s := by
  obtain ⟨s, found⟩ := Table.mem_iff_exists_lookup.mp runs
  simp only [act] at answers
  simp only [stored, takenUp]
  cases sent : e.passage with
  | lost => simp [sent] at answers
  | late => simp [sent] at answers
  | unanswered => simp [sent] at answers
  | answered =>
      simp only [sent, takeUp, leads, found] at answers
      rw [AgentState.handleUpdate, if_neg (not_not.mpr rfl)] at answers
      rw [Option.bind_some, stores, if_pos ⟨leads, runs⟩, decoded]
      cases ended : (e.read data).ended with
      | true =>
          rw [if_pos ended] at answers
          exact absurd (Option.some.inj answers) (show (200 : Nat) ≠ 400 by decide)
      | false => exact ⟨_, rfl, rfl⟩

/-- **An update that is confirmed was taken up by the agent.** -/
theorem answered_update {taskID : String} (past : (failureSystem resolve).History history c)
    (here : c.point i = (.perform (.answer request (.plain .ok)) next, t))
    (leads : route request.path = some (.update taskID)) :
    ∃ before between after url update c₁ e₁ c₂ e₂,
      history = before ++ (c₁, (i, .go e₁)) :: (between ++ (c₂, (i, .go e₂)) :: after) ∧
      SameTask i (between ++ (c₂, (i, .go e₂)) :: after) ∧
      request.method = "POST" ∧ request.update = some update ∧
      latest (writes (registered taskID)) none before = some url ∧
      ∀ host, resolve (url ++ "/update") = some host → host ∈ c₂.data.agents → ∃ s,
        latest (writes (stored resolve host)) none
          (before ++ (c₁, (i, .go e₁)) :: (between ++ [(c₂, (i, .go e₂))])) = some s ∧
        TakesUp update s ∧
        (s = .setState update.shouldBeRunning update.networkDelay ↔
          MissingZero (e₂.read (FailureServer.forward update.shouldBeRunning update.networkDelay)) ∨
            PausesLong (e₂.read (FailureServer.forward update.shouldBeRunning update.networkDelay))) := by
  obtain ⟨post, ⟨_, _, other, _⟩ | ⟨id, url, update, same, sent, rfl⟩⟩ := explained_here past here
  · rw [leads] at other
    cases other
  obtain rfl : taskID = id := Route.update.inj (Option.some.inj (leads.symm.trans same))
  have trace : (c.point i).2 = [⟨.receive request, ()⟩, ⟨.getAgentURL taskID, some url⟩] ++
      ⟨.post (.update url (FailureServer.forward update.shouldBeRunning update.networkDelay)),
        some 200⟩ :: [] := by rw [here]; rfl
  obtain ⟨upTo, after, c₂, e₂, _, rfl, stands, answers, during⟩ := exists_step past trace
  have earlier : (c₂.point i).2 = [⟨.receive request, ()⟩] ++ ⟨.getAgentURL taskID, some url⟩ :: [] := by
    rw [stands]; rfl
  obtain ⟨before, between, c₁, e₁, rfl, first, found⟩ := exists_lookup past.upTo earlier
  refine ⟨before, between, after, url, update, c₁, e₁, c₂, e₂, by simp, first.insert rfl during, post, sent,
    found.symm, fun host there runs => ?_⟩
  obtain ⟨s, stores, decodes⟩ := stored_of_answer there runs answers
  refine ⟨s, ?_, takesUp_decoded decodes, setState_of_decoded decodes⟩
  rw [← List.cons_append, ← List.append_assoc, latest_concat, writes_go stands, stores]
  rfl

/-- An update is confirmed. -/
theorem answered_update_confirmed : ∃ history c next t,
    (failureSystem oneAgent).History history c ∧
    c.point 1 = (.perform (.answer updateRequest (.plain .ok)) next, t) ∧
    ∃ before url update, before <+: history ∧ updateRequest.update = some update ∧
      latest (writes (registered "task-1")) none before = some url := by
  obtain ⟨history, c, next, t, past, here⟩ := exists_answering 1
    updateRequest (.plain .ok)
    (performs 0 (.agent "task-1" "agent" 1) 2 ++ performs 1 (.request updateRequest) 3)
    (by decide +kernel)
  have leads : route updateRequest.path = some (.update "task-1") := by decide +kernel
  obtain ⟨before, _, _, url, update, _, _, _, _, split, _, _, sent, last, _⟩ :=
    answered_update past here leads
  exact ⟨history, c, next, t, past, here, before, url, update, ⟨_, split.symm⟩, sent, last⟩

/-! ## Where the state of an agent comes from -/

/-- A handler posts an update to a URL in some step. -/
def Posted (history : List FailureStep) (url : String) (data : List UInt8) : Prop :=
  ∃ before c₀ i e after next t, history = before ++ (c₀, (i, .go e)) :: after ∧
    c₀.point i = (.perform (.post (.update url data)) next, t)

theorem Posted.append {url : String} {data : List UInt8} (posted : Posted history url data)
    (later : List FailureStep) : Posted (history ++ later) url data := by
  obtain ⟨before, c₀, i, e, after, rest, t, rfl, stands⟩ := posted
  exact ⟨before, c₀, i, e, after ++ later, rest, t, by simp, stands⟩

/-- A message on its way after an operation was on its way before or is posted by the operation. -/
theorem mem_late_act {q : FailureOp} {e : NetworkChoice} {n : FailureNetwork} {message : Message}
    (mem : message ∈ (act resolve q e n).2.late) : message ∈ n.late ∨ q = .post message := by
  have late_takeUp : ∀ m, (n.takeUp resolve e m).2.late = n.late := by
    intro m
    cases m with
    | register id url => rfl
    | update url data =>
        unfold takeUp
        dsimp only
        split
        · rfl
        · split <;> rfl
  cases q with
  | post posted =>
      simp only [act] at mem
      cases sent : e.passage with
      | lost =>
          rw [sent] at mem
          exact .inl mem
      | late =>
          rw [sent] at mem
          rcases List.mem_append.mp mem with mem | mem
          · exact .inl mem
          · exact .inr (congrArg _ (List.mem_singleton.mp mem).symm)
      | unanswered =>
          simp only [sent, late_takeUp] at mem
          exact .inl mem
      | answered =>
          simp only [sent, late_takeUp] at mem
          exact .inl mem
  | getState url =>
      simp only [act] at mem
      split at mem <;> exact .inl mem
  | arrive index =>
      simp only [act] at mem
      split at mem
      · exact .inl mem
      · exact .inl (List.mem_of_mem_eraseIdx mem)
  | receive request => exact .inl mem
  | answer request reply => exact .inl mem
  | registerAgent id url => exact .inl mem
  | getAgentURL id => exact .inl mem
  | listAgents => exact .inl mem
  | startAgent host => exact .inl mem

/-- **An update on its way was posted.** -/
theorem posted_of_late {url : String} {data : List UInt8}
    (past : (failureSystem resolve).History history c) (mem : .update url data ∈ c.data.late) :
    Posted history url data := by
  induction past with
  | start initial =>
      rw [initial.1] at mem
      cases mem
  | @step history c c' a earlier next ih =>
      have changes := data_next next
      cases performs : operation (c, a) with
      | none =>
          rw [performs] at changes
          rw [changes] at mem
          exact (ih mem).append [(c, a)]
      | some o =>
          obtain ⟨q, e⟩ := o
          rw [performs] at changes
          rw [changes] at mem
          rcases mem_late_act mem with mem | rfl
          · exact (ih mem).append [(c, a)]
          · obtain ⟨i, move⟩ := a
            obtain ⟨rfl, rest, t, stands⟩ := operation_eq_some performs
            exact ⟨history, c, i, e, [], rest, t, rfl, stands⟩

/-- **An agent is in its first state or in one that a client has asked for**, through a task that was
registered last at a URL that leads to the agent. -/
theorem stored_requested {host : String} {s : AgentState}
    (past : (failureSystem resolve).History history c) (runs : c.data.agents.lookup host = some s) :
    s = .new ∨ ∃ before between after i request taskID url update c₁ e₁ c₂ e₂ rest,
      history = before ++ (c₁, (i, .go e₁)) :: (between ++ (c₂, (i, .go e₂)) :: after) ∧
      SameTask i between ∧
      c₂.point i = (.perform (.post (.update url (FailureServer.forward update.shouldBeRunning
        update.networkDelay))) rest, [⟨.receive request, ()⟩, ⟨.getAgentURL taskID, some url⟩]) ∧
      request.method = "POST" ∧ route request.path = some (.update taskID) ∧
      request.update = some update ∧
      latest (writes (registered taskID)) none before = some url ∧
      resolve (url ++ "/update") = some host ∧ TakesUp update s := by
  rw [stored_latest host past] at runs
  have ne : latest (writes (stored resolve host)) none history ≠ none := by
    rw [runs]
    exact Option.some_ne_none s
  obtain ⟨before, ⟨c₀, j, move⟩, after, rfl, changes⟩ := exists_of_latest _ _ ne
  rw [runs] at changes
  obtain ⟨⟨q, e⟩, performs, changes⟩ := Option.bind_eq_some_iff.mp changes
  obtain ⟨s', same, fresh | ⟨url, data, taken, leads, decodes⟩⟩ := stored_cases changes
  · exact .inl ((Option.some.inj same).trans fresh)
  · obtain rfl := Option.some.inj same
    -- the update was posted in this step, or before it was on its way
    have posted : Posted (before ++ (c₀, (j, move)) :: after) url data := by
      obtain ⟨rfl, rest, t, stands⟩ := operation_eq_some performs
      cases q with
      | post message =>
          have sent : message = .update url data := by
            rw [takenUp] at taken
            split at taken <;> cases taken <;> rfl
          subst sent
          exact ⟨before, c₀, j, e, after, rest, t, rfl, stands⟩
      | arrive index =>
          exact (posted_of_late past.upTo (List.mem_of_getElem? taken)).append _
      | receive request => cases taken
      | answer request reply => cases taken
      | registerAgent id url => cases taken
      | getAgentURL id => cases taken
      | listAgents => cases taken
      | getState url => cases taken
      | startAgent host => cases taken
    obtain ⟨upTo, c₂, i, e₂, later, rest, t, split, stands⟩ := posted
    rw [split] at past
    obtain ⟨request, taskID, update, post, path, sent, rfl, rfl⟩ := explained_here past.upTo stands
    have earlier : (c₂.point i).2 = [⟨.receive request, ()⟩] ++ ⟨.getAgentURL taskID, some url⟩ :: [] := by
      rw [stands]; rfl
    obtain ⟨first, between, c₁, e₁, rfl, during, found⟩ := exists_lookup past.upTo earlier
    refine .inr ⟨first, between, later, i, request, taskID, url, update, c₁, e₁, c₂, e₂, rest, ?_, during,
      stands, post, path, sent, found.symm, leads, takesUp_decoded decodes⟩
    rw [split]
    simp

/-- An agent that was paused by a client. -/
theorem stored_requested_paused : ∃ history c, (failureSystem oneAgent).History history c ∧
    c.data.agents.lookup "agent" = some ⟨false, 500⟩ ∧ ∃ before taskID url, before <+: history ∧
      latest (writes (registered taskID)) none before = some url ∧
      oneAgent (url ++ "/update") = some "agent" := by
  obtain ⟨c, reachable, paused⟩ := System.exists_reachable (S := failureSystem oneAgent)
    (performs 0 (.agent "task-1" "agent" 1) 2 ++ performs 1 (.request updateRequest) 3)
    (fun c => c.data.agents.lookup "agent" = some ⟨false, 500⟩)
    (s := ⟨.empty, fun _ => (.done (), [])⟩) ⟨rfl, fun _ => rfl⟩ (by decide +kernel)
  rw [decide_eq_true_eq] at paused
  obtain ⟨history, past⟩ := System.History.exists_of_reachable reachable
  rcases stored_requested past paused with fresh | ⟨before, _, _, _, _, taskID, url, _, _, _, _, _, _,
    split, _, _, _, _, _, last, leads, _⟩
  · exact absurd fresh (by decide)
  · exact ⟨history, c, past, paused, before, taskID, url, ⟨_, split.symm⟩, last, leads⟩

/-! ## Tasks that are found -/

/-- What is registered is a URL. -/
theorem registered_ne {taskID : String} (step : FailureStep) :
    writes (registered taskID) step ≠ some none := by
  intro changes
  obtain ⟨o, _, changes⟩ := Option.bind_eq_some_iff.mp changes
  obtain ⟨message, _, changes⟩ := Option.bind_eq_some_iff.mp changes
  cases message with
  | register id url =>
      rw [registers] at changes
      split at changes <;> cases changes
  | update url data => cases changes

/-- A registration that is confirmed was taken up. -/
theorem registered_of_answer {taskID url : String} {status : Nat} {e : NetworkChoice}
    {n : FailureNetwork}
    (answers : some status = (act resolve (.post (.register taskID url)) e n).1) :
    registered taskID (.post (.register taskID url)) e n = some (some url) := by
  simp only [act] at answers
  simp only [registered, takenUp]
  cases sent : e.passage <;> rw [sent] at answers <;> cases answers
  rw [Option.bind_some, registers, if_pos rfl]

/-- **A task is answered as not found only before its first registration**, and before any agent has
finished its registration of the task. -/
theorem answered_notFound {taskID text : String}
    (past : (failureSystem resolve).History history c)
    (here : c.point i = (.perform (.answer request (.plain (.error 404 text))) next, t))
    (leads : route request.path = some (.state taskID) ∨
      route request.path = some (.update taskID)) :
    ∃ before c₁ e₁ after, history = before ++ (c₁, (i, .go e₁)) :: after ∧ SameTask i after ∧
      (∀ step ∈ before, writes (registered taskID) step = none) ∧
      ∀ j url status, ⟨.post (.register taskID url), some status⟩ ∉ (c₁.point j).2 := by
  rcases explained_here past here rfl with unknown | ⟨id, same, rfl⟩
  · rw [unknown] at leads
    rcases leads with leads | leads <;> cases leads
  · obtain rfl : taskID = id := by
      rcases leads with leads | leads <;> rcases same with same | same <;>
        rw [leads] at same <;> cases same <;> rfl
    have trace : (c.point i).2 = [⟨.receive request, ()⟩] ++ ⟨.getAgentURL taskID, none⟩ :: [] := by
      rw [here]; rfl
    obtain ⟨before, after, c₁, e₁, rfl, during, missing⟩ := exists_lookup past trace
    have unread := unread_of_latest _ _ (fun step _ => registered_ne step) missing.symm
    refine ⟨before, c₁, e₁, after, rfl, during, unread, ?_⟩
    intro j url status mem
    obtain ⟨first, last, split⟩ := List.mem_iff_append.mp mem
    obtain ⟨earlier, later, c₀, e₀, _, rfl, stands, answers, _⟩ := exists_step past.upTo split
    have untaken := unread (c₀, (j, .go e₀)) (by simp)
    rw [writes_go stands e₀] at untaken
    exact absurd (untaken.symm.trans (registered_of_answer answers)) nofun

/-- A state is asked for before the agent has registered. -/
theorem answered_notFound_early : ∃ history c next t, (failureSystem oneAgent).History history c ∧
    c.point 2 = (.perform (.answer stateRequest (.plain (.error 404 "Agent not found"))) next, t) ∧
    ∃ before, before <+: history ∧ ∀ step ∈ before, writes (registered "task-1") step = none := by
  obtain ⟨history, c, next, t, past, here⟩ := exists_answering 2
    stateRequest (.plain (.error 404 "Agent not found"))
    (performs 0 (.agent "task-1" "agent" 1) 1 ++ performs 2 (.request stateRequest) 2)
    (by decide +kernel)
  have leads : route stateRequest.path = some (.state "task-1") := by decide +kernel
  obtain ⟨before, _, _, _, split, _, none, _⟩ := answered_notFound past here (.inl leads)
  exact ⟨history, c, next, t, past, here, before, ⟨_, split.symm⟩, none⟩

end Answers

/-! ## Tasks that cannot be updated -/

/-- An operation posts a message. -/
def IsPost (q : FailureOp) : Prop := ∃ message, q = .post message

/-- **The updates of a task whose id goes on as the path of a state are refused**, and so are those whose
path is redirected. Those of every other task are forwarded, if its agent is registered. -/
theorem mayPost_iff {request : FailureRequest} {taskID : String} {update : AgentUpdateRequest}
    (posts : request.method = "POST") (path : request.path = "/agent/" ++ taskID)
    (sent : request.update = some update) :
    MayPerform (fun _ _ => True) IsPost (FailureServer.serve request) ↔
      ¬ Redirected request.path ∧ ¬ "state/".toList <+: taskID.toList := by
  unfold FailureServer.serve FailureServer.dispatch
  by_cases direct : Redirected request.path
  · refine iff_of_false ?_ fun both => both.1 direct
    have leads : route request.path = some .redirect := if_pos direct
    simp [leads, FailureOp.call, op, mayPerform_perform, IsPost, not_mayPerform_done]
  have leads := route_agent (path ▸ direct)
  rw [← path] at leads
  constructor
  · refine fun may => ⟨direct, fun below => ?_⟩
    obtain ⟨rest, rfl⟩ := exists_append below
    rw [afterPrefix_append] at leads
    simp only [leads, FailureServer.handleAgentState, posts] at may
    simp [FailureOp.call, op, mayPerform_perform, IsPost, not_mayPerform_done] at may
  · rintro ⟨_, other⟩
    rw [afterPrefix_eq_none other] at leads
    simp only [leads, FailureServer.handleAgent, posts, sent]
    refine @MayPerform.later _ _ _ _ _ _ _ () trivial ?_
    refine @MayPerform.later _ _ _ _ _ _ _ (some "") trivial ?_
    exact .here ⟨_, rfl⟩

/-- The task of an agent can be updated. -/
example : MayPerform (fun _ _ => True) IsPost (FailureServer.serve updateRequest) :=
  (@mayPost_iff updateRequest "task-1" ⟨false, 500⟩ rfl rfl rfl).mpr (by decide +kernel)

end C4D
