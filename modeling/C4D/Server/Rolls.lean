import C4D.Server.Frames
import C4D.Server.System

/-!
# The three rolls of the server

A node is on up to three rolls: the registry, the health map and the session table.
`RollStep` says what a step does to all three at once, and `rollStep_of_next` that it
says everything. Only a registration enters a node. A health tick drops sessions, a
cleanup tick strikes nodes and disconnects their sessions, and a removal strikes a node
and leaves its session alone.
-/

set_option autoImplicit false

namespace C4D

open Foundations Guarded

/-- Who is registered, who has a health entry, and who has which session. -/
@[ext]
structure Roll where
  registered : String → Prop
  checked : String → Prop
  session : String → Option SessionState

namespace Roll

/-- A node is entered on every roll. -/
def enter (nodeID : String) (session : SessionState) (r : Roll) : Roll where
  registered j := j = nodeID ∨ r.registered j
  checked j := j = nodeID ∨ r.checked j
  session := Function.update r.session nodeID (some session)

/-- A node gets a session. -/
def connect (nodeID : String) (session : SessionState) (r : Roll) : Roll :=
  { r with session := Function.update r.session nodeID (some session) }

/-- Disconnected sessions last seen before the cutoff go. -/
def sweep (cutoff : Int) (r : Roll) : Roll :=
  { r with session := fun j => (r.session j).filter fun session =>
      session.isConnected ∨ cutoff ≤ session.lastSeen }

/-- A node leaves the registry and the health map. -/
def strike (nodeID : String) (r : Roll) : Roll :=
  { r with registered := fun j => j ≠ nodeID ∧ r.registered j
           checked := fun j => j ≠ nodeID ∧ r.checked j }

/-- Nodes leave the registry and the health map, and their sessions are disconnected. -/
def depart (nodeIDs : List String) (now : Int) (r : Roll) : Roll where
  registered j := j ∉ nodeIDs ∧ r.registered j
  checked j := j ∉ nodeIDs ∧ r.checked j
  session j := (r.session j).map fun session =>
    if j ∈ nodeIDs then { session with isConnected := false, lastSeen := now } else session

end Roll

namespace Server

def roll (s : Server) : Roll where
  registered j := j ∈ s.nodes
  checked j := j ∈ s.health
  session j := s.sessions.lookup j

variable {s s' : Server}

theorem roll_eq (nodes : AList.keys s'.nodes = AList.keys s.nodes)
    (health : s'.health.keys = s.health.keys) (sessions : s'.sessions = s.sessions) :
    s'.roll = s.roll := by
  refine Roll.ext (funext fun j => ?_) (funext fun j => ?_) (funext fun j => ?_)
  · simp only [roll, AList.mem_keys, nodes]
  · simp only [roll, AList.mem_keys, health]
  · simp only [roll, sessions]

/-! ## Operations that leave the rolls alone -/

theorem roll_captureMaster (req : RegisterRequest) : (s.captureMaster req).roll = s.roll := by
  unfold captureMaster
  split <;> rfl

theorem roll_setStatus (id : String) (status : Status) : (s.setStatus id status).roll = s.roll :=
  roll_eq (Registry.keys_setStatus status) rfl rfl

theorem roll_failNode (nodeID : String) (oldStatus : Status) :
    (s.failNode nodeID oldStatus).roll = s.roll := by
  refine Eq.trans ?_ (roll_setStatus nodeID .failed)
  cases oldStatus <;> rfl

theorem roll_handleNodeTimeout (nodeID : String) : (s.handleNodeTimeout nodeID).roll = s.roll := by
  rw [handleNodeTimeout_eq]
  split
  · exact roll_setStatus nodeID .failed
  · rfl

theorem roll_timeouts (nodeIDs : List String) :
    (nodeIDs.foldl (fun s nodeID => s.handleNodeTimeout nodeID) s).roll = s.roll := by
  induction nodeIDs generalizing s with
  | nil => rfl
  | cons id rest ih => rw [List.foldl_cons, ih, roll_handleNodeTimeout]

theorem roll_countRemoved (status : Status) : (s.countRemoved status).roll = s.roll := by
  cases status <;> rfl

theorem roll_started (round : Round) (current : State) :
    ({ s.started round with current } : Server).roll = s.roll :=
  roll_eq (Registry.keys_assignRanks ..) rfl rfl

theorem roll_returned {setting : Setting} {rounds : Nat → Round} {clusterFree : Bool}
    (returns : s.reconfigure setting rounds clusterFree = .returned s') : s'.roll = s.roll := by
  have returned := returned_of_reconfigure returns
  exact roll_eq returned.ids (congrArg (AList.keys ∘ Elsewhere.health) returned.elsewhere)
    (congrArg Elsewhere.sessions returned.elsewhere)

theorem roll_stuck {setting : Setting} {rounds : Nat → Round} {clusterFree : Bool}
    (sticks : s.reconfigure setting rounds clusterFree = .stuck s') : s'.roll = s.roll := by
  have underway := (underway_of_stuck sticks).2
  exact roll_eq underway.ids (congrArg (AList.keys ∘ Elsewhere.health) underway.elsewhere)
    (congrArg Elsewhere.sessions underway.elsewhere)

/-! ## Operations that change the rolls -/

theorem roll_deleteNode (nodeID : String) : (s.deleteNode nodeID).roll = s.roll.strike nodeID := by
  refine Roll.ext (funext fun j => ?_) (funext fun j => ?_) rfl
  · exact propext AList.mem_erase
  · exact propext AList.mem_erase

theorem roll_removeDead (nodeIDs : List String) : (nodeIDs.foldl removeDead s).roll =
    { s.roll with registered := fun j => j ∉ nodeIDs ∧ s.roll.registered j
                  checked := fun j => j ∉ nodeIDs ∧ s.roll.checked j } := by
  induction nodeIDs generalizing s with
  | nil => simp
  | cons id rest ih =>
      have here : (s.removeDead id).roll = s.roll.strike id := by
        unfold removeDead
        cases s.nodes.statusOf id with
        | none => exact roll_deleteNode id
        | some status => rw [roll_deleteNode, roll_countRemoved]
      rw [List.foldl_cons, ih, here]
      refine Roll.ext (funext fun j => ?_) (funext fun j => ?_) rfl
      · simp only [Roll.strike, List.mem_cons, not_or, eq_iff_iff]
        tauto
      · simp only [Roll.strike, List.mem_cons, not_or, eq_iff_iff]
        tauto

theorem roll_cleanedUp (setting : Setting) (now : Int) (order : Shuffle String) :
    (s.cleanedUp now setting order).roll =
      s.roll.depart (s.deadConnections setting now order) now := by
  obtain ⟨sessions, same, lookup⟩ := disconnected_foldl now (s.deadConnections setting now order) s
  rw [cleanedUp, same, roll_removeDead]
  exact Roll.ext rfl rfl (funext lookup)

theorem roll_timedOut (setting : Setting) (now : Int) (order : Shuffle String) :
    (s.timedOut now setting order).roll =
      s.roll.sweep (now - setting.config.heartbeatTimeout * 2) := by
  have timeouts := roll_timeouts (s := s) (s.timeouts now setting order)
  refine Roll.ext (congrArg Roll.registered timeouts :) (congrArg Roll.checked timeouts :)
    (funext fun j => ?_)
  simp only [roll, sessions_timedOut, lookup_cleanupSessions, Roll.sweep]

theorem roll_connected (nodeID : String) (session : SessionState) :
    ({ s with sessions := s.sessions.insert nodeID session } : Server).roll =
      s.roll.connect nodeID session := by
  refine Roll.ext rfl rfl (funext fun j => ?_)
  by_cases here : j = nodeID
  · subst here
    simp [roll, Roll.connect]
  · simp [roll, Roll.connect, here]

/-- An entry on every roll, with any of the tables. -/
theorem roll_entered (req : RegisterRequest) (session : SessionState) (node : NodeState)
    (health : NodeHealth) : ({ s with
      sessions := s.sessions.insert req.nodeId session
      nodes := AList.insert req.nodeId node s.nodes
      health := s.health.insert req.nodeId health } : Server).roll =
      s.roll.enter req.nodeId session := by
  refine Roll.ext (funext fun j => propext (AList.mem_insert _))
    (funext fun j => propext (AList.mem_insert _)) (funext fun j => ?_)
  by_cases here : j = req.nodeId
  · subst here
    simp [roll, Roll.enter]
  · simp [roll, Roll.enter, here]

theorem roll_reconnected {req : RegisterRequest} {now : Int} {node : NodeState}
    {session : SessionState} (found : s.sessions.lookup req.nodeId = some session)
    (registered : s.nodes.lookup req.nodeId = some node) :
    (s.reconnected req now node).roll =
      s.roll.enter req.nodeId (reconnectSession req now node session) := by
  have known : req.nodeId ∈ s.nodes := Table.mem_iff_exists_lookup.mpr ⟨node, registered⟩
  refine Roll.ext (funext fun j => propext ?_) (funext fun j => propext (AList.mem_insert _))
    (funext fun j => ?_)
  · exact ⟨.inr, fun entered => entered.elim (fun same => same ▸ known) id⟩
  · change (Table.modify req.nodeId (reconnectSession req now node) s.sessions).lookup j = _
    by_cases here : j = req.nodeId
    · subst here
      simp [Roll.enter, found]
    · simp [Roll.enter, roll, here, Table.lookup_modify_of_ne here]

end Server

theorem ignores_roll : Ignores Server.roll where
  current _ _ := rfl
  latencyMatrix _ _ := rfl
  spawned _ _ := rfl
  heartbeat _ _ _ := Server.roll_eq rfl (Table.keys_modify ..) rfl
  failNode _ := Server.roll_failNode
  recordFailure _ _ := Server.roll_eq rfl (Table.keys_modify ..) rfl
  handleNodeTimeout _ := Server.roll_handleNodeTimeout

/-- What an operation preserves holds after its run. -/
theorem World.run_preserves {α : Type} {I : Server → Prop} {op : Op α} (kept : Preserves I op)
    (w : World) (holds : I w.data) : I (w.run op).2.data := by
  have after := kept w holds
  rw [World.run]
  rcases outcome : op.run w with ⟨_, _⟩ | ⟨_ | _ | _, _⟩
  all_goals rw [outcome] at after; exact after

/-- An operation that leaves a reading alone leaves it alone in its run. -/
theorem Leaves.run {α β : Type} {f : Server → β} {op : Op α} (leaves : Leaves f op) (w : World) :
    f (w.run op).2.data = f w.data :=
  World.run_preserves (leaves (f w.data)) w rfl

/-! ## Steps -/

/-- The step leaves a node with a connected session that is not registered: a new node is admitted
and waits for the registry, or a node is removed through the API. -/
def Action.severs (setting : Setting) (w : World) : Action → Prop
  | .register req _ _ => w.locks .registryMu ≠ .free ∧ w.data.current.accepting ∧
      w.data.sessions.lookup req.nodeId = none ∧
      (w.data.activeNodes < setting.config.activeNodes ∨
        w.data.standbyNodes < setting.config.standbyNodes)
  | .removeNode nodeID _ => w.locks .clusterMu = .free ∧ nodeID ∈ w.data.nodes ∧
      w.data.current.reconfigurable
  | _ => False

/-- Everything a step can do to the rolls. -/
inductive RollStep (setting : Setting) : World → Action → Roll → Prop where
  | kept (w : World) (a : Action) (joined : ¬ a.severs setting w) : RollStep setting w a w.data.roll
  | entered {w : World} (req : RegisterRequest) (now : Int) (round : Round) (session : SessionState)
      (connected : session.isConnected = true) (registryFree : w.locks .registryMu = .free) :
      RollStep setting w (.register req now round) (w.data.roll.enter req.nodeId session)
  | waiting {w : World} (req : RegisterRequest) (now : Int) (round : Round) (session : SessionState)
      (connected : session.isConnected = true)
      (severs : Action.severs setting w (.register req now round)) :
      RollStep setting w (.register req now round) (w.data.roll.connect req.nodeId session)
  | swept {w : World} (now : Int) (order : Shuffle String) :
      RollStep setting w (.healthTick now order)
        (w.data.roll.sweep (now - setting.config.heartbeatTimeout * 2))
  | departed {w : World} (now : Int) (order : Shuffle String) :
      RollStep setting w (.cleanupTick now order)
        (w.data.roll.depart (w.data.deadConnections setting now order) now)
  | struck {w : World} (nodeID : String) (rounds : Nat → Round)
      (severs : Action.severs setting w (.removeNode nodeID rounds)) :
      RollStep setting w (.removeNode nodeID rounds) (w.data.roll.strike nodeID)

section Steps

variable {setting : Setting} {s : Server} {locks : Lock → RWMutex}

theorem roll_admitted {req : RegisterRequest} (now : Int) {status : Status} {rank : Int}
    {counted : Server}
    (admitted : (s.captureMaster req).admitNode setting = (.ok (status, rank), counted)) :
    ∃ session : SessionState, session.isConnected = true ∧
      (counted.sessionRegistered req now status rank).roll = s.roll.connect req.nodeId session ∧
      (counted.enrolled req now status rank).roll = s.roll.enter req.nodeId session := by
  have counts : counted.roll = s.roll := by
    refine Eq.trans ?_ (Server.roll_captureMaster req)
    cases Server.admitted_of_admits admitted <;> rfl
  obtain ⟨session, connected, same⟩ := Server.sessionRegistered_eq counted req now status rank
  refine ⟨session, connected, ?_, ?_⟩
  · rw [same, Server.roll_connected, counts]
  · have entered := Server.roll_entered (s := counted) req session ⟨req.nodeUrl, status, rank⟩
      { lastHeartbeat := now, status }
    rw [Server.enrolled, same, ← counts]
    exact entered

variable (settled : Settled ⟨s, locks⟩)

include settled

theorem rollStep_register (req : RegisterRequest) (now : Int) (round : Round) :
    RollStep setting ⟨s, locks⟩ (.register req now round)
      (Action.run setting ⟨s, locks⟩ (.register req now round)).2.data.roll := by
  have captured := Server.roll_captureMaster (s := s) req
  have kept {s' : Server} (joined : ¬ Action.severs setting ⟨s, locks⟩ (.register req now round))
      (same : s'.roll = s.roll) :
      RollStep setting ⟨s, locks⟩ (.register req now round) s'.roll := by
    rw [same]
    exact .kept ⟨s, locks⟩ _ joined
  have entered {status : Status} {rank : Int} {counted s' : Server}
      (enrolls : Enrolls setting s locks req status rank counted)
      (same : s'.roll = (counted.enrolled req now status rank).roll) :
      RollStep setting ⟨s, locks⟩ (.register req now round) s'.roll := by
    obtain ⟨session, connected, _, enters⟩ := roll_admitted now enrolls.admitted
    rw [same, enters]
    exact .entered req now round session connected enrolls.registryFree
  rw [Action.run, World.run]
  have ends := register_ends setting settled req now round
  generalize (register setting req now round).run ⟨s, locks⟩ = outcome at ends ⊢
  cases ends with
  | refused refusal closed => exact kept (fun severs => closed severs.2.1) rfl
  | @reconnected session node response accepting registryFree found registered =>
      have listed : (s.captureMaster req).sessions.lookup req.nodeId = some session := by
        rw [Server.sessions_captureMaster, found]
      have known : (s.captureMaster req).nodes.lookup req.nodeId = some node := by
        rw [Server.nodes_captureMaster, registered]
      change RollStep setting ⟨s, locks⟩ _ ((s.captureMaster req).reconnected req now node).roll
      rw [Server.roll_reconnected listed known, captured]
      exact .entered req now round _ rfl registryFree
  | waiting accepting held found =>
      refine kept (fun severs => ?_) captured
      cases found.symm.trans severs.2.2.1
  | full refusal accepting new refuses =>
      exact kept (fun severs => Server.full_of_refused refuses severs.2.2.2) captured
  | @counted status rank counted accepting fresh held admitted =>
      obtain ⟨session, connected, waits, _⟩ := roll_admitted now admitted
      change RollStep setting ⟨s, locks⟩ _ (counted.sessionRegistered req now status rank).roll
      rw [waits]
      exact .waiting req now round session connected
        ⟨held, accepting, fresh, Server.room_of_admits admitted⟩
  | enrolled response enrolls incomplete => exact entered enrolls rfl
  | completing enrolls complete held => exact entered enrolls rfl
  | short response enrolls complete clusterFree few => exact entered enrolls rfl
  | started response enrolls complete clusterFree enough =>
      exact entered enrolls (Server.roll_started round .running)
  | startFailed enrolls complete clusterFree enough silent =>
      exact entered enrolls (Server.roll_started round _)

theorem rollStep_removeNode (nodeID : String) (rounds : Nat → Round) {ending : Ending} {w : World}
    (ends : ending = .returned ∨ ending = .blocked)
    (run : Action.run setting ⟨s, locks⟩ (.removeNode nodeID rounds) = (ending, w)) :
    RollStep setting ⟨s, locks⟩ (.removeNode nodeID rounds) w.data.roll := by
  have struck {s' : Server} {status : Status} (clusterFree : locks .clusterMu = .free)
      (known : s.nodes.statusOf nodeID = some status) (accepted : s.current.reconfigurable)
      (same : s'.roll = (s.removed nodeID status).roll) :
      RollStep setting ⟨s, locks⟩ (.removeNode nodeID rounds) s'.roll := by
    rw [same, Server.removed, Server.roll_deleteNode, Server.roll_countRemoved]
    exact .struck nodeID rounds
      ⟨clusterFree, Registry.mem_iff_statusOf.mpr ⟨status, known⟩, accepted⟩
  rw [Action.run, World.run] at run
  have outcome := removeNode_ends setting settled rounds nodeID
  generalize (removeNode setting nodeID rounds).run ⟨s, locks⟩ = result at outcome run
  cases outcome with
  | waiting held =>
      cases run
      exact .kept ⟨s, locks⟩ _ fun severs => held severs.1
  | unknown refusal absent =>
      cases run
      refine .kept ⟨s, locks⟩ _ ?_
      intro severs
      obtain ⟨status, found⟩ := Registry.mem_iff_statusOf.mp severs.2.1
      cases absent.symm.trans found
  | refused refusal refused =>
      cases run
      exact .kept ⟨s, locks⟩ _ fun severs => refused severs.2.2
  | inactive clusterFree known accepted inactive =>
      cases run
      exact struck clusterFree known accepted rfl
  | returned clusterFree known accepted returns =>
      cases run
      exact struck clusterFree known accepted (Server.roll_returned returns)
  | exited locks' clusterFree known accepted exits =>
      cases run
      rcases ends with ends | ends <;> cases ends
  | stuck clusterFree known accepted sticks =>
      cases run
      exact struck clusterFree known accepted (Server.roll_stuck sticks)

theorem rollStep_reconfigure (rounds : Nat → Round) {ending : Ending} {w : World}
    (ends : ending = .returned ∨ ending = .blocked)
    (run : Action.run setting ⟨s, locks⟩ (.reconfigure rounds) = (ending, w)) :
    w.data.roll = s.roll := by
  rw [Action.run, World.run] at run
  have outcome := spawnedReconfigure_ends setting settled rounds
  generalize (spawnedReconfigure setting rounds).run ⟨s, locks⟩ = result at outcome run
  cases outcome with
  | refused locks' refused =>
      cases run
      rcases ends with ends | ends <;> cases ends
  | returned accepted returns =>
      cases run
      have same := Server.roll_returned returns
      exact same
  | exited locks' accepted exits =>
      cases run
      rcases ends with ends | ends <;> cases ends
  | stuck accepted sticks =>
      cases run
      have same := Server.roll_stuck sticks
      exact same

/-- **Every step does to the rolls what `RollStep` says.** -/
theorem rollStep_of_run (a : Action) {ending : Ending} {w : World}
    (ends : ending = .returned ∨ ending = .blocked)
    (run : a.run setting ⟨s, locks⟩ = (ending, w)) : RollStep setting ⟨s, locks⟩ a w.data.roll := by
  have same (joined : ¬ a.severs setting ⟨s, locks⟩)
      (kept : (a.run setting ⟨s, locks⟩).2.data.roll = s.roll) :
      RollStep setting ⟨s, locks⟩ a w.data.roll := by
    rw [run] at kept
    rw [kept]
    exact .kept ⟨s, locks⟩ a joined
  cases a with
  | register req now round =>
      have step := @rollStep_register setting s locks settled req now round
      rwa [run] at step
  | sendHeartbeat req now => exact same not_false ((Leaves.sendHeartbeat ignores_roll req now).run _)
  | notifyFailure req => exact same not_false ((Leaves.notifyFailure ignores_roll req).run _)
  | sendMetrics req order => exact same not_false ((Leaves.sendMetrics ignores_roll req order).run _)
  | healthTick now order =>
      rcases settled.registry with registryFree | ⟨held, _⟩
      · rw [Action.run, World.run_of_ok (checkNodesHealth_run registryFree settled.sessionFree)]
          at run
        cases run
        rw [Server.roll_timedOut]
        exact .swept now order
      · apply same not_false
        rw [Action.run, World.run_of_blocked (checkNodesHealth_run_blocked held)]
  | cleanupTick now order =>
      by_cases registryFree : locks .registryMu = .free
      · rw [Action.run, World.run_of_ok (cleanupDeadConnections_run registryFree
          settled.sessionFree)] at run
        cases run
        rw [Server.roll_cleanedUp]
        exact .departed now order
      · apply same not_false
        rw [Action.run, cleanupDeadConnections,
          World.run_of_blocked (withLock_run_blocked registryFree _)]
  | removeNode nodeID rounds => exact rollStep_removeNode settled nodeID rounds ends run
  | reconfigure rounds => exact same not_false (run ▸ rollStep_reconfigure settled rounds ends run)

end Steps

theorem rollStep_of_next {setting : Setting} {w w' : World} {a : Action} (settled : Settled w)
    (next : w.next setting a = some w') : RollStep setting w a w'.data.roll := by
  obtain ⟨_, ends, _, run⟩ := World.runs_of_next next
  exact rollStep_of_run settled a ends run

/-- **The invariant rule of the rolls.** What holds of the fresh server and is kept by every step of
the rolls holds along every run. -/
theorem Setting.roll_invariant_of_run (setting : Setting) {C : World → Action → Prop}
    {I : Server → Prop} (initial : I (Server.new setting))
    (kept : ∀ {w : World} {a : Action} {s' : Server}, I w.data → C w a →
      RollStep setting w a s'.roll → I s')
    {w : World} (run : setting.system.Run C w) : I w.data := by
  refine run.inductOver (I := fun w => I w.data) (fun _ => setting.settled_of_reachable)
    (fun w start => ?_) fun w a w' settled invariant allowed next => ?_
  · rw [show w = World.new setting from start]
    exact initial
  · exact kept invariant allowed (rollStep_of_next settled next)

end C4D
