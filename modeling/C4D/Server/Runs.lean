import C4D.Server.Reconfiguration

/-!
# The handlers as functions on the data

What each handler does to the data when it finds the locks it takes free, and
where it waits when the registry lock or the cluster lock is held.

The registry lock is held for good after `handleNodeFailure` was refused a
transition, and the cluster lock after `removeNode` waited for it inside its own
reconfiguration.
-/

set_option autoImplicit false

namespace C4D

open Foundations Guarded

/-! ## Functional forms -/

namespace Server

variable (req : RegisterRequest) (now : Int) (s : Server)

/-- The data after a known node has reconnected. -/
def reconnected (node : NodeState) : Server :=
  refreshHealth req.nodeId node.status now
    (updateSession req.nodeId (reconnectSession req now node) s).2

/-- The data after the session of an admitted node is registered. -/
def sessionRegistered (status : Status) (rank : Int) : Server :=
  (registerSession req.nodeId req.nodeUrl status rank now s).2

/-- The data after an admitted node has its session and its registry entry. -/
def enrolled (status : Status) (rank : Int) : Server :=
  (registerNode req.nodeId req.nodeUrl status rank now (s.sessionRegistered req now status rank)).2

variable (round : Round)

/-- The active nodes in the order of their URLs. -/
def startTargets : List String :=
  sortBy round.ties s.nodes.urlOf (s.nodes.listWith round.order .active)

/-- The data after the ranks are assigned by URL and the start commands are sent. -/
def started : Server :=
  let s' := { s with nodes := s.nodes.assignRanks (s.startTargets round) 0 }
  { s' with rounds := s'.rounds ++
      [(s.startTargets round).map (s'.startCommand (s.startTargets round))] }

variable (setting : Setting) (order : Shuffle String)

/-- The nodes a health tick times out, in the order it visits them. -/
def timeouts : List String :=
  (order.apply s.health.keys).filter fun nodeID => (s.health.lookup nodeID).any fun health =>
    health.status ≠ .failed ∧ health.olderThan setting.config.heartbeatTimeout now

/-- The data after a health tick. -/
def timedOut : Server :=
  (cleanupSessions (setting.config.heartbeatTimeout * 2) now
    ((s.timeouts now setting order).foldl (fun s nodeID => s.handleNodeTimeout nodeID) s)).2

/-- The data after a cleanup tick. -/
def cleanedUp : Server :=
  (s.deadConnections setting now order).foldl removeDead
    ((s.deadConnections setting now order).foldl (fun s nodeID =>
      (disconnectSession nodeID now s).2) s)

/-- The data after an accepted failure notification of a node that was not failed. -/
def failedOver (nodeID : String) (oldStatus : Status) : Server :=
  let s := failNode nodeID oldStatus { s with current := .reconfiguring }
  if oldStatus = .active then { s with spawned := s.spawned + 1 } else s

/-- The data after a node is removed and before the cluster is reconfigured. -/
def removed (nodeID : String) (status : Status) : Server :=
  (countRemoved status { s with current := .reconfiguring }).deleteNode nodeID

/-- The data after a spawned reconfiguration is scheduled. -/
def scheduled : Server := { s with spawned := s.spawned - 1, inFlight := s.inFlight + 1 }

end Server

variable {setting : Setting} {s : Server} {locks : Lock → RWMutex}

/-- All expected nodes are counted and no program has been started. -/
def Server.complete (setting : Setting) (s : Server) : Prop :=
  setting.config.expects (s.activeNodes + s.standbyNodes) ∧ s.current = .initializing

instance (setting : Setting) (s : Server) : Decidable (s.complete setting) :=
  inferInstanceAs (Decidable (_ ∧ _))

/-! ## Start -/

theorem startProgramOnNodes_run (answers : String → Bool) (nodes : List String) :
    (startProgramOnNodes answers nodes).run ⟨s, locks⟩ =
      .ok (if nodes.all answers then .ok () else
          .error (.startFailed (nodes.filter fun id => !answers id)))
        ⟨{ s with rounds := s.rounds ++ [nodes.map (s.startCommand nodes)] }, locks⟩ := by
  simp only [startProgramOnNodes, EStateM.run_bind, update_run]
  split <;> rfl

section Start

variable (setting) (round : Round) (clusterFree : locks .clusterMu = .free)
  (stateFree : locks .stateMu = .free) (initializing : s.current = .initializing)

theorem stateFree_within (stateFree : locks .stateMu = .free) (held : RWMutex) :
    Function.update locks .clusterMu held .stateMu = .free := by
  rw [Function.update_of_ne (by decide), stateFree]

include clusterFree stateFree initializing

/-- With active nodes missing, nothing is started. -/
theorem checkAndStartProgram_run_waiting
    (few : s.nodes.count .active < setting.config.expectedNodes - setting.config.standbyNodes) :
    (checkAndStartProgram setting round).run ⟨s, locks⟩ = .ok (.ok ()) ⟨s, locks⟩ := by
  have stateWithin := stateFree_within stateFree .written
  apply withLock_run clusterFree
  simp only [EStateM.run_bind, current_run stateWithin, initializing, read_run,
    Registry.length_listWith, if_pos few, ne_eq, not_true_eq_false, false_and, if_false,
    EStateM.run_pure]

/-- With all active nodes present, the program is started, and the server is in `Running` if
every node answers. -/
theorem checkAndStartProgram_run
    (enough : setting.config.expectedNodes - setting.config.standbyNodes ≤ s.nodes.count .active) :
    (checkAndStartProgram setting round).run ⟨s, locks⟩ =
      if (s.startTargets round).all round.answers then
        .ok (.ok ()) ⟨{ s.started round with current := .running }, locks⟩
      else .ok (.error (.programNotStarted (.startFailed
          ((s.startTargets round).filter fun id => !round.answers id))))
        ⟨s.started round, locks⟩ := by
  have stateWithin := stateFree_within stateFree .written
  have running (s' : Server) (same : s'.current = .initializing) :
      State.running ∈ validTransitions s'.current := by
    rw [same]
    decide
  by_cases answered : (s.startTargets round).all round.answers
  · rw [if_pos answered]
    apply withLock_run clusterFree
    rw [Server.startTargets] at answered
    simp only [EStateM.run_bind, current_run stateWithin, initializing, read_run, update_run,
      Registry.length_listWith, if_neg (not_lt.mpr enough), ne_eq, not_true_eq_false, false_and,
      if_false, startProgramOnNodes_run, answered, if_true, reduceCtorEq, EStateM.run_pure,
      transition_run .running stateWithin (by decide) (running _ _)]
    rfl
  · rw [if_neg answered]
    apply withLock_run clusterFree
    rw [Server.startTargets] at answered
    simp only [EStateM.run_bind, current_run stateWithin, initializing, read_run, update_run,
      Registry.length_listWith, if_neg (not_lt.mpr enough), ne_eq, not_true_eq_false, false_and,
      if_false, startProgramOnNodes_run, if_neg answered, reduceCtorEq, EStateM.run_pure,
      Server.started, Server.startTargets]

omit initializing in
/-- A program that is running is not started again. -/
theorem checkAndStartProgram_run_running (running : s.current = .running) :
    (checkAndStartProgram setting round).run ⟨s, locks⟩ = .ok (.ok ()) ⟨s, locks⟩ := by
  have stateWithin := stateFree_within stateFree .written
  apply withLock_run clusterFree
  simp only [EStateM.run_bind, current_run stateWithin, running, read_run, ne_eq, not_true_eq_false,
    and_false, if_false]
  split
  · rfl
  · simp only [EStateM.run_bind, current_run stateWithin, running, if_true, EStateM.run_pure]

omit initializing in
/-- An attempt to start the program returns, with every lock as before, and has started it at
most. -/
theorem checkAndStartProgram_returns :
    ∃ result s', (checkAndStartProgram setting round).run ⟨s, locks⟩ = .ok result ⟨s', locks⟩ ∧
      (s' = s ∨ ∃ current, s' = { s.started round with current }) := by
  by_cases running : s.current = .running
  · exact ⟨_, _, checkAndStartProgram_run_running setting round clusterFree stateFree running, .inl rfl⟩
  by_cases initializing : s.current = .initializing
  · rcases lt_or_ge (s.nodes.count .active)
      (setting.config.expectedNodes - setting.config.standbyNodes) with few | enough
    · exact ⟨_, _, checkAndStartProgram_run_waiting setting round clusterFree stateFree initializing few,
        .inl rfl⟩
    · rw [checkAndStartProgram_run setting round clusterFree stateFree initializing enough]
      split
      · exact ⟨_, _, rfl, .inr ⟨.running, rfl⟩⟩
      · exact ⟨_, _, rfl, .inr ⟨s.current, rfl⟩⟩
  · have refused : s.current ≠ .initializing ∧ s.current ≠ .running := ⟨initializing, running⟩
    refine ⟨.error (.cannotStart s.current), s, withLock_run clusterFree ?_, .inl rfl⟩
    simp only [EStateM.run_bind, current_run (stateFree_within stateFree .written), if_pos refused,
      EStateM.run_pure]

end Start

/-! ## Register -/

section Register

variable (setting) (req : RegisterRequest) (now : Int) (round : Round)

theorem register_run_refused (stateFree : locks .stateMu = .free)
    (refused : s.current ≠ .initializing ∧ s.current ≠ .running) :
    ∃ refusal, (register setting req now round).run ⟨s, locks⟩ =
      .ok (.error refusal) ⟨s, locks⟩ := by
  simp only [register, EStateM.run_bind, current_run stateFree]
  by_cases failed : s.current = .failed
  · exact ⟨_, by rw [if_pos failed, EStateM.run_pure]⟩
  · exact ⟨_, by rw [if_neg failed, if_pos refused, EStateM.run_pure]⟩

/-- The states in which the server accepts registrations. -/
def State.accepting (state : State) : Prop := state = .initializing ∨ state = .running

instance (state : State) : Decidable state.accepting := inferInstanceAs (Decidable (_ ∨ _))

theorem State.accepting.ne_failed {state : State} (accepting : state.accepting) :
    state ≠ .failed := by
  rcases accepting with same | same <;> rw [same] <;> decide

theorem State.accepting.not_refused {state : State} (accepting : state.accepting) :
    ¬ (state ≠ .initializing ∧ state ≠ .running) :=
  fun refused => accepting.elim refused.1 refused.2

@[simp] theorem Server.nodes_captureMaster : (s.captureMaster req).nodes = s.nodes := by
  unfold Server.captureMaster
  split <;> rfl

@[simp] theorem Server.sessions_captureMaster : (s.captureMaster req).sessions = s.sessions := by
  unfold Server.captureMaster
  split <;> rfl

section Accepting

variable (stateFree : locks .stateMu = .free) (sessionFree : locks .sessionMu = .free)
  (accepting : s.current.accepting)

include stateFree sessionFree accepting

/-- A node without a session is registered anew. -/
theorem register_run_fresh (fresh : s.sessions.lookup req.nodeId = none) :
    (register setting req now round).run ⟨s, locks⟩ =
      (registerNew setting req now round).run ⟨s.captureMaster req, locks⟩ := by
  simp only [register, EStateM.run_bind, current_run stateFree, if_neg accepting.ne_failed,
    if_neg accepting.not_refused, update_run, registerBySession,
    getSession_run sessionFree, Server.sessions_captureMaster, fresh]

variable {session : SessionState} (known : s.sessions.lookup req.nodeId = some session)

include known

/-- A node with a session waits for a registry lock that is held. -/
theorem register_run_blocked (held : locks .registryMu ≠ .free) :
    (register setting req now round).run ⟨s, locks⟩ =
      .error (.blocked .registryMu) ⟨s.captureMaster req, locks⟩ := by
  simp only [register, EStateM.run_bind, current_run stateFree, if_neg accepting.ne_failed,
    if_neg accepting.not_refused, update_run, registerBySession,
    getSession_run sessionFree, Server.sessions_captureMaster, known, registerKnown,
    lock_run_blocked held]

variable (registryFree : locks .registryMu = .free)

include registryFree

/-- A node with a session that is no longer registered is registered anew. -/
theorem register_run_unregistered (unregistered : s.nodes.lookup req.nodeId = none) :
    (register setting req now round).run ⟨s, locks⟩ =
      (registerNew setting req now round).run ⟨s.captureMaster req, locks⟩ := by
  simp only [register, EStateM.run_bind, current_run stateFree, if_neg accepting.ne_failed,
    if_neg accepting.not_refused, update_run, registerBySession,
    getSession_run sessionFree, Server.sessions_captureMaster, known, registerKnown,
    lock_run registryFree, read_run,
    Server.nodes_captureMaster, unregistered, unlock_run, release_eq registryFree]

/-- A known node reconnects. -/
theorem register_run_reconnected {node : NodeState}
    (registered : s.nodes.lookup req.nodeId = some node) :
    ∃ response, (register setting req now round).run ⟨s, locks⟩ =
      .ok (.ok response) ⟨(s.captureMaster req).reconnected req now node, locks⟩ := by
  have sessionWithin : Function.update locks .registryMu .written .sessionMu = .free := by
    rw [Function.update_of_ne (by decide), sessionFree]
  simp only [register, EStateM.run_bind, current_run stateFree, if_neg accepting.ne_failed,
    if_neg accepting.not_refused, update_run, registerBySession,
    getSession_run sessionFree, Server.sessions_captureMaster, known, registerKnown,
    lock_run registryFree, read_run,
    Server.nodes_captureMaster, registered, critical_run sessionWithin, unlock_run,
    release_eq registryFree, EStateM.run_pure]
  exact ⟨_, rfl⟩

end Accepting

/-! The counters decide the admission. -/

section Admission

variable (metricsFree : locks .metricsMu = .free)

include metricsFree

theorem registerNew_run_full {refusal : GrpcError} {s' : Server}
    (full : s.admitNode setting = (.error refusal, s')) :
    (registerNew setting req now round).run ⟨s, locks⟩ = .ok (.error refusal) ⟨s', locks⟩ := by
  simp only [registerNew, EStateM.run_bind, critical_run metricsFree, full, EStateM.run_pure]

variable {status : Status} {rank : Int} {counted : Server}
  (admitted : s.admitNode setting = (.ok (status, rank), counted))
  (sessionFree : locks .sessionMu = .free)

include admitted sessionFree

/-- An admitted node waits for a registry lock that is held, with its session registered. -/
theorem registerNew_run_blocked (held : locks .registryMu ≠ .free) :
    (registerNew setting req now round).run ⟨s, locks⟩ =
      .error (.blocked .registryMu) ⟨counted.sessionRegistered req now status rank, locks⟩ := by
  simp only [registerNew, EStateM.run_bind, critical_run metricsFree, admitted,
    critical_run sessionFree, critical_run_blocked held]
  rfl

variable (registryFree : locks .registryMu = .free) (stateFree : locks .stateMu = .free)

include registryFree stateFree

theorem registerNew_run_enrolled
    (incomplete : ¬ (counted.enrolled req now status rank).complete setting) :
    ∃ response, (registerNew setting req now round).run ⟨s, locks⟩ =
      .ok (.ok response) ⟨counted.enrolled req now status rank, locks⟩ := by
  simp only [registerNew, EStateM.run_bind, critical_run metricsFree, admitted,
    critical_run sessionFree, critical_run registryFree, read_run, startWhenComplete,
    current_run stateFree]
  exact ⟨_, congrFun (if_neg incomplete) _⟩

/-- The node that completes the cluster is told how the start of the programs ended. -/
theorem registerNew_run_complete
    (complete : (counted.enrolled req now status rank).complete setting)
    {w : World} {result : Except ClusterError Unit}
    (starts : (checkAndStartProgram setting round).run
      ⟨counted.enrolled req now status rank, locks⟩ = .ok result w) :
    ∃ response, (registerNew setting req now round).run ⟨s, locks⟩ =
      .ok (match result with
        | .error _ => .error ⟨.internal, "failed to start programs"⟩
        | .ok () => .ok response) w := by
  simp only [registerNew, EStateM.run_bind, critical_run metricsFree, admitted,
    critical_run sessionFree, critical_run registryFree, read_run, startWhenComplete,
    current_run stateFree]
  change ∃ response, (if (counted.enrolled req now status rank).complete setting then _ else _ :
    Op _).run ⟨counted.enrolled req now status rank, locks⟩ = .ok _ w
  rw [if_pos complete, EStateM.run_bind, starts]
  cases result with
  | error e => exact ⟨registeredResponse req status rank 0, rfl⟩
  | ok _ => exact ⟨_, rfl⟩

theorem registerNew_run_complete_blocked
    (complete : (counted.enrolled req now status rank).complete setting)
    (held : locks .clusterMu ≠ .free) :
    (registerNew setting req now round).run ⟨s, locks⟩ =
      .error (.blocked .clusterMu) ⟨counted.enrolled req now status rank, locks⟩ := by
  simp only [registerNew, EStateM.run_bind, critical_run metricsFree, admitted,
    critical_run sessionFree, critical_run registryFree, read_run, startWhenComplete,
    current_run stateFree]
  change (if (counted.enrolled req now status rank).complete setting then _ else _ :
    Op _).run ⟨counted.enrolled req now status rank, locks⟩ = _
  rw [if_pos complete, EStateM.run_bind, checkAndStartProgram, withLock_run_blocked held]

end Admission

end Register

/-! ## Heartbeats and metrics -/

theorem sendHeartbeat_run (s : Server) (req : HeartbeatRequest) (now : Int)
    (registryFree : locks .registryMu = .free) :
    ∃ answer, (sendHeartbeat req now).run ⟨s, locks⟩ =
      .ok answer ⟨(s.heartbeat req.nodeId now).2, locks⟩ := by
  simp only [sendHeartbeat, EStateM.run_bind, critical_run registryFree]
  cases (s.heartbeat req.nodeId now).1 <;> exact ⟨_, rfl⟩

/-- The matrix has as many rows as its size, and every row has that length. -/
structure LatencyMatrix.Square (lm : LatencyMatrix) : Prop where
  rows : lm.data.length = lm.size.toNat
  columns : ∀ row ∈ lm.data, row.length = lm.size.toNat

theorem square_newLatencyMatrix (size : Int) : (newLatencyMatrix size).Square where
  rows := List.length_replicate
  columns row mem := by rw [List.eq_of_mem_replicate mem, List.length_replicate]; rfl

namespace LatencyMatrix

/-- The latency from one rank to another. -/
def cell (lm : LatencyMatrix) (i j : Int) : ℚ :=
  ((lm.data[i.toNat]?).getD [])[j.toNat]?.getD 0

/-- Values are written into the row of one rank, and nothing else changes. -/
structure Written (rank : Int) (ranks : List Int) (value : Int → ℚ) (lm lm' : LatencyMatrix) :
    Prop where
  square : lm'.Square
  size : lm'.size = lm.size
  cell : ∀ i j, 0 ≤ i → i < lm.size → 0 ≤ j → j < lm.size →
    lm'.cell i j = if i = rank ∧ j ∈ ranks then value j else lm.cell i j

theorem Written.refl {lm : LatencyMatrix} (square : lm.Square) (rank : Int) (value : Int → ℚ) :
    Written rank [] value lm lm where
  square := square
  size := rfl
  cell i j _ _ _ _ := by rw [if_neg fun here => absurd here.2 List.not_mem_nil]

theorem Written.cons {rank remoteRank : Int} {ranks : List Int} {value : Int → ℚ}
    {lm lm' lm'' : LatencyMatrix} (first : Written rank [remoteRank] value lm lm')
    (rest : Written rank ranks value lm' lm'') :
    Written rank (remoteRank :: ranks) value lm lm'' where
  square := rest.square
  size := rest.size.trans first.size
  cell i j lower upper left right := by
    rw [rest.cell i j lower (first.size ▸ upper) left (first.size ▸ right),
      first.cell i j lower upper left right]
    by_cases row : i = rank <;> by_cases later : j ∈ ranks <;> simp [row, later]

/-- An update of a square matrix is in range, and writes one cell. -/
theorem Square.updateLatency {lm : LatencyMatrix} (square : lm.Square) (source target : Int)
    (value : Int → ℚ) :
    ∃ lm', lm.updateLatency source target (value target) = some lm' ∧
      Written source [target] value lm lm' := by
  unfold LatencyMatrix.updateLatency
  split
  · next inside =>
      have bound : source.toNat < lm.data.length := by rw [square.rows]; omega
      have width : target.toNat < (lm.data[source.toNat]).length := by
        rw [square.columns _ (List.getElem_mem bound)]
        omega
      simp only [List.getElem?_eq_getElem bound, if_pos width]
      refine ⟨_, rfl, ⟨?_, fun row mem => ?_⟩, rfl, fun i j lower upper left right => ?_⟩
      · rw [List.length_set, square.rows]
      · rcases List.mem_or_eq_of_mem_set mem with mem | rfl
        · exact square.columns row mem
        · rw [List.length_set, square.columns _ (List.getElem_mem bound)]
      · have row : i = source ↔ source.toNat = i.toNat := by omega
        have column : j = target ↔ target.toNat = j.toNat := by omega
        simp only [cell, List.getElem?_set, List.mem_singleton, row, column]
        by_cases here : source.toNat = i.toNat
        · rw [← here]
          by_cases there : target.toNat = j.toNat
          · simp [bound, there ▸ width, (column.mpr there).symm]
          · simp [bound, there]
        · simp [here]
  · next outside =>
      refine ⟨lm, rfl, square, rfl, fun i j lower upper left right => ?_⟩
      rw [if_neg]
      rintro ⟨rfl, mem⟩
      rw [List.mem_singleton] at mem
      exact outside ⟨lower, upper, mem ▸ left, mem ▸ right⟩

end LatencyMatrix

section Metrics

variable (matrixFree : locks .matrixMu = .free) (square : s.latencyMatrix.Square)

include matrixFree square

theorem updateLatency_run (source target : Int) (value : Int → ℚ) :
    ∃ lm, LatencyMatrix.Written source [target] value s.latencyMatrix lm ∧
      (updateLatency source target (value target)).run ⟨s, locks⟩ =
        .ok () ⟨{ s with latencyMatrix := lm }, locks⟩ := by
  obtain ⟨lm, updated, written⟩ := square.updateLatency source target value
  refine ⟨lm, written, ?_⟩
  simp only [updateLatency, EStateM.run_bind, lock_run matrixFree, read_run, updated, update_run,
    unlock_run, release_eq matrixFree]

/-- The latency a report carries for a rank. -/
def RankLatencies.value (latencies : RankLatencies) (remoteRank : Int) : ℚ :=
  (latencies.avgLatencies.lookup remoteRank).getD 0

theorem latencyLoop_run (latencies : RankLatencies) (ranks : List Int) :
    ∃ lm, LatencyMatrix.Written latencies.rank ranks latencies.value s.latencyMatrix lm ∧
      (latencyLoop latencies ranks).run ⟨s, locks⟩ =
        .ok () ⟨{ s with latencyMatrix := lm }, locks⟩ := by
  induction ranks generalizing s with
  | nil => exact ⟨_, .refl square _ _, rfl⟩
  | cons remoteRank rest ih =>
      obtain ⟨lm, here, writes⟩ := updateLatency_run matrixFree square latencies.rank remoteRank
        latencies.value
      obtain ⟨lm', after, runs⟩ := ih (s := { s with latencyMatrix := lm }) here.square
      refine ⟨lm', here.cons after, ?_⟩
      rw [RankLatencies.value] at writes
      simp only [latencyLoop, EStateM.run_bind, writes, runs]

variable (metricsFree : locks .metricsMu = .free) {metrics : Metrics}

include metricsFree

omit matrixFree square in
theorem processMetrics_run_empty (order : Shuffle Int) (absent : metrics.rankLatencies = none) :
    (processMetrics (some metrics) order).run ⟨s, locks⟩ = .ok () ⟨s, locks⟩ :=
  withLock_run metricsFree (by simp only [absent, EStateM.run_pure])

theorem processMetrics_run (order : Shuffle Int) {latencies : RankLatencies}
    (present : metrics.rankLatencies = some latencies) :
    ∃ lm, LatencyMatrix.Written latencies.rank latencies.avgLatencies.keys latencies.value
        s.latencyMatrix lm ∧
      (processMetrics (some metrics) order).run ⟨s, locks⟩ =
        .ok () ⟨{ s with latencyMatrix := lm }, locks⟩ := by
  have matrixWithin : Function.update locks .metricsMu .written .matrixMu = .free := by
    rw [Function.update_of_ne (by decide), matrixFree]
  obtain ⟨lm, written, runs⟩ := latencyLoop_run matrixWithin square latencies
    (order.apply latencies.avgLatencies.keys)
  refine ⟨lm, ⟨written.square, written.size, fun i j lower upper left right => ?_⟩,
    withLock_run metricsFree ?_⟩
  · simp only [written.cell i j lower upper left right, order.mem_apply]
  · simp only [present, runs]

end Metrics

/-- The request that ends in a nil dereference: an active node sends no metrics. -/
def MetricsRequest.crashes (req : MetricsRequest) (s : Server) : Prop :=
  s.current = .running ∧ s.nodes.statusOf req.nodeId = some .active ∧ req.metrics = none

/-- The latencies of a request whose metrics are recorded: the server is in `Running` and the sender is
registered and active. -/
def MetricsRequest.recorded (req : MetricsRequest) (s : Server) : Option RankLatencies :=
  if s.current = .running ∧ s.nodes.statusOf req.nodeId = some .active then
    req.metrics.bind Metrics.rankLatencies
  else none

/-- Every way in which a call of `SendMetrics` ends. -/
inductive SendMetricsEnds (req : MetricsRequest) (s : Server) (locks : Lock → RWMutex) :
    EStateM.Result (Halt Lock) World (Except GrpcError String) → Prop where
  | refused (refusal : GrpcError)
      (closed : s.current ≠ .running ∨ s.nodes.statusOf req.nodeId = none) :
      SendMetricsEnds req s locks (.ok (.error refusal) ⟨s, locks⟩)
  /-- The sender is not active, or reports no latencies. -/
  | idle (nothing : req.recorded s = none) :
      SendMetricsEnds req s locks (.ok (.ok "Metrics processed successfully") ⟨s, locks⟩)
  | recorded {latencies : RankLatencies} {lm : LatencyMatrix}
      (carries : req.recorded s = some latencies)
      (written : LatencyMatrix.Written latencies.rank latencies.avgLatencies.keys latencies.value
        s.latencyMatrix lm) :
      SendMetricsEnds req s locks
        (.ok (.ok "Metrics processed successfully") ⟨{ s with latencyMatrix := lm }, locks⟩)
  | crashed (w : World) (crashes : req.crashes s) :
      SendMetricsEnds req s locks (.error .panicked w)

section SendMetrics

variable {req : MetricsRequest} (order : Shuffle Int) (stateFree : locks .stateMu = .free)
  (metricsFree : locks .metricsMu = .free)

include stateFree metricsFree

theorem sendMetrics_run_crashes (crashes : req.crashes s) :
    ∃ w, (sendMetrics req order).run ⟨s, locks⟩ = .error .panicked w := by
  obtain ⟨running, active, absent⟩ := crashes
  have panics : (processMetrics none order).run ⟨s, locks⟩ =
      .error .panicked ⟨s, Function.update locks .metricsMu .written⟩ :=
    withLock_run_error metricsFree rfl
  simp only [sendMetrics, EStateM.run_bind, current_run stateFree, running, ne_eq,
    not_true_eq_false, if_false, read_run, active, if_true, absent, panics]
  exact ⟨_, rfl⟩

variable (req) (matrixFree : locks .matrixMu = .free) (square : s.latencyMatrix.Square)

include matrixFree square

theorem sendMetrics_ends :
    SendMetricsEnds req s locks ((sendMetrics req order).run ⟨s, locks⟩) := by
  by_cases running : s.current = .running
  case neg =>
    simp only [sendMetrics, EStateM.run_bind, current_run stateFree, ne_eq, if_pos running]
    exact .refused _ (.inl running)
  cases found : s.nodes.statusOf req.nodeId with
  | none =>
      simp only [sendMetrics, EStateM.run_bind, current_run stateFree, running, ne_eq,
        not_true_eq_false, if_false, read_run, found]
      exact .refused _ (.inr found)
  | some status =>
      by_cases active : status = .active
      case neg =>
        have nothing : req.recorded s = none :=
          if_neg fun accepted => active (Option.some.inj (found.symm.trans accepted.2))
        simp only [sendMetrics, EStateM.run_bind, current_run stateFree, running, ne_eq,
          not_true_eq_false, if_false, read_run, found, if_neg active]
        exact .idle nothing
      subst active
      have accepted : req.recorded s = req.metrics.bind Metrics.rankLatencies :=
        if_pos ⟨running, found⟩
      have run (lm : LatencyMatrix) (processed : (processMetrics req.metrics order).run ⟨s, locks⟩ =
          .ok () ⟨{ s with latencyMatrix := lm }, locks⟩) : (sendMetrics req order).run ⟨s, locks⟩ =
            .ok (.ok "Metrics processed successfully") ⟨{ s with latencyMatrix := lm }, locks⟩ := by
        simp only [sendMetrics, EStateM.run_bind, current_run stateFree, running, ne_eq,
          not_true_eq_false, if_false, read_run, found, if_true, processed]
        rfl
      cases present : req.metrics with
      | none =>
          have crashes : req.crashes s := ⟨running, found, present⟩
          obtain ⟨w, panics⟩ := sendMetrics_run_crashes order stateFree metricsFree crashes
          rw [panics]
          exact .crashed w crashes
      | some metrics =>
          rw [present] at accepted run
          cases carried : metrics.rankLatencies with
          | none =>
              rw [run s.latencyMatrix (processMetrics_run_empty metricsFree order carried)]
              exact .idle (accepted.trans carried)
          | some latencies =>
              obtain ⟨lm, written, processed⟩ :=
                processMetrics_run matrixFree square metricsFree order carried
              rw [run lm processed]
              exact .recorded (accepted.trans carried) written

variable {req}

theorem sendMetrics_run (sound : ¬ req.crashes s) :
    ∃ answer, ∃ lm : LatencyMatrix, lm.Square ∧ (sendMetrics req order).run ⟨s, locks⟩ =
      .ok answer ⟨{ s with latencyMatrix := lm }, locks⟩ := by
  have ends := sendMetrics_ends req order stateFree metricsFree matrixFree square
  generalize (sendMetrics req order).run ⟨s, locks⟩ = outcome at ends ⊢
  cases ends with
  | refused refusal closed => exact ⟨_, s.latencyMatrix, square, rfl⟩
  | idle nothing => exact ⟨_, s.latencyMatrix, square, rfl⟩
  | recorded carries written => exact ⟨_, _, written.square, rfl⟩
  | crashed w crashes => exact absurd crashes sound

end SendMetrics

/-! ## Failure notifications -/

section Failure

variable {nodeID : String} {req : FailureNotificationRequest}

theorem handleNodeFailure_run_unknown (registryFree : locks .registryMu = .free)
    (unknown : s.nodes.statusOf nodeID = none) :
    (handleNodeFailure nodeID).run ⟨s, locks⟩ = .ok () ⟨s, locks⟩ := by
  simp only [handleNodeFailure, EStateM.run_bind, lock_run registryFree, read_run, unknown,
    unlock_run, release_eq registryFree]

section Known

variable (registryFree : locks .registryMu = .free) (stateFree : locks .stateMu = .free)
  {status : Status} (known : s.nodes.statusOf nodeID = some status)

include registryFree stateFree known

/-- A refused transition leaves the data alone and the registry lock held. -/
theorem handleNodeFailure_run_refused (refused : ¬ s.current.reconfigurable) :
    (handleNodeFailure nodeID).run ⟨s, locks⟩ =
      .ok () ⟨s, Function.update locks .registryMu .written⟩ := by
  have stateWithin : Function.update locks .registryMu .written .stateMu = .free := by
    rw [Function.update_of_ne (by decide), stateFree]
  simp only [handleNodeFailure, EStateM.run_bind, lock_run registryFree, read_run, known,
    transition_run_refused stateWithin (by decide) (State.reconfigurable_iff.not.mp refused),
    EStateM.run_pure]

theorem handleNodeFailure_run (accepted : s.current.reconfigurable) :
    (handleNodeFailure nodeID).run ⟨s, locks⟩ = .ok () ⟨s.failedOver nodeID status, locks⟩ := by
  have stateWithin : Function.update locks .registryMu .written .stateMu = .free := by
    rw [Function.update_of_ne (by decide), stateFree]
  simp only [handleNodeFailure, EStateM.run_bind, lock_run registryFree, read_run, known,
    transition_run .reconfiguring stateWithin (by decide)
      (State.reconfigurable_iff.mp accepted), update_run, unlock_run, release_eq registryFree,
    Server.failedOver]
  split <;> rfl

end Known

theorem notifyFailure_run_waiting (held : locks .registryMu = .written) :
    (notifyFailure req).run ⟨s, locks⟩ = .error (.blocked .registryMu) ⟨s, locks⟩ := by
  simp only [notifyFailure, EStateM.run_bind, readLocked_run_blocked held]

section Reported

variable (registryFree : locks .registryMu = .free)

include registryFree

theorem notifyFailure_run_ignored
    (ignored : s.nodes.statusOf req.nodeId = none ∨ s.nodes.statusOf req.nodeId = some .failed) :
    ∃ answer, (notifyFailure req).run ⟨s, locks⟩ = .ok answer ⟨s, locks⟩ := by
  simp only [notifyFailure, EStateM.run_bind, readLocked_run registryFree, if_pos ignored]
  exact ⟨_, rfl⟩

variable (stateFree : locks .stateMu = .free) {status : Status}
  (known : s.nodes.statusOf req.nodeId = some status) (working : status ≠ .failed)

include stateFree known working

theorem notifyFailure_run (accepted : s.current.reconfigurable) :
    ∃ answer, (notifyFailure req).run ⟨s, locks⟩ =
      .ok answer ⟨((s.failedOver req.nodeId status).recordFailure req).2, locks⟩ := by
  have handled : ¬ (s.nodes.statusOf req.nodeId = none ∨
      s.nodes.statusOf req.nodeId = some .failed) := by
    simp only [known, reduceCtorEq, Option.some.injEq, working, or_self, not_false_eq_true]
  simp only [notifyFailure, EStateM.run_bind, readLocked_run registryFree, if_neg handled,
    handleNodeFailure_run registryFree stateFree known accepted, critical_run registryFree]
  exact ⟨_, rfl⟩

/-- After a refused transition the handler waits for the registry lock it left held. -/
theorem notifyFailure_run_refused (refused : ¬ s.current.reconfigurable) :
    (notifyFailure req).run ⟨s, locks⟩ =
      .error (.blocked .registryMu) ⟨s, Function.update locks .registryMu .written⟩ := by
  have handled : ¬ (s.nodes.statusOf req.nodeId = none ∨
      s.nodes.statusOf req.nodeId = some .failed) := by
    simp only [known, reduceCtorEq, Option.some.injEq, working, or_self, not_false_eq_true]
  have held : Function.update locks .registryMu .written .registryMu ≠ .free := by
    rw [Function.update_self]
    exact RWMutex.written_ne_free
  simp only [notifyFailure, EStateM.run_bind, readLocked_run registryFree, if_neg handled,
    handleNodeFailure_run_refused registryFree stateFree known refused, critical_run_blocked held]

end Reported

end Failure

/-! ## Ticks -/

section Ticks

variable {now : Int} {order : Shuffle String}

@[simp] theorem Server.health_handleNodeTimeout (nodeID : String) :
    (s.handleNodeTimeout nodeID).health = s.health := by
  unfold Server.handleNodeTimeout
  split
  · simp only
    split_ifs <;> rfl
  · rfl

variable (registryFree : locks .registryMu = .free)

include registryFree

/-- The loop times out the stale nodes of its list, with the read lock given back in between. -/
theorem checkLoop_run (nodeIDs : List String) :
    (checkLoop setting now nodeIDs).run ⟨s, Function.update locks .registryMu { readers := 1 }⟩ =
      .ok () ⟨(nodeIDs.filter fun nodeID => (s.health.lookup nodeID).any fun health =>
          health.status ≠ .failed ∧ health.olderThan setting.config.heartbeatTimeout now).foldl
        (fun s nodeID => s.handleNodeTimeout nodeID) s,
        Function.update locks .registryMu { readers := 1 }⟩ := by
  have reading : Function.update locks .registryMu { readers := 1 } .registryMu =
      { readers := 1 } := Function.update_self ..
  induction nodeIDs generalizing s with
  | nil => rfl
  | cons nodeID rest ih =>
      cases found : s.health.lookup nodeID with
      | none =>
          rw [List.filter_cons_of_neg (by rw [found]; exact Bool.false_ne_true)]
          simp only [checkLoop, EStateM.run_bind, read_run, found]
          exact ih
      | some health =>
          by_cases stale : health.status ≠ .failed ∧
              health.olderThan setting.config.heartbeatTimeout now
          · rw [List.filter_cons_of_pos (by rw [found]; exact decide_eq_true stale),
              List.foldl_cons]
            simp only [checkLoop, EStateM.run_bind, read_run, found, if_pos stale,
              runlock_run reading, release_eq registryFree, handleNodeTimeout,
              critical_run registryFree, rlock_run registryFree]
            rw [ih, Server.health_handleNodeTimeout]
          · rw [List.filter_cons_of_neg (by rw [found]; exact fun hit => stale (of_decide_eq_true hit))]
            simp only [checkLoop, EStateM.run_bind, read_run, found, if_neg stale]
            exact ih

theorem checkNodesHealth_run (sessionFree : locks .sessionMu = .free) :
    (checkNodesHealth setting now order).run ⟨s, locks⟩ =
      .ok () ⟨s.timedOut now setting order, locks⟩ := by
  have reading : Function.update locks .registryMu { readers := 1 } .registryMu =
      { readers := 1 } := Function.update_self ..
  simp only [checkNodesHealth, EStateM.run_bind, rlock_run registryFree, read_run,
    checkLoop_run registryFree, runlock_run reading, release_eq registryFree,
    critical_run sessionFree]
  rfl

omit registryFree in
theorem checkNodesHealth_run_blocked (held : locks .registryMu = .written) :
    (checkNodesHealth setting now order).run ⟨s, locks⟩ =
      .error (.blocked .registryMu) ⟨s, locks⟩ := by
  simp only [checkNodesHealth, EStateM.run_bind, rlock_run_blocked held]

omit registryFree in
theorem disconnectLoop_run (sessionFree : locks .sessionMu = .free) (nodeIDs : List String) :
    (disconnectLoop now nodeIDs).run ⟨s, locks⟩ =
      .ok () ⟨nodeIDs.foldl (fun s nodeID => (s.disconnectSession nodeID now).2) s, locks⟩ := by
  induction nodeIDs generalizing s with
  | nil => rfl
  | cons nodeID rest ih =>
      simp only [disconnectLoop, EStateM.run_bind, critical_run sessionFree, List.foldl_cons]
      exact ih

theorem cleanupDeadConnections_run (sessionFree : locks .sessionMu = .free) :
    (cleanupDeadConnections setting now order).run ⟨s, locks⟩ =
      .ok () ⟨s.cleanedUp now setting order, locks⟩ := by
  have sessionWithin : Function.update locks .registryMu .written .sessionMu = .free := by
    rw [Function.update_of_ne (by decide), sessionFree]
  apply withLock_run registryFree
  simp only [EStateM.run_bind, read_run, disconnectLoop_run sessionWithin, update_run]
  rfl

end Ticks

/-! ## Removal and the spawned reconfiguration -/

section Removal

variable (setting) {nodeID : String} (rounds : Nat → Round)

section Removing

variable (clusterFree : locks .clusterMu = .free)

include clusterFree

theorem removeNode_run_unknown (unknown : s.nodes.statusOf nodeID = none) :
    (removeNode setting nodeID rounds).run ⟨s, locks⟩ =
      .ok (.error (.nodeNotFound nodeID)) ⟨s, locks⟩ := by
  apply withLock_run clusterFree
  simp only [EStateM.run_bind, read_run, unknown, EStateM.run_pure]

variable (stateFree : locks .stateMu = .free) {status : Status}
  (known : s.nodes.statusOf nodeID = some status)

include stateFree known

theorem removeNode_run_refused (refused : ¬ s.current.reconfigurable) :
    ∃ refusal, (removeNode setting nodeID rounds).run ⟨s, locks⟩ =
      .ok (.error refusal) ⟨s, locks⟩ := by
  refine ⟨.reconfiguringRefused (.invalidTransition s.current .reconfiguring),
    withLock_run clusterFree ?_⟩
  simp only [EStateM.run_bind, read_run, known,
    transition_run_refused (stateFree_within stateFree .written) (by decide)
      (State.reconfigurable_iff.not.mp refused), EStateM.run_pure]

variable (accepted : s.current.reconfigurable)

include accepted

theorem removeNode_run_inactive (inactive : status ≠ .active) :
    (removeNode setting nodeID rounds).run ⟨s, locks⟩ =
      .ok (.ok ()) ⟨s.removed nodeID status, locks⟩ := by
  apply withLock_run clusterFree
  simp only [EStateM.run_bind, read_run, known,
    transition_run .reconfiguring (stateFree_within stateFree .written) (by decide)
      (State.reconfigurable_iff.mp accepted), update_run, if_neg inactive, EStateM.run_pure]
  rfl

/-- An active node is removed with a reconfiguration that finds the cluster lock held. -/
theorem removeNode_run_active (registryFree : locks .registryMu = .free)
    (metricsFree : locks .metricsMu = .free) (active : status = .active) :
    match (s.removed nodeID .active).reconfigure setting rounds false with
    | .returned s' => (removeNode setting nodeID rounds).run ⟨s, locks⟩ = .ok (.ok ()) ⟨s', locks⟩
    | .exited s' => ∃ locks',
        (removeNode setting nodeID rounds).run ⟨s, locks⟩ = .error .exited ⟨s', locks'⟩
    | .stuck s' => (removeNode setting nodeID rounds).run ⟨s, locks⟩ =
        .error (.blocked .clusterMu) ⟨s', Function.update locks .clusterMu .written⟩ := by
  have stateWithin := stateFree_within stateFree .written
  have within (l : Lock) (ne : l ≠ .clusterMu) (free : locks l = .free) :
      Function.update locks .clusterMu .written l = .free := by
    rw [Function.update_of_ne ne, free]
  have run := reconfigureCluster_run (s := s.removed nodeID .active) setting rounds
    (within _ (by decide) registryFree) stateWithin (within _ (by decide) metricsFree) (.inr rfl)
  rw [Function.update_self, decide_eq_false RWMutex.written_ne_free] at run
  have moves := transition_run (s := s) .reconfiguring stateWithin (by decide)
    (State.reconfigurable_iff.mp accepted)
  subst active
  cases outcome : (s.removed nodeID .active).reconfigure setting rounds false with
  | returned s' =>
      rw [outcome, Server.removed] at run
      apply withLock_run clusterFree
      simp only [EStateM.run_bind, read_run, known, moves, update_run, if_true]
      exact run
  | exited s' =>
      rw [outcome, Server.removed] at run
      refine ⟨_, withLock_run_error clusterFree (w := ⟨s', Function.update
        (Function.update locks .clusterMu .written) .stateMu .written⟩) ?_⟩
      simp only [EStateM.run_bind, read_run, known, moves, update_run, if_true]
      exact run
  | stuck s' =>
      rw [outcome, Server.removed] at run
      apply withLock_run_error clusterFree
      simp only [EStateM.run_bind, read_run, known, moves, update_run, if_true]
      exact run

end Removing

section Spawned

variable (stateFree : locks .stateMu = .free)

include stateFree

/-- A spawned reconfiguration that is refused ends the process. -/
theorem spawnedReconfigure_run_refused (refused : ¬ s.current.reconfigurable)
    (running : s.current ≠ .failed) :
    ∃ locks', (spawnedReconfigure setting rounds).run ⟨s, locks⟩ =
      .error .exited ⟨s.scheduled.terminated, locks'⟩ := by
  have refuses := reconfigureCluster_run_refused (s := s.scheduled) setting rounds stateFree refused
  have fails := transition_failed_run (s := s.scheduled) stateFree running
  simp only [Server.scheduled] at refuses fails
  simp only [spawnedReconfigure, EStateM.run_bind, update_run, refuses, fails]
  exact ⟨_, rfl⟩

variable (registryFree : locks .registryMu = .free) (metricsFree : locks .metricsMu = .free)

include registryFree metricsFree

theorem spawnedReconfigure_run (accepted : s.current.reconfigurable) :
    match s.scheduled.reconfigure setting rounds (decide (locks .clusterMu = .free)) with
    | .returned s' => (spawnedReconfigure setting rounds).run ⟨s, locks⟩ =
        .ok () ⟨{ s' with inFlight := s'.inFlight - 1 }, locks⟩
    | .exited s' => ∃ locks',
        (spawnedReconfigure setting rounds).run ⟨s, locks⟩ = .error .exited ⟨s', locks'⟩
    | .stuck s' => (spawnedReconfigure setting rounds).run ⟨s, locks⟩ =
        .error (.blocked .clusterMu) ⟨s', locks⟩ := by
  have run := reconfigureCluster_run (s := s.scheduled) setting rounds registryFree stateFree
    metricsFree accepted
  cases outcome : s.scheduled.reconfigure setting rounds (decide (locks .clusterMu = .free)) with
  | returned s' =>
      rw [outcome, Reconfigured.Describes, Server.scheduled] at run
      simp only [spawnedReconfigure, EStateM.run_bind, update_run, run]
  | exited s' =>
      rw [outcome, Reconfigured.Describes, Server.scheduled] at run
      simp only [spawnedReconfigure, EStateM.run_bind, update_run, run]
      exact ⟨_, rfl⟩
  | stuck s' =>
      rw [outcome, Reconfigured.Describes, Server.scheduled] at run
      simp only [spawnedReconfigure, EStateM.run_bind, update_run, run]

end Spawned

end Removal

end C4D
