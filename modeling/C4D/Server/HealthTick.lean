import C4D.Server.Charges

/-!
# Health ticks

The filter of `checkNodesHealth` reads the status in the health entry of a node, and
`handleNodeTimeout` writes the status in its registry entry. A failure notification
writes both, so a registered node whose health entry is failed is failed
(`matched_of_reachable`); a time-out writes only one. `healthTick_exact_iff` says when a
tick is exact and settled by itself all the same.
-/

set_option autoImplicit false

namespace C4D

open Foundations Guarded

namespace Server

/-- The node is registered and has not failed. -/
def Working (s : Server) (id : String) : Prop :=
  ∃ status ∈ s.nodes.statusOf id, status ≠ .failed

/-- The health entry of the node is failed. -/
def Reported (s : Server) (id : String) : Prop :=
  ∃ health ∈ s.health.lookup id, health.status = .failed

/-- The last heartbeat of the node is older than the time-out. -/
def Outdated (setting : Setting) (now : Int) (s : Server) (id : String) : Prop :=
  ∃ health ∈ s.health.lookup id, health.olderThan setting.config.heartbeatTimeout now

/-- A health tick ought to mark the node. -/
def Overdue (setting : Setting) (now : Int) (s : Server) (id : String) : Prop :=
  s.Working id ∧ s.Outdated setting now id

section Instances

variable (setting : Setting) (now : Int) (s : Server) (id : String)

instance : Decidable (s.Working id) := inferInstanceAs (Decidable (∃ status ∈ _, _))

instance : Decidable (s.Reported id) := inferInstanceAs (Decidable (∃ health ∈ _, _))

instance : Decidable (s.Outdated setting now id) := inferInstanceAs (Decidable (∃ health ∈ _, _))

instance : Decidable (s.Overdue setting now id) := inferInstanceAs (Decidable (_ ∧ _))

end Instances

theorem working_iff {s : Server} {id : String} :
    s.Working id ↔ id ∈ s.nodes ∧ s.nodes.statusOf id ≠ some .failed := by
  rw [Working, Registry.mem_iff_statusOf]
  cases s.nodes.statusOf id with
  | none => simp
  | some status => simp

/-- A stale node is outdated, and its health entry is not failed. -/
theorem stale_iff {setting : Setting} {now : Int} {s : Server} {id : String} :
    s.Stale setting now id ↔ s.Outdated setting now id ∧ ¬ s.Reported id := by
  rw [Stale, Outdated, Reported]
  cases s.health.lookup id with
  | none => simp
  | some health => simp [and_comm]

end Server

/-! ## The two records of a node -/

/-- A registered node whose health entry is failed is failed. -/
def Matched (s : Server) : Prop := ∀ id, s.Reported id → ¬ s.Working id

namespace Matched

variable {setting : Setting} {s s' : Server}

/-- Nothing is newly reported, and nothing newly works. -/
theorem fewer (matched : Matched s) (reported : ∀ id, s'.Reported id → s.Reported id)
    (working : ∀ id, s'.Working id → s.Working id) : Matched s' := by
  intro id hit works
  exact matched id (reported id hit) (working id works)

theorem same (matched : Matched s) (health : s'.health = s.health)
    (statuses : ∀ id, s'.nodes.statusOf id = s.nodes.statusOf id) : Matched s' := by
  refine matched.fewer (fun id => ?_) fun id => ?_
  · rw [Server.Reported, health]
    exact fun hit => hit
  · rw [Server.Working, statuses]
    exact fun works => works

/-- A node that gets a health entry with the status of its registry entry. -/
theorem renewed (matched : Matched s) {nodeID : String} {health : NodeHealth}
    (inserted : s'.health = s.health.insert nodeID health)
    (here : s'.nodes.statusOf nodeID = some health.status)
    (others : ∀ id, id ≠ nodeID → s'.nodes.statusOf id = s.nodes.statusOf id) : Matched s' := by
  intro id ⟨entry, found, failed⟩ ⟨status, known, works⟩
  rw [inserted] at found
  by_cases same : id = nodeID
  · subst same
    rw [AList.lookup_insert, Option.mem_some_iff] at found
    rw [here, Option.mem_some_iff] at known
    exact works (known.symm.trans (found ▸ failed))
  · rw [AList.lookup_insert_ne same] at found
    rw [others id same] at known
    exact matched id ⟨entry, found, failed⟩ ⟨status, known, works⟩

/-- A node that leaves, with its health entry. -/
theorem left (matched : Matched s) (nodeID : String) (health : s'.health = s.health.erase nodeID)
    (statuses : ∀ id, s'.nodes.statusOf id =
      if id = nodeID then none else s.nodes.statusOf id) : Matched s' := by
  refine matched.fewer (fun id => ?_) fun id => ?_
  · rintro ⟨entry, found, failed⟩
    rw [health] at found
    by_cases same : id = nodeID
    · rw [same, AList.lookup_erase] at found
      cases found
    · rw [AList.lookup_erase_ne same] at found
      exact ⟨entry, found, failed⟩
  · rintro ⟨status, known, works⟩
    rw [statuses] at known
    split at known
    · cases known
    · exact ⟨status, known, works⟩

theorem foldl_removeDead (matched : Matched s) (nodeIDs : List String) :
    Matched (nodeIDs.foldl Server.removeDead s) := by
  induction nodeIDs generalizing s with
  | nil => exact matched
  | cons nodeID rest ih =>
      apply ih
      refine matched.left nodeID ?_ fun id => ?_
      · unfold Server.removeDead
        rcases s.nodes.statusOf nodeID with _ | _ | _ | _ <;> rfl
      · rw [(Server.departed_removeDead nodeID).status]
        simp only [List.mem_singleton]

/-! ### Reconfigurations -/

/-- Every node that works did so before. -/
def NoneRevived (before s : Server) : Prop := ∀ id, s.Working id → before.Working id

variable {round : Round}

theorem noneRevived_notified (setting : Setting) (round : Round) (s : Server) :
    NoneRevived s (s.notified setting round) := by
  rintro id ⟨status, known, works⟩
  rw [Server.statusOf_notified, Server.statusOf_prepared] at known
  split at known
  · next mem => exact ⟨.standby, Server.statusOf_of_mem_promotions mem, by decide⟩
  · exact ⟨status, known, works⟩

theorem noneRevived_marked : NoneRevived s (s.marked setting round) := by
  rintro id ⟨status, known, works⟩
  apply noneRevived_notified setting round s id
  rw [Server.marked, Server.statusOf_foldl_markFailed] at known
  split at known
  · obtain ⟨_, _, failed⟩ := Option.map_eq_some_iff.mp known
    exact absurd failed.symm works
  · exact ⟨status, known, works⟩

variable {rounds : Nat → Round} {clusterFree : Bool}

theorem ends_noneRevived (setting : Setting) (rounds : Nat → Round) (clusterFree : Bool)
    (s : Server) : (s.reconfigure setting rounds clusterFree).Ends setting rounds clusterFree
      (NoneRevived s) :=
  Server.reconfigureFrom_ends setting rounds clusterFree
    (fun _ _ fewer _ _ id works => fewer id (noneRevived_marked id works)) maxAttempts 0
    fun _ works => works

theorem returned (matched : Matched s)
    (returns : s.reconfigure setting rounds clusterFree = .returned s') : Matched s' := by
  have ends := ends_noneRevived setting rounds clusterFree s
  have health : s'.health = s.health :=
    congrArg Elsewhere.health (Server.returned_of_reconfigure returns).elsewhere
  rw [returns] at ends
  obtain ⟨last, attempt, fewer, _, _, rfl⟩ := ends
  refine matched.fewer (fun id => ?_) fun id works => ?_
  · rw [Server.Reported, health]
    exact fun hit => hit
  · apply fewer id
    apply noneRevived_notified setting (rounds attempt) last
    unfold Server.resumed at works
    split at works
    · exact works
    · exact works

theorem stuck (matched : Matched s)
    (sticks : s.reconfigure setting rounds clusterFree = .stuck s') : Matched s' := by
  have ends := ends_noneRevived setting rounds clusterFree s
  have health : s'.health = s.health :=
    congrArg Elsewhere.health (Server.underway_of_stuck sticks).2.elsewhere
  rw [sticks] at ends
  obtain ⟨_, last, attempt, fewer, rfl⟩ := ends
  refine matched.fewer (fun id => ?_) fun id works => ?_
  · rw [Server.Reported, health]
    exact fun hit => hit
  · exact fewer id (noneRevived_notified _ _ last id works)

end Matched

theorem Server.health_timeouts (nodeIDs : List String) (s : Server) :
    (nodeIDs.foldl (fun s nodeID => s.handleNodeTimeout nodeID) s).health = s.health := by
  induction nodeIDs generalizing s with
  | nil => rfl
  | cons nodeID rest ih => rw [List.foldl_cons, ih, Server.health_handleNodeTimeout]

theorem Server.health_timedOut (setting : Setting) (now : Int) (order : Shuffle String)
    (s : Server) : (s.timedOut now setting order).health = s.health :=
  health_timeouts (s.timeouts now setting order) s

namespace Matched

variable {setting : Setting} {s : Server} {locks : Lock → RWMutex} {w : World}

theorem timedOut (matched : Matched s) (now : Int) (order : Shuffle String) :
    Matched (s.timedOut now setting order) := by
  refine matched.fewer (fun id => ?_) fun id => ?_
  · rw [Server.Reported, Server.health_timedOut]
    exact fun hit => hit
  · rintro ⟨status, known, works⟩
    rw [(Server.expired_timedOut setting now order).status] at known
    split at known
    · obtain ⟨_, _, failed⟩ := Option.map_eq_some_iff.mp known
      exact absurd failed.symm works
    · exact ⟨status, known, works⟩

theorem cleanedUp (matched : Matched s) (now : Int) (order : Shuffle String) :
    Matched (s.cleanedUp now setting order) := by
  obtain ⟨sessions, same, _⟩ :=
    Server.disconnected_foldl now (s.deadConnections setting now order) s
  have kept : Matched { s with sessions } := matched.same rfl fun _ => rfl
  rw [Server.cleanedUp, same]
  exact kept.foldl_removeDead _

/-- A notified failure is written to both records. -/
theorem failedOver (matched : Matched s) (req : FailureNotificationRequest) (status : Status) :
    Matched ((s.failedOver req.nodeId status).recordFailure req).2 := by
  have health : (s.failedOver req.nodeId status).health = s.health := by
    cases status <;> rfl
  have statuses (id : String) : (s.failedOver req.nodeId status).nodes.statusOf id =
      if id = req.nodeId then (s.nodes.statusOf id).map fun _ => .failed else s.nodes.statusOf id :=
    Server.statusOf_failedOver id
  rintro id ⟨entry, found, failed⟩ ⟨new, known, works⟩
  change (s.failedOver req.nodeId status).nodes.statusOf id = some new at known
  rw [statuses] at known
  by_cases same : id = req.nodeId
  · rw [if_pos same] at known
    obtain ⟨_, _, failing⟩ := Option.map_eq_some_iff.mp known
    exact works failing.symm
  · rw [if_neg same] at known
    change (Table.modify _ _ (s.failedOver req.nodeId status).health).lookup id = some entry at found
    rw [Table.lookup_modify_of_ne same, health] at found
    exact matched id ⟨entry, found, failed⟩ ⟨new, known, works⟩

section Steps

variable (settled : Settled ⟨s, locks⟩) (matched : Matched s)

include settled matched

theorem register (req : RegisterRequest) (now : Int) (round : Round) :
    Matched (Action.run setting ⟨s, locks⟩ (.register req now round)).2.data := by
  have captured : Matched (s.captureMaster req) := by
    unfold Server.captureMaster
    split
    · exact matched.same rfl fun _ => rfl
    · exact matched
  have admits {status : Status} {rank : Int} {counted : Server}
      (admitted : (s.captureMaster req).admitNode setting = (.ok (status, rank), counted)) :
      Matched counted := by
    cases Server.admitted_of_admits admitted
    · exact captured.same rfl fun _ => rfl
    · exact captured.same rfl fun _ => rfl
  have enrolled {status : Status} {rank : Int} {counted : Server}
      (enrolls : Enrolls setting s locks req status rank counted) :
      Matched (counted.enrolled req now status rank) := by
    obtain ⟨session, _, same⟩ := Server.enrolled_eq counted req now status rank
    rw [same]
    refine (admits enrolls.admitted).renewed rfl ?_ fun id ne => ?_
    · rw [Registry.statusOf_insert, if_pos rfl]
    · rw [Registry.statusOf_insert, if_neg ne]
  rw [Action.run, World.run]
  have ends := register_ends setting settled req now round
  generalize (C4D.register setting req now round).run ⟨s, locks⟩ = outcome at ends ⊢
  cases ends with
  | refused refusal closed => exact matched
  | @reconnected session node response accepting registryFree found registered =>
      have known : (s.captureMaster req).nodes.statusOf req.nodeId = some node.status := by
        rw [Server.nodes_captureMaster]
        exact Registry.statusOf_of_lookup registered
      exact captured.renewed rfl known fun _ _ => rfl
  | waiting accepting held found => exact captured
  | full refusal accepting new refuses => exact captured
  | @counted status rank counted accepting fresh held admitted =>
      obtain ⟨session, _, same⟩ := Server.sessionRegistered_eq counted req now status rank
      change Matched (counted.sessionRegistered req now status rank)
      rw [same]
      exact (admits admitted).same rfl fun _ => rfl
  | enrolled response enrolls incomplete => exact enrolled enrolls
  | completing enrolls complete held => exact enrolled enrolls
  | short response enrolls complete clusterFree few => exact enrolled enrolls
  | started response enrolls complete clusterFree enough =>
      exact (enrolled enrolls).same rfl (Server.statusOf_started _ round)
  | startFailed enrolls complete clusterFree enough silent =>
      exact (enrolled enrolls).same rfl (Server.statusOf_started _ round)

theorem removeNode (nodeID : String) (rounds : Nat → Round) {ending : Ending}
    (ends : ending = .returned ∨ ending = .blocked)
    (run : Action.run setting ⟨s, locks⟩ (.removeNode nodeID rounds) = (ending, w)) :
    Matched w.data := by
  have removed (status : Status) : Matched (s.removed nodeID status) := by
    refine matched.left nodeID ?_ fun id => ?_
    · cases status <;> rfl
    · cases status <;> exact Registry.statusOf_erase id
  rw [Action.run, World.run] at run
  have outcome := removeNode_ends setting settled rounds nodeID
  generalize (C4D.removeNode setting nodeID rounds).run ⟨s, locks⟩ = result at outcome run
  cases outcome with
  | waiting held =>
      cases run
      exact matched
  | unknown refusal absent =>
      cases run
      exact matched
  | refused refusal refused =>
      cases run
      exact matched
  | inactive clusterFree known accepted inactive =>
      cases run
      exact removed _
  | returned clusterFree known accepted returns =>
      cases run
      exact (removed .active).returned returns
  | exited locks' clusterFree known accepted exits =>
      cases run
      rcases ends with ends | ends <;> cases ends
  | stuck clusterFree known accepted sticks =>
      cases run
      exact (removed .active).stuck sticks

theorem reconfigure (rounds : Nat → Round) {ending : Ending}
    (ends : ending = .returned ∨ ending = .blocked)
    (run : Action.run setting ⟨s, locks⟩ (.reconfigure rounds) = (ending, w)) :
    Matched w.data := by
  have scheduled : Matched s.scheduled := matched.same rfl fun _ => rfl
  rw [Action.run, World.run] at run
  have outcome := spawnedReconfigure_ends setting settled rounds
  generalize (spawnedReconfigure setting rounds).run ⟨s, locks⟩ = result at outcome run
  cases outcome with
  | refused locks' refused =>
      cases run
      rcases ends with ends | ends <;> cases ends
  | returned accepted returns =>
      cases run
      exact (scheduled.returned returns).same rfl fun _ => rfl
  | exited locks' accepted exits =>
      cases run
      rcases ends with ends | ends <;> cases ends
  | stuck accepted sticks =>
      cases run
      exact scheduled.stuck sticks

theorem notifyFailure (req : FailureNotificationRequest) :
    Matched (Action.run setting ⟨s, locks⟩ (.notifyFailure req)).2.data := by
  rw [Action.run]
  rcases settled.registry with registryFree | ⟨held, _⟩
  · by_cases ignored : s.nodes.statusOf req.nodeId = none ∨
        s.nodes.statusOf req.nodeId = some .failed
    · obtain ⟨_, run⟩ := notifyFailure_run_ignored registryFree ignored
      rw [World.run_of_ok run]
      exact matched
    · obtain ⟨unknown, failed⟩ := not_or.mp ignored
      obtain ⟨status, known⟩ := Option.ne_none_iff_exists'.mp unknown
      have working : status ≠ .failed := fun same => failed (same ▸ known)
      by_cases accepted : s.current.reconfigurable
      · obtain ⟨_, run⟩ := notifyFailure_run registryFree settled.stateFree known working accepted
        rw [World.run_of_ok run]
        exact matched.failedOver req status
      · rw [World.run_of_blocked (notifyFailure_run_refused registryFree settled.stateFree known
          working accepted)]
        exact matched
  · rw [World.run_of_blocked (notifyFailure_run_waiting held)]
    exact matched

omit settled in
theorem sendHeartbeat (req : HeartbeatRequest) (now : Int) :
    Matched (Action.run setting ⟨s, locks⟩ (.sendHeartbeat req now)).2.data := by
  have beat (s : Server) (matched : Matched s) : Matched (s.heartbeat req.nodeId now).2 := by
    refine matched.fewer (fun id => ?_) fun id works => works
    rintro ⟨entry, found, failed⟩
    change (Table.modify _ _ s.health).lookup id = some entry at found
    rw [Table.lookup_modify] at found
    obtain ⟨before, listed, rfl⟩ := Option.map_eq_some_iff.mp found
    refine ⟨before, listed, ?_⟩
    split at failed
    · exact failed
    · exact failed
  have kept : Preserves Matched (C4D.sendHeartbeat req now) :=
    .bind (.critical beat) fun _ => .ite (fun _ => .pure _) fun _ => .pure _
  exact World.run_preserves kept ⟨s, locks⟩ matched

/-- **Every step keeps the two records of a node matched.** -/
theorem run (a : Action) {ending : Ending} (ends : ending = .returned ∨ ending = .blocked)
    (run : a.run setting ⟨s, locks⟩ = (ending, w)) : Matched w.data := by
  have outcome (kept : Matched (a.run setting ⟨s, locks⟩).2.data) : Matched w.data := by
    rwa [run] at kept
  cases a with
  | register req now round => exact outcome (matched.register settled req now round)
  | sendHeartbeat req now => exact outcome (matched.sendHeartbeat req now)
  | notifyFailure req => exact outcome (matched.notifyFailure settled req)
  | sendMetrics req order =>
      by_cases crashes : req.crashes s
      · obtain ⟨_, panics⟩ := sendMetrics_run_crashes order settled.stateFree settled.metricsFree
          crashes
        rw [Action.run, World.run_of_panicked panics] at run
        cases run
        rcases ends with ends | ends <;> cases ends
      · obtain ⟨_, _, _, returns⟩ := sendMetrics_run order settled.stateFree
          settled.metricsFree settled.matrixFree settled.square crashes
        apply outcome
        rw [Action.run, World.run_of_ok returns]
        exact matched.same rfl fun _ => rfl
  | healthTick now order =>
      apply outcome
      rcases settled.registry with registryFree | ⟨held, _⟩
      · rw [Action.run, World.run_of_ok (checkNodesHealth_run registryFree settled.sessionFree)]
        exact matched.timedOut now order
      · rw [Action.run, World.run_of_blocked (checkNodesHealth_run_blocked held)]
        exact matched
  | cleanupTick now order =>
      apply outcome
      by_cases registryFree : locks .registryMu = .free
      · rw [Action.run, World.run_of_ok (cleanupDeadConnections_run registryFree
          settled.sessionFree)]
        exact matched.cleanedUp now order
      · rw [Action.run, cleanupDeadConnections,
          World.run_of_blocked (withLock_run_blocked registryFree _)]
        exact matched
  | removeNode nodeID rounds => exact matched.removeNode settled nodeID rounds ends run
  | reconfigure rounds => exact matched.reconfigure settled rounds ends run

end Steps

end Matched

theorem Setting.matched_of_reachable (setting : Setting) {w : World}
    (reachable : setting.system.Reachable w) : Matched w.data := by
  refine reachable.inductOver (I := fun w => Matched w.data)
    (fun _ => setting.settled_of_reachable) (fun w start => ?_) fun w a w' settled matched _ next => ?_
  · rw [show w = World.new setting from start]
    rintro id ⟨_, found, _⟩
    cases found
  · obtain ⟨_, ends, _, run⟩ := World.runs_of_next next
    exact matched.run settled a ends run

/-! ## What the claims of a tick are about -/

/-- The tick marks exactly the overdue nodes, in both records, and counts each of them. -/
structure ExactTick (setting : Setting) (now : Int) (before after : Server) : Prop where
  marks : ∀ id, before.Overdue setting now id →
    after.nodes.statusOf id = some .failed ∧ after.Reported id
  counts : after.failedNodes = before.failedNodes +
    (AList.keys before.nodes).countP (fun id => before.Overdue setting now id)
  spares : ∀ id, ¬ before.Overdue setting now id →
    after.nodes.lookup id = before.nodes.lookup id ∧
      after.health.lookup id = before.health.lookup id

/-- Some nodes keep their entries, and the counters change for other nodes only. -/
structure Untouched (nodes : String → Prop) (before after : Server) : Prop where
  node : ∀ id, nodes id → after.nodes.lookup id = before.nodes.lookup id
  health : ∀ id, nodes id → after.health.lookup id = before.health.lookup id
  activeNodes : after.activeNodes = before.activeNodes
  standbyNodes : after.standbyNodes = before.standbyNodes
  /-- One for every assignment of "failed" to another node. -/
  failedNodes : ∃ writes : List StatusWrite, after.statusWrites = before.statusWrites ++ writes ∧
    (∀ write ∈ writes, ¬ nodes write.nodeID) ∧
    after.failedNodes = before.failedNodes + writes.length

/-- Nothing but health ticks. -/
def Action.isHealthTick (_ : World) : Action → Prop
  | .healthTick _ _ => True
  | _ => False

/-- A tick is exact, and no number of further ticks does anything to the nodes that it found
outdated. -/
def World.TicksExactly (setting : Setting) (w : World) (now : Int) (order : Shuffle String) :
    Prop :=
  ∃ w', setting.system.next w (.healthTick now order) = some w' ∧
    ExactTick setting now w.data w'.data ∧
    ∀ w'', (setting.system.startingAt w').Run Action.isHealthTick w'' →
      Untouched (w.data.Outdated setting now) w'.data w''.data

/-- The tick finds no stale node, unless it waits for the registry and the node is failed. -/
def World.NoneStale (setting : Setting) (now : Int) (w : World) : Prop :=
  ∀ id ∈ AList.keys w.data.nodes, w.data.Stale setting now id →
    w.locks .registryMu ≠ .free ∧ w.data.nodes.statusOf id = some .failed

instance (setting : Setting) (now : Int) (s : Server) (id : String) :
    Decidable (s.Stale setting now id) := decidable_of_iff' _ Server.stale_iff

instance (setting : Setting) (now : Int) (w : World) : Decidable (w.NoneStale setting now) :=
  inferInstanceAs (Decidable (∀ id ∈ AList.keys w.data.nodes, _))

theorem Server.mem_handleNodeTimeout {s : Server} (nodeID : String) {id : String} :
    id ∈ (s.handleNodeTimeout nodeID).nodes ↔ id ∈ s.nodes :=
  iff_of_eq (congrFun (congrArg Roll.registered (Server.roll_handleNodeTimeout nodeID)) id)

namespace Untouched

variable {nodes : String → Prop} {before middle after : Server}

theorem refl (nodes : String → Prop) (s : Server) : Untouched nodes s s where
  node _ _ := rfl
  health _ _ := rfl
  activeNodes := rfl
  standbyNodes := rfl
  failedNodes := ⟨[], (List.append_nil _).symm, nofun, (add_zero _).symm⟩

theorem trans (first : Untouched nodes before middle) (second : Untouched nodes middle after) :
    Untouched nodes before after where
  node id hit := (second.node id hit).trans (first.node id hit)
  health id hit := (second.health id hit).trans (first.health id hit)
  activeNodes := second.activeNodes.trans first.activeNodes
  standbyNodes := second.standbyNodes.trans first.standbyNodes
  failedNodes := by
    obtain ⟨writes, history, others, count⟩ := first.failedNodes
    obtain ⟨more, later, further, recount⟩ := second.failedNodes
    refine ⟨writes ++ more, ?_, fun write mem => ?_, ?_⟩
    · rw [later, history, List.append_assoc]
    · exact (List.mem_append.mp mem).elim (others write) (further write)
    · rw [recount, count, List.length_append, Nat.cast_add, add_assoc]

theorem handleNodeTimeout (s : Server) {nodeID : String}
    (other : nodeID ∈ s.nodes → ¬ nodes nodeID) : Untouched nodes s (s.handleNodeTimeout nodeID) := by
  rw [Server.handleNodeTimeout_eq]
  split
  · next registered =>
      obtain ⟨old, known⟩ := Registry.mem_iff_statusOf.mp registered
      have ne {id : String} (hit : nodes id) : id ≠ nodeID :=
        fun same => other registered (same ▸ hit)
      refine ⟨fun id hit => Table.lookup_modify_of_ne (ne hit) .., fun _ _ => rfl, rfl, rfl,
        [⟨nodeID, old, .failed⟩], history_setStatus known .failed, fun write mem => ?_, rfl⟩
      rw [List.mem_singleton.mp mem]
      exact other registered
  · exact refl nodes s

theorem timeouts (nodeIDs : List String) (s : Server)
    (others : ∀ id ∈ nodeIDs, id ∈ s.nodes → ¬ nodes id) :
    Untouched nodes s (nodeIDs.foldl (fun s nodeID => s.handleNodeTimeout nodeID) s) := by
  induction nodeIDs generalizing s with
  | nil => exact refl nodes s
  | cons nodeID rest ih =>
      have here := handleNodeTimeout s (others nodeID List.mem_cons_self)
      refine here.trans (ih _ fun id mem registered => ?_)
      exact others id (List.mem_cons_of_mem _ mem)
        ((Server.mem_handleNodeTimeout nodeID).mp registered)

end Untouched

/-! ## One tick and further ticks -/

section Ticks

variable {setting : Setting} {w w' : World} {now : Int} {order : Shuffle String}

/-- A tick runs, or waits for the registry. -/
theorem World.next_healthTick (settled : Settled w) (setting : Setting) (now : Int)
    (order : Shuffle String) : setting.system.next w (.healthTick now order) =
      some (if w.locks .registryMu = .free then ⟨w.data.timedOut now setting order, w.locks⟩
        else w) := by
  change World.next setting w (.healthTick now order) = _
  have enabled : Action.enabled w.data (.healthTick now order) := trivial
  rw [World.next, if_pos enabled, Action.run]
  rcases settled.registry with registryFree | ⟨held, _⟩
  · rw [World.run_of_ok (checkNodesHealth_run registryFree settled.sessionFree), if_pos registryFree]
  · rw [World.run_of_blocked (checkNodesHealth_run_blocked held),
      if_neg (RWMutex.ne_free_of_written held)]

theorem Server.failedNodes_timeouts (nodeIDs : List String) (s : Server) :
    (nodeIDs.foldl (fun s nodeID => s.handleNodeTimeout nodeID) s).failedNodes =
      s.failedNodes + nodeIDs.countP (fun id => id ∈ s.nodes) := by
  induction nodeIDs generalizing s with
  | nil => exact (add_zero _).symm
  | cons nodeID rest ih =>
      rw [List.foldl_cons, ih, List.countP_cons]
      simp only [Server.mem_handleNodeTimeout]
      rw [Server.handleNodeTimeout_eq]
      by_cases registered : nodeID ∈ s.nodes
      · simp only [if_pos registered, decide_eq_true_eq]
        omega
      · simp [registered]

/-- A tick that finds no stale node finds no overdue node. -/
theorem World.NoneStale.not_overdue (none : w.NoneStale setting now) (matched : Matched w.data)
    (id : String) : ¬ w.data.Overdue setting now id := by
  intro overdue
  have working := Server.working_iff.mp overdue.1
  have stale : w.data.Stale setting now id :=
    Server.stale_iff.mpr ⟨overdue.2, fun hit => matched id hit overdue.1⟩
  exact working.2 (none id (AList.mem_keys.mp working.1) stale).2

/-- What further ticks leave of a world in which no node is stale. -/
structure World.Quiet (setting : Setting) (now : Int) (w after : World) : Prop where
  locks : after.locks = w.locks
  health : after.data.health = w.data.health
  ids : ∀ id, id ∈ after.data.nodes ↔ id ∈ w.data.nodes
  untouched : Untouched (w.data.Outdated setting now) w.data after.data

theorem World.NoneStale.quiet (reachable : setting.system.Reachable w)
    (none : w.NoneStale setting now) {after : World}
    (ticks : (setting.system.startingAt w).Run Action.isHealthTick after) :
    w.Quiet setting now after := by
  refine ticks.inductOver (I := w.Quiet setting now) (J := Settled)
    (fun _ later => setting.settled_of_reachable (reachable.append later)) (fun _ start => ?_)
    fun middle a after settled quiet allowed next => ?_
  · rw [start]
    exact ⟨rfl, rfl, fun _ => .rfl, .refl _ _⟩
  cases a with
  | healthTick later order =>
      have run := next.symm.trans (World.next_healthTick settled setting later order)
      rw [Option.some.inj run, quiet.locks]
      split
      · next registryFree =>
          have others (id : String) (mem : id ∈ middle.data.timeouts later setting order)
              (registered : id ∈ middle.data.nodes) : ¬ w.data.Outdated setting now id := by
            intro outdated
            have reported : ¬ w.data.Reported id := by
              rw [Server.Reported, ← quiet.health]
              exact (Server.stale_iff.mp (Server.mem_timeouts.mp mem)).2
            have known := AList.mem_keys.mp ((quiet.ids id).mp registered)
            exact (none id known (Server.stale_iff.mpr ⟨outdated, reported⟩)).1 registryFree
          have here := Untouched.timeouts _ middle.data others
          have roll := Server.roll_timedOut (s := middle.data) setting later order
          refine ⟨rfl, (Server.health_timedOut ..).trans quiet.health, fun id => ?_,
            quiet.untouched.trans ?_⟩
          · exact (iff_of_eq (congrFun (congrArg Roll.registered roll) id)).trans (quiet.ids id)
          · exact ⟨here.node, here.health, here.activeNodes, here.standbyNodes, here.failedNodes⟩
      · exact quiet
  | _ => cases allowed

/-- A tick that finds no stale node is exact, since nothing is to be marked. -/
theorem World.NoneStale.exact (none : w.NoneStale setting now) (matched : Matched w.data)
    (nodes : w'.data.nodes = w.data.nodes) (health : w'.data.health = w.data.health)
    (failedNodes : w'.data.failedNodes = w.data.failedNodes) :
    ExactTick setting now w.data w'.data where
  marks id overdue := absurd overdue (none.not_overdue matched id)
  counts := by
    have zero : (AList.keys w.data.nodes).countP (fun id => w.data.Overdue setting now id) = 0 := by
      rw [List.countP_eq_zero]
      intro id _ overdue
      exact none.not_overdue matched id (of_decide_eq_true overdue)
    rw [failedNodes, zero, Nat.cast_zero, add_zero]
  spares id _ := ⟨by rw [nodes], by rw [health]⟩

/-- A tick that finds no stale node changes nothing but sessions. -/
theorem World.NoneStale.next (none : w.NoneStale setting now) (settled : Settled w)
    (order : Shuffle String) : ∃ sessions, setting.system.next w (.healthTick now order) =
      some ⟨{ w.data with sessions }, w.locks⟩ := by
  rw [World.next_healthTick settled]
  by_cases registryFree : w.locks .registryMu = .free
  · refine ⟨(w.data.timedOut now setting order).sessions, ?_⟩
    rw [if_pos registryFree, Server.timedOut, Server.foldl_handleNodeTimeout_unregistered]
    · rfl
    · intro id mem registered
      exact (none id (AList.mem_keys.mp registered) (Server.mem_timeouts.mp mem)).1 registryFree
  · exact ⟨w.data.sessions, by rw [if_neg registryFree]⟩

/-- Ticks are exact and settled when no stale node is found. -/
theorem World.NoneStale.ticksExactly (none : w.NoneStale setting now)
    (reachable : setting.system.Reachable w) (order : Shuffle String) :
    w.TicksExactly setting now order := by
  obtain ⟨sessions, next⟩ := none.next (setting.settled_of_reachable reachable) order
  have still : World.NoneStale setting now ⟨{ w.data with sessions }, w.locks⟩ := none
  refine ⟨_, next, none.exact (setting.matched_of_reachable reachable) rfl rfl rfl, ?_⟩
  intro after ticks
  exact (still.quiet (.step _ reachable trivial next) ticks).untouched

/-- A tick that is exact finds no stale node. -/
theorem World.TicksExactly.noneStale (exact_ : w.TicksExactly setting now order)
    (reachable : setting.system.Reachable w) : w.NoneStale setting now := by
  obtain ⟨w', next, tick, _⟩ := exact_
  have settled := setting.settled_of_reachable reachable
  rw [World.next_healthTick settled, Option.some.injEq] at next
  intro id listed stale
  have registered := AList.mem_keys.mpr listed
  obtain ⟨outdated, unreported⟩ := Server.stale_iff.mp stale
  -- A time-out does not write the health entry, so an overdue node is not marked in it.
  have spared (id : String) (unreported : ¬ w.data.Reported id) :
      ¬ w.data.Overdue setting now id := by
    intro overdue
    apply unreported
    have health : w'.data.health = w.data.health := by
      rw [← next]
      split
      · exact Server.health_timedOut ..
      · rfl
    rw [Server.Reported, ← health]
    exact (tick.marks id overdue).2
  have failed : w.data.nodes.statusOf id = some .failed := by
    by_contra works
    exact spared id unreported ⟨Server.working_iff.mpr ⟨registered, works⟩, outdated⟩
  refine ⟨fun registryFree => ?_, failed⟩
  -- The node is counted again, and nobody is overdue.
  have counted : 0 < (w.data.timeouts now setting order).countP (fun id => id ∈ w.data.nodes) :=
    List.countP_pos_iff.mpr ⟨id, Server.mem_timeouts.mpr stale, decide_eq_true registered⟩
  have matched := setting.matched_of_reachable reachable
  have zero : (AList.keys w.data.nodes).countP (fun id => w.data.Overdue setting now id) = 0 := by
    rw [List.countP_eq_zero]
    intro other _ overdue
    have late := of_decide_eq_true overdue
    exact spared other (fun hit => matched other hit late.1) late
  have counts := tick.counts
  rw [← next, if_pos registryFree, zero, Nat.cast_zero, add_zero] at counts
  change (w.data.timedOut now setting order).failedNodes = _ at counts
  have rises := Server.failedNodes_timeouts (w.data.timeouts now setting order) w.data
  change (w.data.timedOut now setting order).failedNodes = _ at rises
  omega

end Ticks

/-- **A tick is exact, and settled by itself, when no registered node is stale** or when it waits
for the registry and the stale nodes have failed already, and only then. -/
theorem healthTick_exact_iff {setting : Setting} {w : World}
    (reachable : setting.system.Reachable w) (now : Int) (order : Shuffle String) :
    w.TicksExactly setting now order ↔ w.NoneStale setting now :=
  ⟨fun exact_ => exact_.noneStale reachable, fun none => none.ticksExactly reachable order⟩

theorem healthTick_exact_early :
    ∃ w, smallSetting.system.Reachable w ∧ w.data.nodes.count .active = 3 ∧
      w.TicksExactly smallSetting 3 .inOrder := by
  obtain ⟨w, reachable, holds⟩ := System.exists_reachable (S := smallSetting.system) gathering
    (fun w => w.data.nodes.count .active = 3 ∧ w.NoneStale smallSetting 3) rfl (by decide +kernel)
  have holds := of_decide_eq_true holds
  exact ⟨w, reachable, holds.1, (healthTick_exact_iff reachable 3 .inOrder).mpr holds.2⟩

/-- A node that a tick has failed is failed and counted again by the next one. -/
theorem healthTick_recounts :
    ∃ w, smallSetting.system.Reachable w ∧ w.data.failedNodes = 2 ∧ w.data.nodes.count .failed = 1 ∧
      ¬ w.TicksExactly smallSetting 6 .inOrder := by
  obtain ⟨w, reachable, holds⟩ := System.exists_reachable (S := smallSetting.system)
    (gathering ++ [.sendHeartbeat ⟨"b.ns.1"⟩ 6, .sendHeartbeat ⟨"c.ns.1"⟩ 6,
      .sendHeartbeat ⟨"d.ns.1"⟩ 6, .healthTick 6 .inOrder, .healthTick 6 .inOrder])
    (fun w => w.data.failedNodes = 2 ∧ w.data.nodes.count .failed = 1 ∧
      ¬ w.NoneStale smallSetting 6) rfl (by decide +kernel)
  obtain ⟨two, one, stale⟩ := of_decide_eq_true holds
  exact ⟨w, reachable, two, one, fun exact_ => stale (exact_.noneStale reachable)⟩

end C4D
