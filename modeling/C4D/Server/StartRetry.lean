import C4D.Server.Attendance

/-!
# Retrying a failed start

The programs are started by the registration that completes the cluster, and only by
one that enters a new node. When some node does not answer, the server stays in
`Initializing` with every place taken. A node that tries again then has a session and
is registered, so it is only reconnected: no retry starts the programs
(`not_startsOnRetry`).

Nothing else starts them either. While every place is taken the server stays in
`Initializing`, and only a cleanup tick gives a place back (`full_of_run`).
-/

set_option autoImplicit false

namespace C4D

open Foundations

/-- Every node of the configuration is registered and counted, and nothing is running. -/
structure Stalled (setting : Setting) (s : Server) : Prop where
  initializing : s.current = .initializing
  active : s.nodes.count .active = setting.config.activeNodes
  standby : s.nodes.count .standby = setting.config.standbyNodes
  activeCounted : s.activeNodes = setting.config.activeNodes
  standbyCounted : s.standbyNodes = setting.config.standbyNodes

/-- A registration succeeds, sends a start command to every active node, and leaves the server in
`Running`. -/
def StartsOnRetry (setting : Setting) (w : World) (req : RegisterRequest) (now : Int)
    (round : Round) : Prop :=
  ∃ response w' commands, (register setting req now round).run w = .ok (.ok response) w' ∧
    w'.data.current = .running ∧ w'.data.rounds = w.data.rounds ++ [commands] ∧
    ∀ id, w.data.nodes.statusOf id = some .active →
      ∃ c ∈ commands, c.nodeID = id ∧ c.command = .start

variable {setting : Setting}

/-! ## Retries -/

/-- A registered node that registers again leaves the lifecycle state alone. -/
theorem current_of_reconnects {w w' : World} (settled : Settled w) (attended : Attended w.data)
    (initializing : w.data.current = .initializing) {req : RegisterRequest} {now : Int}
    {round : Round} (known : w.data.nodes.statusOf req.nodeId ≠ none)
    {result : Except GrpcError RegisterResponse}
    (returns : (register setting req now round).run w = .ok result w') :
    w'.data.current = .initializing := by
  obtain ⟨session, found, _⟩ := attended req.nodeId known
  have accepting : w.data.current.accepting := .inl initializing
  by_cases registryFree : w.locks .registryMu = .free
  · obtain ⟨status, known⟩ := Option.ne_none_iff_exists'.mp known
    obtain ⟨node, registered, _⟩ := Registry.statusOf_eq_some.mp known
    obtain ⟨response, run⟩ := register_run_reconnected setting req now round settled.stateFree
      settled.sessionFree accepting found registryFree registered
    cases run.symm.trans returns
    exact (kept_reconnected req now node).current.trans initializing
  · have run := register_run_blocked setting req now round settled.stateFree settled.sessionFree
      accepting found registryFree
    cases run.symm.trans returns

/-- **A failed start is not retried.** A registration by a node of a stalled server never starts the
programs, also when every node would answer. -/
theorem not_startsOnRetry {w : World} (reachable : setting.system.Reachable w)
    (stalled : Stalled setting w.data) {req : RegisterRequest}
    (known : w.data.nodes.statusOf req.nodeId = some .active ∨
      w.data.nodes.statusOf req.nodeId = some .standby)
    (now : Int) (round : Round) : ¬ StartsOnRetry setting w req now round := by
  rintro ⟨response, w', commands, returns, running, _⟩
  have registered : w.data.nodes.statusOf req.nodeId ≠ none := by
    rcases known with known | known <;> rw [known] <;> exact Option.some_ne_none _
  have kept := current_of_reconnects (setting.settled_of_reachable reachable)
    (setting.attended_of_reachable reachable) stalled.initializing registered returns
  cases running.symm.trans kept

/-- A server with three active nodes and a standby node, one of which does not answer. -/
def failedGathering : List Action :=
  gathering.dropLast ++
    [.register ⟨"d.ns.1", "http://d.ns:1", "master", "29500"⟩ 0 (.except ["b.ns.1"])]

theorem failedGathering_stalls :
    ∃ w, smallSetting.system.Reachable w ∧ Stalled smallSetting w.data ∧
      w.data.rounds.length = 1 ∧ w.data.nodes.statusOf "d.ns.1" = some .standby := by
  obtain ⟨w, reachable, holds⟩ := System.exists_reachable (S := smallSetting.system)
    failedGathering (fun w => (w.data.current = .initializing ∧ w.data.nodes.count .active = 3 ∧
      w.data.nodes.count .standby = 1 ∧ w.data.activeNodes = 3 ∧ w.data.standbyNodes = 1) ∧
      w.data.rounds.length = 1 ∧ w.data.nodes.statusOf "d.ns.1" = some .standby)
    rfl (by decide +kernel)
  obtain ⟨⟨initializing, active, standby, activeCounted, standbyCounted⟩, sent, known⟩ :=
    of_decide_eq_true holds
  have stalled : Stalled smallSetting w.data :=
    ⟨initializing, active, standby, activeCounted, standbyCounted⟩
  exact ⟨w, reachable, stalled, sent, known⟩

theorem not_startsOnRetry_standby :
    ∃ w, smallSetting.system.Reachable w ∧ Stalled smallSetting w.data ∧
      ¬ StartsOnRetry smallSetting w ⟨"d.ns.1", "http://d.ns:1", "master", "29500"⟩ 1
        (.except []) := by
  obtain ⟨w, reachable, stalled, _, known⟩ := failedGathering_stalls
  exact ⟨w, reachable, stalled, not_startsOnRetry reachable stalled (.inr known) 1 (.except [])⟩

/-- The start round of the last node fails, and its retry does not start the programs although every
node would answer. -/
theorem retry_reconnects :
    ∃ w, smallSetting.system.Reachable w ∧ Stalled smallSetting w.data ∧
      w.data.nodes.statusOf "d.ns.1" = some .standby ∧ (∀ id, (Round.except []).answers id) ∧
      ¬ StartsOnRetry smallSetting w ⟨"d.ns.1", "http://d.ns:1", "master", "29500"⟩ 1
        (.except []) := by
  obtain ⟨w, reachable, stalled, _, known⟩ := failedGathering_stalls
  refine ⟨w, reachable, stalled, known, fun id => by simp [Round.except], ?_⟩
  rintro ⟨response, w', commands, returns, running, _⟩
  have registered : w.data.nodes.statusOf "d.ns.1" ≠ none := by
    rw [known]
    exact Option.some_ne_none _
  have kept := current_of_reconnects (smallSetting.settled_of_reachable reachable)
    (smallSetting.attended_of_reachable reachable) stalled.initializing registered returns
  cases running.symm.trans kept

/-! ## Until a place is given back -/

/-- Every place is taken and nothing is running. -/
structure Full (setting : Setting) (s : Server) : Prop where
  initializing : s.current = .initializing
  active : setting.config.activeNodes ≤ s.activeNodes
  standby : setting.config.standbyNodes ≤ s.standbyNodes

namespace Full

variable {s s' : Server}

theorem of_membership (full : Full setting s) (same : s'.membership = s.membership) :
    Full setting s' where
  initializing := (congrArg Membership.current same).trans full.initializing
  active := full.active.trans (congrArg Membership.activeNodes same).ge
  standby := full.standby.trans (congrArg Membership.standbyNodes same).ge

/-- No node is admitted. -/
theorem not_admitted (full : Full setting s) {req : RegisterRequest} {status : Status} {rank : Int}
    {counted : Server} :
    (s.captureMaster req).admitNode setting ≠ (.ok (status, rank), counted) := by
  intro admitted
  rcases Server.room_of_admits admitted with room | room
  · exact absurd full.active (not_le.mpr room)
  · exact absurd full.standby (not_le.mpr room)

theorem not_reconfigurable (full : Full setting s) : ¬ s.current.reconfigurable := by
  rw [full.initializing]
  decide

/-- A health tick leaves both counters alone. -/
theorem timedOut (full : Full setting s) (now : Int) (order : Shuffle String) :
    Full setting (s.timedOut now setting order) := by
  have kept (nodeIDs : List String) (s : Server) (full : Full setting s) :
      Full setting (nodeIDs.foldl (fun s nodeID => s.handleNodeTimeout nodeID) s) := by
    apply List.foldlRecOn nodeIDs _ full
    intro s full id _
    rw [Server.handleNodeTimeout_eq]
    split
    · exact ⟨full.initializing, full.active, full.standby⟩
    · exact full
  obtain ⟨initializing, active, standby⟩ := kept (s.timeouts now setting order) s full
  exact ⟨initializing, active, standby⟩

end Full

/-- The step is a cleanup tick. -/
def Action.CleansUp : Action → Prop
  | .cleanupTick _ _ => True
  | _ => False

/-- Every other step keeps a full server full. -/
theorem Full.effect {w w' : World} {a : Action} {ending : Ending} (full : Full setting w.data)
    (stays : ¬ a.CleansUp) (ends : ending = .returned ∨ ending = .blocked)
    (effect : Effect setting w a ending w') : Full setting w'.data := by
  cases effect with
  | kept a kept => exact full.of_membership kept.membership
  | waiting a l held kept => exact full.of_membership kept.membership
  | exited a reconfigures => rcases ends with ends | ends <;> cases ends
  | panicked req order crashes => rcases ends with ends | ends <;> cases ends
  | counted req now round status rank held accepting fresh admitted =>
      exact absurd admitted full.not_admitted
  | enrolled req now round status rank enrolls => exact absurd enrolls.admitted full.not_admitted
  | startFailed req now round status rank enrolls => exact absurd enrolls.admitted full.not_admitted
  | started req now round status rank enrolls => exact absurd enrolls.admitted full.not_admitted
  | leaked req status registryFree known working refused => exact full
  | failedOver req status registryFree known working accepted =>
      exact absurd accepted full.not_reconfigurable
  | timedOut now order registryFree => exact full.timedOut now order
  | cleanedUp now order registryFree => exact absurd trivial stays
  | removedInactive nodeID rounds status clusterFree known accepted =>
      exact absurd accepted full.not_reconfigurable
  | removedActive nodeID rounds clusterFree known accepted =>
      exact absurd accepted full.not_reconfigurable
  | removedStuck nodeID rounds clusterFree known accepted =>
      exact absurd accepted full.not_reconfigurable
  | reconfigured rounds spawned accepted => exact absurd accepted full.not_reconfigurable
  | reconfigureStuck rounds spawned accepted => exact absurd accepted full.not_reconfigurable

/-- **A full server that has not started never starts** while no cleanup tick comes. -/
theorem full_of_run {w w' : World} (reachable : setting.system.Reachable w)
    (full : Full setting w.data)
    (run : (setting.system.startingAt w).Run (fun _ a => ¬ a.CleansUp) w') :
    Full setting w'.data := by
  induction run with
  | start initial =>
      rw [show _ = w from initial]
      exact full
  | step a run stays next ih =>
      have settled := setting.settled_of_reachable (reachable.append run.reachable)
      obtain ⟨ending, ends, effect⟩ := World.effect_of_next settled next
      exact ih.effect stays ends effect

end C4D
