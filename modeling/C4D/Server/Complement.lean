import C4D.Server.Attendance

/-!
# The complement of active nodes while `Running`

In every reachable world the counter of active nodes is at least their number,
and their number is at most the required one (`Covered`). A reconfiguration that
returns and the start of the program establish equality. The two ticks take
active nodes away without a reconfiguration (`Depletes`); a registration cannot
replace them, except that it admits a new active node when the counter has gone
down too.

Along every run without such ticks, the server has the required number of active
nodes whenever it is in `Running` with no reconfiguration pending
(`full_of_running`).
-/

set_option autoImplicit false

namespace C4D

open Foundations

/-- The ticks that take an active node away while the server is in `Running` and no
reconfiguration is pending. -/
def Depletes (setting : Setting) (w : World) : Action → Prop
  | .healthTick now _ => w.data.current = .running ∧ w.data.pending = 0 ∧
      ∃ id, w.data.Stale setting now id ∧ w.data.nodes.statusOf id = some .active
  | .cleanupTick now _ => w.data.current = .running ∧ w.data.pending = 0 ∧
      ∃ id, w.data.Dead setting now id ∧ w.data.nodes.statusOf id = some .active
  | _ => False

/-- The counter covers the active nodes, which do not exceed the required number, and reach it in
`Running` when no reconfiguration is pending. -/
structure Covered (setting : Setting) (s : Server) : Prop where
  counted : 0 ≤ s.drift .active
  bounded : s.nodes.count .active ≤ setting.config.activeNodes
  full : s.current = .running → s.pending = 0 →
    s.nodes.count .active = setting.config.activeNodes

namespace Covered

variable {setting : Setting} {s s' : Server}

/-- A server that is not in `Running` only has to stay covered and bounded. -/
theorem leave (covered : Covered setting s) (current : s'.current ≠ .running)
    (drift : s.drift .active ≤ s'.drift .active)
    (count : s'.nodes.count .active ≤ s.nodes.count .active) : Covered setting s' where
  counted := covered.counted.trans drift
  bounded := count.trans covered.bounded
  full running := absurd running current

/-- The number of active nodes and the lifecycle stay. -/
theorem stay (covered : Covered setting s) (drift : s.drift .active ≤ s'.drift .active)
    (count : s'.nodes.count .active = s.nodes.count .active) (current : s'.current = s.current)
    (pending : s'.pending = s.pending) : Covered setting s' where
  counted := covered.counted.trans drift
  bounded := count.trans_le covered.bounded
  full running none := count.trans
    (covered.full (current.symm.trans running) (pending.symm.trans none))

/-- Active nodes may be lost when that is allowed to happen. -/
theorem lose (covered : Covered setting s) (drift : s.drift .active ≤ s'.drift .active)
    (fewer : ∀ j, s'.nodes.statusOf j = some .active → s.nodes.statusOf j = some .active)
    (lifecycle : s'.lifecycle = s.lifecycle)
    (kept : s.current = .running → s.pending = 0 →
      ∀ j, s.nodes.statusOf j = some .active → s'.nodes.statusOf j = some .active) :
    Covered setting s' where
  counted := covered.counted.trans drift
  bounded := (Registry.count_le fewer).trans covered.bounded
  full running none := by
    have running : s.current = .running :=
      (congrArg Lifecycle.current lifecycle).symm.trans running
    have none : s.pending = 0 :=
      (congrArg (fun l : Lifecycle => l.spawned + l.inFlight) lifecycle).symm.trans none
    rw [Registry.count_eq fun j => ⟨fewer j, kept running none j⟩]
    exact covered.full running none

/-- The registration of an unknown node is covered by the counter. -/
theorem enrolled {req : RegisterRequest} {now : Int} {status : Status} {rank : Int}
    {counted : Server} (covered : Covered setting s)
    (counts : Server.Counted setting s status rank counted)
    (unknown : s.nodes.statusOf req.nodeId = none) :
    Covered setting (counted.enrolled req now status rank) := by
  have drift := Server.drift_enrolled req now counts .active
  rw [unknown, if_neg (by simp), add_zero] at drift
  have count : (counted.enrolled req now status rank).nodes.count .active =
      s.nodes.count .active + if status = .active then 1 else 0 := by
    rw [Server.nodes_enrolled req now counts, Registry.count_insert, unknown]
    simp
  have lifecycle := Server.lifecycle_enrolled req now counts
  have cover : s.nodes.count .active ≤ s.activeNodes := Int.sub_nonneg.mp covered.counted
  refine ⟨drift ▸ covered.counted, ?_, fun running none => ?_⟩
  · rw [count]
    split
    · next active =>
        have room := counts.room active
        omega
    · have bounded := covered.bounded
      omega
  · have full := covered.full ((congrArg Lifecycle.current lifecycle).symm.trans running)
      ((congrArg (fun l : Lifecycle => l.spawned + l.inFlight) lifecycle).symm.trans none)
    have standby : status ≠ .active := by
      intro active
      have room := counts.room active
      omega
    rw [count, if_neg standby, add_zero, full]

/-- The removal of a node leaves `Running`. -/
theorem removed {nodeID : String} {status : Status} (covered : Covered setting s)
    (known : s.nodes.statusOf nodeID = some status) : Covered setting (s.removed nodeID status) := by
  have drift := Server.drift_departed (s := { s with current := .reconfiguring }) known .active
  refine covered.leave ?_ ?_ (Registry.count_le fun j active => ?_)
  · rw [show (s.removed nodeID status).current = .reconfiguring from
      congrArg Lifecycle.current (lifecycle_removed nodeID status)]
    decide
  · refine le_of_le_of_eq ?_ drift.symm
    simp only [reduceCtorEq, and_false, if_false, add_zero]
    exact le_rfl
  · rw [Server.removed, Server.statusOf_deleteNode] at active
    split at active
    · cases active
    · rwa [Server.nodes_countRemoved] at active

theorem started (round : Round) (covered : Covered setting s) (current : s.current ≠ .running) :
    Covered setting (s.started round) :=
  covered.leave current (Server.drift_started s round .active).ge
    (Registry.count_le fun j active => by rwa [Server.statusOf_started] at active)

theorem scheduled (covered : Covered setting s) (spawned : 0 < s.spawned) :
    Covered setting s.scheduled := by
  have pending : s.scheduled.pending = s.pending := by
    simp only [Server.pending, Server.scheduled]
    omega
  exact covered.stay le_rfl rfl rfl pending

/-- A reconfiguration that returns restores the complement. -/
theorem returned (covered : Covered setting s) (returned : Server.Returned setting s s')
    (inFlight : Nat) : Covered setting { s' with inFlight } where
  counted := covered.counted.trans_eq returned.activeDrift.symm
  bounded := (returned.full covered.bounded).le
  full _ _ := returned.full covered.bounded

/-- A reconfiguration that waits is in `Reconfiguring`. -/
theorem underway (covered : Covered setting s) (underway : Server.Underway setting s s') :
    Covered setting s' where
  counted := covered.counted.trans_eq underway.activeDrift.symm
  bounded := underway.bounded covered.bounded
  full running := by
    cases running.symm.trans (congrArg Elsewhere.current underway.elsewhere)

end Covered

/-- A step that does not deplete keeps the server covered. -/
theorem Covered.effect {setting : Setting} {w w' : World} {a : Action} {ending : Ending}
    (split : setting.config.activeNodes =
      setting.config.expectedNodes - setting.config.standbyNodes)
    (settled : Settled w) (attended : Attended w.data) (covered : Covered setting w.data)
    (allowed : ¬ Depletes setting w a) (ends : ending = .returned ∨ ending = .blocked)
    (effect : Effect setting w a ending w') : Covered setting w'.data := by
  cases effect with
  | kept a kept =>
      exact covered.stay (kept.drift .active).ge (by rw [kept.nodes]) kept.current kept.pending
  | waiting a l held kept =>
      exact covered.stay (kept.drift .active).ge (by rw [kept.nodes]) kept.current kept.pending
  | exited a reconfigures => rcases ends with ends | ends <;> cases ends
  | panicked req order crashes => rcases ends with ends | ends <;> cases ends
  | @counted s counted _ req now round status rank held accepting fresh admitted =>
      have counts := Server.counted_of_admits admitted
      have drift := Server.drift_sessionRegistered req now counts .active
      obtain ⟨_, _, same⟩ := Server.sessionRegistered_eq counted req now status rank
      have nodes : (counted.sessionRegistered req now status rank).nodes = s.nodes := by
        rw [same]
        exact counts.nodes
      have lifecycle : (counted.sessionRegistered req now status rank).lifecycle = s.lifecycle := by
        rw [same]
        exact counts.lifecycle
      refine covered.stay ?_ (by rw [nodes]) (congrArg Lifecycle.current lifecycle)
        (congrArg (fun l : Lifecycle => l.spawned + l.inFlight) lifecycle)
      exact drift ▸ le_add_of_nonneg_right (by split <;> omega)
  | enrolled req now round status rank enrolls ending ends =>
      exact covered.enrolled (Server.counted_of_admits enrolls.admitted)
        (enrolls.unregistered attended)
  | startFailed req now round status rank enrolls complete =>
      refine (covered.enrolled (Server.counted_of_admits enrolls.admitted)
        (enrolls.unregistered attended)).started round ?_
      rw [complete.2]
      decide
  | @started s counted _ req now round status rank enrolls complete enough =>
      have notRunning : (counted.enrolled req now status rank).current ≠ .running := by
        rw [complete.2]
        decide
      have after := (covered.enrolled (Server.counted_of_admits enrolls.admitted)
        (enrolls.unregistered attended)).started round notRunning
      refine ⟨after.counted, after.bounded, fun _ _ => le_antisymm after.bounded ?_⟩
      rw [split]
      exact enough.trans (Registry.count_le fun j active => by rwa [Server.statusOf_started])
  | leaked req status registryFree known working refused => exact covered
  | @failedOver s _ req status registryFree known working accepted =>
      have left : (s.failedOver req.nodeId status).current ≠ .running := by
        rw [show (s.failedOver req.nodeId status).current = .reconfiguring from
          congrArg Lifecycle.current (Server.lifecycle_failedOver ..)]
        decide
      have after := covered.leave left (Server.drift_failedOver known working .active).ge
        (Registry.count_le fun j active => by
          rw [Server.statusOf_failedOver] at active
          split at active
          · obtain ⟨_, _, clash⟩ := Option.map_eq_some_iff.mp active
            cases clash
          · exact active)
      exact ⟨after.counted, after.bounded, after.full⟩
  | @timedOut s _ now order registryFree =>
      have expired := Server.expired_timedOut (s := s) setting now order
      refine covered.lose (expired.drift .active) (fun j active => ?_) expired.lifecycle
        fun running none j active => ?_
      · rw [expired.status] at active
        split at active
        · obtain ⟨_, _, clash⟩ := Option.map_eq_some_iff.mp active
          cases clash
        · exact active
      · rw [expired.status, if_neg, active]
        exact fun stale => allowed ⟨running, none, j, Server.mem_timeouts.mp stale, active⟩
  | @cleanedUp s _ now order registryFree =>
      obtain ⟨departed, lifecycle⟩ := Server.departed_cleanedUp (s := s) setting now order
      refine covered.lose (departed.drift .active) (fun j active => ?_) lifecycle
        fun running none j active => ?_
      · rw [departed.status] at active
        split at active
        · cases active
        · exact active
      · rw [departed.status, if_neg, active]
        exact fun dead => allowed ⟨running, none, j, Server.mem_deadConnections.mp dead, active⟩
  | removedInactive nodeID rounds status clusterFree known accepted inactive =>
      exact covered.removed known
  | removedActive nodeID rounds clusterFree known accepted returns =>
      exact (covered.removed known).returned (Server.returned_of_reconfigure returns) _
  | removedStuck nodeID rounds clusterFree known accepted sticks =>
      exact (covered.removed known).underway (Server.underway_of_stuck sticks).2
  | reconfigured rounds spawned accepted returns =>
      exact (covered.scheduled spawned).returned (Server.returned_of_reconfigure returns) _
  | reconfigureStuck rounds spawned accepted sticks =>
      exact (covered.scheduled spawned).underway (Server.underway_of_stuck sticks).2

/-- **Full complement while `Running`.** Along every run whose ticks take no active node away, the
server in `Running` without a pending reconfiguration has the required number of active nodes. -/
theorem full_of_running {deployment : Deployment} {w : World}
    (run : (system deployment).Run (fun w a => ¬ Depletes deployment.toSetting w a) w)
    (running : w.data.current = .running) (none : w.data.pending = 0) :
    w.data.nodes.count .active = deployment.config.activeNodes := by
  have covered : Covered deployment.toSetting w.data :=
    invariant_of_run (I := fun w => Covered deployment.toSetting w.data)
      (fun _ => attended_of_reachable)
      ⟨le_refl 0, deployment.positive.le, fun initial => by cases initial⟩
      (fun settled attended covered allowed ends effect =>
        covered.effect deployment.split settled attended allowed ends effect) run
  exact covered.full running none

theorem full_of_running_gathered :
    ∃ w, (system smallDeployment).Run (fun w a => ¬ Depletes smallSetting w a) w ∧
      w.data.current = .running ∧ w.data.nodes.count .active = 3 := by
  obtain ⟨w, run, running, none, _⟩ := gathered (C := fun w a => ¬ Depletes smallSetting w a)
    fun w a gathers depletes => by
      obtain ⟨⟨req, now, round, rfl⟩, _⟩ := Action.of_gathers gathers
      exact depletes
  exact ⟨w, run, running, full_of_running run running none⟩

/-- A health tick times out an active node, and the server stays in `Running` without it. -/
theorem depleted_by_timeout :
    ∃ w, (system smallDeployment).Reachable w ∧ w.data.current = .running ∧ w.data.pending = 0 ∧
      w.data.nodes.count .active = 2 ∧ smallDeployment.config.activeNodes = 3 := by
  obtain ⟨w, reachable, holds⟩ := System.exists_reachable (S := system smallDeployment)
    (gathering ++ [.sendHeartbeat ⟨"b.ns.1"⟩ 6, .sendHeartbeat ⟨"c.ns.1"⟩ 6,
      .sendHeartbeat ⟨"d.ns.1"⟩ 6, .healthTick 6 .inOrder])
    (fun w => w.data.current = .running ∧ w.data.pending = 0 ∧ w.data.nodes.count .active = 2)
    rfl (by decide +kernel)
  obtain ⟨running, none, two⟩ := of_decide_eq_true holds
  exact ⟨w, reachable, running, none, two, rfl⟩

end C4D
