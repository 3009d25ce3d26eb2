import C4D.Server.Attendance

/-!
# When the counters agree with the registry

The three counters are edited apart from the registry. `Miscounts` lists the
steps that let them drift: an admission that waits for a registry lock held for
good, a health tick that times out a registered node, a cleanup or a removal of
a failed node, and a reconfiguration that marks a standby node it finds under
the URL of another node.

Along every run without such steps the counters are the numbers of active,
standby and failed nodes (`counters_agree`).
-/

set_option autoImplicit false

namespace C4D

open Foundations

variable {setting : Setting}

/-! ## Standby nodes marked by a reconfiguration -/

/-- Some attempt that is left finds a standby node under the URL of a node that did not answer. -/
def Server.MarksStandby (setting : Setting) (rounds : Nat → Round) : Nat → Nat → Server → Prop
  | 0, _, _ => False
  | left + 1, attempt, s =>
      setting.config.activeNodes ≤ (s.chosen setting (rounds attempt)).length ∧
        ((∃ url ∈ s.unreached setting (rounds attempt),
            (s.prepared setting (rounds attempt)).nodes.statusOf url = some .standby) ∨
          (s.unreached setting (rounds attempt) ≠ [] ∧
            MarksStandby setting rounds left (attempt + 1) (s.marked setting (rounds attempt))))

/-- The data a call ended with, unless it ended the process. -/
def Reconfigured.data? : Reconfigured → Option Server
  | .returned s => some s
  | .exited _ => none
  | .stuck s => some s

/-- A call that marks no standby node keeps the drifts. -/
theorem Server.drift_reconfigureFrom {rounds : Nat → Round} {clusterFree : Bool}
    (left attempt : Nat) {s s' : Server}
    (honest : clusterFree = true → ¬ s.MarksStandby setting rounds left attempt)
    (ends : (s.reconfigureFrom setting rounds clusterFree left attempt).data? = some s')
    (status : Status) : s'.drift status = s.drift status := by
  induction left generalizing attempt s with
  | zero => cases ends
  | succ left ih =>
      rw [reconfigureFrom] at ends
      split at ends
      · cases ends
      · next enough =>
          split at ends
          · cases ends
            rw [drift_resumed, drift_notified]
          · next unanswered =>
              cases clusterFree with
              | false =>
                  cases ends
                  exact drift_notified status
              | true =>
                  have notHere := honest rfl
                  rw [MarksStandby, not_and_or, not_or, not_and] at notHere
                  rcases notHere with few | ⟨none, later⟩
                  · exact absurd (not_lt.mp enough) few
                  · rw [ih (attempt + 1) (fun _ => later unanswered) ends]
                    refine (drift_foldl_markFailed ?_ status).trans (drift_notified status)
                    intro url mem standby
                    exact none ⟨url, mem, statusOf_notified url ▸ standby⟩

theorem Server.drift_reconfigure {rounds : Nat → Round} {clusterFree : Bool} {s s' : Server}
    (honest : clusterFree = true →
      ¬ MarksStandby setting rounds maxAttempts 0 { s with current := .reconfiguring })
    (ends : (s.reconfigure setting rounds clusterFree).data? = some s') (status : Status) :
    s'.drift status = s.drift status :=
  drift_reconfigureFrom maxAttempts 0 honest ends status

/-! ## Steps that miscount -/

/-- The steps that let a counter drift from the registry. -/
def Miscounts (setting : Setting) (w : World) : Action → Prop
  | .register req _ _ => w.locks .registryMu ≠ .free ∧ w.data.sessions.lookup req.nodeId = none ∧
      (w.data.activeNodes < setting.config.activeNodes ∨
        w.data.standbyNodes < setting.config.standbyNodes)
  | .healthTick now _ => w.locks .registryMu = .free ∧
      ∃ id ∈ w.data.nodes, w.data.Stale setting now id
  | .cleanupTick now _ => w.locks .registryMu = .free ∧
      ∃ id, w.data.Dead setting now id ∧ w.data.nodes.statusOf id = some .failed
  | .removeNode nodeID _ => w.locks .clusterMu = .free ∧ w.data.current.reconfigurable ∧
      w.data.nodes.statusOf nodeID = some .failed
  | .reconfigure rounds => w.locks .clusterMu = .free ∧ w.data.current.reconfigurable ∧
      Server.MarksStandby setting rounds maxAttempts 0
        { w.data.scheduled with current := .reconfiguring }
  | _ => False

/-- Every counter is the number of nodes with its status. -/
def Agree (s : Server) : Prop := ∀ status, s.counter status = s.nodes.count status

theorem Agree.iff_drift {s : Server} : Agree s ↔ ∀ status, s.drift status = 0 :=
  forall_congr' fun _ => sub_eq_zero.symm

namespace Agree

variable {s s' : Server}

theorem of_drift (agree : Agree s) (same : ∀ status, s'.drift status = s.drift status) :
    Agree s' :=
  iff_drift.mpr fun status => (same status).trans (iff_drift.mp agree status)

theorem enrolled {req : RegisterRequest} (now : Int) {status : Status} {rank : Int}
    {counted : Server} (agree : Agree s) (counts : Server.Counted setting s status rank counted)
    (unknown : s.nodes.statusOf req.nodeId = none) :
    Agree (counted.enrolled req now status rank) := by
  apply agree.of_drift
  intro st
  rw [Server.drift_enrolled req now counts, unknown, if_neg (by simp), add_zero]

theorem removed {nodeID : String} {status : Status} (agree : Agree s)
    (known : s.nodes.statusOf nodeID = some status) (working : status ≠ .failed) :
    Agree (s.removed nodeID status) := by
  apply agree.of_drift
  intro st
  have drift := Server.drift_departed (s := { s with current := .reconfiguring }) known st
  rw [if_neg fun failed => working failed.1, add_zero] at drift
  exact drift

end Agree

/-- A step that does not miscount keeps the counters in agreement with the registry. -/
theorem Agree.effect {w w' : World} {a : Action} {ending : Ending} (settled : Settled w)
    (attended : Attended w.data) (agree : Agree w.data) (allowed : ¬ Miscounts setting w a)
    (ends : ending = .returned ∨ ending = .blocked) (effect : Effect setting w a ending w') :
    Agree w'.data := by
  cases effect with
  | kept a kept => exact agree.of_drift kept.drift
  | waiting a l held kept => exact agree.of_drift kept.drift
  | exited a reconfigures => rcases ends with ends | ends <;> cases ends
  | panicked req order crashes => rcases ends with ends | ends <;> cases ends
  | counted req now round status rank held accepting fresh admitted =>
      exact absurd ⟨held, fresh, Server.room_of_admits admitted⟩ allowed
  | enrolled req now round status rank enrolls ending ends =>
      exact agree.enrolled now (Server.counted_of_admits enrolls.admitted)
        (enrolls.unregistered attended)
  | startFailed req now round status rank enrolls complete =>
      exact (agree.enrolled now (Server.counted_of_admits enrolls.admitted)
        (enrolls.unregistered attended)).of_drift (Server.drift_started _ round)
  | @started s counted _ req now round status rank enrolls complete enough =>
      have started := (agree.enrolled now (Server.counted_of_admits enrolls.admitted)
        (enrolls.unregistered attended)).of_drift
          (Server.drift_started (counted.enrolled req now status rank) round)
      exact started.of_drift fun _ => rfl
  | leaked req status registryFree known working refused => exact agree
  | failedOver req status registryFree known working accepted =>
      exact agree.of_drift (Server.drift_failedOver known working)
  | @timedOut s _ now order registryFree =>
      have same : s.timedOut now setting order = (s.cleanupSessions
          (setting.config.heartbeatTimeout * 2) now).2 := by
        rw [Server.timedOut, Server.foldl_handleNodeTimeout_unregistered]
        exact fun id stale registered =>
          allowed ⟨registryFree, id, registered, Server.mem_timeouts.mp stale⟩
      exact agree.of_drift fun status => by rw [same]; rfl
  | @cleanedUp s _ now order registryFree =>
      refine agree.of_drift ((Server.departed_cleanedUp setting now order).1.settled ?_)
      exact fun id dead failed =>
        allowed ⟨registryFree, id, Server.mem_deadConnections.mp dead, failed⟩
  | removedInactive nodeID rounds status clusterFree known accepted inactive =>
      exact agree.removed known fun failed =>
        allowed ⟨clusterFree, accepted, failed ▸ known⟩
  | removedActive nodeID rounds clusterFree known accepted returns =>
      exact (agree.removed known (by decide)).of_drift (Server.drift_reconfigure (by simp)
        (congrArg Reconfigured.data? returns))
  | removedStuck nodeID rounds clusterFree known accepted sticks =>
      exact (agree.removed known (by decide)).of_drift (Server.drift_reconfigure (by simp)
        (congrArg Reconfigured.data? sticks))
  | @reconfigured s s' _ rounds spawned accepted returns =>
      have started : Agree s.scheduled := agree.of_drift fun _ => rfl
      have ended : Agree s' := started.of_drift (Server.drift_reconfigure
        (fun free marks => allowed ⟨of_decide_eq_true free, accepted, marks⟩)
        (congrArg Reconfigured.data? returns))
      exact ended.of_drift fun _ => rfl
  | @reconfigureStuck s s' _ rounds spawned accepted sticks =>
      have started : Agree s.scheduled := agree.of_drift fun _ => rfl
      exact started.of_drift (Server.drift_reconfigure
        (fun free marks => allowed ⟨of_decide_eq_true free, accepted, marks⟩)
        (congrArg Reconfigured.data? sticks))

/-- **The counters agree with the registry** along every run without miscounting steps. -/
theorem counters_agree {deployment : Deployment} {w : World}
    (run : (system deployment).Run (fun w a => ¬ Miscounts deployment.toSetting w a) w) :
    w.data.activeNodes = w.data.nodes.count .active ∧
      w.data.standbyNodes = w.data.nodes.count .standby ∧
      w.data.failedNodes = w.data.nodes.count .failed := by
  have agree : Agree w.data :=
    invariant_of_run (I := fun w => Agree w.data) (fun _ => attended_of_reachable)
      (fun status => by cases status <;> rfl)
      (fun settled attended agree allowed ends effect =>
        agree.effect settled attended allowed ends effect) run
  exact ⟨agree .active, agree .standby, agree .failed⟩

theorem counters_agree_gathered :
    ∃ w, (system smallDeployment).Run (fun w a => ¬ Miscounts smallSetting w a) w ∧
      w.data.nodes.count .active = 3 ∧ w.data.activeNodes = w.data.nodes.count .active := by
  obtain ⟨w, run, _, _, three, _⟩ := gathered (C := fun w a => ¬ Miscounts smallSetting w a)
    fun w a gathers miscounts => by
      obtain ⟨⟨req, now, round, rfl⟩, _, registryFree⟩ := Action.of_gathers gathers
      exact miscounts.1 registryFree
  exact ⟨w, run, three, (counters_agree run).1⟩

/-- A health tick times out a node, and the counter of active nodes keeps it. -/
theorem miscounted_by_timeout :
    ∃ w, (system smallDeployment).Reachable w ∧ w.data.activeNodes = 3 ∧
      w.data.nodes.count .active = 2 := by
  obtain ⟨w, reachable, holds⟩ := System.exists_reachable (S := system smallDeployment)
    (gathering ++ [.sendHeartbeat ⟨"b.ns.1"⟩ 6, .sendHeartbeat ⟨"c.ns.1"⟩ 6,
      .sendHeartbeat ⟨"d.ns.1"⟩ 6, .healthTick 6 .inOrder])
    (fun w => w.data.activeNodes = 3 ∧ w.data.nodes.count .active = 2) rfl (by decide +kernel)
  exact ⟨w, reachable, of_decide_eq_true holds⟩

end C4D
