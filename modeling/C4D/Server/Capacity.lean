import C4D.Server.System

/-!
# The capacity of the cluster

`Register` admits a node by two counters that other operations adjust apart from
the registry, and the promotion of standby nodes looks at the registry alone. In
every reachable world the counters of active and of standby nodes are at least
the numbers of such nodes, and these numbers are at most the configured ones
(`Capped`, `capacity_of_reachable`).

No operation lowers one of the two drifts. A health tick and the marking of a
standby node raise them, and so does an admission that never reaches the
registry.
-/

set_option autoImplicit false

namespace C4D

open Foundations

/-- The configured number of active or standby nodes. Failed nodes are not limited. -/
def Setting.capacity (setting : Setting) : Status → Option Int
  | .active => some setting.config.activeNodes
  | .standby => some (max 0 setting.config.standbyNodes)
  | .failed => none

/-- The counters of the limited statuses cover the registry and the registry keeps within the
limits. -/
structure Capped (setting : Setting) (s : Server) : Prop where
  counted : ∀ status limit, setting.capacity status = some limit → 0 ≤ s.drift status
  bounded : ∀ status limit, setting.capacity status = some limit →
    s.nodes.count status ≤ limit

namespace Server

variable {setting : Setting} {s : Server}

/-- An admission found room for its status. -/
theorem Admitted.room {status : Status} {rank : Int} {counted : Server}
    (admitted : Admitted setting s status rank counted) :
    ∃ limit, setting.capacity status = some limit ∧ s.counter status < limit := by
  cases admitted with
  | active room => exact ⟨_, rfl, room⟩
  | standby full room => exact ⟨_, rfl, lt_max_of_lt_right room⟩

/-- Marking lowers the drift of failed nodes only. -/
theorem drift_le_foldl_markFailed (urls : List String) {status : Status}
    (working : status ≠ .failed) : s.drift status ≤ (urls.foldl markFailed s).drift status := by
  induction urls generalizing s with
  | nil => exact le_rfl
  | cons url rest ih =>
      refine le_trans ?_ ih
      rw [drift_markFailed]
      cases status with
      | failed => exact absurd rfl working
      | active => split <;> simp
      | standby => split <;> simp

end Server

variable {setting : Setting} {s s' : Server}

theorem Setting.working_of_capacity {status : Status} {limit : Int}
    (limited : setting.capacity status = some limit) : status ≠ .failed := by
  rintro rfl
  cases limited

namespace Capped

/-- Drifts that do not fall and numbers that do not rise keep the server capped. -/
theorem relax (capped : Capped setting s)
    (drift : ∀ status, status ≠ .failed → s.drift status ≤ s'.drift status)
    (fewer : ∀ status, status ≠ .failed → s'.nodes.count status ≤ s.nodes.count status) :
    Capped setting s' where
  counted status limit limited :=
    (capped.counted status limit limited).trans (drift status (setting.working_of_capacity limited))
  bounded status limit limited :=
    (fewer status (setting.working_of_capacity limited)).trans (capped.bounded status limit limited)

/-- Nodes that keep their status or fail leave the numbers within the limits. -/
theorem fail (capped : Capped setting s)
    (drift : ∀ status, status ≠ .failed → s.drift status ≤ s'.drift status)
    (status : ∀ j st, st ≠ .failed → s'.nodes.statusOf j = some st → s.nodes.statusOf j = some st) :
    Capped setting s' :=
  capped.relax drift fun st working => Registry.count_le fun j => status j st working

/-- An admitted node finds room by its counter, which covers the registry. -/
theorem enrolled {req : RegisterRequest} (now : Int) {status : Status} {rank : Int}
    {counted : Server} (capped : Capped setting s)
    (admits : (s.captureMaster req).admitNode setting = (.ok (status, rank), counted)) :
    Capped setting (counted.enrolled req now status rank) where
  counted st limit limited := by
    have covered := capped.counted st limit limited
    rw [Server.drift_enrolled req now (Server.counted_of_admits admits)]
    split <;> omega
  bounded st limit limited := by
    have counts := Server.counted_of_admits admits
    have covered := capped.counted st limit limited
    have bounded := capped.bounded st limit limited
    rw [Server.nodes_enrolled req now counts, Registry.count_insert]
    by_cases same : status = st
    · obtain ⟨_, capacity, room⟩ := (Server.admitted_of_admits admits).room
      rw [same, limited, Option.some.injEq] at capacity
      have counter : (s.captureMaster req).counter st = s.counter st := by
        unfold Server.captureMaster
        split <;> cases st <;> rfl
      rw [Server.drift] at covered
      rw [same, ← capacity, counter] at room
      rw [if_pos same]
      split <;> omega
    · rw [if_neg same]
      split <;> omega

/-- The start changes ranks only. -/
theorem started (capped : Capped setting s) (round : Round) : Capped setting (s.started round) :=
  capped.relax (fun status _ => (Server.drift_started s round status).ge) fun _ _ =>
    Registry.count_le fun j => by rw [Server.statusOf_started]; exact id

theorem scheduled (capped : Capped setting s) : Capped setting s.scheduled :=
  capped.relax (fun status _ => by cases status <;> exact le_rfl) fun _ _ => le_rfl

/-! ## Reconfigurations -/

section Attempt

variable {round : Round}

/-- The promotions fill the active nodes up to their limit. -/
theorem prepared (capped : Capped setting s) : Capped setting (s.prepared setting round) where
  counted status limit limited :=
    (capped.counted status limit limited).trans_eq (Server.drift_prepared status).symm
  bounded status limit limited := by
    have bounded := capped.bounded status limit limited
    cases status with
    | active =>
        rw [← Server.length_chosen]
        cases limited
        exact Server.length_chosen_le bounded
    | standby =>
        rw [Server.count_prepared]
        simp only [reduceCtorEq, if_false, if_true]
        omega
    | failed => cases limited

theorem notified (capped : Capped setting s) : Capped setting (s.notified setting round) :=
  capped.prepared.relax (fun status _ => ((Server.drift_notified status).trans
    (Server.drift_prepared status).symm).ge) fun status _ => (Server.count_notified status).le

theorem marked (capped : Capped setting s) : Capped setting (s.marked setting round) :=
  capped.notified.fail (fun _ working => Server.drift_le_foldl_markFailed _ working)
    fun j st working => by
      rw [Server.statusOf_marked, Server.statusOf_notified]
      split
      · intro marked
        obtain ⟨_, _, failed⟩ := Option.map_eq_some_iff.mp marked
        exact absurd failed.symm working
      · exact id

end Attempt

/-- A reconfiguration that does not end the process leaves the server capped. -/
theorem reconfigured {rounds : Nat → Round} {clusterFree : Bool} (capped : Capped setting s)
    {outcome : Reconfigured} (runs : s.reconfigure setting rounds clusterFree = outcome) :
    match outcome with
    | .returned s' => Capped setting s'
    | .exited _ => True
    | .stuck s' => Capped setting s' := by
  have ends := Server.reconfigureFrom_ends setting rounds clusterFree (I := Capped setting)
    (fun _ _ capped _ _ => capped.marked) maxAttempts 0 (s := { s with current := .reconfiguring })
    (capped.relax (fun status _ => by cases status <;> exact le_rfl) fun _ _ => le_rfl)
  rw [Server.reconfigure] at runs
  rw [runs] at ends
  cases outcome with
  | returned s' =>
      obtain ⟨last, attempt, capped, _, _, rfl⟩ := ends
      have told : Capped setting (last.notified setting (rounds attempt)) := capped.notified
      refine told.relax (fun status _ => ?_) fun status _ => ?_
      · rw [Server.drift_resumed]
      · rw [Server.nodes_resumed]
  | exited s' => trivial
  | stuck s' =>
      obtain ⟨_, last, attempt, capped, rfl⟩ := ends
      exact capped.notified

/-! ## Steps -/

theorem departed (capped : Capped setting s) {nodeIDs : List String}
    (departed : Server.Departed nodeIDs s s') : Capped setting s' :=
  capped.fail (fun status _ => departed.drift status) fun j st _ => by
    rw [departed.status]
    split
    · exact fun gone => by cases gone
    · exact id

theorem removed (capped : Capped setting s) {nodeID : String} {status : Status}
    (known : s.nodes.statusOf nodeID = some status) :
    Capped setting (s.removed nodeID status) := by
  refine capped.fail (fun st working => ?_) fun j st _ => ?_
  · have drift := Server.drift_departed (s := { s with current := .reconfiguring }) known st
    rw [if_neg fun failed => working failed.2, add_zero] at drift
    refine le_of_le_of_eq ?_ drift.symm
    cases st <;> exact le_rfl
  · rw [Server.removed, Server.statusOf_deleteNode, Server.nodes_countRemoved]
    split
    · exact fun gone => by cases gone
    · exact id

/-- **No step of the server exceeds its capacity.** -/
theorem effect {w w' : World} {a : Action} {ending : Ending} (capped : Capped setting w.data)
    (ends : ending = .returned ∨ ending = .blocked) (effect : Effect setting w a ending w') :
    Capped setting w'.data := by
  cases effect with
  | kept a kept =>
      exact capped.relax (fun status _ => (kept.drift status).ge) fun _ _ => by rw [kept.nodes]
  | waiting a l held kept =>
      exact capped.relax (fun status _ => (kept.drift status).ge) fun _ _ => by rw [kept.nodes]
  | exited a reconfigures => rcases ends with ends | ends <;> cases ends
  | panicked req order crashes => rcases ends with ends | ends <;> cases ends
  | @counted s counted _ req now round status rank held accepting fresh admitted =>
      have counts := Server.counted_of_admits admitted
      refine capped.relax (fun st _ => ?_) fun st _ => ?_
      · rw [Server.drift_sessionRegistered req now counts]
        exact le_add_of_nonneg_right (by split <;> decide)
      · obtain ⟨_, _, same⟩ := Server.sessionRegistered_eq counted req now status rank
        rw [same]
        exact (congrArg (Registry.count · st) counts.nodes).le
  | enrolled req now round status rank enrolls ending ends =>
      exact capped.enrolled now enrolls.admitted
  | startFailed req now round status rank enrolls complete =>
      exact (capped.enrolled now enrolls.admitted).started round
  | started req now round status rank enrolls complete enough =>
      refine ((capped.enrolled now enrolls.admitted).started round).relax (fun st _ => ?_)
        fun _ _ => le_rfl
      cases st <;> exact le_rfl
  | leaked req status registryFree known working refused => exact capped
  | @failedOver s _ req status registryFree known working accepted =>
      refine capped.fail (fun st _ => ?_) fun j st active => ?_
      · apply (Server.drift_failedOver known working st).ge.trans
        cases st <;> exact le_rfl
      · intro after
        have after : (s.failedOver req.nodeId status).nodes.statusOf j = some st := after
        rw [Server.statusOf_failedOver] at after
        split at after
        · obtain ⟨_, _, failed⟩ := Option.map_eq_some_iff.mp after
          exact absurd failed.symm active
        · exact after
  | @timedOut s _ now order registryFree =>
      have expired := Server.expired_timedOut (s := s) setting now order
      apply capped.fail (fun st _ => expired.drift st)
      intro j st active after
      rw [expired.status] at after
      split at after
      · obtain ⟨_, _, failed⟩ := Option.map_eq_some_iff.mp after
        exact absurd failed.symm active
      · exact after
  | cleanedUp now order registryFree =>
      exact capped.departed (Server.departed_cleanedUp setting now order).1
  | removedInactive nodeID rounds status clusterFree known accepted inactive =>
      exact capped.removed known
  | removedActive nodeID rounds clusterFree known accepted returns =>
      exact (capped.removed known).reconfigured returns
  | removedStuck nodeID rounds clusterFree known accepted sticks =>
      exact (capped.removed known).reconfigured sticks
  | reconfigured rounds spawned accepted returns =>
      have after := (capped.scheduled).reconfigured returns
      exact after.relax (fun st _ => by cases st <;> exact le_rfl) fun _ _ => le_rfl
  | reconfigureStuck rounds spawned accepted sticks =>
      exact (capped.scheduled).reconfigured sticks

end Capped

theorem capped_new (setting : Setting) (active : 1 ≤ setting.config.activeNodes) :
    Capped setting (Server.new setting) where
  counted status limit _ := by cases status <;> exact le_rfl
  bounded status limit limited := by
    cases status with
    | active =>
        cases limited
        exact Int.le_of_lt active
    | standby =>
        cases limited
        exact le_max_left 0 _
    | failed => cases limited

/-- Every reachable server is capped. -/
theorem capped_of_reachable (setting : Setting) (active : 1 ≤ setting.config.activeNodes) {w : World}
    (reachable : setting.system.Reachable w) : Capped setting w.data :=
  setting.invariant_of_run (I := fun w => Capped setting w.data) (J := fun _ => True)
    (fun _ _ => trivial) (capped_new setting active)
    (fun _ _ capped _ ends effect => capped.effect ends effect) reachable

/-- **Capacity.** In every reachable world the registry holds at most the configured numbers of
active and of standby nodes. -/
theorem capacity_of_reachable (setting : Setting) (active : 1 ≤ setting.config.activeNodes)
    (standby : 0 ≤ setting.config.standbyNodes) {w : World} (reachable : setting.system.Reachable w) :
    w.data.nodes.count .active ≤ setting.config.activeNodes ∧
      w.data.nodes.count .standby ≤ setting.config.standbyNodes := by
  have capped := capped_of_reachable setting active reachable
  have bounded := capped.bounded .standby _ rfl
  rw [max_eq_right standby] at bounded
  exact ⟨capped.bounded .active _ rfl, bounded⟩

theorem capacity_of_reachable_gathered :
    ∃ w, smallSetting.system.Reachable w ∧ w.data.nodes.count .active = 3 ∧
      w.data.nodes.count .standby ≤ 1 := by
  obtain ⟨w, run, _, _, three, _⟩ := gathered (C := fun _ _ => True) fun _ _ _ => trivial
  exact ⟨w, run, three, (capacity_of_reachable smallSetting (by decide) (by decide) run).2⟩

end C4D
