import C4D.Server.System

/-!
# When the server is left in `Reconfiguring`

A failure notification and a removal move the server to `Reconfiguring` before
they look at the status of the node, and only the loss of an active node is
followed by a reconfiguration, which leaves that state. The other operations
strand the server when no reconfiguration is pending (`Strands`), and so does
the removal of an active node whose own reconfiguration has a command
unanswered, since it then waits for the cluster lock it holds.

Along every run without such steps, the server is in `Reconfiguring` only while
a reconfiguration is pending (`pending_of_reconfiguring`).
-/

set_option autoImplicit false

namespace C4D

open Foundations

variable {setting : Setting}

/-- The removal of an active node enters a reconfiguration that has enough nodes and leaves a
command of its first attempt unanswered. -/
def Server.removalUnanswered (setting : Setting) (s : Server) (nodeID : String)
    (rounds : Nat → Round) : Prop :=
  setting.config.activeNodes ≤ ((s.removed nodeID .active).chosen setting (rounds 0)).length ∧
    ∃ j ∈ (s.removed nodeID .active).chosen setting (rounds 0), (rounds 0).answers j = false

/-- The steps that strand the server in `Reconfiguring`: without a pending reconfiguration, the
report of a standby node, and the removal of a node that is not active or whose replacement is not
answered. -/
def Strands (setting : Setting) (w : World) : Action → Prop
  | .notifyFailure req => w.data.current = .running ∧ w.data.pending = 0 ∧
      w.data.nodes.statusOf req.nodeId = some .standby
  | .removeNode nodeID rounds => w.data.current = .running ∧ w.data.pending = 0 ∧
      w.locks .clusterMu = .free ∧
      (w.data.nodes.statusOf nodeID = some .standby ∨ w.data.nodes.statusOf nodeID = some .failed ∨
        (w.data.nodes.statusOf nodeID = some .active ∧
          w.data.removalUnanswered setting nodeID rounds))
  | _ => False

/-- While the server is in `Reconfiguring`, a reconfiguration is pending. -/
def Attainable (s : Server) : Prop := s.current = .reconfiguring → 0 < s.pending

namespace Attainable

variable {s s' : Server}

theorem of_running (running : s.current = .running) : Attainable s := by
  intro reconfiguring
  cases running.symm.trans reconfiguring

theorem congr (attainable : Attainable s) (current : s'.current = s.current)
    (pending : s'.pending = s.pending) : Attainable s' := by
  intro reconfiguring
  rw [pending]
  exact attainable (current.symm.trans reconfiguring)

theorem lifecycle (attainable : Attainable s) (same : s'.lifecycle = s.lifecycle) :
    Attainable s' :=
  attainable.congr (congrArg Lifecycle.current same)
    (congrArg (fun l : Lifecycle => l.spawned + l.inFlight) same)

/-- From `Reconfiguring` the invariant gives a pending reconfiguration, and from `Running` the
step that is taken does. -/
theorem pending (attainable : Attainable s) (accepted : s.current.reconfigurable)
    (busy : ¬ (s.current = .running ∧ s.pending = 0)) : 0 < s.pending := by
  rcases accepted with running | reconfiguring
  · exact Nat.pos_of_ne_zero fun none => busy ⟨running, none⟩
  · exact attainable reconfiguring

end Attainable

/-- A reconfiguration entered with the cluster lock held waits in its first attempt only. -/
theorem Server.unanswered_of_stuck {s s' : Server} {nodeID : String} {rounds : Nat → Round}
    (sticks : (s.removed nodeID .active).reconfigure setting rounds false = .stuck s') :
    s.removalUnanswered setting nodeID rounds := by
  have entered : { s.removed nodeID .active with current := .reconfiguring } =
      s.removed nodeID .active := rfl
  rw [reconfigure, entered, maxAttempts, reconfigureFrom] at sticks
  split at sticks
  · cases sticks
  · next enough =>
      split at sticks
      · cases sticks
      · next unanswered =>
          refine ⟨not_lt.mp enough, ?_⟩
          by_contra answered
          refine unanswered (unreached_eq_nil.mpr fun j target => ?_)
          by_contra silent
          exact answered ⟨j, mem_targets.mp target, Bool.eq_false_iff.mpr silent⟩

/-- A step that does not strand the server keeps a reconfiguration pending in `Reconfiguring`. -/
theorem Attainable.effect {w w' : World} {a : Action} {ending : Ending}
    (attainable : Attainable w.data) (allowed : ¬ Strands setting w a)
    (ends : ending = .returned ∨ ending = .blocked) (effect : Effect setting w a ending w') :
    Attainable w'.data := by
  cases effect with
  | kept a kept => exact attainable.congr kept.current kept.pending
  | waiting a l held kept => exact attainable.congr kept.current kept.pending
  | exited a reconfigures => rcases ends with ends | ends <;> cases ends
  | panicked req order crashes => rcases ends with ends | ends <;> cases ends
  | counted req now round status rank held accepting fresh admitted =>
      apply attainable.lifecycle
      obtain ⟨_, _, same⟩ := Server.sessionRegistered_eq _ req now status rank
      rw [same]
      exact (Server.counted_of_admits admitted).lifecycle
  | enrolled req now round status rank enrolls ending ends =>
      exact attainable.lifecycle
        (Server.lifecycle_enrolled req now (Server.counted_of_admits enrolls.admitted))
  | startFailed req now round status rank enrolls complete =>
      exact attainable.lifecycle
        (Server.lifecycle_enrolled req now (Server.counted_of_admits enrolls.admitted))
  | started req now round status rank enrolls complete enough => exact .of_running rfl
  | leaked req status registryFree known working refused => exact attainable
  | @failedOver s _ req status registryFree known working accepted =>
      have lifecycle := Server.lifecycle_failedOver s req.nodeId status
      have pending : (s.failedOver req.nodeId status).pending =
          s.spawned + (if status = .active then 1 else 0) + s.inFlight :=
        congrArg (fun l : Lifecycle => l.spawned + l.inFlight) lifecycle
      intro _
      change 0 < (s.failedOver req.nodeId status).pending
      rw [pending]
      cases status with
      | active => simp only [if_true]; omega
      | standby =>
          have busy := attainable.pending accepted fun idle => allowed ⟨idle.1, idle.2, known⟩
          rwa [if_neg (by decide)]
      | failed => exact absurd rfl working
  | timedOut now order registryFree =>
      exact attainable.lifecycle (Server.expired_timedOut setting now order).lifecycle
  | cleanedUp now order registryFree =>
      exact attainable.lifecycle (Server.departed_cleanedUp setting now order).2
  | @removedInactive s _ nodeID rounds status clusterFree known accepted inactive =>
      have pending : (s.removed nodeID status).pending = s.pending :=
        congrArg (fun l : Lifecycle => l.spawned + l.inFlight) (lifecycle_removed nodeID status)
      intro _
      change 0 < (s.removed nodeID status).pending
      rw [pending]
      refine attainable.pending accepted fun idle => allowed ⟨idle.1, idle.2, clusterFree, ?_⟩
      cases status with
      | active => exact absurd rfl inactive
      | standby => exact .inl known
      | failed => exact .inr (.inl known)
  | removedActive nodeID rounds clusterFree known accepted returns =>
      exact .of_running (congrArg Elsewhere.current
        (Server.returned_of_reconfigure returns).elsewhere)
  | @removedStuck s s' _ nodeID rounds clusterFree known accepted sticks =>
      have pending : s'.pending = s.pending :=
        congrArg (fun e : Elsewhere => e.spawned + e.inFlight)
          (Server.underway_of_stuck sticks).2.elsewhere
      intro _
      change 0 < s'.pending
      rw [pending]
      exact attainable.pending accepted fun idle => allowed ⟨idle.1, idle.2, clusterFree,
        .inr (.inr ⟨known, Server.unanswered_of_stuck sticks⟩)⟩
  | reconfigured rounds spawned accepted returns =>
      exact .of_running (congrArg Elsewhere.current
        (Server.returned_of_reconfigure returns).elsewhere)
  | @reconfigureStuck s s' _ rounds spawned accepted sticks =>
      have pending : s'.pending = s.scheduled.pending :=
        congrArg (fun e : Elsewhere => e.spawned + e.inFlight)
          (Server.underway_of_stuck sticks).2.elsewhere
      intro _
      change 0 < s'.pending
      rw [pending]
      exact Nat.add_pos_right _ (Nat.succ_pos _)

/-- **No stuck reconfiguration.** Along every run without stranding steps, the server is in
`Reconfiguring` only while a reconfiguration is pending. -/
theorem pending_of_reconfiguring {deployment : Deployment} {w : World}
    (run : (system deployment).Run (fun w a => ¬ Strands deployment.toSetting w a) w)
    (reconfiguring : w.data.current = .reconfiguring) : 0 < w.data.pending :=
  invariant_of_run (I := fun w => Attainable w.data) (J := fun _ => True) (fun _ _ => trivial)
    (fun initial => by cases initial)
    (fun _ _ attainable allowed ends effect => attainable.effect allowed ends effect) run
    reconfiguring

/-- The report of an active node leaves the server in `Reconfiguring` with one pending. -/
theorem pending_of_reconfiguring_active :
    ∃ w, (system smallDeployment).Run (fun w a => ¬ Strands smallSetting w a) w ∧
      w.data.current = .reconfiguring ∧ 0 < w.data.pending := by
  obtain ⟨w, run, holds⟩ := System.exists_run (S := system smallDeployment)
    (C := fun w a => ¬ Strands smallSetting w a)
    (fun w a => match a with
      | .register _ _ _ => true
      | .notifyFailure req => w.data.nodes.statusOf req.nodeId = some .active
      | _ => false)
    (gathering ++ [.notifyFailure ⟨"a.ns.1", "", 0, ""⟩])
    (fun w => w.data.current = .reconfiguring)
    (fun w a _ allowed strands => by
      cases a with
      | notifyFailure req => cases (of_decide_eq_true allowed).symm.trans strands.2.2
      | removeNode nodeID rounds => cases allowed
      | _ => exact strands)
    rfl (by decide +kernel)
  have reconfiguring := of_decide_eq_true holds
  exact ⟨w, run, reconfiguring, pending_of_reconfiguring run reconfiguring⟩

/-- The report of a standby node leaves the server in `Reconfiguring` with nothing pending. -/
theorem stranded_by_standby :
    ∃ w, (system smallDeployment).Reachable w ∧ w.data.current = .reconfiguring ∧
      w.data.pending = 0 := by
  obtain ⟨w, reachable, holds⟩ := System.exists_reachable (S := system smallDeployment)
    (gathering ++ [.notifyFailure ⟨"d.ns.1", "", 0, ""⟩])
    (fun w => w.data.current = .reconfiguring ∧ w.data.pending = 0) rfl (by decide +kernel)
  exact ⟨w, reachable, of_decide_eq_true holds⟩

end C4D
