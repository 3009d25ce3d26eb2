import C4D.Server.System

/-!
# Which requests release their locks

A handler started with every lock free is disciplined when it returns with every
lock free, and a refused failure report leaves the data as it was
(`Handler.Disciplined`). All handlers are, except for two kinds of request
(`Handler.Leaks`): the report of a registered node that arrives while the
transition to `Reconfiguring` is refused, where the registry lock is not
released, and the metrics request of an active node without metrics, which
dereferences nil (`disciplined_iff`).
-/

set_option autoImplicit false

namespace C4D

open Foundations Guarded

/-! ## Handlers -/

/-- The requests and ticks that take locks, with everything the environment decides. -/
inductive Handler where
  | register (req : RegisterRequest) (now : Int) (round : Round)
  | sendHeartbeat (req : HeartbeatRequest) (now : Int)
  | notifyFailure (req : FailureNotificationRequest)
  | handleNodeFailure (nodeID : String)
  | sendMetrics (req : MetricsRequest) (order : Shuffle Int)
  | healthTick (now : Int) (order : Shuffle String)
  | cleanupTick (now : Int) (order : Shuffle String)

namespace Handler

/-- Run a handler to its end. -/
def run (setting : Setting) (w : World) : Handler → Ending × World
  | .register req now round => w.run (C4D.register setting req now round)
  | .sendHeartbeat req now => w.run (C4D.sendHeartbeat req now)
  | .notifyFailure req => w.run (C4D.notifyFailure req)
  | .handleNodeFailure nodeID => w.run (C4D.handleNodeFailure nodeID)
  | .sendMetrics req order => w.run (C4D.sendMetrics req order)
  | .healthTick now order => w.run (checkNodesHealth setting now order)
  | .cleanupTick now order => w.run (cleanupDeadConnections setting now order)

/-- The handler reports a failure, so it attempts the transition to `Reconfiguring`. -/
def reports : Handler → Prop
  | .notifyFailure _ => True
  | .handleNodeFailure _ => True
  | _ => False

/-- The handler returns with every lock free, and changes nothing when its transition is refused. -/
structure Disciplined (setting : Setting) (w : World) (h : Handler) : Prop where
  releases : ∃ w', h.run setting w = (.returned, w') ∧ ∀ l, w'.locks l = .free
  refused : h.reports → ¬ w.data.current.reconfigurable → (h.run setting w).2.data = w.data

/-- The requests whose handler does not return with its locks released. -/
def Leaks (w : World) : Handler → Prop
  | .notifyFailure req => ¬ w.data.current.reconfigurable ∧
      (w.data.nodes.statusOf req.nodeId = some .active ∨
        w.data.nodes.statusOf req.nodeId = some .standby)
  | .handleNodeFailure nodeID => ¬ w.data.current.reconfigurable ∧ nodeID ∈ w.data.nodes
  | .sendMetrics req _ => req.crashes w.data
  | _ => False

end Handler

/-! ## Handlers that return -/

variable {setting : Setting} {s : Server} {locks : Lock → RWMutex}

/-- Only the registry lock and the cluster lock can be held between two steps. -/
theorem Settled.allFree {w : World} (settled : Settled w) (registryFree : w.locks .registryMu = .free)
    (clusterFree : w.locks .clusterMu = .free) : ∀ l, w.locks l = .free
  | .registryMu => registryFree
  | .stateMu => settled.stateFree
  | .metricsMu => settled.metricsFree
  | .sessionMu => settled.sessionFree
  | .clusterMu => clusterFree
  | .matrixMu => settled.matrixFree

/-- The steps that may not return with the locks released. -/
def Action.Leaks (s : Server) : Action → Prop
  | .notifyFailure req => ¬ s.current.reconfigurable ∧
      (s.nodes.statusOf req.nodeId = some .active ∨ s.nodes.statusOf req.nodeId = some .standby)
  | .sendMetrics req _ => req.crashes s
  | .removeNode _ _ => True
  | .reconfigure _ => True
  | _ => False

/-- **A step that finds every lock free returns with every lock free**, apart from those listed. -/
theorem Action.releases (setting : Setting) (settled : Settled ⟨s, locks⟩)
    (free : ∀ l, locks l = .free) (a : Action) (sound : ¬ a.Leaks s) :
    ∃ w', a.run setting ⟨s, locks⟩ = (.returned, w') ∧ ∀ l, w'.locks l = .free := by
  have enabled : a.enabled s := by
    cases a with
    | reconfigure rounds => exact absurd trivial sound
    | _ => exact trivial
  have effect := Action.run_effect setting settled a enabled
  rcases outcome : a.run setting ⟨s, locks⟩ with ⟨ending, w'⟩
  rw [outcome] at effect
  simp only [EffectOf] at effect
  suffices ending = .returned ∧ ∀ l, w'.locks l = .free by
    exact ⟨w', by rw [this.1], this.2⟩
  cases effect with
  | kept a kept => exact ⟨rfl, free⟩
  | waiting a l held kept => exact absurd (free l) held
  | exited a reconfigures =>
      rcases reconfigures with ⟨id, rounds, rfl⟩ | ⟨rounds, rfl⟩ <;> exact absurd trivial sound
  | panicked req order crashes => exact absurd crashes sound
  | counted req now round status rank held accepting fresh admitted => exact absurd (free _) held
  | enrolled req now round status rank enrolls ending ends =>
      rcases ends with returned | ⟨_, held⟩
      · exact ⟨returned, free⟩
      · exact absurd (free _) held
  | startFailed req now round status rank enrolls complete => exact ⟨rfl, free⟩
  | started req now round status rank enrolls complete enough => exact ⟨rfl, free⟩
  | leaked req status registryFree known working refused =>
      refine absurd ⟨refused, ?_⟩ sound
      cases status with
      | active => exact .inl known
      | standby => exact .inr known
      | failed => exact absurd rfl working
  | failedOver req status registryFree known working accepted => exact ⟨rfl, free⟩
  | timedOut now order registryFree => exact ⟨rfl, free⟩
  | cleanedUp now order registryFree => exact ⟨rfl, free⟩
  | removedInactive nodeID rounds status clusterFree known accepted inactive => exact ⟨rfl, free⟩
  | removedActive nodeID rounds clusterFree known accepted returns => exact ⟨rfl, free⟩
  | removedStuck nodeID rounds clusterFree known accepted sticks => exact absurd trivial sound
  | reconfigured rounds spawned accepted returns => exact ⟨rfl, free⟩
  | reconfigureStuck rounds spawned accepted sticks => exact absurd trivial sound

section Reports

variable (settled : Settled ⟨s, locks⟩) (free : ∀ l, locks l = .free)

include settled free

theorem handleNodeFailure_releases {nodeID : String}
    (sound : ¬ Handler.Leaks ⟨s, locks⟩ (.handleNodeFailure nodeID)) :
    ∃ w', World.run (handleNodeFailure nodeID) ⟨s, locks⟩ = (.returned, w') ∧
      ∀ l, w'.locks l = .free := by
  cases known : s.nodes.statusOf nodeID with
  | none => exact ⟨_, World.run_of_ok (handleNodeFailure_run_unknown (free _) known), free⟩
  | some status =>
      have accepted : s.current.reconfigurable := by
        by_contra refused
        exact sound ⟨refused, Registry.mem_iff_statusOf.mpr ⟨status, known⟩⟩
      exact ⟨_, World.run_of_ok (handleNodeFailure_run (free _) settled.stateFree known accepted),
        free⟩

/-- A refused report changes nothing but the registry lock. -/
theorem Handler.data_of_refused {h : Handler} (reports : h.reports)
    (refused : ¬ s.current.reconfigurable) : (h.run setting ⟨s, locks⟩).2.data = s := by
  cases h with
  | notifyFailure req =>
      rw [Handler.run]
      by_cases ignored : s.nodes.statusOf req.nodeId = none ∨
          s.nodes.statusOf req.nodeId = some .failed
      · obtain ⟨_, run⟩ := notifyFailure_run_ignored (free _) ignored
        rw [World.run_of_ok run]
      · obtain ⟨unknown, failed⟩ := not_or.mp ignored
        obtain ⟨status, known⟩ := Option.ne_none_iff_exists'.mp unknown
        rw [World.run_of_blocked (notifyFailure_run_refused (free _) settled.stateFree known
          (fun same => failed (same ▸ known)) refused)]
  | handleNodeFailure nodeID =>
      rw [Handler.run]
      cases known : s.nodes.statusOf nodeID with
      | none => rw [World.run_of_ok (handleNodeFailure_run_unknown (free _) known)]
      | some status =>
          rw [World.run_of_ok (handleNodeFailure_run_refused (free _) settled.stateFree known
            refused)]
  | register req now round => exact reports.elim
  | sendHeartbeat req now => exact reports.elim
  | sendMetrics req order => exact reports.elim
  | healthTick now order => exact reports.elim
  | cleanupTick now order => exact reports.elim

/-- A leaking request does not return with every lock free. -/
theorem Handler.not_releases {h : Handler} (leaks : h.Leaks ⟨s, locks⟩) :
    ¬ ∃ w', h.run setting ⟨s, locks⟩ = (.returned, w') ∧ ∀ l, w'.locks l = .free := by
  rintro ⟨w', returned, released⟩
  cases h with
  | notifyFailure req =>
      obtain ⟨refused, known⟩ := leaks
      rcases known with known | known
      · cases (World.run_of_blocked (notifyFailure_run_refused (free _) settled.stateFree known
          (by decide) refused)).symm.trans returned
      · cases (World.run_of_blocked (notifyFailure_run_refused (free _) settled.stateFree known
          (by decide) refused)).symm.trans returned
  | handleNodeFailure nodeID =>
      obtain ⟨refused, registered⟩ := leaks
      obtain ⟨status, known⟩ := Registry.mem_iff_statusOf.mp registered
      have run := (World.run_of_ok (handleNodeFailure_run_refused (free _) settled.stateFree known
        refused)).symm.trans returned
      injection run with _ held
      have written := released .registryMu
      rw [← held] at written
      exact RWMutex.ne_free_of_written
        (Function.update_self Lock.registryMu .written locks) written
  | sendMetrics req order =>
      obtain ⟨_, run⟩ := sendMetrics_run_crashes order settled.stateFree
        settled.metricsFree leaks
      cases (World.run_of_panicked run).symm.trans returned
  | register req now round => exact leaks.elim
  | sendHeartbeat req now => exact leaks.elim
  | healthTick now order => exact leaks.elim
  | cleanupTick now order => exact leaks.elim

end Reports

/-- **When locks are released.** In a reachable world with every lock free, a handler returns with
every lock free, and changes nothing when its transition is refused, if and only if the request is
not one that leaks. -/
theorem disciplined_iff {deployment : Deployment} {w : World}
    (reachable : (system deployment).Reachable w) (free : ∀ l, w.locks l = .free) (h : Handler) :
    h.Disciplined deployment.toSetting w ↔ ¬ h.Leaks w := by
  have settled := settled_of_reachable reachable
  refine ⟨fun disciplined leaks => Handler.not_releases settled free leaks disciplined.releases,
    fun sound => ⟨?_, fun reports refused => Handler.data_of_refused settled free reports refused⟩⟩
  cases h with
  | register req now round => exact Action.releases _ settled free (.register req now round) sound
  | sendHeartbeat req now =>
      exact Action.releases deployment.toSetting settled free (.sendHeartbeat req now) sound
  | notifyFailure req =>
      exact Action.releases deployment.toSetting settled free (.notifyFailure req) sound
  | handleNodeFailure nodeID => exact handleNodeFailure_releases settled free sound
  | sendMetrics req order =>
      exact Action.releases deployment.toSetting settled free (.sendMetrics req order) sound
  | healthTick now order => exact Action.releases _ settled free (.healthTick now order) sound
  | cleanupTick now order => exact Action.releases _ settled free (.cleanupTick now order) sound

/-- While the program runs, the report of an active node's failure takes the server to
`Reconfiguring` and releases its locks. -/
theorem disciplined_gathered :
    ∃ w, (system smallDeployment).Reachable w ∧ (∀ l, w.locks l = .free) ∧
      w.data.current = .running ∧ w.data.nodes.statusOf "a.ns.1" = some .active ∧
      (Handler.run smallSetting w (.notifyFailure ⟨"a.ns.1", "exit", 1, "process"⟩)).2.data.current =
        .reconfiguring ∧
      Handler.Disciplined smallSetting w (.notifyFailure ⟨"a.ns.1", "exit", 1, "process"⟩) := by
  obtain ⟨w, reachable, holds⟩ := System.exists_reachable (S := system smallDeployment) gathering
    (fun w => w.data.current = .running ∧ w.locks .registryMu = .free ∧
      w.locks .clusterMu = .free ∧ w.data.nodes.statusOf "a.ns.1" = some .active ∧
      (Handler.run smallSetting w (.notifyFailure ⟨"a.ns.1", "exit", 1, "process"⟩)).2.data.current =
        .reconfiguring)
    rfl (by decide +kernel)
  obtain ⟨running, registryFree, clusterFree, active, reconfigures⟩ := of_decide_eq_true holds
  have free := (settled_of_reachable reachable).allFree registryFree clusterFree
  refine ⟨w, reachable, free, running, active, reconfigures, (disciplined_iff reachable free _).mpr ?_⟩
  rintro ⟨refused, _⟩
  rw [running] at refused
  exact refused (by decide)

/-- While the first node waits for the others, the report of its failure waits for the registry lock
it holds itself. -/
theorem leaked_while_initializing :
    ∃ w, (system smallDeployment).Reachable w ∧ (∀ l, w.locks l = .free) ∧
      w.data.current = .initializing ∧
      (∃ w', Handler.run smallSetting w (.notifyFailure ⟨"a.ns.1", "exit", 1, "process"⟩) =
        (.blocked, w') ∧ w'.locks .registryMu = .written) ∧
      ¬ Handler.Disciplined smallSetting w (.notifyFailure ⟨"a.ns.1", "exit", 1, "process"⟩) := by
  obtain ⟨w, reachable, holds⟩ := System.exists_reachable (S := system smallDeployment)
    [enlist "a.ns.1" "http://a.ns:1"]
    (fun w => w.data.current = .initializing ∧ w.locks .registryMu = .free ∧
      w.locks .clusterMu = .free ∧ w.data.nodes.statusOf "a.ns.1" = some .active)
    rfl (by decide +kernel)
  obtain ⟨initializing, registryFree, clusterFree, active⟩ := of_decide_eq_true holds
  have settled := settled_of_reachable reachable
  have free := settled.allFree registryFree clusterFree
  have refused : ¬ w.data.current.reconfigurable := by
    rw [initializing]
    decide
  have blocks : (notifyFailure ⟨"a.ns.1", "exit", 1, "process"⟩).run w = _ :=
    notifyFailure_run_refused registryFree settled.stateFree active (by decide) refused
  refine ⟨w, reachable, free, initializing, ⟨_, World.run_of_blocked blocks,
    Function.update_self Lock.registryMu .written w.locks⟩, fun disciplined => ?_⟩
  have leaks : Handler.Leaks w (.notifyFailure ⟨"a.ns.1", "exit", 1, "process"⟩) :=
    ⟨refused, .inl active⟩
  exact Handler.not_releases settled free leaks disciplined.releases

end C4D
