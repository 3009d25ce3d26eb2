import C4D.Server.RankAssignment
import C4D.Server.System

/-!
# Distinct ranks while `Running`

The start of the program and a reconfiguration that returns number the active
nodes consecutively. Afterwards ranks are only lost, by ticks, except that
`Register` gives a new active node the value of the counter. When ticks have
lowered the counter, that value can be the rank of a node that stayed
(`Clashes`).

Along every run without such a registration, the active nodes of a server in
`Running` have pairwise distinct ranks (`distinctRanks_of_running`).
-/

set_option autoImplicit false

namespace C4D

open Foundations

variable {setting : Setting}

/-- The registration in `Running` of a node the server does not know, admitted as active with the
rank of another active node. -/
def Clashes (setting : Setting) (w : World) : Action → Prop
  | .register req _ _ => w.data.current = .running ∧
      (w.data.sessions.lookup req.nodeId = none ∨ w.data.nodes.lookup req.nodeId = none) ∧
      w.data.activeNodes < setting.config.activeNodes ∧
      ∃ j, j ≠ req.nodeId ∧ w.data.nodes.statusOf j = some .active ∧
        w.data.nodes.rankOf j = w.data.activeNodes
  | _ => False

/-- In `Running` the active nodes have pairwise distinct ranks. -/
def Numbered (s : Server) : Prop := s.current = .running → s.nodes.DistinctRanks

/-- Fewer active nodes with the same ranks have distinct ranks still. -/
theorem Registry.DistinctRanks.shrink {nodes nodes' : Registry} (distinct : nodes.DistinctRanks)
    (fewer : ∀ j, nodes'.statusOf j = some .active →
      nodes.statusOf j = some .active ∧ nodes'.rankOf j = nodes.rankOf j) :
    nodes'.DistinctRanks := by
  intro i j activeI activeJ same
  obtain ⟨activeI, rankI⟩ := fewer i activeI
  obtain ⟨activeJ, rankJ⟩ := fewer j activeJ
  exact distinct i j activeI activeJ (by rw [← rankI, ← rankJ, same])

/-- A new active node with a fresh rank keeps the ranks distinct. -/
theorem Registry.DistinctRanks.insert {nodes : Registry} (distinct : nodes.DistinctRanks)
    {id : String} {node : NodeState}
    (fresh : node.status = .active → ∀ j, j ≠ id → nodes.statusOf j = some .active →
      nodes.rankOf j ≠ node.rank) :
    Registry.DistinctRanks (AList.insert id node nodes) := by
  have rankSelf : Registry.rankOf (AList.insert id node nodes) id = node.rank :=
    rankOf_insert_self id node
  intro i j activeI activeJ same
  rw [statusOf_insert] at activeI activeJ
  by_cases hereI : i = id <;> by_cases hereJ : j = id
  · exact hereI.trans hereJ.symm
  · rw [if_pos hereI] at activeI
    rw [if_neg hereJ] at activeJ
    rw [hereI, rankSelf, rankOf_insert_of_ne hereJ] at same
    exact absurd same.symm (fresh (Option.some.inj activeI) j hereJ activeJ)
  · rw [if_neg hereI] at activeI
    rw [if_pos hereJ] at activeJ
    rw [hereJ, rankSelf, rankOf_insert_of_ne hereI] at same
    exact absurd same (fresh (Option.some.inj activeJ) i hereI activeI)
  · rw [if_neg hereI] at activeI
    rw [if_neg hereJ] at activeJ
    rw [rankOf_insert_of_ne hereI, rankOf_insert_of_ne hereJ] at same
    exact distinct i j activeI activeJ same

/-- The start of the program gives distinct ranks. -/
theorem Server.distinctRanks_started (s : Server) (round : Round) :
    (s.started round).nodes.DistinctRanks := by
  intro i j activeI activeJ same
  rw [statusOf_started] at activeI activeJ
  rw [rankOf_started round activeI, rankOf_started round activeJ, Nat.cast_inj] at same
  exact (List.idxOf_inj (mem_startTargets.mpr activeI)).mp same

/-- A reconfiguration that returns gives distinct ranks. -/
theorem Server.distinctRanks_of_reconfigure {s s' : Server} {rounds : Nat → Round}
    {clusterFree : Bool} (returns : s.reconfigure setting rounds clusterFree = .returned s') :
    s'.nodes.DistinctRanks := by
  have ends := reconfigureFrom_ends setting rounds clusterFree
    (I := fun _ => True) (fun _ _ _ _ _ => trivial) maxAttempts 0
    (s := { s with current := .reconfiguring }) trivial
  rw [reconfigure] at returns
  rw [returns] at ends
  obtain ⟨last, attempt, _, _, _, rfl⟩ := ends
  rw [nodes_resumed]
  exact distinctRanks_notified

namespace Numbered

variable {s s' : Server}

theorem of_ne (ne : s.current ≠ .running) : Numbered s := fun running => absurd running ne

theorem shrink (numbered : Numbered s) (current : s'.current = s.current)
    (fewer : ∀ j, s'.nodes.statusOf j = some .active →
      s.nodes.statusOf j = some .active ∧ s'.nodes.rankOf j = s.nodes.rankOf j) : Numbered s' :=
  fun running => (numbered (current.symm.trans running)).shrink fewer

theorem of_eq (numbered : Numbered s) (current : s'.current = s.current)
    (nodes : s'.nodes = s.nodes) : Numbered s' :=
  numbered.shrink current fun j active => ⟨nodes ▸ active, by rw [nodes]⟩

end Numbered

/-- A step without a clash keeps the ranks distinct while `Running`. -/
theorem Numbered.effect {w w' : World} {a : Action} {ending : Ending} (settled : Settled w)
    (numbered : Numbered w.data) (allowed : ¬ Clashes setting w a)
    (ends : ending = .returned ∨ ending = .blocked) (effect : Effect setting w a ending w') :
    Numbered w'.data := by
  cases effect with
  | kept a kept => exact numbered.of_eq kept.current kept.nodes
  | waiting a l held kept => exact numbered.of_eq kept.current kept.nodes
  | exited a reconfigures => rcases ends with ends | ends <;> cases ends
  | panicked req order crashes => rcases ends with ends | ends <;> cases ends
  | @counted s counted _ req now round status rank held accepting fresh admitted =>
      have counts := Server.counted_of_admits admitted
      obtain ⟨_, _, same⟩ := Server.sessionRegistered_eq counted req now status rank
      refine numbered.of_eq ?_ (by rw [same]; exact counts.nodes)
      rw [same]
      exact congrArg Lifecycle.current counts.lifecycle
  | @enrolled s counted _ req now round status rank enrolls ending ends =>
      have counts := Server.counted_of_admits enrolls.admitted
      have current : (counted.enrolled req now status rank).current = s.current :=
        congrArg Lifecycle.current (Server.lifecycle_enrolled req now counts)
      intro running
      change (counted.enrolled req now status rank).nodes.DistinctRanks
      rw [Server.nodes_enrolled req now counts]
      have running : s.current = .running := current.symm.trans running
      refine (numbered running).insert fun active j ne activeJ clash => allowed ?_
      exact ⟨running, enrolls.unknown, counts.room active, j, ne, activeJ,
        clash.trans (counts.rank active)⟩
  | @startFailed s counted _ req now round status rank enrolls complete =>
      refine .of_ne ?_
      change (counted.enrolled req now status rank).current ≠ .running
      rw [complete.2]
      decide
  | started req now round status rank enrolls complete enough =>
      exact fun _ => Server.distinctRanks_started _ round
  | leaked req status registryFree known working refused => exact numbered
  | failedOver req status registryFree known working accepted =>
      intro running
      cases running.symm.trans (congrArg Lifecycle.current (Server.lifecycle_failedOver ..))
  | @timedOut s _ now order registryFree =>
      have expired := Server.expired_timedOut (s := s) setting now order
      refine numbered.shrink (congrArg Lifecycle.current expired.lifecycle) fun j active =>
        ⟨?_, expired.rank j⟩
      rw [expired.status] at active
      split at active
      · obtain ⟨_, _, clash⟩ := Option.map_eq_some_iff.mp active
        cases clash
      · exact active
  | @cleanedUp s _ now order registryFree =>
      obtain ⟨departed, lifecycle⟩ := Server.departed_cleanedUp (s := s) setting now order
      apply numbered.shrink (congrArg Lifecycle.current lifecycle)
      intro j active
      rw [departed.status] at active
      split at active
      · cases active
      · next stays => exact ⟨active, departed.rank j stays⟩
  | removedInactive nodeID rounds status clusterFree known accepted inactive =>
      intro running
      cases running.symm.trans (congrArg Lifecycle.current (lifecycle_removed nodeID status))
  | removedActive nodeID rounds clusterFree known accepted returns =>
      exact fun _ => Server.distinctRanks_of_reconfigure returns
  | removedStuck nodeID rounds clusterFree known accepted sticks =>
      intro running
      cases running.symm.trans
        (congrArg Elsewhere.current (Server.underway_of_stuck sticks).2.elsewhere)
  | reconfigured rounds spawned accepted returns =>
      have distinct := Server.distinctRanks_of_reconfigure returns
      exact fun _ => distinct
  | reconfigureStuck rounds spawned accepted sticks =>
      intro running
      cases running.symm.trans
        (congrArg Elsewhere.current (Server.underway_of_stuck sticks).2.elsewhere)

/-- **Distinct ranks while `Running`**, along every run without a clashing registration. -/
theorem distinctRanks_of_running {deployment : Deployment} {w : World}
    (run : (system deployment).Run (fun w a => ¬ Clashes deployment.toSetting w a) w)
    (running : w.data.current = .running) : w.data.nodes.DistinctRanks :=
  invariant_of_run (I := fun w => Numbered w.data) (J := fun _ => True) (fun _ _ => trivial)
    (fun initial => by cases initial)
    (fun settled _ numbered allowed ends effect => numbered.effect settled allowed ends effect) run
    running

theorem distinctRanks_of_running_gathered :
    ∃ w, (system smallDeployment).Run (fun w a => ¬ Clashes smallSetting w a) w ∧
      w.data.nodes.count .active = 3 ∧ w.data.nodes.DistinctRanks := by
  obtain ⟨w, run, running, _, three, _⟩ := gathered (C := fun w a => ¬ Clashes smallSetting w a)
    fun w a gathers clashes => by
      obtain ⟨⟨req, now, round, rfl⟩, initializing, _⟩ := Action.of_gathers gathers
      cases initializing.symm.trans clashes.1
  exact ⟨w, run, three, distinctRanks_of_running run running⟩

/-- A cleanup takes the node with rank 0, and the node that registers next gets the rank of the
last one. -/
theorem clash_after_cleanup :
    ∃ w, (system smallDeployment).Reachable w ∧ w.data.current = .running ∧
      w.data.nodes.statusOf "c.ns.1" = some .active ∧ w.data.nodes.rankOf "c.ns.1" = 2 ∧
      w.data.nodes.statusOf "e.ns.1" = some .active ∧ w.data.nodes.rankOf "e.ns.1" = 2 := by
  obtain ⟨w, reachable, holds⟩ := System.exists_reachable (S := system smallDeployment)
    (gathering ++ [.sendHeartbeat ⟨"b.ns.1"⟩ 11, .sendHeartbeat ⟨"c.ns.1"⟩ 11,
      .sendHeartbeat ⟨"d.ns.1"⟩ 11, .cleanupTick 11 .inOrder, enlist "e.ns.1" "http://e.ns:1"])
    (fun w => w.data.current = .running ∧
      w.data.nodes.statusOf "c.ns.1" = some .active ∧ w.data.nodes.rankOf "c.ns.1" = 2 ∧
      w.data.nodes.statusOf "e.ns.1" = some .active ∧ w.data.nodes.rankOf "e.ns.1" = 2)
    rfl (by decide +kernel)
  exact ⟨w, reachable, of_decide_eq_true holds⟩

end C4D
