import C4D.Server.System

/-!
# Removing a node

`removeNode` holds the cluster lock while the reconfiguration it starts runs,
and the reconfiguration takes the same lock when a notification fails. So the
removal of an active node waits for itself as soon as there are enough nodes to
notify and one of them does not answer (`Server.BlocksItself`).

With the cluster lock free, a removal in a reachable world returns with the lock
free, or ends the process, if and only if it does not block itself
(`removesCleanly_iff`). A removal that returns an error has changed nothing.
-/

set_option autoImplicit false

namespace C4D

open Foundations

/-- The removal returns with the cluster lock free, or the process has exited, and an error leaves
the data as it was. -/
def RemovesCleanly (setting : Setting) (nodeID : String) (rounds : Nat → Round) (w : World) : Prop :=
  match (removeNode setting nodeID rounds).run w with
  | .ok result w' => w'.locks .clusterMu = .free ∧ ∀ e, result = .error e → w'.data = w.data
  | .error .exited _ => True
  | .error (.blocked _) _ => False
  | .error .panicked _ => False

namespace Server

/-- An active node is removed, the nodes left can fill the cluster, and one of those the
reconfiguration notifies first does not answer. -/
def BlocksItself (setting : Setting) (nodeID : String) (round : Round) (s : Server) : Prop :=
  s.nodes.statusOf nodeID = some .active ∧ s.current.reconfigurable ∧
    setting.config.activeNodes < s.nodes.count .active + s.nodes.count .standby ∧
    ∃ id ∈ (s.deleteNode nodeID).chosen setting round, round.answers id = false

instance (setting : Setting) (nodeID : String) (round : Round) (s : Server) :
    Decidable (s.BlocksItself setting nodeID round) :=
  inferInstanceAs (Decidable (_ ∧ _ ∧ _ ∧ _))

variable {setting : Setting} {round : Round} {s : Server}

/-- The promotions reach the required number if there are enough active and standby nodes. -/
theorem le_length_chosen_iff :
    setting.config.activeNodes ≤ (s.chosen setting round).length ↔
      setting.config.activeNodes ≤ s.nodes.count .active + s.nodes.count .standby := by
  have active : ((s.nodes.listWith round.order .active).length : Int) = s.nodes.count .active :=
    Registry.length_listWith round.order .active
  have standby : ((s.nodes.listWith round.order .standby).length : Int) = s.nodes.count .standby :=
    Registry.length_listWith round.order .standby
  rw [chosen, List.length_append, promotions, List.length_take, activeList]
  omega

/-- A reconfiguration that finds the cluster lock held gets stuck in its first attempt or not at
all. -/
theorem stuck_iff {rounds : Nat → Round} :
    (∃ s', s.reconfigure setting rounds false = .stuck s') ↔
      setting.config.activeNodes ≤ s.nodes.count .active + s.nodes.count .standby ∧
        ∃ id ∈ s.chosen setting (rounds 0), (rounds 0).answers id = false := by
  let entered : Server := { s with current := .reconfiguring }
  have enough : setting.config.activeNodes ≤ (entered.chosen setting (rounds 0)).length ↔ _ :=
    le_length_chosen_iff
  have silent : entered.unreached setting (rounds 0) = [] ↔
      ∀ id ∈ entered.chosen setting (rounds 0), (rounds 0).answers id = true := by
    simp only [unreached_eq_nil, mem_targets]
  change (∃ s', entered.reconfigureFrom setting rounds false (2 + 1) 0 = .stuck s') ↔
    setting.config.activeNodes ≤ entered.nodes.count .active + entered.nodes.count .standby ∧
      ∃ id ∈ entered.chosen setting (rounds 0), (rounds 0).answers id = false
  rw [← enough, reconfigureFrom]
  simp only [Bool.false_eq_true, if_false]
  split_ifs with few answered
  · refine iff_of_false ?_ fun many => absurd few (not_lt.mpr many.1)
    rintro ⟨_, clash⟩
    cases clash
  · refine iff_of_false ?_ ?_
    · rintro ⟨_, clash⟩
      cases clash
    · rintro ⟨_, id, mem, mute⟩
      rw [silent.mp answered id mem] at mute
      cases mute
  · rw [silent] at answered
    push Not at answered
    simp only [ne_eq, Bool.not_eq_true] at answered
    exact iff_of_true ⟨_, rfl⟩ ⟨not_lt.mp few, answered⟩

/-- An active node that is removed takes one node from the cluster. -/
theorem count_removed {nodeID : String} (known : s.nodes.statusOf nodeID = some .active) :
    (s.removed nodeID .active).nodes.count .active +
      (s.removed nodeID .active).nodes.count .standby =
        s.nodes.count .active + s.nodes.count .standby - 1 := by
  have active := Registry.count_erase s.nodes nodeID .active
  have standby := Registry.count_erase s.nodes nodeID .standby
  rw [known, if_pos rfl] at active
  rw [known, if_neg (by decide)] at standby
  change Registry.count (AList.erase nodeID s.nodes) .active +
    Registry.count (AList.erase nodeID s.nodes) .standby = _
  omega

/-- The reconfiguration of a removal gets stuck exactly when the removal blocks itself. -/
theorem blocksItself_iff {nodeID : String} {rounds : Nat → Round}
    (known : s.nodes.statusOf nodeID = some .active) (accepted : s.current.reconfigurable) :
    s.BlocksItself setting nodeID (rounds 0) ↔
      ∃ s', (s.removed nodeID .active).reconfigure setting rounds false = .stuck s' := by
  rw [stuck_iff, count_removed known, Int.le_sub_one_iff]
  exact ⟨fun blocks => blocks.2.2, fun blocks => ⟨known, accepted, blocks⟩⟩

end Server

variable {setting : Setting} {s : Server} {locks : Lock → RWMutex} {nodeID : String}
  {rounds : Nat → Round}

/-- A removal that blocks itself waits for the cluster lock it holds. -/
theorem removeNode_run_blocked (settled : Settled ⟨s, locks⟩) (clusterFree : locks .clusterMu = .free)
    (blocks : s.BlocksItself setting nodeID (rounds 0)) :
    ∃ w', (removeNode setting nodeID rounds).run ⟨s, locks⟩ = .error (.blocked .clusterMu) w' ∧
      w'.locks .clusterMu = .written := by
  have known := blocks.1
  have accepted := blocks.2.1
  have run := removeNode_run_active setting rounds clusterFree settled.stateFree known accepted
    (settled.registryFree accepted) settled.metricsFree rfl
  obtain ⟨s', stuck⟩ := (Server.blocksItself_iff known accepted).mp blocks
  rw [stuck] at run
  exact ⟨_, run, Function.update_self Lock.clusterMu .written locks⟩

/-- **When a removal is clean.** In a reachable world with the cluster lock free, a removal returns
with the lock free or ends the process, and leaves the data alone when it returns an error, if and
only if it does not block itself. -/
theorem removesCleanly_iff {deployment : Deployment} {w : World}
    (reachable : (system deployment).Reachable w) (clusterFree : w.locks .clusterMu = .free)
    (nodeID : String) (rounds : Nat → Round) :
    RemovesCleanly deployment.toSetting nodeID rounds w ↔
      ¬ w.data.BlocksItself deployment.toSetting nodeID (rounds 0) := by
  have settled := settled_of_reachable reachable
  obtain ⟨s, locks⟩ := w
  constructor
  · intro clean blocks
    obtain ⟨_, run, _⟩ := removeNode_run_blocked settled clusterFree blocks
    rw [RemovesCleanly, run] at clean
    exact clean
  intro sound
  rw [RemovesCleanly]
  have ends := removeNode_ends deployment.toSetting settled rounds nodeID
  generalize (removeNode deployment.toSetting nodeID rounds).run ⟨s, locks⟩ = outcome at ends ⊢
  cases ends with
  | waiting held => exact held clusterFree
  | unknown refusal absent => exact ⟨clusterFree, fun _ _ => rfl⟩
  | refused refusal refused => exact ⟨clusterFree, fun _ _ => rfl⟩
  | inactive _ known accepted inactive => exact ⟨clusterFree, fun _ failed => by cases failed⟩
  | returned _ known accepted returns => exact ⟨clusterFree, fun _ failed => by cases failed⟩
  | exited locks' _ known accepted exits => trivial
  | stuck _ known accepted sticks =>
      exact sound ((Server.blocksItself_iff known accepted).mpr ⟨_, sticks⟩)

/-- An active node of a running cluster is removed while every node answers. -/
theorem removesCleanly_gathered :
    ∃ w, (system smallDeployment).Reachable w ∧ w.data.nodes.statusOf "a.ns.1" = some .active ∧
      RemovesCleanly smallSetting "a.ns.1" (fun _ => .except []) w := by
  obtain ⟨w, reachable, holds⟩ := System.exists_reachable (S := system smallDeployment) gathering
    (fun w => w.data.nodes.statusOf "a.ns.1" = some .active ∧ w.locks .clusterMu = .free) rfl
    (by decide +kernel)
  obtain ⟨active, clusterFree⟩ := of_decide_eq_true holds
  refine ⟨w, reachable, active, (removesCleanly_iff reachable clusterFree _ _).mpr ?_⟩
  rintro ⟨_, _, _, id, _, mute⟩
  cases mute

/-- An active node is removed while one of those left does not answer, and the removal waits for
itself. -/
theorem removal_blocks_itself :
    ∃ w, (system smallDeployment).Reachable w ∧ w.locks .clusterMu = .free ∧
      (∃ w', (removeNode smallSetting "a.ns.1" fun _ => .except ["b.ns.1"]).run w =
        .error (.blocked .clusterMu) w' ∧ w'.locks .clusterMu = .written) ∧
      ¬ RemovesCleanly smallSetting "a.ns.1" (fun _ => .except ["b.ns.1"]) w := by
  obtain ⟨w, reachable, holds⟩ := System.exists_reachable (S := system smallDeployment) gathering
    (fun w => w.locks .clusterMu = .free ∧
      w.data.BlocksItself smallSetting "a.ns.1" (.except ["b.ns.1"])) rfl (by decide +kernel)
  obtain ⟨clusterFree, blocks⟩ := of_decide_eq_true holds
  have settled := settled_of_reachable reachable
  obtain ⟨s, locks⟩ := w
  obtain ⟨w', run, held⟩ : ∃ w', (removeNode smallSetting "a.ns.1" fun _ => .except ["b.ns.1"]).run
      ⟨s, locks⟩ = .error (.blocked .clusterMu) w' ∧ w'.locks .clusterMu = .written :=
    removeNode_run_blocked settled clusterFree blocks
  refine ⟨⟨s, locks⟩, reachable, clusterFree, ⟨w', run, held⟩, fun clean => ?_⟩
  rw [RemovesCleanly, run] at clean
  exact clean

end C4D
