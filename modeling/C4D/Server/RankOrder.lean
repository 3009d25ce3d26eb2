import C4D.Foundations.Invariant
import C4D.Server.RankAssignment

/-!
# Does a reconfiguration decide the ranks?

The code sorts the chosen nodes by rank so that their order does not depend on the
order in which the registry happens to be read. A sort that is not stable decides the
position of a node exactly if no other node shares its key (`idxOf_eq_of_untied`,
`exists_idxOf_ne_of_tied`). The active nodes start with distinct ranks, so the only ties
are those with the provisional ranks `len`, `len + 2`, … of the promoted nodes.

So two executions that promote the same nodes give the active nodes the same ranks
exactly if no active node holds one of these (`RanksApart`). After failures have left
gaps among the ranks, one may.
-/

set_option autoImplicit false

namespace C4D

open Foundations Guarded

namespace Server

variable {setting : Setting} {round round' : Round} {s : Server}

/-! ## Ties among the chosen nodes -/

/-- The number of nodes that the first attempt promotes. -/
def numToPromote (setting : Setting) (s : Server) : Nat :=
  (min (setting.config.activeNodes - s.nodes.count .active) (s.nodes.count .standby)).toNat

/-- No active node has a rank that the loop over the standby nodes gives out. -/
def RanksApart (setting : Setting) (s : Server) : Prop :=
  ∀ id, s.nodes.statusOf id = some .active →
    ∀ i < s.numToPromote setting, s.nodes.rankOf id ≠ s.nodes.count .active + 2 * i

instance : Decidable (s.RanksApart setting) := decidable_of_iff _ Registry.forall_active_iff.symm

theorem length_promotions : (s.promotions setting round).length = s.numToPromote setting := by
  have active : ((s.nodes.listWith round.order .active).length : Int) = s.nodes.count .active :=
    Registry.length_listWith round.order .active
  have standby : ((s.nodes.listWith round.order .standby).length : Int) =
      s.nodes.count .standby := Registry.length_listWith round.order .standby
  rw [promotions, List.length_take, activeList, numToPromote]
  omega

/-- A promoted node gets a certain rank exactly if it is on the ladder above the active nodes. -/
theorem exists_promoted_iff {r : Int} :
    (∃ id ∈ s.promotions setting round, (s.prepared setting round).nodes.rankOf id = r) ↔
      ∃ i < s.numToPromote setting, r = s.nodes.count .active + 2 * i := by
  rw [ladder_promotions.exists_key_iff, length_promotions, activeList, Registry.length_listWith]

/-- **The ranks are apart when no active node ties with another chosen node.** -/
theorem ranksApart_iff (round : Round) (distinct : s.nodes.DistinctRanks) :
    s.RanksApart setting ↔ ∀ id, s.nodes.statusOf id = some .active →
      ∀ j ∈ s.chosen setting round, (s.prepared setting round).nodes.rankOf j =
        (s.prepared setting round).nodes.rankOf id → j = id := by
  constructor
  · intro apart id active j mem tied
    rw [rankOf_prepared_of_active active] at tied
    rcases List.mem_append.mp mem with stays | promoted
    · have activeJ := statusOf_of_mem_activeList stays
      rw [rankOf_prepared_of_active activeJ] at tied
      exact distinct j id activeJ active tied
    · obtain ⟨i, bound, value⟩ := exists_promoted_iff.mp ⟨j, promoted, tied⟩
      exact absurd value (apart id active i bound)
  · intro untied id active i bound value
    obtain ⟨j, promoted, tied⟩ := exists_promoted_iff.mpr ⟨i, bound, value⟩
    rw [← rankOf_prepared_of_active active] at tied
    have same : j = id := untied id active j (List.mem_append_right _ promoted) tied
    subst same
    exact notMem_promotions_of_active active promoted

/-! ## Two attempts that promote the same nodes -/

section Alike

variable (alike : s.promotions setting round = s.promotions setting round')

include alike

theorem prepared_congr : s.prepared setting round = s.prepared setting round' := by
  have length : (s.activeList round).length = (s.activeList round').length := by
    have first : ((s.activeList round).length : Int) = s.nodes.count .active :=
      Registry.length_listWith round.order .active
    have second : ((s.activeList round').length : Int) = s.nodes.count .active :=
      Registry.length_listWith round'.order .active
    exact Nat.cast_inj.mp (first.trans second.symm)
  rw [prepared, prepared, alike, length]

theorem targets_perm : (s.targets setting round).Perm (s.targets setting round') := by
  apply (List.perm_ext_iff_of_nodup nodup_targets nodup_targets).mpr
  intro id
  rw [mem_targets, mem_targets, mem_chosen, mem_chosen, prepared_congr alike]

/-- **Without ties both give an active node the same rank.** -/
theorem rankOf_notified_congr (distinct : s.nodes.DistinctRanks) (apart : s.RanksApart setting)
    {id : String} (active : s.nodes.statusOf id = some .active) :
    (s.notified setting round).nodes.rankOf id = (s.notified setting round').nodes.rankOf id := by
  have sorted : SortedBy (s.prepared setting round).nodes.rankOf (s.targets setting round') := by
    rw [prepared_congr alike]
    exact sortBy_sortedBy _ _
  rw [rankOf_notified (mem_targets_of_active active),
    rankOf_notified (mem_targets_of_active active), Nat.cast_inj]
  apply idxOf_eq_of_untied (targets_perm alike) (sortBy_sortedBy _ _) sorted
    (mem_targets_of_active active)
  intro j mem
  exact (ranksApart_iff round distinct).mp apart id active j (mem_targets.mp mem)

end Alike

/-- **With a tie the sort may give an active node two ranks.** -/
theorem exists_rankOf_notified_ne (round : Round) (distinct : s.nodes.DistinctRanks)
    (meets : ¬ s.RanksApart setting) :
    ∃ ties id, s.nodes.statusOf id = some .active ∧
      (s.notified setting { round with ties }).nodes.rankOf id ≠
        (s.notified setting round).nodes.rankOf id := by
  rw [ranksApart_iff round distinct] at meets
  push Not at meets
  obtain ⟨id, active, j, mem, tied, ne⟩ := meets
  obtain ⟨sorted, perm, order, moved⟩ := exists_idxOf_ne_of_tied
    (nodup_targets : (s.targets setting round).Nodup) (sortBy_sortedBy _ _)
    (mem_targets_of_active active) (mem_targets.mpr mem) ne tied
  obtain ⟨ties, result⟩ := exists_sortBy_eq (perm.trans (sortBy_perm _ _ _)) order
  refine ⟨ties, id, active, ?_⟩
  rw [rankOf_notified (mem_targets_of_active active),
    rankOf_notified (mem_targets_of_active active), ne_eq, Nat.cast_inj]
  have targets : s.targets setting { round with ties } = sorted := result
  rw [targets]
  exact moved

/-! ## A call whose notifications succeed -/

/-- The server that a call leaves behind when it runs alone, however it ends. -/
def reconfigured (setting : Setting) (rounds : Nat → Round) (s : Server) : Server :=
  (final ((reconfigureCluster setting rounds).run ⟨s, fun _ => .free⟩)).data

variable {rounds : Nat → Round}

theorem reconfigured_of_refused (refused : ¬ s.current.reconfigurable) :
    s.reconfigured setting rounds = s := by
  rw [reconfigured, reconfigureCluster_run_refused setting rounds rfl refused]
  rfl

/-- The chosen nodes are enough when the active and the standby nodes together are. -/
theorem enough_chosen_iff : setting.config.activeNodes ≤ (s.chosen setting round).length ↔
    setting.config.activeNodes ≤ s.nodes.count .active + s.nodes.count .standby := by
  have active : ((s.activeList round).length : Int) = s.nodes.count .active :=
    Registry.length_listWith round.order .active
  have standby : 0 ≤ s.nodes.count .standby := Int.natCast_nonneg _
  rw [chosen, List.length_append, length_promotions, numToPromote]
  omega

/-- An accepted call ends the process in its first attempt or returns with it. -/
theorem reconfigured_of_accepted (accepted : s.current.reconfigurable)
    (answered : ∀ attempt id, (rounds attempt).answers id = true) :
    let entered : Server := { s with current := .reconfiguring }
    s.reconfigured setting rounds =
      if setting.config.activeNodes ≤ s.nodes.count .active + s.nodes.count .standby then
        (entered.notified setting (rounds 0)).resumed
      else (entered.prepared setting (rounds 0)).terminated := by
  intro entered
  have run : (s.reconfigure setting rounds true).Describes (fun _ => .free)
      ((reconfigureCluster setting rounds).run ⟨s, fun _ => .free⟩) :=
    reconfigureCluster_run setting rounds rfl rfl rfl accepted
  have size : setting.config.activeNodes ≤ (entered.chosen setting (rounds 0)).length ↔
      setting.config.activeNodes ≤ s.nodes.count .active + s.nodes.count .standby :=
    enough_chosen_iff
  by_cases enough : setting.config.activeNodes ≤ s.nodes.count .active + s.nodes.count .standby
  · rw [reconfigure_of_answered (size.mpr enough) fun id _ => answered 0 id] at run
    rw [if_pos enough, reconfigured, run]
    rfl
  · rw [Server.reconfigure, maxAttempts, Server.reconfigureFrom,
      if_pos (not_le.mp (size.not.mpr enough))] at run
    rw [if_neg enough, reconfigured, run]
    rfl

/-- When the notifications succeed, the assignments to statuses are the promotions in order. -/
theorem history_reconfigured (accepted : s.current.reconfigurable)
    (answered : ∀ attempt id, (rounds attempt).answers id = true) :
    (s.reconfigured setting rounds).statusWrites = s.statusWrites ++
      (s.promotions setting (rounds 0)).map fun id =>
        { nodeID := id, old := .standby, new := .active } := by
  rw [reconfigured_of_accepted accepted answered]
  split
  · rw [history_resumed]
    exact history_prepared
  · exact history_prepared

/-- Calls that read the registry in the same order promote the same nodes. -/
theorem history_reconfigured_congr {rounds' : Nat → Round} (accepted : s.current.reconfigurable)
    (answered : ∀ attempt id, (rounds attempt).answers id = true)
    (answered' : ∀ attempt id, (rounds' attempt).answers id = true)
    (order : (rounds 0).order = (rounds' 0).order) :
    (s.reconfigured setting rounds).statusWrites =
      (s.reconfigured setting rounds').statusWrites := by
  rw [history_reconfigured accepted answered, history_reconfigured accepted answered', promotions,
    promotions, activeList, activeList, order]

/-- Any two calls whose notifications all succeed and whose assignments to statuses, which are
then their promotions, are the same give every node that was active the same rank. -/
def RanksDecided (setting : Setting) (s : Server) : Prop :=
  ∀ rounds rounds' : Nat → Round,
    (∀ attempt id, (rounds attempt).answers id = true) →
    (∀ attempt id, (rounds' attempt).answers id = true) →
    (s.reconfigured setting rounds).statusWrites = (s.reconfigured setting rounds').statusWrites →
    ∀ id, s.nodes.statusOf id = some .active →
      (s.reconfigured setting rounds).nodes.rankOf id =
        (s.reconfigured setting rounds').nodes.rankOf id

/-- Calls that decide the ranks start with the ranks apart. -/
theorem ranksApart_of_decided (distinct : s.nodes.DistinctRanks)
    (decided : s.RanksDecided setting) (accepted : s.current.reconfigurable)
    (enough : setting.config.activeNodes ≤ s.nodes.count .active + s.nodes.count .standby) :
    s.RanksApart setting := by
  by_contra meets
  let entered : Server := { s with current := .reconfiguring }
  let plain : Nat → Round := fun _ => ⟨.inOrder, .inOrder, fun _ => true⟩
  have answers : ∀ attempt id, (plain attempt).answers id = true := fun _ _ => rfl
  have enters : entered.nodes.DistinctRanks := distinct
  have tied : ¬ entered.RanksApart setting := meets
  obtain ⟨ties, id, active, moved⟩ := exists_rankOf_notified_ne (plain 0) enters tied
  let other : Nat → Round := fun _ => { plain 0 with ties }
  have answersOther : ∀ attempt id, (other attempt).answers id = true := fun _ id => answers 0 id
  have alike : (s.reconfigured setting other).statusWrites =
      (s.reconfigured setting plain).statusWrites :=
    history_reconfigured_congr accepted answersOther answers rfl
  have same := decided other plain answersOther answers alike id active
  rw [reconfigured_of_accepted accepted answers, if_pos enough, nodes_resumed,
    reconfigured_of_accepted accepted answersOther, if_pos enough, nodes_resumed] at same
  exact moved same

/-- Calls that start with the ranks apart decide the ranks. -/
theorem ranksDecided_of_apart (distinct : s.nodes.DistinctRanks)
    (apart : s.current.reconfigurable →
      setting.config.activeNodes ≤ s.nodes.count .active + s.nodes.count .standby →
      s.RanksApart setting) : s.RanksDecided setting := by
  intro rounds rounds' answered answered' same id active
  by_cases accepted : s.current.reconfigurable
  · let entered : Server := { s with current := .reconfiguring }
    rw [history_reconfigured accepted answered, history_reconfigured accepted answered'] at same
    have alike : entered.promotions setting (rounds 0) = entered.promotions setting (rounds' 0) :=
      List.map_injective_iff.mpr (fun _ _ equal => congrArg StatusWrite.nodeID equal)
        (List.append_cancel_left same)
    rw [reconfigured_of_accepted accepted answered, reconfigured_of_accepted accepted answered']
    split
    next enough =>
      rw [nodes_resumed, nodes_resumed]
      exact rankOf_notified_congr alike distinct (apart accepted enough) active
    next =>
      rw [prepared_congr alike]
  · rw [reconfigured_of_refused accepted, reconfigured_of_refused accepted]

end Server

/-- **When `reconfigureCluster` orders the active nodes consistently.** With distinct ranks before
the call, any two calls that promote the same nodes in the same order give every active node the
same rank if and only if the call is refused, or there are too few nodes, or no active node has a
rank that the promotions give out. -/
theorem reconfigureCluster_consistent_iff (setting : Setting) {s : Server}
    (distinct : s.nodes.DistinctRanks) :
    s.RanksDecided setting ↔ (s.current.reconfigurable →
      setting.config.activeNodes ≤ s.nodes.count .active + s.nodes.count .standby →
      s.RanksApart setting) := by
  constructor
  · intro decided accepted enough
    exact Server.ranksApart_of_decided distinct decided accepted enough
  · intro apart
    exact Server.ranksDecided_of_apart distinct apart

theorem reconfigureCluster_consistent_gap : gapServer.RanksDecided smallSetting := by
  apply (reconfigureCluster_consistent_iff smallSetting (by decide)).mpr
  intro _ _
  decide

/-- Thirteen active nodes and a standby node are expected. -/
def wideSetting : Setting where
  config := { expectedNodes := 14, standbyNodes := 1, activeNodes := 13, heartbeatTimeout := 5 }
  getenv _ := ""

/-- Twelve active nodes are left after failures, in the order of the registry. -/
def survivors : List (String × Int) :=
  [("a", 1), ("b", 4), ("c", 14), ("d", 3), ("e", 5), ("f", 6), ("g", 8), ("h", 12), ("i", 13),
    ("j", 0), ("k", 2), ("l", 7)]

/-- The promoted node gets the provisional rank 12, which a survivor has. -/
def tiedServer : Server :=
  { Server.new wideSetting with
    current := .running
    nodes := survivors.foldr
      (fun node => AList.insert (node.1 ++ ".ns.1") ⟨"http://" ++ node.1 ++ ".ns:1", .active, node.2⟩)
      (AList.insert "m.ns.1" ⟨"http://m.ns:1", .standby, -1⟩ ∅)
    activeNodes := 12
    standbyNodes := 1 }

/-- All nodes answer, the registry is read with the tenth survivor first, and the sort puts the
promoted node first among equals. -/
def promotedFirst : Round where
  order := .first (· == "j.ns.1")
  ties := .first (· == "m.ns.1")
  answers _ := true

/-- The survivor with rank 12 ends with the rank 9 or 10. The thirteen nodes are more than
`sort.Slice` sorts by insertion, and so the order in which they are read decides about equal ranks. -/
theorem reconfigureCluster_inconsistent :
    tiedServer.nodes.DistinctRanks ∧ tiedServer.nodes.NaturalRanks ∧
      ¬ tiedServer.RanksDecided wideSetting := by
  refine ⟨by decide +kernel, by decide +kernel, ?_⟩
  intro decided
  have promoted : (tiedServer.reconfigured wideSetting fun _ => .except []).statusWrites =
      (tiedServer.reconfigured wideSetting fun _ => promotedFirst).statusWrites := by decide +kernel
  have ninth : (tiedServer.reconfigured wideSetting fun _ => .except []).nodes.rankOf
      "h.ns.1" = 9 := by decide +kernel
  have tenth : (tiedServer.reconfigured wideSetting fun _ => promotedFirst).nodes.rankOf
      "h.ns.1" = 10 := by decide +kernel
  have same := decided (fun _ => .except []) (fun _ => promotedFirst) (fun _ _ => rfl)
    (fun _ _ => rfl) promoted "h.ns.1" (by decide +kernel)
  rw [ninth, tenth] at same
  exact absurd same (by decide)

end C4D
