import C4D.Server.Attempt

/-!
# Ranks after a reconfiguration

The promoted nodes of an attempt get provisional ranks `len + i` that may skip
values and may equal the rank of a node that stayed. The final rank of a node is
its position in the list sorted by these ranks. When the active nodes start with
distinct natural ranks, the ranks of the list are spread out, so no node that
stays moves up (`rankOf_notified_le`), and nodes that stay keep their order
(`rankOf_notified_lt`). After a failed attempt the remaining ranks are distinct
natural numbers again, so the argument repeats over the attempts
(`Renumbered.marked`).
-/

set_option autoImplicit false

namespace C4D

open Foundations

/-- The active nodes of a registry have pairwise distinct ranks. -/
def Registry.DistinctRanks (nodes : Registry) : Prop :=
  ∀ id j, nodes.statusOf id = some .active → nodes.statusOf j = some .active →
    nodes.rankOf id = nodes.rankOf j → id = j

/-- The active nodes of a registry have natural ranks. -/
def Registry.NaturalRanks (nodes : Registry) : Prop :=
  ∀ id, nodes.statusOf id = some .active → 0 ≤ nodes.rankOf id

theorem Registry.forall_active_iff {nodes : Registry} {p : String → Prop} :
    (∀ id, nodes.statusOf id = some .active → p id) ↔
      ∀ id ∈ AList.keys nodes, nodes.statusOf id = some .active → p id :=
  ⟨fun all id _ => all id, fun listed id active =>
    listed id (AList.mem_keys.mp (Registry.mem_iff_statusOf.mpr ⟨_, active⟩)) active⟩

instance (nodes : Registry) : Decidable nodes.DistinctRanks :=
  decidable_of_iff (∀ id ∈ AList.keys nodes, nodes.statusOf id = some .active →
      ∀ j ∈ AList.keys nodes, nodes.statusOf j = some .active →
        nodes.rankOf id = nodes.rankOf j → id = j) <| by
    rw [← Registry.forall_active_iff]
    exact ⟨fun all id j activeId activeJ => Registry.forall_active_iff.mpr (all id activeId) j activeJ,
      fun distinct id activeId => Registry.forall_active_iff.mp fun j activeJ =>
        distinct id j activeId activeJ⟩

instance (nodes : Registry) : Decidable nodes.NaturalRanks :=
  decidable_of_iff _ Registry.forall_active_iff.symm

/-- The ranks of the active nodes are exactly `0, …, n - 1`, each held once. -/
structure Registry.ConsecutiveRanks (nodes : Registry) : Prop where
  distinct : nodes.DistinctRanks
  exactly : ∀ r, (∃ id, nodes.statusOf id = some .active ∧ nodes.rankOf id = r) ↔
    0 ≤ r ∧ r < nodes.count .active

/-- The ranks are consecutive when they are the positions in a list of the active nodes. -/
theorem Registry.consecutiveRanks_of_positions {nodes : Registry} {l : List String}
    (nodup : l.Nodup) (active : ∀ id, id ∈ l ↔ nodes.statusOf id = some .active)
    (positions : ∀ id ∈ l, nodes.rankOf id = l.idxOf id) : nodes.ConsecutiveRanks where
  distinct id j activeId activeJ same := by
    have memId := (active id).mpr activeId
    have memJ := (active j).mpr activeJ
    rw [positions id memId, positions j memJ, Nat.cast_inj] at same
    exact (List.idxOf_inj memId).mp same
  exactly r := by
    rw [Registry.count_eq_length nodup active]
    constructor
    · rintro ⟨id, activeId, rfl⟩
      have mem := (active id).mpr activeId
      rw [positions id mem, Nat.cast_lt]
      exact ⟨Int.natCast_nonneg _, List.idxOf_lt_length_of_mem mem⟩
    · rintro ⟨natural, below⟩
      have bound : r.toNat < l.length := by omega
      have mem : l[r.toNat] ∈ l := List.getElem_mem bound
      refine ⟨_, (active _).mp mem, ?_⟩
      rw [positions _ mem, nodup.idxOf_getElem _ bound]
      omega

namespace Server

variable {setting : Setting} {round : Round} {s : Server}

/-! ## One attempt -/

theorem notMem_promotions_of_active {id : String} (active : s.nodes.statusOf id = some .active) :
    id ∉ s.promotions setting round := by
  intro mem
  cases active.symm.trans (statusOf_of_mem_promotions mem)

/-- A node that stays has its old rank when the list is sorted. -/
theorem rankOf_prepared_of_active {id : String} (active : s.nodes.statusOf id = some .active) :
    (s.prepared setting round).nodes.rankOf id = s.nodes.rankOf id :=
  rankOf_promoteFrom_of_notMem s _ _ (notMem_promotions_of_active active)

/-- The provisional ranks of the promoted nodes climb by two from the number of active nodes. -/
theorem ladder_promotions : Ladder (s.prepared setting round).nodes.rankOf
    (s.activeList round).length (s.promotions setting round) := by
  have ladder := ladder_promoteFrom s (s.activeList round).length 0
    (nodup_promotions : (s.promotions setting round).Nodup) fun _ => registered_of_mem_promotions
  rw [Nat.cast_zero, add_zero] at ladder
  exact ladder

/-- The provisional ranks of the chosen nodes are spread out. -/
theorem spread_chosen (distinct : s.nodes.DistinctRanks) (natural : s.nodes.NaturalRanks) :
    Spread (s.prepared setting round).nodes.rankOf (s.chosen setting round) := by
  refine spread_append ⟨?_, ?_⟩ (Registry.nodup_listWith _ _) ladder_promotions
  · intro id memId j memJ same
    rw [rankOf_prepared_of_active (statusOf_of_mem_activeList memId),
      rankOf_prepared_of_active (statusOf_of_mem_activeList memJ)] at same
    exact distinct id j (statusOf_of_mem_activeList memId) (statusOf_of_mem_activeList memJ) same
  · intro id mem
    rw [rankOf_prepared_of_active (statusOf_of_mem_activeList mem)]
    exact natural id (statusOf_of_mem_activeList mem)

/-- **A node that stays does not move up.** -/
theorem rankOf_notified_le (distinct : s.nodes.DistinctRanks) (natural : s.nodes.NaturalRanks)
    {id : String} (active : s.nodes.statusOf id = some .active) :
    (s.notified setting round).nodes.rankOf id ≤ s.nodes.rankOf id := by
  have mem : id ∈ s.targets setting round := mem_targets_of_active active
  have before : (s.prepared setting round).nodes.rankOf id = s.nodes.rankOf id :=
    rankOf_prepared_of_active active
  rw [rankOf_notified mem, ← before]
  exact idxOf_le_key (sortBy_sortedBy _ _)
    ((spread_chosen distinct natural).perm (sortBy_perm _ _ _)) mem

/-- **Nodes that stay keep their order.** -/
theorem rankOf_notified_lt {id j : String} (activeId : s.nodes.statusOf id = some .active)
    (activeJ : s.nodes.statusOf j = some .active) (lt : s.nodes.rankOf id < s.nodes.rankOf j) :
    (s.notified setting round).nodes.rankOf id < (s.notified setting round).nodes.rankOf j := by
  have memId : id ∈ s.targets setting round := mem_targets_of_active activeId
  have memJ : j ∈ s.targets setting round := mem_targets_of_active activeJ
  rw [rankOf_notified memId, rankOf_notified memJ, Nat.cast_lt]
  apply idxOf_lt_of_key_lt (sortBy_sortedBy _ _) memId
  rwa [rankOf_prepared_of_active activeId, rankOf_prepared_of_active activeJ]

theorem naturalRanks_notified : (s.notified setting round).nodes.NaturalRanks := by
  intro id active
  rw [rankOf_notified (mem_targets_iff.mpr active)]
  exact Int.natCast_nonneg _

/-- **After the notifications the ranks are consecutive.** -/
theorem consecutiveRanks_notified : (s.notified setting round).nodes.ConsecutiveRanks :=
  Registry.consecutiveRanks_of_positions nodup_targets (fun _ => mem_targets_iff)
    fun _ => rankOf_notified

theorem distinctRanks_notified : (s.notified setting round).nodes.DistinctRanks :=
  consecutiveRanks_notified.distinct

/-! ## All attempts -/

/-- How the data of an attempt relates to the data before the call. -/
structure Renumbered (before s : Server) : Prop where
  distinct : s.nodes.DistinctRanks
  natural : s.nodes.NaturalRanks
  /-- A node that was active is active or has failed. -/
  stays : ∀ id, before.nodes.statusOf id = some .active →
    s.nodes.statusOf id = some .active ∨ s.nodes.statusOf id = some .failed
  notRaised : ∀ id, before.nodes.statusOf id = some .active →
    s.nodes.statusOf id = some .active → s.nodes.rankOf id ≤ before.nodes.rankOf id
  ordered : ∀ id j, before.nodes.statusOf id = some .active →
    before.nodes.statusOf j = some .active → s.nodes.statusOf id = some .active →
    s.nodes.statusOf j = some .active → before.nodes.rankOf id < before.nodes.rankOf j →
    s.nodes.rankOf id < s.nodes.rankOf j
  rounds : ∃ sent, s.rounds = before.rounds ++ sent

variable {before : Server}

theorem statusOf_prepared_of_stays {id : String}
    (stays : s.nodes.statusOf id = some .active ∨ s.nodes.statusOf id = some .failed) :
    (s.prepared setting round).nodes.statusOf id = s.nodes.statusOf id := by
  rw [statusOf_prepared, if_neg]
  intro mem
  rw [statusOf_of_mem_promotions mem] at stays
  simp at stays

theorem Renumbered.refl (distinct : s.nodes.DistinctRanks) (natural : s.nodes.NaturalRanks) :
    Renumbered s s where
  distinct := distinct
  natural := natural
  stays _ active := .inl active
  notRaised _ _ _ := le_rfl
  ordered _ _ _ _ _ _ lt := lt
  rounds := ⟨[], (List.append_nil _).symm⟩

/-- The notifications of an attempt keep the relation. -/
theorem Renumbered.notified (related : Renumbered before s) :
    Renumbered before (s.notified setting round) := by
  have unchanged : ∀ id, before.nodes.statusOf id = some .active →
      (s.notified setting round).nodes.statusOf id = s.nodes.statusOf id := fun id active =>
    (statusOf_notified id).trans (statusOf_prepared_of_stays (related.stays id active))
  refine ⟨distinctRanks_notified, naturalRanks_notified, ?_, ?_, ?_, ?_⟩
  · intro id active
    rw [unchanged id active]
    exact related.stays id active
  · intro id active after
    rw [unchanged id active] at after
    exact (rankOf_notified_le related.distinct related.natural after).trans
      (related.notRaised id active after)
  · intro id j activeId activeJ afterId afterJ lt
    rw [unchanged id activeId] at afterId
    rw [unchanged j activeJ] at afterJ
    exact rankOf_notified_lt afterId afterJ
      (related.ordered id j activeId activeJ afterId afterJ lt)
  · obtain ⟨sent, rounds⟩ := related.rounds
    exact ⟨sent ++ [_], by rw [rounds_notified, rounds, List.append_assoc]⟩

/-- The marking after a failed attempt keeps the relation. -/
theorem Renumbered.marked (related : Renumbered before s) :
    Renumbered before (s.marked setting round) := by
  have told : Renumbered before (s.notified setting round) := related.notified
  have status := statusOf_foldl_markFailed (s := s.notified setting round)
    (s.unreached setting round)
  have stillActive : ∀ id, (s.marked setting round).nodes.statusOf id = some .active →
      (s.notified setting round).nodes.statusOf id = some .active := fun _ => active_of_marked
  have rank : ∀ id, (s.marked setting round).nodes.rankOf id =
      (s.notified setting round).nodes.rankOf id := rankOf_foldl_markFailed _
  refine ⟨?_, ?_, ?_, ?_, ?_, ?_⟩
  · intro id j activeId activeJ same
    rw [rank, rank] at same
    exact told.distinct id j (stillActive id activeId) (stillActive j activeJ) same
  · intro id active
    rw [rank]
    exact told.natural id (stillActive id active)
  · intro id active
    rw [Server.marked, status]
    by_cases hit : id ∈ s.unreached setting round
    · rw [if_pos hit]
      rcases told.stays id active with after | after <;> rw [after] <;> exact .inr rfl
    · rw [if_neg hit]
      exact told.stays id active
  · intro id active after
    rw [rank]
    exact told.notRaised id active (stillActive id after)
  · intro id j activeId activeJ afterId afterJ lt
    rw [rank, rank]
    exact told.ordered id j activeId activeJ (stillActive id afterId) (stillActive j afterJ) lt
  · obtain ⟨sent, rounds⟩ := told.rounds
    exact ⟨sent, by rw [rounds_marked, rounds]⟩

/-- A call that returns nil ends with the notifications of an attempt on related data. -/
theorem renumbered_of_returns {rounds : Nat → Round} {clusterFree : Bool} {s' : Server}
    (distinct : s.nodes.DistinctRanks) (natural : s.nodes.NaturalRanks)
    (returns : s.reconfigure setting rounds clusterFree = .returned s') :
    ∃ last attempt, Renumbered s last ∧ s' = (last.notified setting (rounds attempt)).resumed := by
  have ends := reconfigureFrom_ends setting rounds clusterFree
    (I := Renumbered s) (fun _ _ related _ _ => related.marked) maxAttempts 0
    (s := { s with current := .reconfiguring }) ⟨distinct, natural, fun _ active => .inl active,
      fun _ _ _ => le_rfl, fun _ _ _ _ _ _ lt => lt, [], (List.append_nil _).symm⟩
  rw [reconfigure] at returns
  rw [returns] at ends
  obtain ⟨last, attempt, related, _, _, equal⟩ := ends
  exact ⟨last, attempt, related, equal⟩

end Server

/-- **Rank assignment of `reconfigureCluster`.** When a call that runs alone returns nil, the
active nodes have the ranks `0, …, n - 1`, each was sent its rank, and the nodes that stayed
active kept their order and did not move up. -/
theorem reconfigureCluster_ranks (setting : Setting) (rounds : Nat → Round) {s s' : Server}
    {locks locks' : Lock → RWMutex} (free : ∀ l, locks l = .free)
    (distinct : s.nodes.DistinctRanks) (natural : s.nodes.NaturalRanks)
    (returns : (reconfigureCluster setting rounds).run ⟨s, locks⟩ = .ok (.ok ()) ⟨s', locks'⟩) :
    s'.nodes.ConsecutiveRanks ∧
    (∃ earlier commands, s'.rounds = s.rounds ++ earlier ++ [commands] ∧
      ∀ id, s'.nodes.statusOf id = some .active → ∃ command ∈ commands,
        command.nodeID = id ∧ command.nodeURL = s'.nodes.urlOf id ∧
        command.command = .restart ∧ command.rank = s'.nodes.rankOf id) ∧
    (∀ id j, s.nodes.statusOf id = some .active → s.nodes.statusOf j = some .active →
      s'.nodes.statusOf id = some .active → s'.nodes.statusOf j = some .active →
      s.nodes.rankOf id < s.nodes.rankOf j → s'.nodes.rankOf id < s'.nodes.rankOf j) ∧
    (∀ id, s.nodes.statusOf id = some .active → s'.nodes.statusOf id = some .active →
      s'.nodes.rankOf id ≤ s.nodes.rankOf id) := by
  obtain ⟨_, outcome⟩ := returned_of_run free returns
  obtain ⟨last, attempt, related, rfl⟩ := Server.renumbered_of_returns distinct natural outcome
  have final : Server.Renumbered s (last.notified setting (rounds attempt)) := related.notified
  obtain ⟨earlier, rounds_last⟩ := related.rounds
  rw [Server.nodes_resumed, Server.rounds_resumed]
  refine ⟨Server.consecutiveRanks_notified, ⟨earlier, (last.targets setting (rounds attempt)).map
    ((last.renumbered setting (rounds attempt)).restartCommand setting), ?_, ?_⟩,
    final.ordered, final.notRaised⟩
  · rw [Server.rounds_notified, rounds_last]
  · intro id active
    exact ⟨_, List.mem_map_of_mem (Server.mem_targets_iff.mpr active), rfl, rfl, rfl, rfl⟩

/-- Two survivors with the ranks 0 and 5, where the promoted node gets the provisional rank 2. -/
def gapServer : Server :=
  { Server.new smallSetting with
    current := .running
    nodes := AList.insert "a.ns.1" ⟨"http://a.ns:1", .active, 0⟩
      (AList.insert "b.ns.1" ⟨"http://b.ns:1", .active, 5⟩
        (AList.insert "c.ns.1" ⟨"http://c.ns:1", .standby, -1⟩ ∅))
    activeNodes := 2
    standbyNodes := 1 }

theorem reconfigureCluster_ranks_gap :
    ∃ s' locks', (reconfigureCluster smallSetting fun _ => .except []).run
        ⟨gapServer, fun _ => .free⟩ = .ok (.ok ()) ⟨s', locks'⟩ ∧
      s'.nodes.ConsecutiveRanks ∧ s'.nodes.rankOf "b.ns.1" ≤ 5 := by
  have free : ∀ l : Lock, (fun _ => .free : Lock → RWMutex) l = .free := fun _ => rfl
  refine ⟨_, _, rfl, ?_⟩
  have ranks := reconfigureCluster_ranks smallSetting (fun _ => .except []) (s := gapServer)
    free (by decide) (by decide) rfl
  exact ⟨ranks.1, ranks.2.2.2 "b.ns.1" (by decide) (by decide)⟩

end C4D
