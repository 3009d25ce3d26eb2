import C4D.Server.Reconfiguration

/-!
# What one attempt does to the nodes

After the promotions of an attempt the active nodes are exactly the chosen ones
(`mem_chosen`), the nodes that were active keep their ranks and the promoted ones
have ranks that climb by two. After the notifications every chosen node has its
position in the list as its rank. Marking makes the registered nodes among the
unreached URLs failed and leaves every other node alone.

The drift of a counter is what it exceeds the registry count by. Promotions and
notifications keep every drift; a marking keeps it unless it hits a standby node
(`drift_markFailed`).

`reconfigureFrom_ends` packages the induction over the attempts: an invariant of
the attempts holds of the data on which the last one ran.
-/

set_option autoImplicit false

namespace C4D

open Foundations

/-! ## Ranks along a list -/

namespace Registry

variable {nodes : Registry}

@[simp] theorem statusOf_assignRanks (l : List String) (i : Nat) (j : String) :
    (nodes.assignRanks l i).statusOf j = nodes.statusOf j := by
  induction l generalizing i nodes with
  | nil => rfl
  | cons id rest ih => rw [assignRanks, ih, statusOf_setRank]

@[simp] theorem urlOf_assignRanks (l : List String) (i : Nat) (j : String) :
    (nodes.assignRanks l i).urlOf j = nodes.urlOf j := by
  induction l generalizing i nodes with
  | nil => rfl
  | cons id rest ih => rw [assignRanks, ih, urlOf_setRank]

@[simp] theorem keys_assignRanks (l : List String) (i : Nat) :
    AList.keys (nodes.assignRanks l i) = AList.keys nodes := by
  induction l generalizing i nodes with
  | nil => rfl
  | cons id rest ih => rw [assignRanks, ih, keys_setRank]

theorem rankOf_assignRanks_of_notMem {l : List String} {j : String} (notMem : j ∉ l) (i : Nat) :
    (nodes.assignRanks l i).rankOf j = nodes.rankOf j := by
  induction l generalizing i nodes with
  | nil => rfl
  | cons id rest ih =>
      rw [List.mem_cons, not_or] at notMem
      rw [assignRanks, ih notMem.2, rankOf_setRank_of_ne notMem.1]

/-- A listed node gets its position as its rank. -/
theorem rankOf_assignRanks {l : List String} (nodup : l.Nodup) {j : String} (mem : j ∈ l)
    (registered : j ∈ nodes) (i : Nat) :
    (nodes.assignRanks l i).rankOf j = (i + l.idxOf j : Nat) := by
  induction l generalizing i nodes with
  | nil => simp at mem
  | cons id rest ih =>
      rw [List.nodup_cons] at nodup
      rw [assignRanks]
      by_cases same : j = id
      · subst same
        rw [rankOf_assignRanks_of_notMem nodup.1, rankOf_setRank_self registered,
          List.idxOf_cons_self, Nat.add_zero]
      · have memRest := List.mem_of_ne_of_mem same mem
        rw [ih nodup.2 memRest (mem_setRank.mpr registered),
          List.idxOf_cons_ne rest (Ne.symm same)]
        congr 1
        omega

theorem count_assignRanks (l : List String) (i : Nat) (status : Status) :
    (nodes.assignRanks l i).count status = nodes.count status :=
  count_congr (statusOf_assignRanks l i) status

end Registry

/-! ## The history of the statuses -/

theorem history_setStatus {s : Server} {id : String} {old : Status}
    (known : s.nodes.statusOf id = some old) (new : Status) :
    (s.setStatus id new).statusWrites = s.statusWrites ++ [{ nodeID := id, old, new }] := by
  rw [Server.setStatus, known]
  rfl

namespace Server

/-! ## Counters and drift -/

/-- The counter of a status. -/
def counter (s : Server) : Status → Int
  | .active => s.activeNodes
  | .standby => s.standbyNodes
  | .failed => s.failedNodes

/-- What a counter exceeds the registry count by. -/
def drift (s : Server) (status : Status) : Int := s.counter status - s.nodes.count status

/-! ## Promotion -/

theorem statusOf_promote {s : Server} {id : String} (rank : Int) (j : String) :
    (s.promote id rank).nodes.statusOf j =
      if j = id then (s.nodes.statusOf j).map fun _ => .active else s.nodes.statusOf j := by
  rw [promote, Registry.statusOf_setRank, setStatus, Registry.statusOf_setStatus]

variable (setting : Setting) (round : Round) (s : Server)

theorem statusOf_promoteFrom (len i : Nat) (promoted : List String) (j : String) :
    (s.promoteFrom len i promoted).nodes.statusOf j =
      if j ∈ promoted then (s.nodes.statusOf j).map fun _ => .active else s.nodes.statusOf j := by
  induction promoted generalizing len i s with
  | nil => simp only [promoteFrom, List.not_mem_nil, if_false]
  | cons id rest ih =>
      rw [promoteFrom, ih]
      simp only [statusOf_promote, List.mem_cons]
      by_cases same : j = id <;> by_cases later : j ∈ rest <;>
        simp [same, later, Function.comp_def]

@[simp] theorem urlOf_promoteFrom (len i : Nat) (promoted : List String) (j : String) :
    (s.promoteFrom len i promoted).nodes.urlOf j = s.nodes.urlOf j := by
  induction promoted generalizing len i s with
  | nil => rfl
  | cons id rest ih =>
      rw [promoteFrom, ih]
      simp only [promote, setStatus, Registry.urlOf_setRank, Registry.urlOf_setStatus]

@[simp] theorem keys_promoteFrom (len i : Nat) (promoted : List String) :
    AList.keys (s.promoteFrom len i promoted).nodes = AList.keys s.nodes := by
  induction promoted generalizing len i s with
  | nil => rfl
  | cons id rest ih =>
      rw [promoteFrom, ih]
      simp only [promote, setStatus, Registry.keys_setRank, Registry.keys_setStatus]

theorem rankOf_promoteFrom_of_notMem (len i : Nat) {promoted : List String} {j : String}
    (notMem : j ∉ promoted) :
    (s.promoteFrom len i promoted).nodes.rankOf j = s.nodes.rankOf j := by
  induction promoted generalizing len i s with
  | nil => rfl
  | cons id rest ih =>
      rw [List.mem_cons, not_or] at notMem
      rw [promoteFrom, ih _ _ _ notMem.2]
      simp only [promote, setStatus, Registry.rankOf_setRank_of_ne notMem.1,
        Registry.rankOf_setStatus]

/-- The ranks of one batch of promotions climb by two. -/
theorem ladder_promoteFrom (len i : Nat) {promoted : List String} (nodup : promoted.Nodup)
    (registered : ∀ id ∈ promoted, id ∈ s.nodes) :
    Ladder (s.promoteFrom len i promoted).nodes.rankOf (len + i) promoted := by
  induction promoted generalizing len i s with
  | nil => trivial
  | cons id rest ih =>
      rw [List.nodup_cons] at nodup
      refine ⟨?_, ?_⟩
      · rw [promoteFrom, rankOf_promoteFrom_of_notMem _ _ _ nodup.1]
        exact Registry.rankOf_setRank_self
          (Registry.mem_setStatus.mpr (registered id List.mem_cons_self)) _
      · have tail := ih (s.promote id (len + i)) (len + 1) (i + 1) nodup.2 fun j mem =>
          Registry.mem_setRank.mpr (Registry.mem_setStatus.mpr
            (registered j (List.mem_cons_of_mem _ mem)))
        have start : ((len + 1 : Nat) : Int) + ((i + 1 : Nat) : Int) = len + i + 2 := by omega
        rw [start] at tail
        exact tail

theorem counter_promoteFrom (len i : Nat) (promoted : List String) (status : Status) :
    (s.promoteFrom len i promoted).counter status = s.counter status := by
  induction promoted generalizing len i s with
  | nil => rfl
  | cons id rest ih =>
      rw [promoteFrom, ih]
      cases status <;> rfl

/-- A promotion leaves the rest of the batch on standby. -/
theorem standby_promote {id : String} {rest : List String} (nodup : (id :: rest).Nodup)
    (standby : ∀ j ∈ id :: rest, s.nodes.statusOf j = some .standby) (rank : Int) :
    ∀ j ∈ rest, (s.promote id rank).nodes.statusOf j = some .standby := by
  intro j mem
  have ne : j ≠ id := fun same => (List.nodup_cons.mp nodup).1 (same ▸ mem)
  rw [statusOf_promote, if_neg ne]
  exact standby j (List.mem_cons_of_mem _ mem)

theorem count_promoteFrom (len i : Nat) {promoted : List String} (nodup : promoted.Nodup)
    (standby : ∀ id ∈ promoted, s.nodes.statusOf id = some .standby) (status : Status) :
    (s.promoteFrom len i promoted).nodes.count status =
      s.nodes.count status + (if .active = status then (promoted.length : Int) else 0)
        - (if .standby = status then (promoted.length : Int) else 0) := by
  induction promoted generalizing len i s with
  | nil => simp [promoteFrom]
  | cons id rest ih =>
      have rest_standby := standby_promote s nodup standby (len + i)
      have here := standby id List.mem_cons_self
      have one : (s.promote id (len + i)).nodes.count status = s.nodes.count status
          + (if .active = status then 1 else 0) - (if .standby = status then 1 else 0) := by
        rw [← Registry.count_setStatus here]
        exact Registry.count_congr (Registry.statusOf_setRank · _) status
      rw [promoteFrom, ih _ _ _ (List.nodup_cons.mp nodup).2 rest_standby, one, List.length_cons]
      split_ifs <;> omega

/-- The promotions are recorded in their order. -/
theorem history_promoteFrom (len i : Nat) {promoted : List String} (nodup : promoted.Nodup)
    (standby : ∀ id ∈ promoted, s.nodes.statusOf id = some .standby) :
    (s.promoteFrom len i promoted).statusWrites =
      s.statusWrites ++ promoted.map fun id => { nodeID := id, old := .standby, new := .active } := by
  induction promoted generalizing len i s with
  | nil => simp [promoteFrom]
  | cons id rest ih =>
      have rest_standby := standby_promote s nodup standby (len + i)
      have one : (s.promote id (len + i)).statusWrites =
          s.statusWrites ++ [{ nodeID := id, old := .standby, new := .active }] :=
        history_setStatus (standby id List.mem_cons_self) .active
      rw [promoteFrom, ih _ _ _ (List.nodup_cons.mp nodup).2 rest_standby, one, List.map_cons,
        List.append_assoc, List.singleton_append]

/-! ## The nodes of an attempt -/

variable {setting round s}

theorem statusOf_of_mem_promotions {id : String} (mem : id ∈ s.promotions setting round) :
    s.nodes.statusOf id = some .standby :=
  Registry.mem_listWith.mp (List.mem_of_mem_take mem)

theorem nodup_promotions : (s.promotions setting round).Nodup :=
  (Registry.nodup_listWith _ _).sublist (List.take_sublist _ _)

theorem statusOf_of_mem_activeList {id : String} (mem : id ∈ s.activeList round) :
    s.nodes.statusOf id = some .active :=
  Registry.mem_listWith.mp mem

theorem registered_of_mem_promotions {id : String} (mem : id ∈ s.promotions setting round) :
    id ∈ s.nodes :=
  Registry.mem_iff_statusOf.mpr ⟨_, statusOf_of_mem_promotions mem⟩

theorem nodup_chosen : (s.chosen setting round).Nodup := by
  apply (Registry.nodup_listWith _ _).append nodup_promotions
  intro id active promoted
  have clash := (statusOf_of_mem_activeList active).symm.trans (statusOf_of_mem_promotions promoted)
  cases clash

theorem history_prepared : (s.prepared setting round).statusWrites =
    s.statusWrites ++ (s.promotions setting round).map fun id =>
      { nodeID := id, old := .standby, new := .active } :=
  history_promoteFrom s _ _ nodup_promotions fun _ => statusOf_of_mem_promotions

theorem statusOf_prepared (j : String) :
    (s.prepared setting round).nodes.statusOf j =
      if j ∈ s.promotions setting round then some .active else s.nodes.statusOf j := by
  apply (statusOf_promoteFrom s _ _ _ j).trans
  by_cases mem : j ∈ s.promotions setting round
  · rw [if_pos mem, if_pos mem, statusOf_of_mem_promotions mem, Option.map_some]
  · rw [if_neg mem, if_neg mem]

/-- **After the promotions the active nodes are the chosen ones.** -/
theorem mem_chosen {id : String} :
    id ∈ s.chosen setting round ↔ (s.prepared setting round).nodes.statusOf id = some .active := by
  rw [chosen, List.mem_append, statusOf_prepared, activeList, Registry.mem_listWith]
  by_cases mem : id ∈ s.promotions setting round
  · simp only [mem, or_true, if_true]
  · simp only [mem, or_false, if_false]

@[simp] theorem urlOf_prepared (j : String) :
    (s.prepared setting round).nodes.urlOf j = s.nodes.urlOf j :=
  urlOf_promoteFrom s _ _ _ j

@[simp] theorem keys_prepared :
    AList.keys (s.prepared setting round).nodes = AList.keys s.nodes :=
  keys_promoteFrom s _ _ _

theorem count_prepared (status : Status) :
    (s.prepared setting round).nodes.count status = s.nodes.count status
      + (if .active = status then ((s.promotions setting round).length : Int) else 0)
      - (if .standby = status then ((s.promotions setting round).length : Int) else 0) :=
  count_promoteFrom s _ _ nodup_promotions (fun _ => statusOf_of_mem_promotions) status

theorem length_chosen :
    ((s.chosen setting round).length : Int) = (s.prepared setting round).nodes.count .active := by
  rw [chosen, List.length_append, count_prepared, Nat.cast_add, activeList,
    Registry.length_listWith]
  simp

/-- With at most the required number of active nodes, the promotions do not exceed it. -/
theorem length_chosen_le (bounded : s.nodes.count .active ≤ setting.config.activeNodes) :
    ((s.chosen setting round).length : Int) ≤ setting.config.activeNodes := by
  have length : ((s.nodes.listWith round.order .active).length : Int) = s.nodes.count .active :=
    Registry.length_listWith round.order .active
  rw [chosen, List.length_append, promotions, List.length_take, activeList]
  omega

@[simp] theorem mem_targets {id : String} :
    id ∈ s.targets setting round ↔ id ∈ s.chosen setting round := mem_sortBy

theorem mem_targets_of_active {id : String} (active : s.nodes.statusOf id = some .active) :
    id ∈ s.targets setting round := by
  rw [mem_targets, chosen, List.mem_append, activeList, Registry.mem_listWith]
  exact .inl active

theorem nodup_targets : (s.targets setting round).Nodup :=
  (sortBy_perm _ _ _).nodup_iff.mpr nodup_chosen

@[simp] theorem statusOf_notified (j : String) :
    (s.notified setting round).nodes.statusOf j = (s.prepared setting round).nodes.statusOf j :=
  Registry.statusOf_assignRanks ..

theorem mem_targets_iff {id : String} :
    id ∈ s.targets setting round ↔
      (s.notified setting round).nodes.statusOf id = some .active := by
  rw [mem_targets, mem_chosen, statusOf_notified]

@[simp] theorem urlOf_notified (j : String) :
    (s.notified setting round).nodes.urlOf j = s.nodes.urlOf j :=
  (Registry.urlOf_assignRanks _ _ j).trans (urlOf_prepared j)

@[simp] theorem keys_notified :
    AList.keys (s.notified setting round).nodes = AList.keys s.nodes :=
  (Registry.keys_assignRanks _ _).trans keys_prepared

theorem count_notified (status : Status) :
    (s.notified setting round).nodes.count status =
      (s.prepared setting round).nodes.count status :=
  Registry.count_assignRanks _ _ status

/-- A notified node has its position among them as its rank. -/
theorem rankOf_notified {id : String} (mem : id ∈ s.targets setting round) :
    (s.notified setting round).nodes.rankOf id = (s.targets setting round).idxOf id := by
  have registered : id ∈ (s.prepared setting round).nodes :=
    Registry.mem_iff_statusOf.mpr ⟨_, mem_chosen.mp (mem_targets.mp mem)⟩
  apply (Registry.rankOf_assignRanks nodup_targets mem registered 0).trans
  rw [Nat.zero_add]

theorem drift_prepared (status : Status) :
    (s.prepared setting round).drift status = s.drift status := by
  have counter : (s.prepared setting round).counter status = s.counter status
      + (if .active = status then ((s.promotions setting round).length : Int) else 0)
      - (if .standby = status then ((s.promotions setting round).length : Int) else 0) := by
    have kept := counter_promoteFrom s (s.activeList round).length 0 (s.promotions setting round)
      status
    cases status <;> simp only [counter] at kept ⊢ <;>
      simp only [prepared, countPromoted, kept, reduceCtorEq, if_true, if_false, add_zero, sub_zero]
  rw [drift, drift, counter, count_prepared]
  omega

theorem drift_notified (status : Status) :
    (s.notified setting round).drift status = s.drift status := by
  have prepared : (s.prepared setting round).drift status = s.drift status :=
    drift_prepared status
  rw [drift, count_notified, ← prepared, drift]
  cases status <;> rfl

theorem drift_resumed (s : Server) (status : Status) : s.resumed.drift status = s.drift status := by
  unfold resumed
  split
  · cases status <;> rfl
  · rfl

theorem rounds_promoteFrom (len i : Nat) (promoted : List String) (s : Server) :
    (s.promoteFrom len i promoted).rounds = s.rounds := by
  induction promoted generalizing len i s with
  | nil => rfl
  | cons id rest ih => exact ih ..

/-- The notifications add one round, with a command for every target. -/
theorem rounds_notified :
    (s.notified setting round).rounds = s.rounds ++ [(s.targets setting round).map
      ((s.renumbered setting round).restartCommand setting)] :=
  congrArg (· ++ [_]) (rounds_promoteFrom _ _ _ s)

/-! ## Marking -/

theorem statusOf_markFailed (nodeURL j : String) :
    (s.markFailed nodeURL).nodes.statusOf j =
      if j = nodeURL then (s.nodes.statusOf j).map fun _ => .failed else s.nodes.statusOf j := by
  unfold markFailed
  cases found : s.nodes.statusOf nodeURL with
  | none =>
      by_cases same : j = nodeURL
      · rw [if_pos same, same, found, Option.map_none]
      · rw [if_neg same]
  | some oldStatus =>
      cases oldStatus <;> exact Registry.statusOf_setStatus j .failed

theorem nodes_markFailed (nodeURL : String) :
    (s.markFailed nodeURL).nodes = s.nodes.setStatus nodeURL .failed ∨
      (s.markFailed nodeURL).nodes = s.nodes := by
  unfold markFailed
  cases s.nodes.statusOf nodeURL with
  | none => exact .inr rfl
  | some oldStatus => cases oldStatus <;> exact .inl rfl

/-- A marking keeps the drifts, unless it hits a standby node. -/
theorem drift_markFailed (nodeURL : String) (status : Status) :
    (s.markFailed nodeURL).drift status = s.drift status +
      (if s.nodes.statusOf nodeURL = some .standby then
        (if .standby = status then 1 else 0) - (if .failed = status then 1 else 0) else 0) := by
  unfold markFailed
  cases found : s.nodes.statusOf nodeURL with
  | none => simp
  | some oldStatus =>
      have count := Registry.count_setStatus found .failed status
      cases oldStatus <;> cases status <;>
        simp only [drift, counter, setStatus, count, reduceCtorEq, if_true, if_false,
          Option.some.injEq] <;> omega

/-- Markings that hit no standby node keep the drifts. -/
theorem drift_foldl_markFailed {urls : List String}
    (notStandby : ∀ url ∈ urls, s.nodes.statusOf url ≠ some .standby) (status : Status) :
    (urls.foldl markFailed s).drift status = s.drift status := by
  induction urls generalizing s with
  | nil => rfl
  | cons url rest ih =>
      rw [List.foldl_cons, ih, drift_markFailed, if_neg (notStandby url List.mem_cons_self), add_zero]
      intro j mem
      rw [statusOf_markFailed]
      split
      · simp
      · exact notStandby j (List.mem_cons_of_mem _ mem)

/-- No marking changes the drift of the active nodes. -/
theorem activeDrift_foldl_markFailed (urls : List String) :
    (urls.foldl markFailed s).drift .active = s.drift .active := by
  induction urls generalizing s with
  | nil => rfl
  | cons url rest ih =>
      rw [List.foldl_cons, ih, drift_markFailed]
      simp

theorem statusOf_foldl_markFailed (urls : List String) (j : String) :
    (urls.foldl markFailed s).nodes.statusOf j =
      if j ∈ urls then (s.nodes.statusOf j).map fun _ => .failed else s.nodes.statusOf j := by
  induction urls generalizing s with
  | nil => simp only [List.foldl_nil, List.not_mem_nil, if_false]
  | cons url rest ih =>
      rw [List.foldl_cons, ih, statusOf_markFailed]
      by_cases same : j = url <;> by_cases later : j ∈ rest <;>
        simp [same, later, Function.comp_def]

theorem statusOf_marked (j : String) :
    (s.marked setting round).nodes.statusOf j =
      if j ∈ s.unreached setting round
      then ((s.prepared setting round).nodes.statusOf j).map fun _ => .failed
      else (s.prepared setting round).nodes.statusOf j := by
  rw [marked, statusOf_foldl_markFailed, statusOf_notified]

@[simp] theorem urlOf_foldl_markFailed (urls : List String) (j : String) :
    (urls.foldl markFailed s).nodes.urlOf j = s.nodes.urlOf j := by
  induction urls generalizing s with
  | nil => rfl
  | cons url rest ih =>
      rw [List.foldl_cons, ih]
      rcases nodes_markFailed (s := s) url with marked | same
      · rw [marked, Registry.urlOf_setStatus]
      · rw [same]

@[simp] theorem rankOf_foldl_markFailed (urls : List String) (j : String) :
    (urls.foldl markFailed s).nodes.rankOf j = s.nodes.rankOf j := by
  induction urls generalizing s with
  | nil => rfl
  | cons url rest ih =>
      rw [List.foldl_cons, ih]
      rcases nodes_markFailed (s := s) url with marked | same
      · rw [marked, Registry.rankOf_setStatus]
      · rw [same]

@[simp] theorem keys_foldl_markFailed (urls : List String) :
    AList.keys (urls.foldl markFailed s).nodes = AList.keys s.nodes := by
  induction urls generalizing s with
  | nil => rfl
  | cons url rest ih =>
      rw [List.foldl_cons, ih]
      rcases nodes_markFailed (s := s) url with marked | same
      · rw [marked, Registry.keys_setStatus]
      · rw [same]

@[simp] theorem urlOf_marked (j : String) :
    (s.marked setting round).nodes.urlOf j = s.nodes.urlOf j :=
  (urlOf_foldl_markFailed _ j).trans (urlOf_notified j)

@[simp] theorem keys_marked : AList.keys (s.marked setting round).nodes = AList.keys s.nodes :=
  (keys_foldl_markFailed _).trans keys_notified

theorem rounds_marked : (s.marked setting round).rounds = (s.notified setting round).rounds := by
  have kept : ∀ (urls : List String) (s : Server), (urls.foldl markFailed s).rounds = s.rounds := by
    intro urls s
    induction urls generalizing s with
    | nil => rfl
    | cons url rest ih =>
        rw [List.foldl_cons, ih, markFailed]
        cases s.nodes.statusOf url with
        | none => rfl
        | some oldStatus => cases oldStatus <;> rfl
  exact kept ..

theorem mem_unreached {url : String} :
    url ∈ s.unreached setting round ↔
      ∃ id ∈ s.targets setting round, round.answers id = false ∧ s.nodes.urlOf id = url := by
  simp only [unreached, List.mem_dedup, List.mem_map, List.mem_filter, urlOf_notified,
    Bool.not_eq_true', and_assoc]

/-- Nothing is unreached exactly when every notified node answers. -/
theorem unreached_eq_nil :
    s.unreached setting round = [] ↔ ∀ id ∈ s.targets setting round, round.answers id = true := by
  rw [List.eq_nil_iff_forall_not_mem]
  constructor
  · intro none id mem
    by_contra silent
    exact none _ (mem_unreached.mpr ⟨id, mem, Bool.not_eq_true _ ▸ silent, rfl⟩)
  · intro answered url mem
    obtain ⟨id, mem, silent, _⟩ := mem_unreached.mp mem
    rw [answered id mem] at silent
    cases silent

/-- A node that is active after a marking was active before it. -/
theorem active_of_marked {id : String}
    (active : (s.marked setting round).nodes.statusOf id = some .active) :
    (s.notified setting round).nodes.statusOf id = some .active := by
  rw [marked, statusOf_foldl_markFailed] at active
  split at active
  · obtain ⟨_, _, clash⟩ := Option.map_eq_some_iff.mp active
    cases clash
  · exact active

/-! ## What a call keeps -/

/-- The data in a call of `reconfigureCluster`, against the data before the call. -/
structure Underway (setting : Setting) (before s : Server) : Prop where
  ids : AList.keys s.nodes = AList.keys before.nodes
  urls : ∀ id, s.nodes.urlOf id = before.nodes.urlOf id
  elsewhere : s.elsewhere = { before.elsewhere with current := .reconfiguring }
  activeDrift : s.drift .active = before.drift .active
  bounded : before.nodes.count .active ≤ setting.config.activeNodes →
    s.nodes.count .active ≤ setting.config.activeNodes

namespace Underway

variable {before : Server}

theorem start (s : Server) : Underway setting s { s with current := .reconfiguring } :=
  ⟨rfl, fun _ => rfl, rfl, rfl, fun bounded => bounded⟩

/-- The promotions of an attempt keep the relation. -/
theorem prepared (underway : Underway setting before s) :
    Underway setting before (s.prepared setting round) where
  ids := keys_prepared.trans underway.ids
  urls id := (urlOf_prepared id).trans (underway.urls id)
  elsewhere := (elsewhere_notified setting round s).trans underway.elsewhere
  activeDrift := (drift_prepared .active).trans underway.activeDrift
  bounded bound := by
    rw [← length_chosen]
    exact length_chosen_le (underway.bounded bound)

theorem notified (underway : Underway setting before s) :
    Underway setting before (s.notified setting round) where
  ids := keys_notified.trans underway.ids
  urls id := (urlOf_notified id).trans (underway.urls id)
  elsewhere := (elsewhere_notified setting round s).trans underway.elsewhere
  activeDrift := (drift_notified .active).trans underway.activeDrift
  bounded bound := (count_notified .active).trans_le (underway.prepared.bounded bound)

/-- The marking after an attempt keeps the relation. -/
theorem marked (underway : Underway setting before s) :
    Underway setting before (s.marked setting round) where
  ids := keys_marked.trans underway.ids
  urls id := (urlOf_marked id).trans (underway.urls id)
  elsewhere := (elsewhere_marked setting round s).trans underway.elsewhere
  activeDrift := (activeDrift_foldl_markFailed _).trans
    ((drift_notified .active).trans underway.activeDrift)
  bounded bound := (Registry.count_le fun _ => active_of_marked).trans
    (underway.notified.bounded bound)

end Underway

end Server

/-! ## The attempts together -/

section Ends

variable (setting : Setting) (rounds : Nat → Round)

/-- How a call ends, over an invariant of the data its attempts start from. -/
def Reconfigured.Ends (clusterFree : Bool) (I : Server → Prop) : Reconfigured → Prop
  | .returned s' => ∃ s attempt, I s ∧
      setting.config.activeNodes ≤ (s.chosen setting (rounds attempt)).length ∧
      s.unreached setting (rounds attempt) = [] ∧
      s' = (s.notified setting (rounds attempt)).resumed
  | .exited s' => (∃ s, I s ∧ s' = s.terminated) ∨
      ∃ s attempt, I s ∧ s' = (s.prepared setting (rounds attempt)).terminated
  | .stuck s' => clusterFree = false ∧ ∃ s attempt, I s ∧
      s' = s.notified setting (rounds attempt)

/-- **The induction over the attempts.** An invariant that every failed attempt keeps holds of
the data on which the last attempt runs. -/
theorem Server.reconfigureFrom_ends (clusterFree : Bool) {I : Server → Prop}
    (kept : ∀ s attempt, I s →
      setting.config.activeNodes ≤ (s.chosen setting (rounds attempt)).length →
      s.unreached setting (rounds attempt) ≠ [] → I (s.marked setting (rounds attempt)))
    (left attempt : Nat) {s : Server} (holds : I s) :
    (s.reconfigureFrom setting rounds clusterFree left attempt).Ends setting rounds clusterFree
      I := by
  induction left generalizing attempt s with
  | zero => exact .inl ⟨s, holds, rfl⟩
  | succ left ih =>
      rw [reconfigureFrom]
      by_cases few : ((s.chosen setting (rounds attempt)).length : Int) < setting.config.activeNodes
      · rw [if_pos few]
        exact .inr ⟨s, attempt, holds, rfl⟩
      · rw [if_neg few]
        by_cases answered : s.unreached setting (rounds attempt) = []
        · rw [if_pos answered]
          exact ⟨s, attempt, holds, not_lt.mp few, answered, rfl⟩
        · rw [if_neg answered]
          cases clusterFree with
          | true => exact ih (attempt + 1) (kept s attempt holds (not_lt.mp few) answered)
          | false => exact ⟨rfl, s, attempt, holds, rfl⟩

end Ends

namespace Server

variable {setting : Setting} {rounds : Nat → Round} {clusterFree : Bool} {s s' : Server}

/-- What a call that returned nil did. -/
structure Returned (setting : Setting) (s s' : Server) : Prop where
  ids : AList.keys s'.nodes = AList.keys s.nodes
  elsewhere : s'.elsewhere = { s.elsewhere with current := .running }
  activeDrift : s'.drift .active = s.drift .active
  full : s.nodes.count .active ≤ setting.config.activeNodes →
    s'.nodes.count .active = setting.config.activeNodes

theorem ends_underway (setting : Setting) (rounds : Nat → Round) (clusterFree : Bool) (s : Server) :
    (s.reconfigure setting rounds clusterFree).Ends setting rounds clusterFree
      (Underway setting s) :=
  reconfigureFrom_ends setting rounds clusterFree (fun _ _ underway _ _ => underway.marked) maxAttempts 0
    (.start s)

/-- **A call that returns nil is back in `Running` with the required number of active nodes.** -/
theorem returned_of_reconfigure (returns : s.reconfigure setting rounds clusterFree = .returned s') :
    Returned setting s s' := by
  have ends := ends_underway setting rounds clusterFree s
  rw [returns] at ends
  obtain ⟨last, attempt, underway, enough, _, rfl⟩ := ends
  have told : Underway setting s (last.notified setting (rounds attempt)) := underway.notified
  have back : (last.notified setting (rounds attempt)).current = .reconfiguring :=
    congrArg Elsewhere.current told.elsewhere
  rw [resumed, if_pos back]
  refine ⟨told.ids, ?_, told.activeDrift, fun bound => le_antisymm (told.bounded bound) ?_⟩
  · exact congrArg (fun e : Elsewhere => { e with current := .running }) told.elsewhere
  · rw [length_chosen, ← count_notified] at enough
    exact enough

/-- A call whose first attempt finds enough nodes, all of which answer, ends with that attempt. -/
theorem reconfigure_of_answered
    (enough : setting.config.activeNodes ≤
      (({ s with current := .reconfiguring } : Server).chosen setting (rounds 0)).length)
    (answered : ∀ id ∈ s.chosen setting (rounds 0), (rounds 0).answers id = true) :
    s.reconfigure setting rounds clusterFree =
      .returned
        (({ s with current := .reconfiguring } : Server).notified setting (rounds 0)).resumed := by
  rw [reconfigure, maxAttempts, reconfigureFrom, if_neg (not_lt.mpr enough)]
  refine if_pos (unreached_eq_nil.mpr fun id target => ?_)
  have chosen : id ∈ ({ s with current := .reconfiguring } : Server).chosen setting (rounds 0) :=
    mem_targets.mp target
  exact answered id chosen

/-- A call that waits for the cluster lock stays in `Reconfiguring`. -/
theorem underway_of_stuck (sticks : s.reconfigure setting rounds clusterFree = .stuck s') :
    clusterFree = false ∧ Underway setting s s' := by
  have ends := ends_underway setting rounds clusterFree s
  rw [sticks] at ends
  obtain ⟨held, last, attempt, underway, rfl⟩ := ends
  exact ⟨held, underway.notified⟩

end Server

/-! ## Calls that are evaluated -/

/-- The call has returned nil, and its data has a property. -/
def returnsNil (p : Server → Bool) : EStateM.Result (Halt Lock) World (Except ClusterError Unit) → Bool
  | .ok (.ok ()) w => p w.data
  | _ => false

theorem exists_of_returnsNil (p : Server → Bool)
    (result : EStateM.Result (Halt Lock) World (Except ClusterError Unit))
    (returns : returnsNil p result = true) : ∃ w, result = .ok (.ok ()) w ∧ p w.data = true := by
  unfold returnsNil at returns
  split at returns
  · next w => exact ⟨w, rfl, returns⟩
  · cases returns

end C4D
