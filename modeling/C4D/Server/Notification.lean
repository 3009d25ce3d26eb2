import C4D.Server.System

/-!
# Are failed notifications recorded against the right nodes?

`notifyNodesInParallel` collects the URLs of the nodes that did not answer, and looks
each of them up in the registry, whose keys are node ids. The results come back in any
order, and the collected URLs are visited in any order (`notifyNodesInOrder`).

A call does what it ought to exactly if the ids that are among those URLs are the ids of
the nodes that did not answer, up to nodes that had failed already
(`notifiesRightly_iff`).
-/

set_option autoImplicit false

namespace C4D

open Foundations Guarded

/-! ## Results in any order -/

/-- `notifyNodesInParallel`, with the order in which the results arrive and the order in which the
failures are marked. -/
def notifyNodesInOrder (setting : Setting) (answers : String → Bool)
    (arrivals marking : Shuffle String) (nodes : List String) : Op (Except ClusterError Unit) := do
  update fun s => { s with nodes := s.nodes.assignRanks nodes 0 }
  update fun s => { s with rounds := s.rounds ++ [nodes.map (s.restartCommand setting)] }
  let s ← read
  let failedNodes :=
    (((arrivals.apply nodes).filter fun id => !answers id).map s.nodes.urlOf).dedup
  if 0 < failedNodes.length then
    lock .clusterMu
    update fun s => (marking.apply failedNodes).foldl Server.markFailed s
    unlock .clusterMu
    return .error (.notificationFailed failedNodes.length)
  else
    return .ok ()

theorem notifyNodesInParallel_eq (setting : Setting) (answers : String → Bool)
    (nodes : List String) : notifyNodesInParallel setting answers nodes =
      notifyNodesInOrder setting answers .inOrder .inOrder nodes := rfl

section Data

variable (setting : Setting) (answers : String → Bool) (arrivals : Shuffle String)
  (nodes : List String) (s : Server)

/-- The data after the ranks are assigned and the commands are sent. -/
def Server.told : Server :=
  let s' := { s with nodes := s.nodes.assignRanks nodes 0 }
  { s' with rounds := s'.rounds ++ [nodes.map (s'.restartCommand setting)] }

/-- The URLs of the nodes that did not answer. -/
def Server.silentURLs : List String :=
  (((arrivals.apply nodes).filter fun id => !answers id).map (s.told setting nodes).nodes.urlOf).dedup

/-- The node is notified and does not answer. -/
def Silent (id : String) : Prop := id ∈ nodes ∧ answers id = false

end Data

section Run

variable {setting : Setting} {answers : String → Bool} {arrivals marking : Shuffle String}
  {nodes : List String} {s : Server} {locks : Lock → RWMutex}

theorem notifyNodesInOrder_run :
    (notifyNodesInOrder setting answers arrivals marking nodes).run ⟨s, locks⟩ =
      if s.silentURLs setting answers arrivals nodes = [] then
        .ok (.ok ()) ⟨s.told setting nodes, locks⟩
      else if locks .clusterMu = .free then
        .ok (.error (.notificationFailed (s.silentURLs setting answers arrivals nodes).length))
          ⟨(marking.apply (s.silentURLs setting answers arrivals nodes)).foldl Server.markFailed
            (s.told setting nodes), locks⟩
      else .error (.blocked .clusterMu) ⟨s.told setting nodes, locks⟩ := by
  simp only [notifyNodesInOrder, EStateM.run_bind, update_run, read_run]
  change (if 0 < (s.silentURLs setting answers arrivals nodes).length then _ else _ : Op _).run
    ⟨s.told setting nodes, locks⟩ = _
  by_cases answered : s.silentURLs setting answers arrivals nodes = []
  · rw [if_neg (by rw [answered]; exact lt_irrefl 0), if_pos answered, EStateM.run_pure]
  · rw [if_pos (List.length_pos_iff.mpr answered), if_neg answered]
    by_cases free : locks .clusterMu = .free
    · rw [if_pos free]
      simp only [EStateM.run_bind, lock_run free, update_run, unlock_run, release_eq free,
        EStateM.run_pure]
      rfl
    · rw [if_neg free, EStateM.run_bind, lock_run_blocked free]

theorem mem_silentURLs {url : String} : url ∈ s.silentURLs setting answers arrivals nodes ↔
    ∃ id, Silent answers nodes id ∧ s.nodes.urlOf id = url := by
  simp only [Server.silentURLs, List.mem_dedup, List.mem_map, List.mem_filter, Shuffle.mem_apply,
    Bool.not_eq_true', Silent]
  refine exists_congr fun id => and_congr_right fun _ => ?_
  rw [show (s.told setting nodes).nodes.urlOf id = s.nodes.urlOf id from
    Registry.urlOf_assignRanks nodes 0 id]

theorem silentURLs_eq_nil : s.silentURLs setting answers arrivals nodes = [] ↔
    ∀ id, ¬ Silent answers nodes id := by
  rw [List.eq_nil_iff_forall_not_mem]
  constructor
  · intro none id silent
    exact none _ (mem_silentURLs.mpr ⟨id, silent, rfl⟩)
  · intro none url mem
    obtain ⟨id, silent, _⟩ := mem_silentURLs.mp mem
    exact none id silent

theorem silentURLs_ne_nil : s.silentURLs setting answers arrivals nodes ≠ [] ↔
    ∃ id, Silent answers nodes id := by
  rw [Ne, silentURLs_eq_nil, not_forall_not]

end Run

/-! ## What the markings do -/

theorem Registry.lookup_assignRanks_of_notMem {nodes : Registry} {l : List String} {j : String}
    (notMem : j ∉ l) (i : Nat) : (nodes.assignRanks l i).lookup j = nodes.lookup j := by
  induction l generalizing i nodes with
  | nil => rfl
  | cons id rest ih =>
      rw [List.mem_cons, not_or] at notMem
      rw [assignRanks, ih notMem.2]
      exact Table.lookup_modify_of_ne notMem.1 _ nodes

namespace Server

variable {s : Server}

theorem lookup_markFailed (nodeURL j : String) : (s.markFailed nodeURL).nodes.lookup j =
    if j = nodeURL then (s.nodes.lookup j).map fun node => { node with status := .failed }
    else s.nodes.lookup j := by
  have written : (s.nodes.setStatus nodeURL .failed).lookup j =
      if j = nodeURL then (s.nodes.lookup j).map fun node => { node with status := .failed }
      else s.nodes.lookup j := by
    rw [Registry.setStatus, Table.lookup_modify]
    by_cases here : j = nodeURL
    · simp only [if_pos here]
    · simp only [if_neg here, Option.map_id']
  unfold markFailed
  cases known : s.nodes.statusOf nodeURL with
  | none =>
      change s.nodes.lookup j = _
      by_cases here : j = nodeURL
      · rw [if_pos here, here, Registry.statusOf_eq_none.mp known, Option.map_none]
      · rw [if_neg here]
  | some oldStatus => cases oldStatus <;> exact written

theorem lookup_foldl_markFailed (urls : List String) (j : String) :
    (urls.foldl markFailed s).nodes.lookup j =
      if j ∈ urls then (s.nodes.lookup j).map fun node => { node with status := .failed }
      else s.nodes.lookup j := by
  induction urls generalizing s with
  | nil => simp only [List.foldl_nil, List.not_mem_nil, if_false]
  | cons url rest ih =>
      rw [List.foldl_cons, ih, lookup_markFailed]
      by_cases here : j = url <;> by_cases later : j ∈ rest <;>
        simp [here, later, Function.comp_def]

/-- The counters change by the number of active nodes that are marked. -/
theorem counters_foldl_markFailed {urls : List String} (nodup : urls.Nodup) :
    (urls.foldl markFailed s).activeNodes =
        s.activeNodes - urls.countP (fun url => s.nodes.statusOf url = some .active) ∧
      (urls.foldl markFailed s).failedNodes =
        s.failedNodes + urls.countP (fun url => s.nodes.statusOf url = some .active) := by
  induction urls generalizing s with
  | nil => exact ⟨(sub_zero _).symm, (add_zero _).symm⟩
  | cons url rest ih =>
      rw [List.nodup_cons] at nodup
      have later : rest.countP (fun j => (s.markFailed url).nodes.statusOf j = some .active) =
          rest.countP (fun j => s.nodes.statusOf j = some .active) := by
        refine List.countP_congr fun j mem => ?_
        have ne : j ≠ url := fun same => nodup.1 (same ▸ mem)
        rw [statusOf_markFailed, if_neg ne]
      obtain ⟨active, failed⟩ := ih nodup.2 (s := s.markFailed url)
      rw [List.foldl_cons, active, failed, later, List.countP_cons, markFailed]
      rcases known : s.nodes.statusOf url with _ | _ | _ | _
      all_goals simp [setStatus]
      all_goals omega

end Server

/-! ## Calls that record failures rightly -/

/-- What a call ought to do: the i-th node gets the rank i, the call fails exactly if some node was
silent, exactly the silent nodes are failed and counted, and no other node changes. -/
structure RecordsRightly (answers : String → Bool) (nodes : List String) (s s' : Server)
    (result : Except ClusterError Unit) : Prop where
  ranks : ∀ (i : Nat) (id : String), nodes[i]? = some id → s'.nodes.rankOf id = i
  error : (∃ e, result = .error e) ↔ ∃ id, Silent answers nodes id
  failed : ∀ id, Silent answers nodes id → s'.nodes.statusOf id = some .failed
  kept : ∀ id ∈ nodes, ¬ Silent answers nodes id → s'.nodes.statusOf id = s.nodes.statusOf id
  others : ∀ id, id ∉ nodes → s'.nodes.lookup id = s.nodes.lookup id
  activeNodes : s'.activeNodes = s.activeNodes - (nodes.countP fun id => !answers id : Nat)
  failedNodes : s'.failedNodes = s.failedNodes + (nodes.countP fun id => !answers id : Nat)

/-- The call returns, and it has done what it ought to. -/
def World.NotifiesRightly (setting : Setting) (answers : String → Bool)
    (arrivals marking : Shuffle String) (nodes : List String) (w : World) : Prop :=
  ∃ result w', (notifyNodesInOrder setting answers arrivals marking nodes).run w = .ok result w' ∧
    RecordsRightly answers nodes w.data w'.data result

/-- No node is listed twice, the cluster lock can be taken if it is needed, and among the ids of
registered nodes that have not failed, the URLs of silent nodes are the ids of silent nodes. -/
structure World.NamesRightly (answers : String → Bool) (nodes : List String) (w : World) :
    Prop where
  nodup : nodes.Nodup
  clusterFree : ∀ id, Silent answers nodes id → w.locks .clusterMu = .free
  named : ∀ id, Silent answers nodes id →
    ∃ other, Silent answers nodes other ∧ w.data.nodes.urlOf other = id
  spared : ∀ other, Silent answers nodes other → w.data.nodes.urlOf other ∈ w.data.nodes →
    Silent answers nodes (w.data.nodes.urlOf other) ∨
      w.data.nodes.statusOf (w.data.nodes.urlOf other) = some .failed

section Settled

variable (setting : Setting) (answers : String → Bool) (arrivals marking : Shuffle String)
  (nodes : List String) (s : Server)

/-- The data when the call returns. -/
def Server.recorded : Server :=
  (marking.apply (s.silentURLs setting answers arrivals nodes)).foldl Server.markFailed
    (s.told setting nodes)

variable {setting answers arrivals marking nodes s}

/-- The call returns unless it waits for the cluster lock, with an error if some node is silent. -/
theorem notifyNodesInOrder_returns {locks : Lock → RWMutex} {result : Except ClusterError Unit}
    {w : World} : (notifyNodesInOrder setting answers arrivals marking nodes).run ⟨s, locks⟩ =
        .ok result w ↔
      ((∃ id, Silent answers nodes id) → locks .clusterMu = .free) ∧
        w = ⟨s.recorded setting answers arrivals marking nodes, locks⟩ ∧
        result = if s.silentURLs setting answers arrivals nodes = [] then .ok ()
          else .error (.notificationFailed (s.silentURLs setting answers arrivals nodes).length) := by
  rw [notifyNodesInOrder_run]
  by_cases answered : s.silentURLs setting answers arrivals nodes = []
  · have none : ¬ ∃ id, Silent answers nodes id := not_exists.mpr (silentURLs_eq_nil.mp answered)
    have unmarked : s.recorded setting answers arrivals marking nodes = s.told setting nodes := by
      rw [Server.recorded, answered, List.Perm.eq_nil (marking.perm [])]
      rfl
    rw [if_pos answered, if_pos answered, unmarked, EStateM.Result.ok.injEq]
    exact ⟨fun same => ⟨fun some => absurd some none, same.2.symm, same.1.symm⟩,
      fun same => ⟨same.2.2.symm, same.2.1.symm⟩⟩
  · have silent : ∃ id, Silent answers nodes id := silentURLs_ne_nil.mp answered
    rw [if_neg answered, if_neg answered]
    by_cases free : locks .clusterMu = .free
    · rw [if_pos free, EStateM.Result.ok.injEq]
      exact ⟨fun same => ⟨fun _ => free, same.2.symm, same.1.symm⟩,
        fun same => ⟨same.2.2.symm, same.2.1.symm⟩⟩
    · rw [if_neg free]
      refine iff_of_false (fun same => ?_) fun holds => free (holds.1 silent)
      cases same

theorem lookup_recorded (id : String) :
    (s.recorded setting answers arrivals marking nodes).nodes.lookup id =
      if id ∈ s.silentURLs setting answers arrivals nodes then
        ((s.told setting nodes).nodes.lookup id).map fun node => { node with status := .failed }
      else (s.told setting nodes).nodes.lookup id := by
  rw [Server.recorded, Server.lookup_foldl_markFailed]
  simp only [Shuffle.mem_apply]

theorem statusOf_recorded (id : String) :
    (s.recorded setting answers arrivals marking nodes).nodes.statusOf id =
      if id ∈ s.silentURLs setting answers arrivals nodes then
        (s.nodes.statusOf id).map fun _ => .failed else s.nodes.statusOf id := by
  rw [Server.recorded, Server.statusOf_foldl_markFailed]
  simp only [Shuffle.mem_apply]
  rw [show (s.told setting nodes).nodes.statusOf id = s.nodes.statusOf id from
    Registry.statusOf_assignRanks nodes 0 id]

/-- The counters change by the number of active nodes found under the URLs. -/
theorem counters_recorded (s : Server) (setting : Setting) (answers : String → Bool)
    (arrivals marking : Shuffle String) (nodes : List String) :
    (s.recorded setting answers arrivals marking nodes).activeNodes = s.activeNodes -
        (s.silentURLs setting answers arrivals nodes).countP
          (fun url => s.nodes.statusOf url = some .active) ∧
      (s.recorded setting answers arrivals marking nodes).failedNodes = s.failedNodes +
        (s.silentURLs setting answers arrivals nodes).countP
          (fun url => s.nodes.statusOf url = some .active) := by
  have nodup : (marking.apply (s.silentURLs setting answers arrivals nodes)).Nodup :=
    marking.nodup_apply (List.nodup_dedup _)
  have counters := Server.counters_foldl_markFailed (s := s.told setting nodes) nodup
  rw [(marking.perm _).countP_eq] at counters
  have statuses (url : String) : (s.told setting nodes).nodes.statusOf url = s.nodes.statusOf url :=
    Registry.statusOf_assignRanks nodes 0 url
  simp only [statuses] at counters
  exact counters

end Settled

section Iff

variable {setting : Setting} {answers : String → Bool} {arrivals marking : Shuffle String}
  {nodes : List String} {w : World}
  (active : ∀ id ∈ nodes, w.data.nodes.statusOf id = some .active)

include active

theorem World.NamesRightly.notifiesRightly (names : w.NamesRightly answers nodes) :
    w.NotifiesRightly setting answers arrivals marking nodes := by
  have registered (id : String) (mem : id ∈ nodes) : id ∈ w.data.nodes :=
    Registry.mem_iff_statusOf.mpr ⟨_, active id mem⟩
  -- Among the URLs that are ids of nodes not failed yet, exactly the silent nodes are found.
  have hit {id : String} : id ∈ w.data.silentURLs setting answers arrivals nodes →
      id ∈ w.data.nodes → Silent answers nodes id ∨ w.data.nodes.statusOf id = some .failed := by
    intro mem known
    obtain ⟨other, silent, rfl⟩ := mem_silentURLs.mp mem
    exact names.spared other silent known
  have found {id : String} (silent : Silent answers nodes id) :
      id ∈ w.data.silentURLs setting answers arrivals nodes :=
    mem_silentURLs.mpr (names.named id silent)
  have counted : (w.data.silentURLs setting answers arrivals nodes).countP
      (fun url => w.data.nodes.statusOf url = some .active) = nodes.countP fun id => !answers id := by
    rw [List.countP_eq_length_filter, List.countP_eq_length_filter]
    apply List.Perm.length_eq
    refine (List.perm_ext_iff_of_nodup ((List.nodup_dedup _).filter _)
      (names.nodup.filter _)).mpr fun id => ?_
    simp only [List.mem_filter, decide_eq_true_eq, Bool.not_eq_true']
    constructor
    · rintro ⟨mem, working⟩
      rcases hit mem (Registry.mem_iff_statusOf.mpr ⟨_, working⟩) with silent | failed
      · exact silent
      · cases working.symm.trans failed
    · exact fun silent => ⟨found silent, active id silent.1⟩
  obtain ⟨activeNodes, failedNodes⟩ :=
    counters_recorded w.data setting answers arrivals marking nodes
  refine ⟨_, _, notifyNodesInOrder_returns.mpr ⟨fun ⟨id, silent⟩ => names.clusterFree id silent,
    rfl, rfl⟩, ?_, ?_, ?_, ?_, ?_, ?_, ?_⟩
  · intro i id listed
    obtain ⟨within, rfl⟩ := List.getElem?_eq_some_iff.mp listed
    have mem : nodes[i] ∈ nodes := List.getElem_mem within
    rw [Server.recorded, Server.rankOf_foldl_markFailed]
    refine (Registry.rankOf_assignRanks names.nodup mem (registered _ mem) 0).trans ?_
    rw [Nat.zero_add, names.nodup.idxOf_getElem]
  · split
    · next answered =>
        refine iff_of_false (fun ⟨e, fails⟩ => by cases fails) ?_
        exact not_exists.mpr (silentURLs_eq_nil.mp answered)
    · next silent => exact iff_of_true ⟨_, rfl⟩ (silentURLs_ne_nil.mp silent)
  · intro id silent
    rw [statusOf_recorded, if_pos (found silent), active id silent.1, Option.map_some]
  · intro id mem answered
    rw [statusOf_recorded, if_neg]
    intro marked
    rcases hit marked (registered id mem) with silent | failed
    · exact answered silent
    · cases (active id mem).symm.trans failed
  · intro id unlisted
    have untold : (w.data.told setting nodes).nodes.lookup id = w.data.nodes.lookup id :=
      Registry.lookup_assignRanks_of_notMem unlisted 0
    rw [lookup_recorded, untold]
    split
    · next marked =>
        cases known : w.data.nodes.lookup id with
        | none => rfl
        | some node =>
            have member : id ∈ w.data.nodes := Table.mem_iff_exists_lookup.mpr ⟨node, known⟩
            rcases hit marked member with silent | failed
            · exact absurd silent.1 unlisted
            · rw [Registry.statusOf_of_lookup known, Option.some.injEq] at failed
              rw [Option.map_some, ← failed]
    · rfl
  · rw [activeNodes, counted]
  · rw [failedNodes, counted]

theorem World.NotifiesRightly.namesRightly
    (right : w.NotifiesRightly setting answers arrivals marking nodes) :
    w.NamesRightly answers nodes := by
  obtain ⟨result, w', run, records⟩ := right
  obtain ⟨clusterFree, rfl, _⟩ := notifyNodesInOrder_returns.mp run
  refine ⟨?_, fun id silent => clusterFree ⟨id, silent⟩, fun id silent => ?_, fun other silent => ?_⟩
  · rw [List.nodup_iff_getElem?_ne_getElem?]
    intro i j before within same
    have later := List.getElem?_eq_getElem within
    have first := records.ranks i _ (same.trans later)
    have second := records.ranks j _ later
    omega
  · by_contra unnamed
    have failed := records.failed id silent
    rw [statusOf_recorded, if_neg (mem_silentURLs.not.mpr unnamed), active id silent.1] at failed
    cases failed
  · intro known
    have marked : w.data.nodes.urlOf other ∈ w.data.silentURLs setting answers arrivals nodes :=
      mem_silentURLs.mpr ⟨other, silent, rfl⟩
    generalize w.data.nodes.urlOf other = id at known marked ⊢
    obtain ⟨node, listed⟩ := Table.mem_iff_exists_lookup.mp known
    by_cases mem : id ∈ nodes
    · left
      by_contra answered
      have kept := records.kept id mem answered
      rw [statusOf_recorded, if_pos marked, active id mem] at kept
      cases kept
    · right
      have same := records.others id mem
      have untold : (w.data.told setting nodes).nodes.lookup id = w.data.nodes.lookup id :=
        Registry.lookup_assignRanks_of_notMem mem 0
      rw [lookup_recorded, if_pos marked, untold, listed, Option.map_some, Option.some.injEq] at same
      rw [Registry.statusOf_of_lookup listed, ← same]

end Iff

/-- **A call records the failures rightly** if no node is listed twice, the cluster lock is free
when it is needed, and among the ids of nodes that have not failed the URLs of the silent nodes are
the ids of the silent nodes, and only then. -/
theorem notifiesRightly_iff {setting : Setting} {answers : String → Bool}
    {arrivals marking : Shuffle String} {nodes : List String} {w : World}
    (active : ∀ id ∈ nodes, w.data.nodes.statusOf id = some .active) :
    w.NotifiesRightly setting answers arrivals marking nodes ↔ w.NamesRightly answers nodes :=
  ⟨fun right => right.namesRightly active, fun names => names.notifiesRightly active⟩

/-- Nodes whose ids are their URLs: the silent one is failed. -/
theorem notifiesRightly_alike :
    ∃ w, (system smallDeployment).Reachable w ∧ w.data.nodes.count .active = 3 ∧
      w.NotifiesRightly smallSetting (· ≠ "b") .inOrder .inOrder ["a", "b", "c"] := by
  obtain ⟨w, reachable, holds⟩ := System.exists_reachable (S := system smallDeployment)
    [enlist "a" "a", enlist "b" "b", enlist "c" "c", enlist "d" "d"]
    (fun w => w.data.nodes.count .active = 3 ∧ w.locks .clusterMu = .free ∧
      ∀ id ∈ ["a", "b", "c"], w.data.nodes.statusOf id = some .active ∧ w.data.nodes.urlOf id = id)
    rfl (by decide +kernel)
  obtain ⟨three, clusterFree, nodes⟩ := of_decide_eq_true holds
  refine ⟨w, reachable, three, (notifiesRightly_iff fun id mem => (nodes id mem).1).mpr
    ⟨by decide, fun _ _ => clusterFree, fun id silent => ⟨id, silent, (nodes id silent.1).2⟩, ?_⟩⟩
  intro other silent _
  rw [(nodes other silent.1).2]
  exact .inl silent

/-- Ids and URLs as monitors build them: no URL is an id, so nothing is marked. -/
theorem notification_misfiled :
    ∃ w, (system smallDeployment).Reachable w ∧
      (∀ id ∈ ["a.ns.1", "b.ns.1", "c.ns.1"], w.data.nodes.statusOf id = some .active) ∧
      ¬ w.NotifiesRightly smallSetting (· ≠ "b.ns.1") .inOrder .inOrder
        ["a.ns.1", "b.ns.1", "c.ns.1"] := by
  obtain ⟨w, reachable, holds⟩ := System.exists_reachable (S := system smallDeployment) gathering
    (fun w => (∀ id ∈ ["a.ns.1", "b.ns.1", "c.ns.1"], w.data.nodes.statusOf id = some .active) ∧
      w.data.nodes.urlOf "b.ns.1" = "http://b.ns:1") rfl (by decide +kernel)
  obtain ⟨active, url⟩ := of_decide_eq_true holds
  refine ⟨w, reachable, active, fun right => ?_⟩
  obtain ⟨other, ⟨_, silent⟩, same⟩ :=
    (right.namesRightly active).named "b.ns.1" ⟨by decide, by decide⟩
  have here : other = "b.ns.1" := not_not.mp (of_decide_eq_false silent)
  rw [here, url] at same
  exact absurd same (by decide)

end C4D
