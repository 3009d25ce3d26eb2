import C4D.Server.Attempt
import Mathlib.Data.Finset.Max

/-!
# When a reconfiguration recovers from silent nodes

A node that does not answer is to be marked failed, so that the next attempt
promotes a standby node in its place. The marking looks the node up under its
URL, and the registry is keyed by ids: under the names that monitors send, the
URL of a node is longer than its id (`length_monitorURL`). Of the silent nodes
that are notified, one with the shortest id is therefore never marked
(`exists_active_marked`), it is notified again in the next attempt, and no
attempt succeeds.

So a call recovers for every order of traversal exactly when no silent node is
notified in its first attempt (`reconfigureCluster_recovers_iff`).
-/

set_option autoImplicit false

namespace C4D

open Foundations

/-! ## The names that monitors send -/

/-- `nodeID` of `NewMonitor`. -/
def monitorID (taskID ns port : String) : String := taskID ++ "." ++ ns ++ "." ++ port

/-- `nodeURL` of `NewMonitor`. -/
def monitorURL (taskID ns port : String) : String := "http://" ++ taskID ++ "." ++ ns ++ ":" ++ port

theorem length_monitorURL (taskID ns port : String) :
    (monitorURL taskID ns port).length = (monitorID taskID ns port).length + 7 := by
  simp only [monitorURL, monitorID, String.length_append]
  change 7 + _ + 1 + _ + 1 + _ = _ + 1 + _ + 1 + _ + 7
  omega

/-- Every node is registered under the id and the URL of one monitor. -/
def Registry.MonitorNamed (nodes : Registry) : Prop :=
  ∀ id ∈ nodes, ∃ taskID ns port,
    id = monitorID taskID ns port ∧ nodes.urlOf id = monitorURL taskID ns port

theorem Registry.MonitorNamed.length_urlOf {nodes : Registry} (named : nodes.MonitorNamed)
    {id : String} (registered : id ∈ nodes) : (nodes.urlOf id).length = id.length + 7 := by
  obtain ⟨taskID, ns, port, same, url⟩ := named id registered
  rw [url, same, length_monitorURL]

/-! ## A silent node that is notified -/

namespace Server

variable {setting : Setting} {round : Round} {s : Server}

theorem registered_of_mem_targets {id : String} (mem : id ∈ s.targets setting round) :
    id ∈ s.nodes := by
  have same : AList.keys (s.notified setting round).nodes = AList.keys s.nodes := keys_notified
  rw [AList.mem_keys, ← same, ← AList.mem_keys]
  exact Registry.mem_iff_statusOf.mpr ⟨_, mem_targets_iff.mp mem⟩

/-- **Of the silent nodes that are notified, one with the shortest id is not marked.** -/
theorem exists_active_marked (named : s.nodes.MonitorNamed) {id : String}
    (target : id ∈ s.targets setting round) (silent : round.answers id = false) :
    ∃ j, round.answers j = false ∧ (s.marked setting round).nodes.statusOf j = some .active := by
  obtain ⟨j, mem, shortest⟩ := Finset.exists_min_image
    ((s.targets setting round).filter fun id => !round.answers id).toFinset String.length
    ⟨id, by rw [List.mem_toFinset, List.mem_filter]; exact ⟨target, by rw [silent]; rfl⟩⟩
  rw [List.mem_toFinset, List.mem_filter, Bool.not_eq_true'] at mem
  refine ⟨j, mem.2, ?_⟩
  rw [statusOf_marked, if_neg, ← statusOf_notified]
  · exact mem_targets_iff.mp mem.1
  · intro hit
    obtain ⟨k, targetK, silentK, url⟩ := mem_unreached.mp hit
    have shorter := shortest k (by
      rw [List.mem_toFinset, List.mem_filter, Bool.not_eq_true']
      exact ⟨targetK, silentK⟩)
    have longer := named.length_urlOf (registered_of_mem_targets targetK)
    rw [url] at longer
    omega

/-- **A silent node that is notified keeps every attempt from succeeding.** -/
theorem reconfigureFrom_exits (named : s.nodes.MonitorNamed) {id : String}
    (target : id ∈ s.targets setting round) (silent : round.answers id = false)
    (left attempt : Nat) :
    ∃ s', s.reconfigureFrom setting (fun _ => round) true left attempt = .exited s' := by
  have ends := reconfigureFrom_ends setting (fun _ => round) true
    (I := fun s => s.nodes.MonitorNamed ∧
      ∃ id ∈ s.targets setting round, round.answers id = false)
    (fun s _ progress _ _ => by
      obtain ⟨named, id, target, silent⟩ := progress
      obtain ⟨j, silentJ, active⟩ := exists_active_marked named target silent
      refine ⟨?_, j, mem_targets_of_active active, silentJ⟩
      intro k registered
      rw [AList.mem_keys, keys_marked, ← AList.mem_keys] at registered
      rw [urlOf_marked]
      exact named k registered)
    left attempt ⟨named, id, target, silent⟩
  cases outcome : s.reconfigureFrom setting (fun _ => round) true left attempt with
  | returned s' =>
      rw [outcome] at ends
      obtain ⟨last, _, ⟨_, j, targetJ, silentJ⟩, _, answered, _⟩ := ends
      rw [unreached_eq_nil.mp answered j targetJ] at silentJ
      cases silentJ
  | exited s' => exact ⟨s', rfl⟩
  | stuck s' =>
      rw [outcome] at ends
      cases ends.1

/-- A traversal that meets a standby node first promotes it when active nodes are missing. -/
theorem mem_promotions_first {id : String} {ties : Shuffle String} {answers : String → Bool}
    (standby : s.nodes.statusOf id = some .standby)
    (few : s.nodes.count .active < setting.config.activeNodes) :
    id ∈ s.promotions setting ⟨.first (· == id), ties, answers⟩ := by
  have registered : id ∈ AList.keys s.nodes :=
    AList.mem_keys.mp (Registry.mem_iff_statusOf.mpr ⟨_, standby⟩)
  have head : (AList.keys s.nodes).filter (· == id) = [id] := by
    rw [List.filter_beq, List.count_eq_one_of_mem (AList.keys_nodup _) registered,
      List.replicate_one]
  have first : s.nodes.listWith (.first (· == id)) .standby =
      id :: ((AList.keys s.nodes).filter (!· == id)).filter (s.nodes.statusOf · == some .standby) := by
    simp only [Registry.listWith, Shuffle.first, head, List.singleton_append]
    rw [List.filter_cons_of_pos (by rw [standby]; rfl)]
  simp only [promotions, activeList, first, Registry.length_listWith]
  obtain ⟨n, size⟩ : ∃ n, (setting.config.activeNodes - s.nodes.count .active).toNat = n + 1 :=
    ⟨(setting.config.activeNodes - s.nodes.count .active).toNat - 1, by omega⟩
  rw [size, List.take_succ_cons]
  exact List.mem_cons_self

end Server

/-! ## Recovery -/

section Recovery

variable (setting : Setting) (silent : Finset String) (s : Server) (locks : Lock → RWMutex)

/-- For every order of traversal, a call whose silent nodes are the given ones returns nil with
the server in `Running` and the required number of active nodes, none of them silent. -/
def Recovers : Prop :=
  ∀ rounds : Nat → Round, (∀ attempt id, (rounds attempt).answers id = decide (id ∉ silent)) →
    ∃ s', (reconfigureCluster setting rounds).run ⟨s, locks⟩ = .ok (.ok ()) ⟨s', locks⟩ ∧
      s'.current = .running ∧ s'.nodes.count .active = setting.config.activeNodes ∧
      ∀ id ∈ silent, s'.nodes.statusOf id ≠ some .active

/-- The active and standby nodes outside the silent ones. -/
def Server.answering : Finset String :=
  (s.nodes.withStatus .active ∪ s.nodes.withStatus .standby) \ silent

variable {setting silent s locks} {round : Round}

/-- The promotions reach the required number when enough nodes answer. -/
theorem Server.enough_chosen
    (enough : setting.config.activeNodes ≤ (s.answering silent).card) :
    setting.config.activeNodes ≤ (s.chosen setting round).length := by
  have answering : (s.answering silent).card ≤
      (s.nodes.withStatus .active).card + (s.nodes.withStatus .standby).card :=
    (Finset.card_le_card Finset.sdiff_subset).trans (Finset.card_union_le _ _)
  have active : (s.nodes.listWith round.order .active).length = (s.nodes.withStatus .active).card :=
    Nat.cast_inj.mp (Registry.length_listWith round.order .active)
  have standby :
      (s.nodes.listWith round.order .standby).length = (s.nodes.withStatus .standby).card :=
    Nat.cast_inj.mp (Registry.length_listWith round.order .standby)
  rw [chosen, List.length_append, promotions, List.length_take, activeList]
  omega

/-- A call none of whose first targets is silent recovers. -/
theorem recovers_of_answered (free : ∀ l, locks l = .free)
    (bounded : s.nodes.count .active ≤ setting.config.activeNodes)
    (accepted : s.current.reconfigurable)
    (enough : setting.config.activeNodes ≤ (s.answering silent).card)
    (answered : ∀ round, ∀ id ∈ s.chosen setting round, id ∉ silent) :
    Recovers setting silent s locks := by
  intro rounds answers
  let entered : Server := { s with current := .reconfiguring }
  have run := reconfigureCluster_run setting rounds (free _) (free _) (free _) accepted
  have size : setting.config.activeNodes ≤ (entered.chosen setting (rounds 0)).length :=
    Server.enough_chosen enough
  have returned : s.reconfigure setting rounds (decide (locks .clusterMu = .free)) =
      .returned (entered.notified setting (rounds 0)).resumed := by
    refine Server.reconfigure_of_answered size fun id chosen => ?_
    rw [answers, decide_eq_true_iff]
    exact answered (rounds 0) id chosen
  have back : (entered.notified setting (rounds 0)).current = .reconfiguring :=
    congrArg Elsewhere.current (Server.elsewhere_notified setting (rounds 0) entered)
  rw [returned, Server.resumed, if_pos back] at run
  refine ⟨_, run, rfl, ?_, ?_⟩
  · rw [Server.count_notified, ← Server.length_chosen]
    exact le_antisymm (Server.length_chosen_le bounded) size
  · intro id member active
    have chosen : id ∈ entered.chosen setting (rounds 0) :=
      Server.mem_targets.mp (Server.mem_targets_iff.mpr active)
    exact answered (rounds 0) id chosen member

/-- A call that chooses a silent node ends the process. -/
theorem exits_of_chosen (free : ∀ l, locks l = .free) (named : s.nodes.MonitorNamed)
    (accepted : s.current.reconfigurable) {id : String} (chosen : id ∈ s.chosen setting round)
    (silent : round.answers id = false) :
    ∃ w, (reconfigureCluster setting fun _ => round).run ⟨s, locks⟩ = .error .exited w := by
  have run := reconfigureCluster_run setting (fun _ => round) (free _) (free _) (free _) accepted
  let entered : Server := { s with current := .reconfiguring }
  have target : id ∈ entered.targets setting round := Server.mem_targets.mpr chosen
  obtain ⟨s', exited⟩ := Server.reconfigureFrom_exits (s := entered) named target silent maxAttempts 0
  rw [decide_eq_true (free .clusterMu), Server.reconfigure, exited] at run
  exact ⟨_, run⟩

theorem not_recovers_of_chosen (free : ∀ l, locks l = .free) (named : s.nodes.MonitorNamed)
    (accepted : s.current.reconfigurable) (answers : ∀ id, round.answers id = decide (id ∉ silent))
    {id : String} (member : id ∈ silent) (chosen : id ∈ s.chosen setting round) :
    ¬ Recovers setting silent s locks := by
  intro recovers
  obtain ⟨s', returns, _⟩ := recovers (fun _ => round) fun _ => answers
  have mute : round.answers id = false := by
    rw [answers, decide_eq_false_iff_not, not_not]
    exact member
  obtain ⟨w, exits⟩ := exits_of_chosen free named accepted chosen mute
  rw [exits] at returns
  cases returns

/-- **When `reconfigureCluster` recovers.** It recovers for every order of traversal if and only
if no active node is silent and, when active nodes are missing, no standby node is. -/
theorem reconfigureCluster_recovers_iff (free : ∀ l, locks l = .free)
    (named : s.nodes.MonitorNamed) (bounded : s.nodes.count .active ≤ setting.config.activeNodes)
    (accepted : s.current.reconfigurable)
    (enough : setting.config.activeNodes ≤ (s.answering silent).card) :
    Recovers setting silent s locks ↔
      (∀ id ∈ silent, s.nodes.statusOf id ≠ some .active) ∧
        (s.nodes.count .active = setting.config.activeNodes ∨
          ∀ id ∈ silent, s.nodes.statusOf id ≠ some .standby) := by
  constructor
  · intro recovers
    refine ⟨fun id member active => ?_, ?_⟩
    · let round : Round := ⟨.inOrder, .inOrder, fun id => decide (id ∉ silent)⟩
      have chosen : id ∈ s.chosen setting round :=
        Server.mem_targets.mp (Server.mem_targets_of_active active)
      exact not_recovers_of_chosen free named accepted (fun _ => rfl) member chosen recovers
    · by_contra missing
      rw [not_or, not_forall] at missing
      obtain ⟨few, id, standby⟩ := missing
      rw [Classical.not_imp, not_not] at standby
      -- The traversal that meets this standby node first promotes it.
      let round : Round := ⟨.first (· == id), .inOrder, fun id => decide (id ∉ silent)⟩
      have chosen : id ∈ s.chosen setting round := by
        rw [Server.chosen, List.mem_append]
        exact .inr (Server.mem_promotions_first standby.2 (lt_of_le_of_ne bounded few))
      exact not_recovers_of_chosen free named accepted (fun _ => rfl) standby.1 chosen recovers
  · rintro ⟨activeAnswer, standbyAnswer⟩
    apply recovers_of_answered free bounded accepted enough
    intro round id chosen member
    rcases List.mem_append.mp chosen with active | promoted
    · exact activeAnswer id member (Server.statusOf_of_mem_activeList active)
    · rcases standbyAnswer with full | standbyAnswer
      · rw [Server.promotions, Server.activeList, Registry.length_listWith, full, sub_self,
          Int.toNat_zero, List.take_zero] at promoted
        cases promoted
      · exact standbyAnswer id member (Server.statusOf_of_mem_promotions promoted)

end Recovery

/-- Three active nodes and a standby node, registered as by their monitors. -/
def monitoredServer : Server :=
  { Server.new smallSetting with
    current := .running
    nodes := AList.insert "a.ns.1" ⟨"http://a.ns:1", .active, 0⟩
      (AList.insert "b.ns.1" ⟨"http://b.ns:1", .active, 1⟩
        (AList.insert "c.ns.1" ⟨"http://c.ns:1", .active, 2⟩
          (AList.insert "d.ns.1" ⟨"http://d.ns:1", .standby, -1⟩ ∅)))
    activeNodes := 3
    standbyNodes := 1 }

theorem monitorNamed_monitoredServer : monitoredServer.nodes.MonitorNamed := by
  intro id registered
  have listed : id ∈ ["a.ns.1", "b.ns.1", "c.ns.1", "d.ns.1"] := AList.mem_keys.mp registered
  simp only [List.mem_cons, List.not_mem_nil, or_false] at listed
  rcases listed with rfl | rfl | rfl | rfl
  · exact ⟨"a", "ns", "1", rfl, rfl⟩
  · exact ⟨"b", "ns", "1", rfl, rfl⟩
  · exact ⟨"c", "ns", "1", rfl, rfl⟩
  · exact ⟨"d", "ns", "1", rfl, rfl⟩

theorem reconfigureCluster_recovers_iff_standby :
    Recovers smallSetting {"d.ns.1"} monitoredServer fun _ => .free :=
  (reconfigureCluster_recovers_iff (fun _ => rfl) monitorNamed_monitoredServer (by decide)
    (by decide) (by decide)).mpr ⟨by decide, .inl (by decide)⟩

/-- One active node is silent and a standby node could replace it, but the call ends the process. -/
theorem reconfigureCluster_silent_exits :
    monitoredServer.nodes.MonitorNamed ∧
      monitoredServer.nodes.count .active ≤ smallSetting.config.activeNodes ∧
      monitoredServer.current = .running ∧ Finset.card {"b.ns.1"} ≤ 2 ∧
      smallSetting.config.activeNodes ≤ (monitoredServer.answering {"b.ns.1"}).card ∧
      (∃ w, (reconfigureCluster smallSetting fun _ => .except ["b.ns.1"]).run
        ⟨monitoredServer, fun _ => .free⟩ = .error .exited w) ∧
      ¬ Recovers smallSetting {"b.ns.1"} monitoredServer fun _ => .free := by
  have chosen : "b.ns.1" ∈ monitoredServer.chosen smallSetting (.except ["b.ns.1"]) := by decide
  refine ⟨monitorNamed_monitoredServer, by decide, rfl, by decide, by decide, ?_, ?_⟩
  · exact exits_of_chosen (fun _ => rfl) monitorNamed_monitoredServer (by decide) chosen (by decide)
  · have answers : ∀ id, (Round.except ["b.ns.1"]).answers id =
        decide (id ∉ ({"b.ns.1"} : Finset String)) := by
      intro id
      simp only [Round.except, List.mem_singleton, Finset.mem_singleton]
    exact not_recovers_of_chosen (fun _ => rfl) monitorNamed_monitoredServer (by decide) answers
      (by decide) chosen

end C4D
