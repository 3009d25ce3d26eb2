import C4D.Server.Capacity
import C4D.Server.Refusal

/-!
# The session and the registry entry after a registration

A registration writes the URL, the status and the rank of its node to two records. A node
that reconnects gets the status and the rank of its registry entry in its session, and its
new URL in the session only. A node that returns after a cleanup finds its old session,
which keeps its rank when the new one is negative. The start round gives the active nodes
new ranks in the registry only.
-/

set_option autoImplicit false

namespace C4D

open Foundations

/-- The two records of a node agree and hold a URL. -/
structure Mirrors (nodeUrl : String) (session : SessionState) (node : NodeState) : Prop where
  sessionURL : session.nodeURL = nodeUrl
  nodeURL : node.nodeURL = nodeUrl
  status : session.status = node.status
  rank : session.rank = node.rank

/-- The node of a request has a session and a registry entry that agree and hold its URL. -/
def RecordsAgree (req : RegisterRequest) (s : Server) : Prop :=
  ∃ session node, s.sessions.lookup req.nodeId = some session ∧
    s.nodes.lookup req.nodeId = some node ∧ Mirrors req.nodeUrl session node

theorem recordsAgree_iff {req : RegisterRequest} {s : Server} {session : SessionState}
    {node : NodeState} (found : s.sessions.lookup req.nodeId = some session)
    (registered : s.nodes.lookup req.nodeId = some node) :
    RecordsAgree req s ↔ Mirrors req.nodeUrl session node := by
  constructor
  · rintro ⟨other, entry, foundOther, foundEntry, mirrors⟩
    cases found.symm.trans foundOther
    cases registered.symm.trans foundEntry
    exact mirrors
  · intro mirrors
    exact ⟨session, node, found, registered, mirrors⟩

/-! ## What a registration needs -/

namespace Server

/-- The registration of one more active node starts the programs. -/
structure StartsWithNext (setting : Setting) (s : Server) : Prop where
  initializing : s.current = .initializing
  last : setting.config.expects (s.activeNodes + s.standbyNodes + 1)
  enough : setting.config.expectedNodes - setting.config.standbyNodes ≤ s.nodes.count .active + 1

instance (setting : Setting) (s : Server) : Decidable (s.StartsWithNext setting) :=
  decidable_of_iff (s.current = .initializing ∧
      setting.config.expects (s.activeNodes + s.standbyNodes + 1) ∧
      setting.config.expectedNodes - setting.config.standbyNodes ≤ s.nodes.count .active + 1)
    ⟨fun ⟨initializing, last, enough⟩ => ⟨initializing, last, enough⟩,
      fun ⟨initializing, last, enough⟩ => ⟨initializing, last, enough⟩⟩

/-- The position in the order of URLs that the node would have as one more active node. -/
def startPosition (s : Server) (req : RegisterRequest) (round : Round) : Nat :=
  (startTargets { s with
    nodes := AList.insert req.nodeId ⟨req.nodeUrl, .active, s.activeNodes⟩ s.nodes }
      round).idxOf req.nodeId

/-- The registration of the node leaves its two records in agreement: a registered node keeps its
URL, a new active node that starts the programs has its place in the order of URLs, and a new
standby node has no session or one without a rank. -/
def Syncs (setting : Setting) (s : Server) (req : RegisterRequest) (round : Round) : Prop :=
  match s.nodes.lookup req.nodeId with
  | some node => node.nodeURL = req.nodeUrl
  | none =>
      if s.activeNodes < setting.config.activeNodes then
        s.StartsWithNext setting → s.startPosition req round = s.activeNodes
      else ∀ session ∈ s.sessions.lookup req.nodeId, session.rank = -1

variable {setting : Setting} {s : Server} {req : RegisterRequest} {round : Round}

theorem syncs_registered {node : NodeState} (registered : s.nodes.lookup req.nodeId = some node) :
    s.Syncs setting req round ↔ node.nodeURL = req.nodeUrl := by
  rw [Syncs, registered]

theorem syncs_active (unregistered : s.nodes.lookup req.nodeId = none)
    (room : s.activeNodes < setting.config.activeNodes) :
    s.Syncs setting req round ↔
      (s.StartsWithNext setting → (s.startPosition req round : Int) = s.activeNodes) := by
  rw [Syncs, unregistered]
  simp only [if_pos room]

theorem syncs_standby (unregistered : s.nodes.lookup req.nodeId = none)
    (full : setting.config.activeNodes ≤ s.activeNodes) :
    s.Syncs setting req round ↔ ∀ session ∈ s.sessions.lookup req.nodeId, session.rank = -1 := by
  rw [Syncs, unregistered]
  simp only [if_neg (not_lt.mpr full)]

/-! ## The two records -/

/-- The session of an admitted node. Its rank is the old one where the new one is negative. -/
theorem session_enrolled (s : Server) (req : RegisterRequest) (now : Int) (status : Status)
    (rank : Int) :
    ∃ session, (s.enrolled req now status rank).sessions.lookup req.nodeId = some session ∧
      session.nodeURL = req.nodeUrl ∧ session.status = status ∧
      session.rank = if 0 ≤ rank then rank else
        ((s.sessions.lookup req.nodeId).map SessionState.rank).getD rank := by
  unfold enrolled sessionRegistered registerSession
  cases found : s.sessions.lookup req.nodeId with
  | none =>
      refine ⟨_, AList.lookup_insert _, rfl, rfl, ?_⟩
      split <;> rfl
  | some session => exact ⟨_, AList.lookup_insert _, rfl, rfl, rfl⟩

/-- A start round changes the rank of a registry entry at most. -/
theorem node_started {node : NodeState} (round : Round) {id : String}
    (registered : s.nodes.lookup id = some node) :
    ∃ after, (s.started round).nodes.lookup id = some after ∧ after.nodeURL = node.nodeURL ∧
      after.status = node.status ∧ after.rank = if node.status = .active then
        ((s.startTargets round).idxOf id : Int) else node.rank := by
  have status : (s.started round).nodes.statusOf id = some node.status :=
    (statusOf_started s round id).trans (Registry.statusOf_of_lookup registered)
  obtain ⟨after, found, same⟩ := Registry.statusOf_eq_some.mp status
  have url : (s.started round).nodes.urlOf id = s.nodes.urlOf id := Registry.urlOf_assignRanks ..
  rw [Registry.urlOf, Registry.urlOf, found, registered] at url
  have rank : (s.started round).nodes.rankOf id = after.rank := by rw [Registry.rankOf, found]; rfl
  refine ⟨after, found, url, same, ?_⟩
  by_cases active : node.status = .active
  · rw [if_pos active, ← rank]
    exact rankOf_started round (active ▸ Registry.statusOf_of_lookup registered)
  · have skipped : id ∉ s.startTargets round := by
      rw [mem_startTargets, Registry.statusOf_of_lookup registered]
      intro same
      exact active (Option.some.inj same)
    have kept : (s.started round).nodes.rankOf id = s.nodes.rankOf id :=
      Registry.rankOf_assignRanks_of_notMem skipped 0
    rw [if_neg active, ← rank, kept, Registry.rankOf, registered]
    rfl

end Server

/-! ## How a registration leaves them -/

section Register

open Server

variable {setting : Setting} {s counted : Server} {req : RegisterRequest} {round : Round}
  {status : Status} {rank : Int}

/-- A node that reconnects has its new URL in its session only. -/
theorem recordsAgree_reconnected {session : SessionState} {node : NodeState} (now : Int)
    (found : s.sessions.lookup req.nodeId = some session)
    (registered : s.nodes.lookup req.nodeId = some node) :
    RecordsAgree req (s.reconnected req now node) ↔ node.nodeURL = req.nodeUrl := by
  have updated : (s.reconnected req now node).sessions.lookup req.nodeId =
      some (reconnectSession req now node session) := by
    change (Table.modify req.nodeId (reconnectSession req now node) s.sessions).lookup _ = _
    rw [Table.lookup_modify_self, found, Option.map_some]
  have kept : (s.reconnected req now node).nodes.lookup req.nodeId = some node := registered
  rw [recordsAgree_iff updated kept]
  constructor
  · intro mirrors
    exact mirrors.nodeURL
  · intro same
    exact ⟨rfl, same, rfl, rfl⟩

/-- The records of an admitted node agree if the session has taken the rank. -/
theorem recordsAgree_enrolled (counts : Counted setting s status rank counted) (now : Int) :
    RecordsAgree req (counted.enrolled req now status rank) ↔
      (0 ≤ rank ∨ ∀ session ∈ s.sessions.lookup req.nodeId, session.rank = rank) := by
  obtain ⟨session, found, url, sameStatus, sameRank⟩ := session_enrolled counted req now status rank
  have registered : (counted.enrolled req now status rank).nodes.lookup req.nodeId =
      some ⟨req.nodeUrl, status, rank⟩ := by
    rw [nodes_enrolled req now counts, AList.lookup_insert]
  rw [counts.sessions] at sameRank
  have agrees : RecordsAgree req (counted.enrolled req now status rank) ↔ session.rank = rank := by
    rw [recordsAgree_iff found registered]
    exact ⟨fun mirrors => mirrors.rank, fun same => ⟨url, rfl, sameStatus, same⟩⟩
  rw [agrees, sameRank]
  by_cases natural : 0 ≤ rank
  · simp only [natural, if_true, true_or]
  · cases s.sessions.lookup req.nodeId <;> simp [natural]

/-- After a start round the session of an active node has the rank it was admitted with. -/
theorem recordsAgree_started (counts : Counted setting s .active rank counted) (natural : 0 ≤ rank)
    (now : Int) (round : Round) (current : State) :
    RecordsAgree req { (counted.enrolled req now .active rank).started round with current } ↔
      (((counted.enrolled req now .active rank).startTargets round).idxOf req.nodeId : Int) =
        rank := by
  obtain ⟨session, found, url, sameStatus, sameRank⟩ := session_enrolled counted req now .active rank
  have registered : (counted.enrolled req now .active rank).nodes.lookup req.nodeId =
      some ⟨req.nodeUrl, .active, rank⟩ := by
    rw [nodes_enrolled req now counts, AList.lookup_insert]
  obtain ⟨after, renumbered, afterUrl, afterStatus, afterRank⟩ := node_started round registered
  rw [if_pos natural] at sameRank
  rw [if_pos rfl] at afterRank
  refine (recordsAgree_iff (s := { (counted.enrolled req now .active rank).started round with current })
    found renumbered).trans ?_
  constructor
  · intro mirrors
    rw [← afterRank, ← mirrors.rank, sameRank]
  · intro position
    refine ⟨url, afterUrl, sameStatus.trans afterStatus.symm, ?_⟩
    rw [sameRank, afterRank, position]

/-- A start round leaves the records of a standby node alone. -/
theorem recordsAgree_started_standby (counts : Counted setting s .standby rank counted) (now : Int)
    (round : Round) (current : State) :
    RecordsAgree req { (counted.enrolled req now .standby rank).started round with current } ↔
      RecordsAgree req (counted.enrolled req now .standby rank) := by
  obtain ⟨session, found, _⟩ := session_enrolled counted req now .standby rank
  have registered : (counted.enrolled req now .standby rank).nodes.lookup req.nodeId =
      some ⟨req.nodeUrl, .standby, rank⟩ := by
    rw [nodes_enrolled req now counts, AList.lookup_insert]
  obtain ⟨⟨_, _, _⟩, renumbered, sameUrl, sameStatus, sameRank⟩ := node_started round registered
  cases sameUrl
  cases sameStatus
  cases sameRank
  exact (recordsAgree_iff (s := { (counted.enrolled req now .standby rank).started round with current })
    found renumbered).trans (recordsAgree_iff found registered).symm

/-- An admitted node is active with the counter as its rank, or standby without a rank. -/
theorem admission_of_admits
    (admitted : (s.captureMaster req).admitNode setting = (.ok (status, rank), counted)) :
    (status = .active ∧ rank = s.activeNodes ∧ s.activeNodes < setting.config.activeNodes) ∨
      (status = .standby ∧ rank = -1 ∧ setting.config.activeNodes ≤ s.activeNodes) := by
  obtain ⟨activeNodes, _⟩ := counters_captureMaster s req
  rw [← activeNodes]
  cases admitted_of_admits admitted with
  | active room => exact .inl ⟨rfl, rfl, room⟩
  | standby full room => exact .inr ⟨rfl, rfl, full⟩

/-- The last expected node starts the programs, in terms of the server before it. -/
theorem startsWithNext_iff (now : Int) (unregistered : s.nodes.lookup req.nodeId = none)
    (admitted : (s.captureMaster req).admitNode setting = (.ok (.active, rank), counted)) :
    s.StartsWithNext setting ↔ (counted.enrolled req now .active rank).complete setting ∧
      setting.config.expectedNodes - setting.config.standbyNodes ≤
        (counted.enrolled req now .active rank).nodes.count .active := by
  have counts := counted_of_admits admitted
  have current : (counted.enrolled req now .active rank).current = s.current :=
    congrArg Lifecycle.current (lifecycle_enrolled req now counts)
  have count : (counted.enrolled req now .active rank).nodes.count .active =
      s.nodes.count .active + 1 := by
    rw [nodes_enrolled req now counts, Registry.count_insert,
      Registry.statusOf_eq_none.mpr unregistered]
    simp
  rw [complete, total_enrolled admitted, current, count]
  constructor
  · rintro ⟨initializing, last, enough⟩
    exact ⟨⟨last, initializing⟩, enough⟩
  · rintro ⟨⟨last, initializing⟩, enough⟩
    exact ⟨initializing, last, enough⟩

/-- **When the records of a node agree after its registration.** -/
theorem register_recordsAgree {locks : Lock → RWMutex} {now : Int} {response : RegisterResponse}
    {w : World}
    (settled : Settled ⟨s, locks⟩) (attended : Attended s) (natural : 0 ≤ s.activeNodes)
    (returns : (register setting req now round).run ⟨s, locks⟩ = .ok (.ok response) w) :
    RecordsAgree req w.data ↔ s.Syncs setting req round := by
  have ends := register_ends setting settled req now round
  rw [returns] at ends
  -- Without a start round the session of an active node has its rank, and that of a standby node may.
  have enrolls_iff {status : Status} {rank : Int} {counted : Server}
      (enrolls : Enrolls setting s locks req status rank counted)
      (idle : status = .active → ¬ s.StartsWithNext setting) :
      RecordsAgree req (counted.enrolled req now status rank) ↔ s.Syncs setting req round := by
    have counts := counted_of_admits enrolls.admitted
    have unregistered := Registry.statusOf_eq_none.mp (enrolls.unregistered attended)
    rw [recordsAgree_enrolled counts]
    rcases admission_of_admits enrolls.admitted with ⟨active, rfl, room⟩ | ⟨_, rfl, full⟩
    · rw [syncs_active unregistered room]
      exact iff_of_true (.inl natural) fun starts => absurd starts (idle active)
    · rw [syncs_standby unregistered full]
      exact or_iff_right (by decide)
  cases ends with
  | @reconnected session node _ accepting registryFree found registered =>
      rw [syncs_registered registered]
      exact recordsAgree_reconnected now ((congrArg _ (sessions_captureMaster req)).trans found)
        ((congrArg _ (nodes_captureMaster req)).trans registered)
  | @enrolled status rank counted _ enrolls incomplete =>
      refine enrolls_iff enrolls ?_
      rintro rfl starts
      exact incomplete ((startsWithNext_iff now (Registry.statusOf_eq_none.mp
        (enrolls.unregistered attended)) enrolls.admitted).mp starts).1
  | @short status rank counted _ enrolls complete clusterFree few =>
      refine enrolls_iff enrolls ?_
      rintro rfl starts
      exact absurd few (not_lt.mpr ((startsWithNext_iff now (Registry.statusOf_eq_none.mp
        (enrolls.unregistered attended)) enrolls.admitted).mp starts).2)
  | @started status rank counted _ enrolls complete clusterFree enough =>
      have counts := counted_of_admits enrolls.admitted
      have unregistered := Registry.statusOf_eq_none.mp (enrolls.unregistered attended)
      rcases admission_of_admits enrolls.admitted with ⟨rfl, rfl, room⟩ | ⟨rfl, _, _⟩
      · have starts := (startsWithNext_iff now unregistered enrolls.admitted).mpr ⟨complete, enough⟩
        have position : ((counted.enrolled req now .active s.activeNodes).startTargets round).idxOf
            req.nodeId = s.startPosition req round := by
          rw [startTargets, nodes_enrolled req now counts]
          rfl
        rw [syncs_active unregistered room, recordsAgree_started counts natural, position]
        exact (imp_iff_right starts).symm
      · rw [recordsAgree_started_standby counts]
        apply enrolls_iff enrolls
        intro active
        cases active

end Register

/-- **The two records after a registration.** The session and the registry entry agree and hold the
URL of the request exactly if a registered node has kept its URL, a new active node that starts the
programs has its place in the order of URLs, and a new standby node has no session left with a rank. -/
theorem register_recordsAgree_iff {deployment : Deployment} {w w' : World} {response : RegisterResponse}
    (reachable : (system deployment).Reachable w) (req : RegisterRequest) (now : Int) (round : Round)
    (returns : (register deployment.toSetting req now round).run w = .ok (.ok response) w') :
    RecordsAgree req w'.data ↔ w.data.Syncs deployment.toSetting req round := by
  have capped := capped_of_reachable deployment.toSetting deployment.positive reachable
  have covered : w.data.nodes.count .active ≤ w.data.activeNodes :=
    Int.sub_nonneg.mp (capped.counted .active _ rfl)
  have natural : 0 ≤ w.data.activeNodes := (Int.natCast_nonneg _).trans covered
  exact register_recordsAgree (settled_of_reachable reachable) (attended_of_reachable reachable)
    natural returns

/-- The first monitor that registers. -/
def firstRequest : RegisterRequest := ⟨"a.ns.1", "http://a.ns:1", "master", "29500"⟩

theorem register_recordsAgree_first : ∃ response w',
    (register smallSetting firstRequest 0 (.except [])).run (World.new smallSetting) =
      .ok (.ok response) w' ∧ RecordsAgree firstRequest w'.data := by
  have reachable : (system smallDeployment).Reachable (World.new smallSetting) := .start rfl
  refine ⟨_, _, rfl, (register_recordsAgree_iff reachable firstRequest 0 (.except []) rfl).mpr ?_⟩
  rw [Server.syncs_active rfl (by decide)]
  intro starts
  exact absurd starts.last (by decide)

/-- It registers again from another address, and the registry keeps the old one. -/
theorem register_recordsDisagree_moved : ∃ w response w', (system smallDeployment).Reachable w ∧
    (register smallSetting ⟨"a.ns.1", "http://a.ns:2", "master", "29500"⟩ 0 (.except [])).run w =
      .ok (.ok response) w' ∧
    ¬ RecordsAgree ⟨"a.ns.1", "http://a.ns:2", "master", "29500"⟩ w'.data := by
  obtain ⟨w, reachable, holds⟩ := System.exists_reachable (S := system smallDeployment)
    [enlist "a.ns.1" "http://a.ns:1"]
    (fun w => w.data.current = .initializing ∧ w.locks .registryMu = .free ∧
      w.data.sessions.lookup "a.ns.1" = some ⟨"a.ns.1", "http://a.ns:1", .active, 0, 0, 0, true⟩ ∧
      w.data.nodes.lookup "a.ns.1" = some ⟨"http://a.ns:1", .active, 0⟩) rfl (by decide +kernel)
  obtain ⟨initializing, registryFree, found, registered⟩ := of_decide_eq_true holds
  have settled := settled_of_reachable reachable
  obtain ⟨response, returns⟩ := register_run_reconnected smallSetting
    ⟨"a.ns.1", "http://a.ns:2", "master", "29500"⟩ 0 (.except []) settled.stateFree
    settled.sessionFree (.inl initializing) found registryFree registered
  refine ⟨w, response, _, reachable, returns, ?_⟩
  rw [recordsAgree_reconnected 0 ((congrArg _ (Server.sessions_captureMaster _)).trans found)
    ((congrArg _ (Server.nodes_captureMaster _)).trans registered)]
  decide

end C4D
