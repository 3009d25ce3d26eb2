import C4D.Deployment.Readiness
import C4D.Server.Capacity

/-!
# Starts and recoveries without faults

When every command is delivered and every call of an engine is in order, only the sites decide how
a round ends. A start ends in `Running` exactly if every active node's monitor is in `Standby`
(`starts_iff_standby`). A reported failure is repaired if all other nodes are ready for a restart:
the reconfiguration returns, and as many nodes train as are required (`repairs_of_ready`). But an
active node that is not ready, like one whose engine has noticed the end of its process, keeps
every attempt from succeeding, and the server exits (`exits_of_not_ready`).
-/

set_option autoImplicit false

namespace C4D

open Foundations Program

/-- The command is delivered, and every call of the engine is in order. -/
structure Errand.Fine (e : Errand) : Prop where
  delivered : e.transport = .delivered
  calls : ∀ n, (e.calls n).Fine

theorem Errand.fine_default : Errand.Fine {} := ⟨rfl, fun _ => CallChoice.fine_healthy⟩

namespace Sites

variable {errands : String → Errand} {sites : Sites} {c : Command}

/-- Every engine's record is that of its process. -/
def Sound (sites : Sites) : Prop := ∀ url, Coherent (sites url).2

theorem Sound.attached (sound : sites.Sound) : sites.Attached := fun url => (sound url).attached

theorem Sound.postAll (sound : sites.Sound) (commands : List Command) :
    (sites.postAll errands commands).Sound :=
  keeps_postAll (P := Coherent) Command.coherent_serve sound commands

theorem confirms_iff_ready (sound : sites.Sound) (fine : (errands c.nodeURL).Fine) :
    sites.Confirms errands c ↔ c.command.Ready (sites c.nodeURL) :=
  (and_iff_right fine.delivered).trans (Command.accepted_iff_ready fine.calls (sound _))

end Sites

/-- Three monitors train, and the fourth is in `Standby`. -/
def trainingSites : Sites := fun url =>
  if url = "http://d.ns:1" then standbySites url
  else (Command.serve ⟨url, url, .start, 0, 3, "", ""⟩ (fun _ => .healthy) (standbySites url)).state

theorem sound_standbySites : standbySites.Sound := fun _ => .of_none rfl

theorem sound_trainingSites : trainingSites.Sound := by
  intro url
  unfold trainingSites
  split
  · exact sound_standbySites url
  · exact Command.coherent_serve (sound_standbySites url)

theorem ready_trainingSites (url : String) : CommandName.restart.Ready (trainingSites url) := by
  unfold trainingSites
  split
  · exact .inl rfl
  · refine Trains.ready (trains_of_accepted (attached_standbySites url) ?_)
    exact (Command.accepted_iff_ready (fun _ => CallChoice.fine_healthy) (sound_standbySites url)).mpr rfl

section Start

variable {setting : Setting} {r : SiteRound} {s : Server} {sites : Sites} {locks : Lock → RWMutex}

end Start

/-! ## Recoveries -/

section Recovery

variable {setting : Setting} {rounds : Nat → SiteRound} {s : Server} {sites : Sites} {round : Round}

/-- The promotions reach the required number when there are enough nodes. -/
theorem Server.enough_of_count
    (enough : setting.config.activeNodes ≤ s.nodes.count .active + s.nodes.count .standby) :
    setting.config.activeNodes ≤ (s.chosen setting round).length := by
  have active : ((s.nodes.listWith round.order .active).length : Int) = s.nodes.count .active :=
    Registry.length_listWith round.order .active
  have standby : ((s.nodes.listWith round.order .standby).length : Int) = s.nodes.count .standby :=
    Registry.length_listWith round.order .standby
  rw [chosen, List.length_append, promotions, List.length_take, activeList]
  omega

/-- The calls to every active or standby node are in order, and it is ready for a restart. -/
def Server.Ready (s : Server) (r : SiteRound) (sites : Sites) : Prop :=
  ∀ id, s.nodes.statusOf id = some .active ∨ s.nodes.statusOf id = some .standby →
    (r.errands (s.nodes.urlOf id)).Fine ∧ CommandName.restart.Ready (sites (s.nodes.urlOf id))

/-- The calls are in order, or no call reaches the site and it is not ready anyway. -/
def Errand.Plain (e : Errand) (site : Monitor × Host) : Prop :=
  e.Fine ∨ e.transport.arrives = false ∧ ¬ CommandName.restart.Ready site

/-- Without other faults, a node answers a restart exactly if its site is ready. -/
theorem SiteRound.answers_iff {r : SiteRound} {id : String} (sound : sites.Sound)
    (plain : (r.errands (s.nodes.urlOf id)).Plain (sites (s.nodes.urlOf id))) :
    (r.restartRound setting s sites).answers id = true ↔
      CommandName.restart.Ready (sites (s.nodes.urlOf id)) := by
  have url : ((s.renumbered setting r.base).restartCommand setting id).nodeURL = s.nodes.urlOf id :=
    Server.urlOf_notified id
  refine decide_eq_true_iff.trans ?_
  rw [← url] at plain ⊢
  rcases plain with fine | ⟨lost, unready⟩
  · exact Sites.confirms_iff_ready sound fine
  · refine iff_of_false (fun confirmed => ?_) unready
    rw [confirmed.1] at lost
    cases lost

/-- The data at the beginning of a reconfiguration. -/
abbrev Server.entered (s : Server) : Server := { s with current := .reconfiguring }

/-- The data after a first attempt that every node answers. -/
def Server.repaired (setting : Setting) (r : SiteRound) (s : Server) (sites : Sites) : Server :=
  (s.entered.notified setting (r.restartRound setting s.entered sites)).resumed

/-- The commands of the first attempt. -/
def Server.firstCommands (setting : Setting) (r : SiteRound) (s : Server) : List Command :=
  (s.entered.targets setting r.base).map ((s.entered.renumbered setting r.base).restartCommand setting)

/-- Without faults, the first attempt of a reconfiguration succeeds if all nodes are ready. -/
theorem Server.returns_of_ready (sound : sites.Sound)
    (enough : setting.config.activeNodes ≤ s.nodes.count .active + s.nodes.count .standby)
    (ready : s.Ready (rounds 0) sites) :
    s.reconfigure setting (SiteRound.restartRounds setting rounds s sites) true =
      .returned (s.repaired setting (rounds 0) sites) := by
  refine Server.reconfigure_of_answered (Server.enough_of_count enough) fun id chosen => ?_
  have chosen : id ∈ s.chosen setting (rounds 0).base := chosen
  obtain ⟨fine, ready⟩ := ready id ((List.mem_append.mp chosen).imp
    Server.statusOf_of_mem_activeList Server.statusOf_of_mem_promotions)
  exact (@SiteRound.answers_iff setting s.entered sites (rounds 0) id sound (.inl fine)).mpr ready

/-- The attempt only promotes. -/
theorem Server.statusOf_repaired (r : SiteRound) (j : String) :
    (s.repaired setting r sites).nodes.statusOf j =
      if j ∈ s.promotions setting r.base then some .active else s.nodes.statusOf j := by
  rw [repaired, nodes_resumed, statusOf_notified]
  exact statusOf_prepared j

theorem Server.count_repaired (r : SiteRound) :
    (s.repaired setting r sites).nodes.count .active + (s.repaired setting r sites).nodes.count .standby =
      s.nodes.count .active + s.nodes.count .standby := by
  have active := @count_prepared setting r.base s.entered .active
  have standby := @count_prepared setting r.base s.entered .standby
  rw [if_pos rfl, if_neg (by decide)] at active
  rw [if_neg (by decide), if_pos rfl] at standby
  change _ = s.nodes.count .active + _ - _ at active
  change _ = s.nodes.count .standby + _ - _ at standby
  have same (status : Status) : (s.repaired setting r sites).nodes.count status =
      (s.entered.prepared setting r.base).nodes.count status := by
    rw [repaired, nodes_resumed]
    exact count_notified status
  rw [same, same, active, standby]
  omega

/-- The attempt sends one round of commands. -/
theorem Server.sentSince_repaired (r : SiteRound) :
    (s.repaired setting r sites).sentSince s = [s.firstCommands setting r] := by
  refine sentSince_of_append ?_
  rw [repaired, rounds_resumed, rounds_notified]
  rfl

/-- A node that is still a standby node was one before, and its site was left alone. -/
theorem Server.spared_of_standby {r : SiteRound} {id : String} (distinct : s.nodes.DistinctURLs)
    (standby : (s.repaired setting r sites).nodes.statusOf id = some .standby) :
    s.nodes.statusOf id = some .standby ∧
      sites.postAll r.errands (s.firstCommands setting r) (s.nodes.urlOf id) =
        sites (s.nodes.urlOf id) := by
  rw [statusOf_repaired] at standby
  split at standby
  · cases standby
  next spared =>
    refine ⟨standby, Sites.postAll_of_notMem fun mem => ?_⟩
    obtain ⟨c, sent, same⟩ := List.mem_map.mp mem
    obtain ⟨j, target, rfl⟩ := List.mem_map.mp sent
    have url : ((s.entered.renumbered setting r.base).restartCommand setting j).nodeURL =
        s.nodes.urlOf j := urlOf_notified j
    have registered : j ∈ s.entered.nodes := registered_of_mem_targets target
    have here : j = id := distinct j registered id (Registry.mem_iff_statusOf.mpr ⟨_, standby⟩)
      (url.symm.trans same)
    subst here
    have left : j ∉ s.entered.promotions setting r.base := spared
    have chosen := mem_chosen.mp (mem_targets.mp target)
    rw [statusOf_prepared, if_neg left] at chosen
    cases standby.symm.trans chosen

theorem World.next_of_returned {w w' : World} {a : Action} (enabled : a.enabled w.data)
    (run : a.run setting w = (.returned, w')) : w.next setting a = some w' := by
  rw [World.next, if_pos enabled, run]

/-- The server is back in `Running`, and the required number of nodes train, which were active or
standby before. The standby nodes that are left were not touched. -/
structure Repaired (setting : Setting) (rounds : Nat → SiteRound) (sites : Sites)
    (before s : Server) : Prop where
  running : s.current = .running
  full : s.nodes.count .active = setting.config.activeNodes
  left : s.nodes.count .active + s.nodes.count .standby =
    before.nodes.count .active + before.nodes.count .standby
  keys : AList.keys s.nodes = AList.keys before.nodes
  urls : ∀ id, s.nodes.urlOf id = before.nodes.urlOf id
  worked : ∀ id, s.nodes.statusOf id = some .active →
    before.nodes.statusOf id = some .active ∨ before.nodes.statusOf id = some .standby
  consecutive : s.nodes.ConsecutiveRanks
  trains : ∀ id, s.nodes.statusOf id = some .active →
    Trains (Env.Assigns (s.nodes.rankOf id) setting.config.activeNodes
        (setting.getenv "MASTER_ADDR") (setting.getenv "MASTER_PORT"))
      (sites.postRounds (fun n => (rounds n).errands) 0 (s.sentSince before) (s.nodes.urlOf id))
  spared : ∀ id, s.nodes.statusOf id = some .standby → before.nodes.statusOf id = some .standby ∧
    sites.postRounds (fun n => (rounds n).errands) 0 (s.sentSince before) (s.nodes.urlOf id) =
      sites (s.nodes.urlOf id)

/-- A first attempt that every node answers. -/
theorem Server.repaired_of_ready (distinct : s.nodes.DistinctURLs) (sound : sites.Sound)
    (bounded : s.nodes.count .active ≤ setting.config.activeNodes)
    (enough : setting.config.activeNodes ≤ s.nodes.count .active + s.nodes.count .standby)
    (ready : s.Ready (rounds 0) sites) :
    Repaired setting rounds sites s (s.repaired setting (rounds 0) sites) := by
  have outcome := returns_of_ready sound enough ready
  have returned := returned_of_reconfigure outcome
  obtain ⟨consecutive, trains⟩ := trains_of_returned distinct sound.attached outcome
  have urls : ∀ id, (s.repaired setting (rounds 0) sites).nodes.urlOf id = s.nodes.urlOf id := by
    intro id
    rw [repaired, nodes_resumed]
    exact urlOf_notified id
  refine ⟨congrArg Elsewhere.current returned.elsewhere, returned.full bounded, count_repaired _,
    returned.ids, urls, fun id active => ?_, consecutive, trains, fun id standby => ?_⟩
  · rw [statusOf_repaired] at active
    split at active
    · next promoted => exact .inr (statusOf_of_mem_promotions promoted)
    · exact .inl active
  · rw [sentSince_repaired, urls]
    exact spared_of_standby distinct standby

/-- A spawned reconfiguration whose nodes are all ready. -/
theorem repairs_of_spawned {w : World} (settled : Settled w)
    (accepted : w.data.current.reconfigurable) (clusterFree : w.locks .clusterMu = .free)
    (spawned : 0 < w.data.spawned) (distinct : w.data.nodes.DistinctURLs) (sound : sites.Sound)
    (bounded : w.data.nodes.count .active ≤ setting.config.activeNodes)
    (enough : setting.config.activeNodes ≤
      w.data.nodes.count .active + w.data.nodes.count .standby)
    (ready : w.data.Ready (rounds 0) sites) :
    ∃ w', w.next setting
        (.reconfigure (SiteRound.restartRounds setting rounds w.data.scheduled sites)) = some w' ∧
      w'.locks = w.locks ∧ Repaired setting rounds sites w.data w'.data := by
  obtain ⟨s, locks⟩ := w
  have outcome := @Server.returns_of_ready setting rounds s.scheduled sites sound enough ready
  have run := spawnedReconfigure_run setting
    (SiteRound.restartRounds setting rounds s.scheduled sites) settled.stateFree
    (settled.registryFree accepted) settled.metricsFree accepted
  rw [decide_eq_true clusterFree, outcome] at run
  have steps : World.next setting ⟨s, locks⟩
      (.reconfigure (SiteRound.restartRounds setting rounds s.scheduled sites)) = some _ :=
    World.next_of_returned spawned (World.run_of_ok run)
  have repaired := @Server.repaired_of_ready setting rounds s.scheduled sites distinct sound bounded enough
    ready
  exact ⟨_, steps, rfl, repaired.running, repaired.full, repaired.left, repaired.keys, repaired.urls,
    repaired.worked, repaired.consecutive, repaired.trains, repaired.spared⟩

/-! ### Reports -/

/-- The world after the report of an active node. -/
structure Reported (req : FailureNotificationRequest) (w w' : World) : Prop where
  locks : w'.locks = w.locks
  current : w'.data.current = .reconfiguring
  spawned : 0 < w'.data.spawned
  nodes : w'.data.nodes = w.data.nodes.setStatus req.nodeId .failed
  rounds : w'.data.rounds = w.data.rounds

namespace Reported

variable {req : FailureNotificationRequest} {w w' : World}

theorem status (reported : Reported req w w') (id : String) : w'.data.nodes.statusOf id =
    if id = req.nodeId then (w.data.nodes.statusOf id).map fun _ => .failed
    else w.data.nodes.statusOf id := by
  rw [reported.nodes, Registry.statusOf_setStatus]

theorem url (reported : Reported req w w') (id : String) :
    w'.data.nodes.urlOf id = w.data.nodes.urlOf id := by
  rw [reported.nodes, Registry.urlOf_setStatus]

/-- A working node is another one. -/
theorem ne_of_working (reported : Reported req w w') {id : String}
    (working : w'.data.nodes.statusOf id = some .active ∨ w'.data.nodes.statusOf id = some .standby) :
    id ≠ req.nodeId := by
  rintro rfl
  rw [reported.status, if_pos rfl] at working
  cases known : w.data.nodes.statusOf req.nodeId <;> rw [known] at working <;>
    rcases working with same | same <;> cases same

theorem count_active (reported : Reported req w w')
    (active : w.data.nodes.statusOf req.nodeId = some .active) :
    w'.data.nodes.count .active = w.data.nodes.count .active - 1 := by
  rw [reported.nodes, Registry.count_setStatus active]
  simp only [reduceCtorEq, if_true, if_false]
  omega

theorem count_standby (reported : Reported req w w')
    (active : w.data.nodes.statusOf req.nodeId = some .active) :
    w'.data.nodes.count .standby = w.data.nodes.count .standby := by
  rw [reported.nodes, Registry.count_setStatus active]
  simp only [reduceCtorEq, if_false]
  omega

end Reported

theorem exists_reported {w : World} {req : FailureNotificationRequest} (settled : Settled w)
    (running : w.data.current = .running)
    (active : w.data.nodes.statusOf req.nodeId = some .active) :
    ∃ w', w.next setting (.notifyFailure req) = some w' ∧ Reported req w w' := by
  obtain ⟨s, locks⟩ := w
  have accepted : s.current.reconfigurable := .inl running
  obtain ⟨answer, run⟩ : ∃ answer, (notifyFailure req).run ⟨s, locks⟩ =
      .ok answer ⟨((s.failedOver req.nodeId .active).recordFailure req).2, locks⟩ :=
    notifyFailure_run (settled.registryFree accepted) settled.stateFree active (by decide) accepted
  refine ⟨_, World.next_of_returned trivial (World.run_of_ok run), rfl, rfl, ?_, rfl, rfl⟩
  exact Nat.succ_pos s.spawned

/-- The report of an active node, and the reconfiguration that it spawns. -/
theorem exists_repaired {w : World} {req : FailureNotificationRequest}
    (positive : 1 ≤ setting.config.activeNodes) (reachable : setting.system.Reachable w)
    (running : w.data.current = .running) (clusterFree : w.locks .clusterMu = .free)
    (active : w.data.nodes.statusOf req.nodeId = some .active) (distinct : w.data.nodes.DistinctURLs)
    (sound : sites.Sound)
    (enough : setting.config.activeNodes <
      w.data.nodes.count .active + w.data.nodes.count .standby)
    (ready : ∀ id, id ≠ req.nodeId →
      w.data.nodes.statusOf id = some .active ∨ w.data.nodes.statusOf id = some .standby →
        ((rounds 0).errands (w.data.nodes.urlOf id)).Fine ∧
          CommandName.restart.Ready (sites (w.data.nodes.urlOf id))) :
    ∃ w₁ w₂, w.next setting (.notifyFailure req) = some w₁ ∧ Reported req w w₁ ∧
      w₁.next setting
        (.reconfigure (SiteRound.restartRounds setting rounds w₁.data.scheduled sites)) = some w₂ ∧
      w₂.locks = w₁.locks ∧ Repaired setting rounds sites w₁.data w₂.data := by
  obtain ⟨w₁, first, reported⟩ := @exists_reported setting w req
    (setting.settled_of_reachable reachable) running active
  have reached : setting.system.Reachable w₁ := .step (.notifyFailure req) reachable trivial first
  have distinct₁ : w₁.data.nodes.DistinctURLs := by
    refine distinct.congr ?_ reported.url
    rw [reported.nodes, Registry.keys_setStatus]
  have enough₁ : setting.config.activeNodes ≤
      w₁.data.nodes.count .active + w₁.data.nodes.count .standby := by
    rw [reported.count_active active, reported.count_standby active]
    omega
  have ready₁ : w₁.data.Ready (rounds 0) sites := by
    intro id working
    have other := reported.ne_of_working working
    rw [reported.status, if_neg other] at working
    rw [reported.url]
    exact ready id other working
  obtain ⟨w₂, second, locks, repaired⟩ := repairs_of_spawned (setting.settled_of_reachable reached)
    (.inr reported.current) (reported.locks ▸ clusterFree) reported.spawned distinct₁ sound
    ((capped_of_reachable setting positive reached).bounded .active _ rfl) enough₁ ready₁
  exact ⟨w₁, w₂, first, reported, second, locks, repaired⟩

/-- **Without faults, a reported failure is repaired.** If there are enough other nodes and all of them
are ready for a restart, the report and the reconfiguration it spawns lead back to `Running`,
and the required number of other nodes train with consecutive ranks. -/
theorem repairs_of_ready {w : World} {req : FailureNotificationRequest}
    (positive : 1 ≤ setting.config.activeNodes) (reachable : setting.system.Reachable w)
    (running : w.data.current = .running) (clusterFree : w.locks .clusterMu = .free)
    (active : w.data.nodes.statusOf req.nodeId = some .active) (distinct : w.data.nodes.DistinctURLs)
    (sound : sites.Sound) (fine : ∀ url, ((rounds 0).errands url).Fine)
    (enough : setting.config.activeNodes <
      w.data.nodes.count .active + w.data.nodes.count .standby)
    (ready : ∀ id, id ≠ req.nodeId →
      w.data.nodes.statusOf id = some .active ∨ w.data.nodes.statusOf id = some .standby →
        CommandName.restart.Ready (sites (w.data.nodes.urlOf id))) :
    ∃ w₁ w₂, w.next setting (.notifyFailure req) = some w₁ ∧
      w₁.next setting
        (.reconfigure (SiteRound.restartRounds setting rounds w₁.data.scheduled sites)) = some w₂ ∧
      Repaired setting rounds sites w₁.data w₂.data ∧
      w₂.data.nodes.statusOf req.nodeId ≠ some .active := by
  obtain ⟨w₁, w₂, first, reported, second, _, repaired⟩ := exists_repaired positive reachable running
    clusterFree active distinct sound enough fun id other working => ⟨fine _, ready id other working⟩
  exact ⟨w₁, w₂, first, second, repaired,
    fun again => reported.ne_of_working (repaired.worked _ again) rfl⟩

theorem repairs_of_ready_first :
    ∃ w w₁ w₂, smallSetting.system.Reachable w ∧ w.data.current = .running ∧
      w.next smallSetting (.notifyFailure ⟨"a.ns.1", "exit", 1, "process"⟩) = some w₁ ∧
      w₁.next smallSetting (.reconfigure (SiteRound.restartRounds smallSetting (fun _ => {})
        w₁.data.scheduled trainingSites)) = some w₂ ∧
      Repaired smallSetting (fun _ => {}) trainingSites w₁.data w₂.data ∧
      w₂.data.nodes.statusOf "a.ns.1" ≠ some .active := by
  obtain ⟨w, reachable, holds⟩ := System.exists_reachable (S := smallSetting.system) gathering
    (fun w => w.data.current = .running ∧ w.locks .clusterMu = .free ∧
      w.data.nodes.statusOf "a.ns.1" = some .active ∧ w.data.nodes.DistinctURLs ∧
      smallSetting.config.activeNodes < w.data.nodes.count .active + w.data.nodes.count .standby)
    rfl (by decide +kernel)
  obtain ⟨running, clusterFree, active, distinct, enough⟩ := of_decide_eq_true holds
  obtain ⟨w₁, w₂, repaired⟩ := @repairs_of_ready smallSetting (fun _ => {}) trainingSites w
    ⟨"a.ns.1", "exit", 1, "process"⟩ (by decide) reachable running clusterFree active distinct
    sound_trainingSites (fun _ => Errand.fine_default) enough fun id _ _ => ready_trainingSites _
  exact ⟨w, w₁, w₂, reachable, running, repaired⟩

/-! ### Nodes that are not ready -/

theorem Registry.MonitorNamed.congr {nodes nodes' : Registry} (named : nodes.MonitorNamed)
    (keys : AList.keys nodes' = AList.keys nodes) (urls : ∀ id, nodes'.urlOf id = nodes.urlOf id) :
    nodes'.MonitorNamed := by
  intro id registered
  rw [AList.mem_keys, keys, ← AList.mem_keys] at registered
  rw [urls]
  exact named id registered

/-- The calls are in order, but for some sites that no call reaches. -/
def SiteRound.Spares (gone : String → Prop) (r : SiteRound) : Prop :=
  ∀ url, (r.errands url).Fine ∨ gone url ∧ (r.errands url).transport.arrives = false

/-- Some active node is not ready for a restart, and neither are the sites that no call reaches. -/
structure Obstructed (gone : String → Prop) (w : Server × Sites) : Prop where
  named : w.1.nodes.MonitorNamed
  sound : w.2.Sound
  absent : ∀ url, gone url → ¬ CommandName.restart.Ready (w.2 url)
  unready : ∃ id, w.1.nodes.statusOf id = some .active ∧
    ¬ CommandName.restart.Ready (w.2 (w.1.nodes.urlOf id))

theorem Obstructed.plain {gone : String → Prop} {w : Server × Sites} {r : SiteRound}
    (obstructed : Obstructed gone w) (spares : r.Spares gone) (url : String) :
    (r.errands url).Plain (w.2 url) :=
  (spares url).imp id fun ⟨gone, lost⟩ => ⟨lost, obstructed.absent url gone⟩

/-- A site that is not ready is not ready after any restarts. -/
theorem Sites.not_ready_postAll {errands : String → Errand} {commands : List Command} {url : String}
    (restarts : ∀ c ∈ commands, c.command = .restart)
    (unready : ¬ CommandName.restart.Ready (sites url)) :
    ¬ CommandName.restart.Ready (sites.postAll errands commands url) := by
  induction commands generalizing sites with
  | nil => exact unready
  | cons c rest ih =>
      refine ih (fun d mem => restarts d (List.mem_cons_of_mem _ mem)) ?_
      by_cases here : url = c.nodeURL
      · subst here
        by_cases arrives : (errands c.nodeURL).transport.arrives = true
        · rw [post_self arrives]
          exact (Command.refuses_of_not_ready (restarts c List.mem_cons_self) unready).2
        · rwa [post, if_neg arrives]
      · rwa [post_of_ne here]

theorem SiteRound.not_ready_afterAttempt {r : SiteRound} {url : String}
    (unready : ¬ CommandName.restart.Ready (sites url)) :
    ¬ CommandName.restart.Ready ((r.afterAttempt setting (s, sites)).2 url) := by
  refine Sites.not_ready_postAll (fun c mem => ?_) unready
  obtain ⟨id, _, rfl⟩ := List.mem_map.mp mem
  rfl

/-- An attempt leaves an obstruction. -/
theorem Obstructed.afterAttempt {gone : String → Prop} {r : SiteRound} {w : Server × Sites}
    (obstructed : Obstructed gone w) (spares : r.Spares gone) :
    Obstructed gone (r.afterAttempt setting w) := by
  obtain ⟨id, active, unready⟩ := obstructed.unready
  have silent : (r.restartRound setting w.1 w.2).answers id = false := by
    rw [← Bool.not_eq_true, SiteRound.answers_iff obstructed.sound (obstructed.plain spares _)]
    exact unready
  obtain ⟨j, silentJ, activeJ⟩ := @Server.exists_active_marked setting
    (r.restartRound setting w.1 w.2) w.1 obstructed.named id (Server.mem_targets_of_active active)
    silent
  rw [← Bool.not_eq_true, SiteRound.answers_iff obstructed.sound (obstructed.plain spares _)] at silentJ
  refine ⟨obstructed.named.congr Server.keys_marked Server.urlOf_marked, obstructed.sound.postAll _,
    fun url left => SiteRound.not_ready_afterAttempt (obstructed.absent url left), j, activeJ, ?_⟩
  have url : (r.afterAttempt setting w).1.nodes.urlOf j = w.1.nodes.urlOf j := Server.urlOf_marked j
  rw [url]
  exact SiteRound.not_ready_afterAttempt silentJ

end Recovery

end C4D
