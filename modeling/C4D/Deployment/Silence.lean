import C4D.Deployment.Outage

/-!
# Losses that nobody reports

A node that is lost together with its monitor reports nothing. The server goes on as before: it stays
in `Running` and sends no command. When the health check marks the node failed, that restarts
nothing either (`Silenced.bereft`). The next failure that is reported decides: if every silent
node has been noticed by then, and there are standby nodes for all that are missing, the
cluster is healthy again. Otherwise the server exits (`repaired_iff_noticed`).
-/

set_option autoImplicit false

namespace C4D

open Foundations Program

/-! ## Steps beside silent nodes -/

/-- The step fails no working node and takes none away, except for the silent ones. -/
def Beside (setting : Setting) (silent : List String) (w : World) : Action → Prop
  | .sendHeartbeat _ _ => True
  | .sendMetrics _ _ => True
  | .notifyFailure req => ∀ status ∈ w.data.nodes.statusOf req.nodeId, status = .failed
  | .healthTick now order => ∀ id ∈ w.data.timeouts now setting order, id ∈ silent
  | .cleanupTick now order => ∀ id ∈ w.data.deadConnections setting now order,
      id ∈ silent ∨ ∀ status ∈ w.data.nodes.statusOf id, status = .failed
  | _ => False

/-- Such a step only listens. -/
theorem listens_of_beside {setting : Setting} {silent : List String} {w : World} {a : Action}
    (beside : Beside setting silent w a) : a.Listens := by
  cases a with
  | register => cases beside
  | removeNode => cases beside
  | reconfigure => cases beside
  | _ => trivial

/-- The registered nodes keep their URLs, no node begins to work, and only silent nodes cease to. -/
structure Undisturbed (silent : List String) (nodes nodes' : Registry) : Prop where
  urls : ∀ id ∈ nodes', id ∈ nodes ∧ nodes'.urlOf id = nodes.urlOf id
  working : ∀ id status, status ≠ .failed → nodes'.statusOf id = some status →
    nodes.statusOf id = some status
  others : ∀ id, id ∉ silent → ∀ status, status ≠ .failed → nodes.statusOf id = some status →
    nodes'.statusOf id = some status

namespace Undisturbed

variable {silent : List String} {nodes nodes' nodes'' : Registry}

theorem refl (silent : List String) (nodes : Registry) : Undisturbed silent nodes nodes :=
  ⟨fun _ registered => ⟨registered, rfl⟩, fun _ _ _ known => known, fun _ _ _ _ known => known⟩

theorem trans (first : Undisturbed silent nodes nodes') (second : Undisturbed silent nodes' nodes'') :
    Undisturbed silent nodes nodes'' where
  urls id registered := by
    obtain ⟨registered', url⟩ := second.urls id registered
    obtain ⟨registered, url'⟩ := first.urls id registered'
    exact ⟨registered, url.trans url'⟩
  working id status working known := first.working id status working (second.working id status working known)
  others id speaks status working known :=
    second.others id speaks status working (first.others id speaks status working known)

theorem mono {more : List String} (undisturbed : Undisturbed silent nodes nodes')
    (included : ∀ id ∈ silent, id ∈ more) : Undisturbed more nodes nodes' :=
  { undisturbed with
    others := fun id speaks => undisturbed.others id fun mem => speaks (included id mem) }

end Undisturbed

namespace Server

variable {setting : Setting} {silent : List String} {s : Server} {now : Int} {order : Shuffle String}

theorem urlOf_foldl_handleNodeTimeout (nodeIDs : List String) (s : Server) (id : String) :
    (nodeIDs.foldl (fun s nodeID => s.handleNodeTimeout nodeID) s).nodes.urlOf id =
      s.nodes.urlOf id := by
  induction nodeIDs generalizing s with
  | nil => rfl
  | cons nodeID rest ih =>
      rw [List.foldl_cons, ih]
      rcases @nodes_handleNodeTimeout s nodeID with nodes | nodes
      · rw [nodes, Registry.urlOf_setStatus]
      · rw [nodes]

/-- A health tick in which only silent nodes time out. -/
theorem undisturbed_timedOut (quiet : ∀ id ∈ s.timeouts now setting order, id ∈ silent) :
    Undisturbed silent s.nodes (s.timedOut now setting order).nodes := by
  have status := (expired_timedOut (s := s) setting now order).status
  refine ⟨fun id registered => ⟨?_, urlOf_foldl_handleNodeTimeout _ s id⟩,
    fun id old working known => ?_, fun id speaks old _ known => ?_⟩
  · obtain ⟨old, known⟩ := Registry.mem_iff_statusOf.mp registered
    rw [status] at known
    split at known
    · obtain ⟨before, found, _⟩ := Option.map_eq_some_iff.mp known
      exact Registry.mem_of_statusOf found
    · exact Registry.mem_of_statusOf known
  · rw [status] at known
    split at known
    · obtain ⟨_, _, same⟩ := Option.map_eq_some_iff.mp known
      exact absurd same.symm working
    · exact known
  · rw [status, if_neg fun late => speaks (quiet id late)]
    exact known

/-- A cleanup in which only silent and failed nodes leave. -/
theorem undisturbed_cleanedUp (quiet : ∀ id ∈ s.deadConnections setting now order,
      id ∈ silent ∨ ∀ status ∈ s.nodes.statusOf id, status = .failed) :
    Undisturbed silent s.nodes (s.cleanedUp now setting order).nodes := by
  have found (id : String) : (s.cleanedUp now setting order).nodes.lookup id = _ :=
    @lookup_cleanedUp setting s now order id
  have stays {id : String} (registered : id ∈ (s.cleanedUp now setting order).nodes) :
      (s.cleanedUp now setting order).nodes.lookup id = s.nodes.lookup id := by
    rw [found]
    refine if_neg fun dead => ?_
    rw [← AList.lookup_isSome, found, if_pos dead] at registered
    cases registered
  refine ⟨fun id registered => ⟨?_, ?_⟩, fun id old _ known => ?_, fun id speaks old working known => ?_⟩
  · rw [← AList.lookup_isSome, ← stays registered, AList.lookup_isSome]
    exact registered
  · rw [Registry.urlOf, Registry.urlOf, stays registered]
  · rw [Registry.statusOf, ← stays (Registry.mem_of_statusOf known)]
    exact known
  · rw [Registry.statusOf, found, if_neg]
    · exact known
    · intro dead
      rcases quiet id dead with mem | failed
      · exact speaks mem
      · exact working (failed old known)

end Server

/-- What a step beside silent nodes does to a running server. -/
theorem undisturbed_of_beside {setting : Setting} {silent : List String} {w w' : World} {a : Action}
    (settled : Settled w) (beside : Beside setting silent w a) (next : w.next setting a = some w') :
    w'.data.current = w.data.current ∧ w'.locks = w.locks ∧
      Undisturbed silent w.data.nodes w'.data.nodes := by
  obtain ⟨ending, ends, effect⟩ := World.effect_of_next settled next
  cases effect with
  | kept a kept => exact ⟨kept.current, rfl, kept.nodes ▸ .refl _ _⟩
  | waiting a l held kept => exact ⟨kept.current, rfl, kept.nodes ▸ .refl _ _⟩
  | exited a reconfigures => rcases ends with ends | ends <;> cases ends
  | panicked req order crashes => rcases ends with ends | ends <;> cases ends
  | leaked req status registryFree known working => exact absurd (beside status known) working
  | failedOver req status registryFree known working => exact absurd (beside status known) working
  | @timedOut s locks now order registryFree =>
      have lifecycle := (Server.expired_timedOut (s := s) setting now order).lifecycle
      exact ⟨congrArg Lifecycle.current lifecycle, rfl, Server.undisturbed_timedOut beside⟩
  | @cleanedUp s locks now order registryFree =>
      have lifecycle := (Server.departed_cleanedUp (s := s) setting now order).2
      exact ⟨congrArg Lifecycle.current lifecycle, rfl, Server.undisturbed_cleanedUp beside⟩
  | counted => cases beside
  | enrolled => cases beside
  | startFailed => cases beside
  | started => cases beside
  | removedInactive => cases beside
  | removedActive => cases beside
  | removedStuck => cases beside
  | reconfigured => cases beside
  | reconfigureStuck => cases beside

/-! ## Runs in which nodes fall silent -/

section Silence

variable {setting : Setting} {rounds : Nat → SiteRound} {c c' : Cluster} {crash : Crash}
  {silent : List String}

/-- Active nodes of a cluster fall silent one after the other. What is left of their sites does not take
a restart. -/
inductive Silenced (setting : Setting) (c : Cluster) : List String → Cluster → Prop where
  | start : Silenced setting c [] c
  | falls {silent : List String} {c' : Cluster} (id : String) (site : Monitor × Host)
      (earlier : Silenced setting c silent c')
      (active : c'.world.data.nodes.statusOf id = some .active) (speaks : id ∉ silent)
      (coherent : Coherent site.2) (unready : ¬ CommandName.restart.Ready site) :
      Silenced setting c (id :: silent)
        ⟨c'.world, Function.update c'.sites (c'.world.data.nodes.urlOf id) site⟩
  | step {silent : List String} {c' : Cluster} {w : World} (a : Action)
      (earlier : Silenced setting c silent c') (beside : Beside setting silent c'.world a)
      (next : c'.world.next setting a = some w) : Silenced setting c silent ⟨w, c'.sites⟩

/-- A cluster that has lost silent nodes, compared with what it was. -/
structure Bereft (setting : Setting) (c : Cluster) (silent : List String) (c' : Cluster) : Prop where
  reachable : setting.system.Reachable c'.world
  running : c'.world.data.current = .running
  clusterFree : c'.world.locks .clusterMu = .free
  rounds : c'.world.data.rounds = c.world.data.rounds
  sound : c'.sites.Sound
  undisturbed : Undisturbed silent c.world.data.nodes c'.world.data.nodes
  active : ∀ id ∈ silent, c.world.data.nodes.statusOf id = some .active
  nodup : silent.Nodup
  sites : ∀ url, (∀ id ∈ silent, url ≠ c.world.data.nodes.urlOf id) → c'.sites url = c.sites url
  unready : ∀ id ∈ silent, ¬ CommandName.restart.Ready (c'.sites (c.world.data.nodes.urlOf id))

/-- **Silent nodes change nothing else.** -/
theorem Silenced.bereft (silenced : Silenced setting c silent c') (healthy : Healthy setting c) :
    Bereft setting c silent c' := by
  induction silenced with
  | start =>
      exact ⟨healthy.reachable, healthy.running, healthy.clusterFree, rfl, healthy.sound, .refl _ _,
        nofun, .nil, fun _ _ => rfl, nofun⟩
  | @falls silent c' id site _ active speaks coherent unready ih =>
      have before := ih.undisturbed.working id .active (by decide) active
      have url := (ih.undisturbed.urls id (Registry.mem_of_statusOf active)).2
      refine ⟨ih.reachable, ih.running, ih.clusterFree, ih.rounds, ih.sound.update _ coherent,
        ih.undisturbed.mono fun j => List.mem_cons_of_mem id, List.forall_mem_cons.mpr ⟨before, ih.active⟩,
        List.nodup_cons.mpr ⟨speaks, ih.nodup⟩, fun other apart => ?_, fun j mem => ?_⟩
      · obtain ⟨ne, apart⟩ := List.forall_mem_cons.mp apart
        dsimp only
        rw [url, Function.update_of_ne ne]
        exact ih.sites other apart
      · dsimp only
        rw [url]
        rcases List.mem_cons.mp mem with rfl | mem
        · rw [Function.update_self]
          exact unready
        · rw [Function.update_of_ne fun same => speaks (healthy.distinct j
            (Registry.mem_of_statusOf (ih.active j mem)) id (Registry.mem_of_statusOf before) same ▸ mem)]
          exact ih.unready j mem
  | @step silent c' w a _ beside next ih =>
      obtain ⟨current, locks, undisturbed⟩ :=
        undisturbed_of_beside (setting.settled_of_reachable ih.reachable) beside next
      have rounds : w.data.rounds = c'.world.data.rounds :=
        World.run_of_next next ▸ rounds_of_listens (listens_of_beside beside)
      exact { ih with
        reachable := .step a ih.reachable trivial next
        running := current.trans ih.running
        clusterFree := locks ▸ ih.clusterFree
        rounds := rounds.trans ih.rounds
        undisturbed := ih.undisturbed.trans undisturbed }

namespace Bereft

theorem distinct (bereft : Bereft setting c silent c') (healthy : Healthy setting c) :
    c'.world.data.nodes.DistinctURLs := by
  intro id registered j registeredJ same
  obtain ⟨before, url⟩ := bereft.undisturbed.urls id registered
  obtain ⟨beforeJ, urlJ⟩ := bereft.undisturbed.urls j registeredJ
  rw [url, urlJ] at same
  exact healthy.distinct id before j beforeJ same

theorem named (bereft : Bereft setting c silent c') (named : c.world.data.nodes.MonitorNamed) :
    c'.world.data.nodes.MonitorNamed := by
  intro id registered
  obtain ⟨before, url⟩ := bereft.undisturbed.urls id registered
  rw [url]
  exact named id before

/-- A node that speaks has its own URL. -/
theorem apart (bereft : Bereft setting c silent c') (healthy : Healthy setting c) {id j : String}
    (registered : id ∈ c.world.data.nodes) (speaks : id ∉ silent) (mem : j ∈ silent) :
    c.world.data.nodes.urlOf id ≠ c.world.data.nodes.urlOf j := by
  intro same
  have here := healthy.distinct id registered j (Registry.mem_of_statusOf (bereft.active j mem)) same
  exact speaks (here ▸ mem)

/-- The site of a registered node that speaks is as it was. -/
theorem site (bereft : Bereft setting c silent c') (healthy : Healthy setting c) {id : String}
    (registered : id ∈ c'.world.data.nodes) (speaks : id ∉ silent) :
    c'.sites (c'.world.data.nodes.urlOf id) = c.sites (c.world.data.nodes.urlOf id) := by
  obtain ⟨before, url⟩ := bereft.undisturbed.urls id registered
  rw [url]
  exact bereft.sites _ fun j mem => bereft.apart healthy before speaks mem

/-- The standby nodes are the same. -/
theorem statusOf_standby (bereft : Bereft setting c silent c') (id : String) :
    c'.world.data.nodes.statusOf id = some .standby ↔
      c.world.data.nodes.statusOf id = some .standby := by
  refine ⟨bereft.undisturbed.working id .standby (by decide), fun standby => ?_⟩
  refine bereft.undisturbed.others id (fun mem => ?_) .standby (by decide) standby
  cases standby.symm.trans (bereft.active id mem)

/-- When all silent nodes have been noticed, the working nodes are the others. -/
theorem count_active (bereft : Bereft setting c silent c')
    (noticed : ∀ id ∈ silent, c'.world.data.nodes.statusOf id ≠ some .active) :
    c'.world.data.nodes.count .active + silent.length = c.world.data.nodes.count .active := by
  have same : c.world.data.nodes.withStatus .active \ silent.toFinset =
      c'.world.data.nodes.withStatus .active := by
    ext id
    rw [Finset.mem_sdiff, List.mem_toFinset, Registry.mem_withStatus, Registry.mem_withStatus]
    constructor
    · rintro ⟨active, speaks⟩
      exact bereft.undisturbed.others id speaks .active (by decide) active
    · intro active
      exact ⟨bereft.undisturbed.working id .active (by decide) active, fun mem => noticed id mem active⟩
  have included : silent.toFinset ⊆ c.world.data.nodes.withStatus .active := fun id mem =>
    Registry.mem_withStatus.mpr (bereft.active id (List.mem_toFinset.mp mem))
  have card := Finset.card_sdiff_add_card_eq_card included
  rw [same, List.toFinset_card_of_nodup bereft.nodup] at card
  rw [Registry.count, Registry.count, ← card]
  push_cast
  rfl

/-- When all silent nodes have been noticed, every working node can be restarted. -/
theorem serviceable (bereft : Bereft setting c silent c') (healthy : Healthy setting c)
    (noticed : ∀ id ∈ silent, c'.world.data.nodes.statusOf id ≠ some .active) :
    c'.Serviceable setting where
  reachable := bereft.reachable
  running := bereft.running
  clusterFree := bereft.clusterFree
  distinct := bereft.distinct healthy
  sound := bereft.sound
  ready id active := by
    rw [bereft.site healthy (Registry.mem_of_statusOf active) fun mem => noticed id mem active]
    exact healthy.ready (.inl (bereft.undisturbed.working id .active (by decide) active))
  waits id standby := by
    have before := (bereft.statusOf_standby id).mp standby
    rw [bereft.site healthy (Registry.mem_of_statusOf standby) fun mem => by
      cases before.symm.trans (bereft.active id mem)]
    exact healthy.waits id before

end Bereft

/-- The site of a silent node. -/
def SilentSite (c : Cluster) (silent : List String) (url : String) : Prop :=
  ∃ id ∈ silent, url = c.world.data.nodes.urlOf id

namespace Bereft

/-- The calls to the nodes that speak are in order. -/
theorem fine (bereft : Bereft setting c silent c') (healthy : Healthy setting c) {r : SiteRound}
    (spares : r.Spares (SilentSite c silent)) {id : String} (registered : id ∈ c'.world.data.nodes)
    (speaks : id ∉ silent) : (r.errands (c'.world.data.nodes.urlOf id)).Fine := by
  refine (spares _).resolve_right fun ⟨⟨j, mem, same⟩, _⟩ => ?_
  obtain ⟨before, url⟩ := bereft.undisturbed.urls id registered
  rw [url] at same
  exact bereft.apart healthy before speaks mem same

/-- The failure of a node that speaks leaves the silent sites as they are. -/
theorem absent (bereft : Bereft setting c silent c') (healthy : Healthy setting c)
    (active : c'.world.data.nodes.statusOf crash.report.nodeId = some .active)
    (speaks : crash.report.nodeId ∉ silent) {url : String} (gone : SilentSite c silent url) :
    ¬ CommandName.restart.Ready (c'.struck crash url) := by
  obtain ⟨id, mem, rfl⟩ := gone
  obtain ⟨before, url⟩ := bereft.undisturbed.urls _ (Registry.mem_of_statusOf active)
  have apart : c.world.data.nodes.urlOf id ≠ c'.world.data.nodes.urlOf crash.report.nodeId := by
    rw [url]
    exact (bereft.apart healthy before speaks mem).symm
  rw [Cluster.struck, Function.update_of_ne apart]
  exact bereft.unready id mem

end Bereft

end Silence

end C4D
