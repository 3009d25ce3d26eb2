import C4D.Deployment.Failover
import C4D.Deployment.Joining
import C4D.Server.Numbering

/-!
# How many failures a cluster survives

A cluster is the server with the sites of its nodes. It is healthy when the server is in `Running`,
the required number of nodes train, and the standby nodes wait (`Healthy`). When one of the nodes
that train fails, its monitor reports it, and the reconfiguration that the report spawns
restarts the others with a standby node in its place (`Cluster.recover`).

Without other faults the cluster is healthy again after every such failure and has one standby node
less (`Course.healthy`). When no standby node is left, the server exits (`Healthy.lost`). So the cluster
survives exactly as many failures as it has standby nodes (`survives_iff`).
-/

set_option autoImplicit false

namespace C4D

open Foundations Program

/-! ## Steps between failures -/

/-- The step fails no working node and takes none away. -/
def Quiet (setting : Setting) (w : World) : Action → Prop
  | .sendHeartbeat _ _ => True
  | .sendMetrics _ _ => True
  | .notifyFailure req => ∀ status ∈ w.data.nodes.statusOf req.nodeId, status = .failed
  | .healthTick now order => w.data.timeouts now setting order = []
  | .cleanupTick now order => ∀ id ∈ w.data.deadConnections setting now order,
      ∀ status ∈ w.data.nodes.statusOf id, status = .failed
  | _ => False

/-- At most failed nodes leave. -/
structure Calm (w w' : World) : Prop where
  current : w'.data.current = w.data.current
  locks : w'.locks = w.locks
  nodes : ∀ id, w'.data.nodes.lookup id = w.data.nodes.lookup id ∨
    w'.data.nodes.lookup id = none ∧ w.data.nodes.statusOf id = some .failed

theorem Calm.of_nodes {w w' : World} (current : w'.data.current = w.data.current)
    (locks : w'.locks = w.locks) (nodes : w'.data.nodes = w.data.nodes) : Calm w w' :=
  ⟨current, locks, fun _ => .inl (by rw [nodes])⟩

namespace Server

variable {setting : Setting} {s : Server} {now : Int} {order : Shuffle String}

theorem lookup_removeDead (nodeID id : String) : (s.removeDead nodeID).nodes.lookup id =
    if id = nodeID then none else s.nodes.lookup id := by
  have erased : (s.removeDead nodeID).nodes = AList.erase nodeID s.nodes := by
    unfold removeDead
    cases s.nodes.statusOf nodeID with
    | none => rfl
    | some status => cases status <;> rfl
  rw [erased]
  split
  · next here => rw [here, AList.lookup_erase]
  · next other => exact AList.lookup_erase_ne other

theorem lookup_cleanedUp (id : String) : (s.cleanedUp now setting order).nodes.lookup id =
    if id ∈ s.deadConnections setting now order then none else s.nodes.lookup id := by
  obtain ⟨sessions, same, _⟩ := disconnected_foldl now (s.deadConnections setting now order) s
  have removed (nodeIDs : List String) (s : Server) : (nodeIDs.foldl removeDead s).nodes.lookup id =
      if id ∈ nodeIDs then none else s.nodes.lookup id := by
    induction nodeIDs generalizing s with
    | nil => rfl
    | cons nodeID rest ih =>
        rw [List.foldl_cons, ih, lookup_removeDead]
        simp only [List.mem_cons]
        split_ifs <;> simp_all
  rw [cleanedUp, same, removed]

theorem nodes_timedOut_of_nil (none : s.timeouts now setting order = []) :
    (s.timedOut now setting order).nodes = s.nodes := by
  rw [timedOut, none]
  rfl

end Server

/-- What a quiet step of a running server does. -/
theorem calm_of_quiet {setting : Setting} {w w' : World} {a : Action} (settled : Settled w)
    (running : w.data.current = .running) (quiet : Quiet setting w a)
    (next : w.next setting a = some w') : Calm w w' := by
  obtain ⟨ending, ends, effect⟩ := World.effect_of_next settled next
  cases effect with
  | kept a kept => exact .of_nodes kept.current rfl kept.nodes
  | waiting a l held kept => exact .of_nodes kept.current rfl kept.nodes
  | exited a reconfigures => rcases ends with ends | ends <;> cases ends
  | panicked req order crashes => rcases ends with ends | ends <;> cases ends
  | leaked req status registryFree known working => exact absurd (quiet status known) working
  | failedOver req status registryFree known working => exact absurd (quiet status known) working
  | @timedOut s locks now order registryFree =>
      have lifecycle := (Server.expired_timedOut (s := s) setting now order).lifecycle
      exact .of_nodes (congrArg Lifecycle.current lifecycle) rfl (Server.nodes_timedOut_of_nil quiet)
  | @cleanedUp s locks now order registryFree =>
      have lifecycle := (Server.departed_cleanedUp (s := s) setting now order).2
      refine ⟨congrArg Lifecycle.current lifecycle, rfl, fun id => ?_⟩
      rw [Server.lookup_cleanedUp]
      split
      · next dead =>
          cases known : s.nodes.lookup id with
          | none => exact .inl rfl
          | some node =>
              have failed := quiet id dead node.status (Registry.statusOf_of_lookup known)
              exact .inr ⟨rfl, failed ▸ Registry.statusOf_of_lookup known⟩
      · exact .inl rfl
  | counted => cases quiet
  | enrolled => cases quiet
  | startFailed => cases quiet
  | started => cases quiet
  | removedInactive => cases quiet
  | removedActive => cases quiet
  | removedStuck => cases quiet
  | reconfigured => cases quiet
  | reconfigureStuck => cases quiet

namespace Calm

variable {w w' : World} {id : String} {status : Status}

theorem lookup (calm : Calm w w') (registered : id ∈ w'.data.nodes) :
    w'.data.nodes.lookup id = w.data.nodes.lookup id := by
  refine (calm.nodes id).resolve_right fun left => ?_
  exact AList.lookup_eq_none.mp left.1 registered

theorem statusOf_iff (calm : Calm w w') (working : status ≠ .failed) :
    w'.data.nodes.statusOf id = some status ↔ w.data.nodes.statusOf id = some status := by
  rcases calm.nodes id with same | ⟨gone, failed⟩
  · rw [Registry.statusOf, Registry.statusOf, same]
  · rw [failed, Registry.statusOf_eq_none.mpr gone]
    refine iff_of_false (fun known => by cases known) fun same => working ?_
    exact (Option.some.inj same).symm

theorem url (calm : Calm w w') (registered : id ∈ w'.data.nodes) :
    w'.data.nodes.urlOf id = w.data.nodes.urlOf id := by
  rw [Registry.urlOf, Registry.urlOf, calm.lookup registered]

theorem rank (calm : Calm w w') (registered : id ∈ w'.data.nodes) :
    w'.data.nodes.rankOf id = w.data.nodes.rankOf id := by
  rw [Registry.rankOf, Registry.rankOf, calm.lookup registered]

theorem count (calm : Calm w w') (working : status ≠ .failed) :
    w'.data.nodes.count status = w.data.nodes.count status :=
  Registry.count_eq fun _ => calm.statusOf_iff working

theorem registered (calm : Calm w w') (registered : id ∈ w'.data.nodes) : id ∈ w.data.nodes := by
  obtain ⟨node, found⟩ := Table.mem_iff_exists_lookup.mp registered
  exact Table.mem_iff_exists_lookup.mpr ⟨node, (calm.lookup registered).symm.trans found⟩

theorem distinctURLs (calm : Calm w w') (distinct : w.data.nodes.DistinctURLs) :
    w'.data.nodes.DistinctURLs := by
  intro id registered j registeredJ same
  rw [calm.url registered, calm.url registeredJ] at same
  exact distinct id (calm.registered registered) j (calm.registered registeredJ) same

end Calm

/-! ## Steps that end the server -/

/-- The step can be taken, and exits the server process. -/
def World.Exits (setting : Setting) (w : World) (a : Action) : Prop :=
  a.enabled w.data ∧ ∃ w', a.run setting w = (.exited, w')

theorem World.Exits.next {setting : Setting} {w : World} {a : Action} (exits : w.Exits setting a) :
    w.next setting a = none := by
  obtain ⟨_, w', run⟩ := exits
  rw [World.next, run]
  split <;> rfl

theorem World.run_of_exited {α : Type} {op : Op α} {w w' : World}
    (run : op.run w = .error .exited w') : w.run op = (.exited, w') := by
  rw [World.run, run]

/-! ## Healthy clusters -/

/-- The server with the sites of its nodes. -/
structure Cluster where
  world : World
  sites : Sites

/-- The program runs on the required number of nodes, each with its rank, and the standby nodes wait. -/
structure Healthy (setting : Setting) (c : Cluster) : Prop where
  reachable : setting.system.Reachable c.world
  running : c.world.data.current = .running
  clusterFree : c.world.locks .clusterMu = .free
  full : c.world.data.nodes.count .active = setting.config.activeNodes
  distinct : c.world.data.nodes.DistinctURLs
  consecutive : c.world.data.nodes.ConsecutiveRanks
  sound : c.sites.Sound
  trains : ∀ id, c.world.data.nodes.statusOf id = some .active →
    ∃ masterAddr masterPort, Trains (Env.Assigns (c.world.data.nodes.rankOf id)
      setting.config.activeNodes masterAddr masterPort) (c.sites (c.world.data.nodes.urlOf id))
  waits : ∀ id, c.world.data.nodes.statusOf id = some .standby →
    (c.sites (c.world.data.nodes.urlOf id)).1.state = .standby

/-- A node fails: what its monitor reports, and what is left of its site. -/
structure Crash where
  report : FailureNotificationRequest
  site : Monitor × Host
  coherent : Coherent site.2

namespace Cluster

/-- The sites after a failure. -/
def struck (c : Cluster) (crash : Crash) : Sites :=
  Function.update c.sites (c.world.data.nodes.urlOf crash.report.nodeId) crash.site

/-- The server receives the report of a failure, and the reconfiguration that it spawns
sends its commands to the sites. There is no cluster afterwards if one of the two steps cannot be
taken or ends the process; that the server exits is said by `Exits`. -/
def recover (setting : Setting) (rounds : Nat → SiteRound) (c : Cluster) (crash : Crash) :
    Option Cluster := do
  let reported ← c.world.next setting (.notifyFailure crash.report)
  let world ← reported.next setting
    (.reconfigure (SiteRound.restartRounds setting rounds reported.data.scheduled (c.struck crash)))
  return ⟨world, (c.struck crash).postRounds (fun n => (rounds n).errands) 0
    (world.data.sentSince reported.data)⟩

/-- The server receives the report of a failure, and the reconfiguration that it spawns exits the
server process. -/
def Exits (setting : Setting) (rounds : Nat → SiteRound) (c : Cluster) (crash : Crash) : Prop :=
  ∃ reported, c.world.next setting (.notifyFailure crash.report) = some reported ∧
    reported.Exits setting
      (.reconfigure (SiteRound.restartRounds setting rounds reported.data.scheduled (c.struck crash)))

/-- A cluster whose server exits does not recover. -/
theorem Exits.not_recovers {setting : Setting} {rounds : Nat → SiteRound} {c : Cluster} {crash : Crash}
    (exits : c.Exits setting rounds crash) : ¬ ∃ c', c.recover setting rounds crash = some c' := by
  obtain ⟨reported, first, second⟩ := exits
  have lost : c.recover setting rounds crash = none := by
    rw [Cluster.recover, first, Option.bind_eq_bind, Option.bind_some, second.next]
    rfl
  rintro ⟨c', same⟩
  cases lost.symm.trans same

end Cluster

theorem Sites.Sound.update {sites : Sites} (sound : sites.Sound) (url : String)
    {site : Monitor × Host} (coherent : Coherent site.2) : Sites.Sound (Function.update sites url site) := by
  intro other
  by_cases here : other = url
  · rw [here, Function.update_self]
    exact coherent
  · rw [Function.update_of_ne here]
    exact sound other

theorem Sites.Sound.postRounds {sites : Sites} (sound : sites.Sound)
    (errands : Nat → String → Errand) (n : Nat) (rounds : List (List Command)) :
    (sites.postRounds errands n rounds).Sound := by
  induction rounds generalizing n sites with
  | nil => exact sound
  | cons commands rest ih => exact ih (sound.postAll commands) (n + 1)

section Tolerance

variable {setting : Setting} {rounds : Nat → SiteRound} {c c' : Cluster} {crash : Crash}

theorem Registry.mem_of_statusOf {nodes : Registry} {id : String} {status : Status}
    (known : nodes.statusOf id = some status) : id ∈ nodes := mem_iff_statusOf.mpr ⟨status, known⟩

/-- **A quiet step leaves a healthy cluster healthy.** -/
theorem Healthy.quiet {w : World} {a : Action} (healthy : Healthy setting c)
    (quiet : Quiet setting c.world a) (next : c.world.next setting a = some w) :
    Healthy setting ⟨w, c.sites⟩ ∧
      w.data.nodes.count .standby = c.world.data.nodes.count .standby := by
  have calm := calm_of_quiet (setting.settled_of_reachable healthy.reachable) healthy.running quiet next
  have active {id : String} : w.data.nodes.statusOf id = some .active ↔
      c.world.data.nodes.statusOf id = some .active := calm.statusOf_iff (by decide)
  have fewer := @Calm.count _ _ .active calm (by decide)
  refine ⟨⟨.step a healthy.reachable trivial next, calm.current.trans healthy.running, ?_,
    fewer.trans healthy.full, calm.distinctURLs healthy.distinct, ?_, healthy.sound, ?_, ?_⟩,
    calm.count (by decide)⟩
  · rw [calm.locks]
    exact healthy.clusterFree
  · refine ⟨fun id j activeId activeJ same => ?_, fun r => ?_⟩
    · rw [calm.rank (Registry.mem_of_statusOf activeId),
        calm.rank (Registry.mem_of_statusOf activeJ)] at same
      exact healthy.consecutive.distinct id j (active.mp activeId) (active.mp activeJ) same
    · rw [fewer, ← healthy.consecutive.exactly r]
      refine exists_congr fun id => ?_
      constructor
      · rintro ⟨activeId, rank⟩
        exact ⟨active.mp activeId, (calm.rank (Registry.mem_of_statusOf activeId)).symm.trans rank⟩
      · rintro ⟨activeId, rank⟩
        have stays := active.mpr activeId
        exact ⟨stays, (calm.rank (Registry.mem_of_statusOf stays)).trans rank⟩
  · intro id activeId
    have registered := Registry.mem_of_statusOf activeId
    obtain ⟨masterAddr, masterPort, trains⟩ := healthy.trains id (active.mp activeId)
    refine ⟨masterAddr, masterPort, ?_⟩
    rw [calm.rank registered, calm.url registered]
    exact trains
  · intro id standby
    rw [calm.url (Registry.mem_of_statusOf standby)]
    exact healthy.waits id ((calm.statusOf_iff (by decide)).mp standby)

/-! ## The first healthy cluster -/

/-- The monitor behind a URL goes on to `Standby`. -/
def Sites.rest (sites : Sites) (nodeURL : String) : Sites :=
  Function.update sites nodeURL ((sites nodeURL).1.enter .standby, (sites nodeURL).2)

/-- The cluster after the registration that starts the program: the sites serve the start commands, and
the `Start` of the monitor that registers goes on to `Standby`. -/
def Cluster.afterStart (c : Cluster) (r : SiteRound) (nodeURL : String) (w : World) : Cluster :=
  ⟨w, (c.sites.postRounds (fun _ => r.errands) 0 (w.data.sentSince c.world.data)).rest nodeURL⟩

/-- A registration does not take a lock for good. -/
theorem locks_of_register {w w' : World} {req : RegisterRequest} {now : Int} {round : Round}
    (settled : Settled w) (next : w.next setting (.register req now round) = some w') :
    w'.locks = w.locks := by
  obtain ⟨ending, ends, effect⟩ := World.effect_of_next settled next
  cases effect with
  | exited a reconfigures => rcases ends with ends | ends <;> cases ends
  | _ => rfl

/-- The start commands of a server. -/
def Server.secondCommands (r : SiteRound) (s : Server) : List Command :=
  (s.startTargets r.base).map ((s.started r.base).startCommand (s.startTargets r.base))

/-- A start that is confirmed, when the last node to register is a standby node. -/
theorem Healthy.of_confirmed {e : Server} {r : SiteRound} {w : World} {nodeID : String}
    (reachable : setting.system.Reachable w) (running : w.data.current = .running)
    (clusterFree : w.locks .clusterMu = .free) (nodes : w.data.nodes = (e.started r.base).nodes)
    (sound : c.sites.Sound) (confirmed : e.Confirmed r c.sites)
    (full : e.nodes.count .active = setting.config.activeNodes) (distinct : e.nodes.DistinctURLs)
    (last : e.nodes.statusOf nodeID = some .standby)
    (waits : ∀ id, id ≠ nodeID → e.nodes.statusOf id = some .standby →
      (c.sites (e.nodes.urlOf id)).1.state = .standby) :
    Healthy setting
      ⟨w, (c.sites.postAll r.errands (e.secondCommands r)).rest (e.nodes.urlOf nodeID)⟩ := by
  have status (id : String) : w.data.nodes.statusOf id = e.nodes.statusOf id := by
    rw [nodes, Server.statusOf_started]
  have urls (id : String) : w.data.nodes.urlOf id = e.nodes.urlOf id := by
    rw [nodes, Server.urlOf_started]
  have count : w.data.nodes.count .active = setting.config.activeNodes :=
    (Registry.count_congr status .active).trans full
  have others {id : String} (registered : id ∈ e.nodes) (other : id ≠ nodeID) :
      e.nodes.urlOf id ≠ e.nodes.urlOf nodeID := fun same =>
    other (distinct id registered nodeID (Registry.mem_of_statusOf last) same)
  refine ⟨reachable, running, clusterFree, count, ?_, ?_, ?_, ?_, ?_⟩
  · refine distinct.congr ?_ urls
    rw [nodes]
    exact Registry.keys_assignRanks ..
  · dsimp only
    rw [nodes]
    exact e.consecutiveRanks_started r.base
  · exact (sound.postAll _).update _ (sound.postAll _ _)
  · intro id active
    have known : e.nodes.statusOf id = some .active := (status id).symm.trans active
    have other : id ≠ nodeID := fun here => by cases (here ▸ last).symm.trans known
    have trains := Server.trains_of_confirmed distinct sound.attached confirmed known
    rw [← nodes, count] at trains
    dsimp only
    rw [urls, Sites.rest, Function.update_of_ne (others (Registry.mem_of_statusOf known) other)]
    exact ⟨e.masterAddr, e.masterPort, trains⟩
  · intro id standby
    have standby : e.nodes.statusOf id = some .standby := (status id).symm.trans standby
    dsimp only
    rw [urls, Sites.rest]
    by_cases here : id = nodeID
    · rw [here, Function.update_self]
      exact Monitor.state_enter .standby
    · rw [Function.update_of_ne (others (Registry.mem_of_statusOf standby) here),
        Sites.postAll_of_notMem]
      · exact waits id here standby
      · intro mem
        obtain ⟨_, sent, same⟩ := List.mem_map.mp mem
        obtain ⟨j, target, rfl⟩ := List.mem_map.mp sent
        have active := Server.mem_startTargets.mp target
        have url : ((e.started r.base).startCommand (e.startTargets r.base) j).nodeURL =
            e.nodes.urlOf j := Server.urlOf_started j
        have same : j = id := distinct j (Registry.mem_of_statusOf active) id
          (Registry.mem_of_statusOf standby) (url.symm.trans same)
        subst same
        cases standby.symm.trans active

/-- **The registration that starts the program leaves a healthy cluster.** -/
theorem healthy_of_started {w : World} {req : RegisterRequest} {now : Int} {r : SiteRound}
    (positive : 1 ≤ setting.config.activeNodes)
    (total : setting.config.expectedNodes = setting.config.activeNodes + setting.config.standbyNodes)
    (reachable : setting.system.Reachable c.world) (initializing : c.world.data.current = .initializing)
    (clusterFree : c.world.locks .clusterMu = .free) (sound : c.sites.Sound)
    (starting : (c.sites req.nodeUrl).1.state = .initializing)
    (waits : ∀ id, c.world.data.nodes.statusOf id = some .standby →
      (c.sites (c.world.data.nodes.urlOf id)).1.state = .standby)
    (next : c.world.next setting
      (.register req now (r.joinRound setting c.world.data req now c.sites)) = some w)
    (leaves : w.data.current ≠ .initializing) (distinct : w.data.nodes.DistinctURLs) :
    Healthy setting (c.afterStart r req.nodeUrl w) := by
  have settled := setting.settled_of_reachable reachable
  have reached : setting.system.Reachable w :=
    .step (.register req now (r.joinRound setting c.world.data req now c.sites)) reachable trivial next
  have locks := locks_of_register settled next
  have bounded := (capped_of_reachable setting positive reached).bounded .active _ rfl
  have run := World.run_of_next next
  rw [Action.run] at run
  rcases @current_of_register setting c.world.data c.world.locks req now _ settled initializing with
    stays | ⟨status, rank, counted, enrolls, enough, answered, starts⟩
  · exact absurd (run ▸ stays) leaves
  have counts := Server.counted_of_admits enrolls.admitted
  have round : r.joinRound setting c.world.data req now c.sites =
      r.startRound (counted.enrolled req now status rank) c.sites := by
    rw [SiteRound.joinRound, enrolls.admitted]
  rw [round] at answered starts run
  have notStandby : (c.sites req.nodeUrl).1.state ≠ .standby := by
    rw [starting]
    decide
  obtain rfl := standby_of_answers counts answered notStandby rfl
  have data := run ▸ starts
  let e := counted.enrolled req now .standby rank
  have nodes : e.nodes = AList.insert req.nodeId ⟨req.nodeUrl, .standby, rank⟩ c.world.data.nodes :=
    Server.nodes_enrolled req now counts
  have status (id : String) := Server.statusOf_enrolled req now counts id
  have url : e.nodes.urlOf req.nodeId = req.nodeUrl := by
    rw [nodes]
    exact Registry.urlOf_insert_self ..
  have registry : w.data.nodes = (e.started r.base).nodes := by
    rw [data]
    rfl
  have same (id : String) : w.data.nodes.statusOf id = e.nodes.statusOf id := by
    rw [registry, Server.statusOf_started]
  have confirmed : e.Confirmed r c.sites := fun id active =>
    of_decide_eq_true (List.all_eq_true.mp answered id (Server.mem_startTargets.mpr active))
  have rounds : e.rounds = c.world.data.rounds :=
    rounds_enrolled.trans (rounds_admitted enrolls.admitted)
  have sent : w.data.sentSince c.world.data = [e.secondCommands r] := by
    refine Server.sentSince_of_append ?_
    rw [data, ← rounds]
    rfl
  have full : e.nodes.count .active = setting.config.activeNodes := by
    rw [Registry.count_congr same .active] at bounded
    change _ ≤ e.nodes.count .active at enough
    omega
  have distinct : e.nodes.DistinctURLs := by
    refine distinct.congr ?_ fun id => ?_
    · rw [registry]
      exact (Registry.keys_assignRanks ..).symm
    · rw [registry, Server.urlOf_started]
  have healthy := Healthy.of_confirmed (c := c) reached (by rw [data]) (locks ▸ clusterFree) registry sound
    confirmed full distinct ((status req.nodeId).trans (if_pos rfl)) fun id other standby => by
      have before := (status id).symm.trans standby
      rw [if_neg other] at before
      rw [nodes, Registry.urlOf_insert_of_ne other]
      exact waits id before
  rw [Cluster.afterStart, sent, ← url]
  exact healthy

/-! ## A failure -/

theorem Healthy.ready (healthy : Healthy setting c) {id : String}
    (working : c.world.data.nodes.statusOf id = some .active ∨
      c.world.data.nodes.statusOf id = some .standby) :
    CommandName.restart.Ready (c.sites (c.world.data.nodes.urlOf id)) := by
  rcases working with active | standby
  · obtain ⟨_, _, trains⟩ := healthy.trains id active
    exact trains.ready
  · exact .inl (healthy.waits id standby)

/-- A running cluster in which every working node can be restarted. -/
structure Cluster.Serviceable (setting : Setting) (c : Cluster) : Prop where
  reachable : setting.system.Reachable c.world
  running : c.world.data.current = .running
  clusterFree : c.world.locks .clusterMu = .free
  distinct : c.world.data.nodes.DistinctURLs
  sound : c.sites.Sound
  ready : ∀ id, c.world.data.nodes.statusOf id = some .active →
    CommandName.restart.Ready (c.sites (c.world.data.nodes.urlOf id))
  waits : ∀ id, c.world.data.nodes.statusOf id = some .standby →
    (c.sites (c.world.data.nodes.urlOf id)).1.state = .standby

theorem Healthy.serviceable (healthy : Healthy setting c) : c.Serviceable setting where
  reachable := healthy.reachable
  running := healthy.running
  clusterFree := healthy.clusterFree
  distinct := healthy.distinct
  sound := healthy.sound
  ready _ active := healthy.ready (.inl active)
  waits := healthy.waits

/-- The sites of the other nodes are as they were. -/
theorem Cluster.struck_of_ne (distinct : c.world.data.nodes.DistinctURLs) {id : String}
    (failing : crash.report.nodeId ∈ c.world.data.nodes) (registered : id ∈ c.world.data.nodes)
    (other : id ≠ crash.report.nodeId) :
    c.struck crash (c.world.data.nodes.urlOf id) = c.sites (c.world.data.nodes.urlOf id) :=
  Function.update_of_ne (fun same => other (distinct id registered _ failing same)) ..

/-- **With enough nodes that can be restarted, a failure is repaired.** -/
theorem Cluster.Serviceable.repaired (serviceable : c.Serviceable setting)
    (positive : 1 ≤ setting.config.activeNodes)
    (active : c.world.data.nodes.statusOf crash.report.nodeId = some .active)
    (fine : ∀ id, c.world.data.nodes.statusOf id = some .active ∨
      c.world.data.nodes.statusOf id = some .standby →
        ((rounds 0).errands (c.world.data.nodes.urlOf id)).Fine)
    (enough : setting.config.activeNodes <
      c.world.data.nodes.count .active + c.world.data.nodes.count .standby) :
    ∃ c', c.recover setting rounds crash = some c' ∧ Healthy setting c' ∧
      c'.world.data.nodes.count .standby + setting.config.activeNodes + 1 =
        c.world.data.nodes.count .active + c.world.data.nodes.count .standby ∧
      c'.world.data.nodes.statusOf crash.report.nodeId ≠ some .active := by
  have failing := Registry.mem_of_statusOf active
  have sound : (c.struck crash).Sound := serviceable.sound.update _ crash.coherent
  have others {id : String} (working : c.world.data.nodes.statusOf id = some .active ∨
      c.world.data.nodes.statusOf id = some .standby) (other : id ≠ crash.report.nodeId) :
      c.struck crash (c.world.data.nodes.urlOf id) = c.sites (c.world.data.nodes.urlOf id) := by
    refine Cluster.struck_of_ne serviceable.distinct failing ?_ other
    rcases working with known | known
    · exact Registry.mem_of_statusOf known
    · exact Registry.mem_of_statusOf known
  obtain ⟨w₁, w₂, first, reported, second, locks, repaired⟩ :=
    @exists_repaired setting rounds (c.struck crash) c.world crash.report positive
      serviceable.reachable serviceable.running serviceable.clusterFree active serviceable.distinct
      sound enough fun id other working => by
        refine ⟨fine id working, ?_⟩
        rw [others working other]
        rcases working with known | known
        · exact serviceable.ready id known
        · exact .inl (serviceable.waits id known)
  have reached : setting.system.Reachable w₁ :=
    .step (.notifyFailure crash.report) serviceable.reachable trivial first
  have urls (id : String) : w₂.data.nodes.urlOf id = c.world.data.nodes.urlOf id :=
    (repaired.urls id).trans (reported.url id)
  refine ⟨⟨w₂, _⟩, ?_, ⟨.step _ reached trivial second, repaired.running, ?_, repaired.full, ?_,
    repaired.consecutive, sound.postRounds _ _ _,
    fun id activeId => ⟨_, _, repaired.trains id activeId⟩, fun id standby => ?_⟩, ?_,
    fun again => reported.ne_of_working (repaired.worked _ again) rfl⟩
  · rw [Cluster.recover, first, Option.bind_eq_bind, Option.bind_some, second]
    rfl
  · rw [locks, reported.locks]
    exact serviceable.clusterFree
  · refine serviceable.distinct.congr (repaired.keys.trans ?_) urls
    rw [reported.nodes, Registry.keys_setStatus]
  · obtain ⟨standby₁, spared⟩ := repaired.spared id standby
    have other := reported.ne_of_working (.inr standby₁)
    rw [reported.status, if_neg other] at standby₁
    dsimp only
    rw [spared, urls, others (.inr standby₁) other]
    exact serviceable.waits id standby₁
  · have left := repaired.left
    rw [repaired.full, reported.count_active active, reported.count_standby active] at left
    dsimp only
    omega

/-- **With a standby node left, a failure is repaired.** -/
theorem Healthy.repaired (healthy : Healthy setting c) (positive : 1 ≤ setting.config.activeNodes)
    (active : c.world.data.nodes.statusOf crash.report.nodeId = some .active)
    (fine : ∀ url, ((rounds 0).errands url).Fine) (spare : 0 < c.world.data.nodes.count .standby) :
    ∃ c', c.recover setting rounds crash = some c' ∧ Healthy setting c' ∧
      c'.world.data.nodes.count .standby + 1 = c.world.data.nodes.count .standby ∧
      c'.world.data.nodes.statusOf crash.report.nodeId ≠ some .active := by
  have full := healthy.full
  obtain ⟨c', repaired, later, left, without⟩ := healthy.serviceable.repaired positive active
    (fun _ _ => fine _) (by omega)
  exact ⟨c', repaired, later, by omega, without⟩

/-- Promotions do not make up for missing nodes. -/
theorem Server.few_of_count {s : Server} {round : Round}
    (few : s.nodes.count .active + s.nodes.count .standby < setting.config.activeNodes) :
    ((s.chosen setting round).length : Int) < setting.config.activeNodes := by
  have active : ((s.nodes.listWith round.order .active).length : Int) = s.nodes.count .active :=
    Registry.length_listWith round.order .active
  have standby : ((s.nodes.listWith round.order .standby).length : Int) = s.nodes.count .standby :=
    Registry.length_listWith round.order .standby
  rw [chosen, List.length_append, promotions, List.length_take, activeList]
  omega

theorem Server.exits_of_few {s : Server} {rounds : Nat → Round} {clusterFree : Bool}
    (few : s.nodes.count .active + s.nodes.count .standby < setting.config.activeNodes) :
    ∃ s', s.reconfigure setting rounds clusterFree = .exited s' := by
  refine ⟨(s.entered.prepared setting (rounds 0)).terminated, ?_⟩
  have chosen : ((s.entered.chosen setting (rounds 0)).length : Int) < setting.config.activeNodes :=
    few_of_count few
  rw [reconfigure, maxAttempts, reconfigureFrom, if_pos chosen]

/-- A spawned reconfiguration that exits. -/
theorem World.exits_of_reconfigure {w : World} {answered : Nat → Round} {s' : Server}
    (settled : Settled w) (spawned : 0 < w.data.spawned) (accepted : w.data.current.reconfigurable)
    (exits : w.data.scheduled.reconfigure setting answered (decide (w.locks .clusterMu = .free)) =
      .exited s') : w.Exits setting (.reconfigure answered) := by
  have run := spawnedReconfigure_run setting answered settled.stateFree (settled.registryFree accepted)
    settled.metricsFree accepted
  rw [exits] at run
  obtain ⟨locks', run⟩ := run
  exact ⟨spawned, _, run_of_exited run⟩

/-- **With too few nodes, a failure ends the server.** -/
theorem Cluster.lost_of_few (reachable : setting.system.Reachable c.world)
    (running : c.world.data.current = .running)
    (active : c.world.data.nodes.statusOf crash.report.nodeId = some .active)
    (few : c.world.data.nodes.count .active + c.world.data.nodes.count .standby ≤
      setting.config.activeNodes) : c.Exits setting rounds crash := by
  obtain ⟨w₁, first, reported⟩ := @exists_reported setting c.world crash.report
    (setting.settled_of_reachable reachable) running active
  have settled := setting.settled_of_reachable
    (.step (.notifyFailure crash.report) reachable trivial first)
  have accepted : w₁.data.current.reconfigurable := .inr reported.current
  have few₁ : w₁.data.nodes.count .active + w₁.data.nodes.count .standby <
      setting.config.activeNodes := by
    rw [reported.count_active active, reported.count_standby active]
    omega
  obtain ⟨s', exits⟩ := @Server.exits_of_few setting w₁.data.scheduled
    (SiteRound.restartRounds setting rounds w₁.data.scheduled (c.struck crash))
    (decide (w₁.locks .clusterMu = .free)) few₁
  exact ⟨w₁, first, World.exits_of_reconfigure settled reported.spawned accepted exits⟩

/-- **Without a standby node left, a failure ends the server.** -/
theorem Healthy.lost (healthy : Healthy setting c)
    (active : c.world.data.nodes.statusOf crash.report.nodeId = some .active)
    (none : c.world.data.nodes.count .standby = 0) : c.Exits setting rounds crash := by
  have full := healthy.full
  exact Cluster.lost_of_few healthy.reachable healthy.running active (by omega)

/-! ## Runs with failures -/

/-- Quiet steps of the server, and a number of failures that are repaired. -/
inductive Course (setting : Setting) (c : Cluster) : Nat → Cluster → Prop where
  | start : Course setting c 0 c
  | quiet {n : Nat} {c' : Cluster} {w : World} (a : Action) (earlier : Course setting c n c')
      (quiet : Quiet setting c'.world a) (next : c'.world.next setting a = some w) :
      Course setting c n ⟨w, c'.sites⟩
  | failure {n : Nat} {c' c'' : Cluster} (rounds : Nat → SiteRound) (crash : Crash)
      (earlier : Course setting c n c') (fine : ∀ url, ((rounds 0).errands url).Fine)
      (active : c'.world.data.nodes.statusOf crash.report.nodeId = some .active)
      (repaired : c'.recover setting rounds crash = some c'') : Course setting c (n + 1) c''

/-- **A failure costs a standby node, and nothing else.** -/
theorem Course.healthy {n : Nat} (course : Course setting c n c')
    (positive : 1 ≤ setting.config.activeNodes) (healthy : Healthy setting c) :
    Healthy setting c' ∧
      c'.world.data.nodes.count .standby + n = c.world.data.nodes.count .standby := by
  induction course with
  | start => exact ⟨healthy, add_zero _⟩
  | quiet a _ quiet next ih =>
      obtain ⟨earlier, left⟩ := ih
      obtain ⟨later, same⟩ := earlier.quiet quiet next
      exact ⟨later, by rw [← left, ← same]⟩
  | failure rounds crash _ fine active repaired ih =>
      obtain ⟨earlier, left⟩ := ih
      rcases (Int.natCast_nonneg _ : 0 ≤ Registry.count _ .standby).lt_or_eq with spare | none
      · obtain ⟨c'', same, later, fewer, _⟩ := earlier.repaired positive active fine spare
        cases repaired.symm.trans same
        refine ⟨later, ?_⟩
        push_cast
        omega
      · exact absurd ⟨_, repaired⟩ (earlier.lost active none.symm).not_recovers

theorem Healthy.exists_active (healthy : Healthy setting c) (positive : 1 ≤ setting.config.activeNodes) :
    ∃ id, c.world.data.nodes.statusOf id = some .active := by
  have full := healthy.full
  have occupied : 0 < (c.world.data.nodes.withStatus .active).card := by
    rw [Registry.count] at full
    omega
  obtain ⟨id, mem⟩ := Finset.card_pos.mp occupied
  exact ⟨id, Registry.mem_withStatus.mp mem⟩

/-- **A cluster survives exactly as many failures as it has standby nodes.** Without other faults it
is healthy after every failure and has one standby node less, and no more failures can be
repaired than there are standby nodes. -/
theorem survives_iff (positive : 1 ≤ setting.config.activeNodes) (healthy : Healthy setting c)
    (n : Nat) :
    (∀ c', Course setting c n c' → Healthy setting c' ∧
      c'.world.data.nodes.count .standby + n = c.world.data.nodes.count .standby) ∧
    ((∃ c', Course setting c n c') ↔ n ≤ c.world.data.nodes.count .standby) := by
  refine ⟨fun c' course => course.healthy positive healthy, ?_⟩
  constructor
  · rintro ⟨c', course⟩
    have left := (course.healthy positive healthy).2
    have rest : 0 ≤ c'.world.data.nodes.count .standby := Int.natCast_nonneg _
    omega
  · intro enough
    induction n with
    | zero => exact ⟨c, .start⟩
    | succ n ih =>
        push_cast at enough
        obtain ⟨c', course⟩ := ih (by omega)
        obtain ⟨later, left⟩ := course.healthy positive healthy
        obtain ⟨id, active⟩ := later.exists_active positive
        let crash : Crash := ⟨⟨id, "", 0, ""⟩, c'.sites (c'.world.data.nodes.urlOf id), later.sound _⟩
        obtain ⟨c'', repaired, _⟩ := @Healthy.repaired setting (fun _ => {}) c' crash later positive
          active (fun _ => Errand.fine_default) (by omega)
        exact ⟨c'', .failure _ crash course (fun _ => Errand.fine_default) active repaired⟩

/-- The cluster after the fourth of four registrations. -/
def fourCluster : Cluster :=
  Cluster.afterStart ⟨joined smallSetting fourNodes.tail, startingSites "d.ns.1" "http://d.ns:1"⟩ {}
    "http://d.ns:1" (joined smallSetting fourNodes)

theorem healthy_fourCluster : Healthy smallSetting fourCluster := by
  have next := @next_joined smallSetting "d.ns.1" "http://d.ns:1" fourNodes.tail (by decide +kernel)
  have sound : (startingSites "d.ns.1" "http://d.ns:1").Sound := by
    intro url
    unfold startingSites
    split
    · exact .of_none rfl
    · exact sound_standbySites url
  have none : (joined smallSetting fourNodes.tail).data.nodes.count .standby = 0 := by decide +kernel
  refine healthy_of_started
    (c := ⟨joined smallSetting fourNodes.tail, startingSites "d.ns.1" "http://d.ns:1"⟩)
    (by decide) (by decide) (run_joined smallSetting fourNodes.tail).reachable (by decide +kernel)
    (by decide +kernel) sound (by decide) (fun id standby => ?_) next (by decide +kernel)
    (by decide +kernel)
  have occupied : 0 < (joined smallSetting fourNodes.tail).data.nodes.count .standby :=
    Int.natCast_pos.mpr (Finset.card_pos.mpr ⟨id, Registry.mem_withStatus.mpr standby⟩)
  omega

theorem survives_iff_four :
    (∃ c', Course smallSetting fourCluster 1 c' ∧ Healthy smallSetting c') ∧
      ¬ ∃ c', Course smallSetting fourCluster 2 c' := by
  have one : fourCluster.world.data.nodes.count .standby = 1 := by decide +kernel
  obtain ⟨keeps, survives⟩ := survives_iff (by decide) healthy_fourCluster 1
  obtain ⟨c', course⟩ := survives.mpr (by rw [one]; rfl)
  refine ⟨⟨c', course, (keeps c' course).1⟩, ?_⟩
  rw [(survives_iff (by decide) healthy_fourCluster 2).2, one]
  decide

end Tolerance

end C4D
