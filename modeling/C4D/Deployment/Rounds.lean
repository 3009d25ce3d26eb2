import C4D.Deployment.Sites
import C4D.Foundations.Invariant
import C4D.Server.Recovery

/-!
# Rounds answered by the sites

In a round the answer of a node is no choice of the environment, but what its site answers
to the command that is posted to it (`startRound`, `restartRound`). A site serves a command in
one step, and changes in a round only by the commands of the round.

A start that ends in `Running` leaves every active node training with its rank in the registry
(`trains_of_start`), and so does a reconfiguration that returns nil, whatever its earlier attempts
did to the sites (`trains_of_reconfigure`). A start command only starts a monitor that is in
`Standby`, and no start leaves it there. So a start that fails after one of its commands
has arrived cannot be repeated (`not_running_of_arrived`).
-/

set_option autoImplicit false

namespace C4D

open Foundations Program

/-- No two nodes are registered under one URL. -/
def Registry.DistinctURLs (nodes : Registry) : Prop :=
  ∀ id ∈ nodes, ∀ j ∈ nodes, nodes.urlOf id = nodes.urlOf j → id = j

instance (nodes : Registry) : Decidable nodes.DistinctURLs :=
  decidable_of_iff (∀ id ∈ AList.keys nodes, ∀ j ∈ AList.keys nodes,
    nodes.urlOf id = nodes.urlOf j → id = j) (by simp only [Registry.DistinctURLs, AList.mem_keys])

theorem Registry.DistinctURLs.congr {nodes nodes' : Registry} (distinct : nodes.DistinctURLs)
    (keys : AList.keys nodes' = AList.keys nodes) (urls : ∀ id, nodes'.urlOf id = nodes.urlOf id) :
    nodes'.DistinctURLs := by
  intro id registered j registeredJ same
  rw [AList.mem_keys, keys, ← AList.mem_keys] at registered registeredJ
  rw [urls, urls] at same
  exact distinct id registered j registeredJ same

/-- What the environment decides in one round of commands that is answered by the sites. During a round
a site changes by the commands that are posted to it only. -/
structure SiteRound where
  order : Shuffle String := .inOrder
  ties : Shuffle String := .inOrder
  errands : String → Errand := fun _ => {}

namespace SiteRound

/-- The round with its orders, and every node answering. -/
def base (r : SiteRound) : Round := ⟨r.order, r.ties, fun _ => true⟩

/-- The round of start commands. -/
def startRound (r : SiteRound) (s : Server) (sites : Sites) : Round :=
  { r.base with
    answers := fun id => decide
      (sites.Confirms r.errands ((s.started r.base).startCommand (s.startTargets r.base) id)) }

/-- The round of restart commands. -/
def restartRound (r : SiteRound) (setting : Setting) (s : Server) (sites : Sites) : Round :=
  { r.base with
    answers := fun id => decide
      (sites.Confirms r.errands ((s.renumbered setting r.base).restartCommand setting id)) }

end SiteRound

namespace Sites

/-- Rounds of commands are posted, one after another. -/
def postRounds (errands : Nat → String → Errand) : Nat → Sites → List (List Command) → Sites
  | _, sites, [] => sites
  | n, sites, commands :: rest =>
      postRounds errands (n + 1) (sites.postAll (errands n) commands) rest

theorem postRounds_concat (errands : Nat → String → Errand) (n : Nat) (sites : Sites)
    (rounds : List (List Command)) (commands : List Command) :
    sites.postRounds errands n (rounds ++ [commands]) =
      (sites.postRounds errands n rounds).postAll (errands (n + rounds.length)) commands := by
  induction rounds generalizing n sites with
  | nil => rfl
  | cons first rest ih =>
      refine (ih (n + 1) (sites.postAll (errands n) first)).trans ?_
      rw [List.length_cons, Nat.add_assoc n 1, Nat.add_comm 1]
      rfl

end Sites

namespace Server

/-- The rounds of commands that were sent since a state. -/
def sentSince (s before : Server) : List (List Command) := s.rounds.drop before.rounds.length

theorem sentSince_of_append {before s : Server} {sent : List (List Command)}
    (rounds : s.rounds = before.rounds ++ sent) : s.sentSince before = sent := by
  rw [sentSince, rounds, List.drop_left]

variable {s : Server} {round : Round} {setting : Setting}

@[simp] theorem urlOf_started (j : String) : (s.started round).nodes.urlOf j = s.nodes.urlOf j :=
  Registry.urlOf_assignRanks ..

theorem sentSince_started : (s.started round).sentSince s =
    [(s.startTargets round).map ((s.started round).startCommand (s.startTargets round))] :=
  sentSince_of_append rfl

theorem count_started (s : Server) (round : Round) :
    ((s.startTargets round).length : Int) = (s.started round).nodes.count .active :=
  (Registry.count_eq_length nodup_startTargets fun id => by
    rw [statusOf_started, mem_startTargets]).symm

/-- The start gives consecutive ranks. -/
theorem consecutiveRanks_started (s : Server) (round : Round) :
    (s.started round).nodes.ConsecutiveRanks :=
  Registry.consecutiveRanks_of_positions nodup_startTargets
    (fun id => by rw [statusOf_started, mem_startTargets])
    fun id mem => rankOf_started round (mem_startTargets.mp mem)

/-- Commands to nodes with different URLs have different URLs. -/
theorem nodup_nodeURL {nodes : List String} (command : String → Command) (nodup : nodes.Nodup)
    (distinct : s.nodes.DistinctURLs) (registered : ∀ id ∈ nodes, id ∈ s.nodes)
    (leads : ∀ id, (command id).nodeURL = s.nodes.urlOf id) :
    ((nodes.map command).map Command.nodeURL).Nodup := by
  rw [List.map_map]
  refine nodup.map_on fun id mem j memJ same => ?_
  rw [Function.comp_apply, Function.comp_apply, leads, leads] at same
  exact distinct id (registered id mem) j (registered j memJ) same

end Server

/-! ## Start -/

section Start

variable {setting : Setting} {r : SiteRound} {s s' : Server} {sites : Sites}
  {locks locks' : Lock → RWMutex}

/-- Every active node's start command is answered 200. -/
def Server.Confirmed (s : Server) (r : SiteRound) (sites : Sites) : Prop :=
  ∀ id, s.nodes.statusOf id = some .active → sites.Confirms r.errands
    ((s.started r.base).startCommand (s.startTargets r.base) id)

/-- How a start that sends commands ends. -/
theorem run_start (clusterFree : locks .clusterMu = .free) (stateFree : locks .stateMu = .free)
    (initializing : s.current = .initializing)
    (enough : setting.config.expectedNodes - setting.config.standbyNodes ≤ s.nodes.count .active) :
    ∃ result current, (checkAndStartProgram setting (r.startRound s sites)).run ⟨s, locks⟩ =
        .ok result ⟨{ s.started r.base with current }, locks⟩ ∧
      (current = .running ∧ s.Confirmed r sites ∨ current = .initializing ∧ ¬ s.Confirmed r sites) := by
  have run := checkAndStartProgram_run setting (r.startRound s sites) clusterFree stateFree initializing
    enough
  have same : (s.startTargets (r.startRound s sites)).all (r.startRound s sites).answers = true ↔
      s.Confirmed r sites := by
    rw [List.all_eq_true]
    refine forall_congr' fun id => ?_
    rw [Server.mem_startTargets]
    exact imp_congr_right fun _ => decide_eq_true_iff
  rw [run]
  by_cases all : (s.startTargets (r.startRound s sites)).all (r.startRound s sites).answers = true
  · rw [if_pos all]
    exact ⟨_, .running, rfl, .inl ⟨rfl, same.mp all⟩⟩
  · rw [if_neg all]
    exact ⟨_, s.current, rfl, .inr ⟨initializing, fun confirms => all (same.mpr confirms)⟩⟩

/-- **What a start that is confirmed leaves behind.** -/
theorem Server.trains_of_confirmed (distinct : s.nodes.DistinctURLs) (attached : sites.Attached)
    (confirmed : s.Confirmed r sites) {id : String} (active : s.nodes.statusOf id = some .active) :
    Trains (Env.Assigns ((s.started r.base).nodes.rankOf id) ((s.started r.base).nodes.count .active)
        s.masterAddr s.masterPort)
      (sites.postAll r.errands ((s.startTargets r.base).map
        ((s.started r.base).startCommand (s.startTargets r.base))) (s.nodes.urlOf id)) := by
  have target : id ∈ s.startTargets r.base := mem_startTargets.mpr active
  have nodup := nodup_nodeURL ((s.started r.base).startCommand (s.startTargets r.base))
    (nodup_startTargets : (s.startTargets r.base).Nodup) distinct
    (fun _ mem => Registry.mem_iff_statusOf.mpr ⟨_, mem_startTargets.mp mem⟩) urlOf_started
  have trains := Sites.trains_of_confirms nodup (List.mem_map_of_mem target) attached
    (confirmed id active)
  have url : ((s.started r.base).startCommand (s.startTargets r.base) id).nodeURL = s.nodes.urlOf id :=
    urlOf_started id
  rw [← count_started, ← url]
  exact trains

/-- **A start that ends in `Running`.** The ranks are consecutive, and every active node trains with
its rank in the registry, the number of active nodes and the master address of the server. -/
theorem trains_of_start (clusterFree : locks .clusterMu = .free) (stateFree : locks .stateMu = .free)
    (initializing : s.current = .initializing) (distinct : s.nodes.DistinctURLs)
    (attached : sites.Attached) {result : Except ClusterError Unit}
    (returns : (checkAndStartProgram setting (r.startRound s sites)).run ⟨s, locks⟩ =
      .ok result ⟨s', locks'⟩)
    (running : s'.current = .running) :
    s'.nodes.ConsecutiveRanks ∧ ∀ id, s'.nodes.statusOf id = some .active →
      Trains (Env.Assigns (s'.nodes.rankOf id) (s'.nodes.count .active) s'.masterAddr s'.masterPort)
        (sites.postRounds (fun _ => r.errands) 0 (s'.sentSince s) (s'.nodes.urlOf id)) := by
  rcases lt_or_ge (s.nodes.count .active)
    (setting.config.expectedNodes - setting.config.standbyNodes) with few | enough
  · rw [checkAndStartProgram_run_waiting setting _ clusterFree stateFree initializing few] at returns
    cases returns
    cases initializing.symm.trans running
  · obtain ⟨_, current, run, ends⟩ :=
      @run_start setting r s sites locks clusterFree stateFree initializing enough
    rw [run] at returns
    cases returns
    rcases ends with ⟨_, confirmed⟩ | ⟨waiting, _⟩
    swap
    · cases waiting.symm.trans running
    refine ⟨s.consecutiveRanks_started r.base, fun id active => ?_⟩
    rw [Server.statusOf_started] at active
    have trains := Server.trains_of_confirmed distinct attached confirmed active
    have sent : ({ s.started r.base with current } : Server).sentSince s =
        [(s.startTargets r.base).map ((s.started r.base).startCommand (s.startTargets r.base))] :=
      Server.sentSince_started
    have url : ({ s.started r.base with current } : Server).nodes.urlOf id = s.nodes.urlOf id :=
      Server.urlOf_started id
    rw [sent, url]
    exact trains

/-- Three active nodes and a standby node, with no program started. -/
def gatheredServer : Server :=
  { Server.new smallSetting with
    nodes := AList.insert "a.ns.1" ⟨"http://a.ns:1", .active, 0⟩
      (AList.insert "b.ns.1" ⟨"http://b.ns:1", .active, 1⟩
        (AList.insert "c.ns.1" ⟨"http://c.ns:1", .active, 2⟩
          (AList.insert "d.ns.1" ⟨"http://d.ns:1", .standby, -1⟩ ∅)))
    activeNodes := 3
    standbyNodes := 1
    masterAddr := "a.ns"
    masterPort := "29500" }

/-- The name of the monitor behind a URL. -/
def monitorAt (url : String) : String :=
  if url = "http://a.ns:1" then "a.ns.1"
  else if url = "http://b.ns:1" then "b.ns.1"
  else if url = "http://c.ns:1" then "c.ns.1"
  else "d.ns.1"

/-- Every monitor is in `Standby`, and no engine has run a process. -/
def standbySites : Sites := fun url =>
  ((Monitor.new (monitorAt url) url (-1) 0).enter .standby, Host.new)

theorem attached_standbySites : standbySites.Attached := fun _ _ held => by cases held

theorem trains_of_start_three :
    ∃ result s' locks', (checkAndStartProgram smallSetting
        (SiteRound.startRound {} gatheredServer standbySites)).run ⟨gatheredServer, fun _ => .free⟩ =
          .ok result ⟨s', locks'⟩ ∧
      s'.nodes.ConsecutiveRanks ∧ ∀ id, s'.nodes.statusOf id = some .active →
        Trains (Env.Assigns (s'.nodes.rankOf id) (s'.nodes.count .active) s'.masterAddr s'.masterPort)
          (standbySites.postRounds (fun _ _ => {}) 0 (s'.sentSince gatheredServer)
            (s'.nodes.urlOf id)) := by
  obtain ⟨result, current, run, ends⟩ := @run_start smallSetting {} gatheredServer standbySites
    (fun _ => .free) rfl rfl rfl (by decide)
  have running : current = .running := by
    have evaluated : (Guarded.final ((checkAndStartProgram smallSetting
        (SiteRound.startRound {} gatheredServer standbySites)).run
        ⟨gatheredServer, fun _ => .free⟩)).data.current = .running := by decide +kernel
    rw [run] at evaluated
    exact evaluated
  exact ⟨result, _, _, run, trains_of_start rfl rfl rfl (by decide) attached_standbySites run running⟩

/-! ### Once -/

namespace Command

variable {c : Command} {choices : Nat → CallChoice} {site : Monitor × Host}

theorem serve_of_start (start : c.command = .start) : c.serve choices site =
    (Monitor.commandStart (some c.envVars)).run Monitor.actOver choices site := by
  have route : Monitor.handleCommand (some c.request) = Monitor.commandStart (some c.envVars) := by
    simp [Monitor.handleCommand, Command.request, start, CommandName.text]
  rw [serve, route]

/-- **No start leaves a monitor in `Standby`**: it is refused there or sets another state. -/
theorem not_standby_of_start (start : c.command = .start) :
    (c.serve choices site).state.1.state ≠ .standby := by
  rw [serve_of_start start]
  simp only [Monitor.commandStart, Monitor.getState, op_bind, Monitor.run_getState_over]
  split
  · next refused => exact refused
  · rw [run_bind]
    cases ((Monitor.startAgent (some c.envVars)).run Monitor.actOver (fun n => choices (n + 1))
        site).value with
    | error err =>
        intro same
        cases (Monitor.state_enter .failed).symm.trans same
    | ok _ =>
        intro same
        cases (Monitor.state_enter .running).symm.trans same

/-- A start that is answered 200 has found the monitor in `Standby`. -/
theorem standby_of_accepted (start : c.command = .start) (accepted : c.Accepted choices site) :
    site.1.state = .standby := by
  rw [Accepted, serve_of_start start] at accepted
  simp only [Monitor.commandStart, Monitor.getState, op_bind, Monitor.run_getState_over] at accepted
  split at accepted
  · cases accepted
  · next standby => exact not_not.mp standby

end Command

namespace Sites

variable {errands : String → Errand} {sites : Sites} {url : String}

/-- Start commands do not put a monitor into `Standby`. -/
theorem standby_of_postAll {commands : List Command} (start : ∀ c ∈ commands, c.command = .start)
    (standby : (sites.postAll errands commands url).1.state = .standby) :
    (sites url).1.state = .standby ∧
      ∀ c ∈ commands, c.nodeURL = url → (errands url).transport.arrives = false := by
  induction commands generalizing sites with
  | nil => exact ⟨standby, nofun⟩
  | cons d rest ih =>
      obtain ⟨first, later⟩ := @ih (sites.post errands d)
        (fun c mem => start c (List.mem_cons_of_mem _ mem)) standby
      by_cases here : url = d.nodeURL
      · subst here
        by_cases arrives : (errands d.nodeURL).transport.arrives = true
        · rw [post_self arrives] at first
          exact absurd first (Command.not_standby_of_start (start d List.mem_cons_self))
        · rw [post, if_neg arrives] at first
          exact ⟨first, fun c _ _ => Bool.not_eq_true _ ▸ arrives⟩
      · rw [post_of_ne here] at first
        refine ⟨first, fun c mem same => ?_⟩
        rcases List.mem_cons.mp mem with rfl | mem
        · exact absurd same.symm here
        · exact later c mem same

end Sites

namespace SiteRound

/-- A start of the program with every lock free, and the sites after the commands that it sends. -/
def startOver (r : SiteRound) (setting : Setting) (s : Server) (sites : Sites) : Server × Sites :=
  match (checkAndStartProgram setting (r.startRound s sites)).run ⟨s, fun _ => .free⟩ with
  | .ok _ w => (w.data, sites.postRounds (fun _ => r.errands) 0 (w.data.sentSince s))
  | .error _ w => (w.data, sites)

/-- What a start does: nothing, or it sends a round of start commands. -/
theorem startOver_cases (r : SiteRound) (setting : Setting) (s : Server) (sites : Sites) :
    r.startOver setting s sites = (s, sites) ∨
      ∃ current, r.startOver setting s sites =
        ({ s.started r.base with current }, sites.postAll r.errands ((s.startTargets r.base).map
          ((s.started r.base).startCommand (s.startTargets r.base)))) := by
  obtain ⟨result, s', run, ends⟩ := @checkAndStartProgram_returns setting s (fun _ => .free)
    (r.startRound s sites) rfl rfl
  rw [startOver, run]
  rcases ends with rfl | ⟨current, rfl⟩
  · refine .inl ?_
    dsimp only
    rw [Server.sentSince_of_append (List.append_nil _).symm]
    rfl
  · refine .inr ⟨current, ?_⟩
    have sent : ({ s.started (r.startRound s sites) with current } : Server).sentSince s =
        [(s.startTargets r.base).map ((s.started r.base).startCommand (s.startTargets r.base))] :=
      Server.sentSince_of_append rfl
    dsimp only
    rw [sent]
    rfl

/-- After a start, a monitor that is in `Standby` was there before, and no command has arrived. -/
theorem standby_of_startOver {r : SiteRound} {setting : Setting} {s : Server} {sites : Sites}
    {url : String} (standby : ((r.startOver setting s sites).2 url).1.state = .standby) :
    (sites url).1.state = .standby ∧
      ∀ c ∈ ((r.startOver setting s sites).1.sentSince s).flatten, c.nodeURL = url →
        (r.errands url).transport.arrives = false := by
  rcases r.startOver_cases setting s sites with same | ⟨current, same⟩
  · rw [same] at standby ⊢
    rw [Server.sentSince_of_append (List.append_nil _).symm]
    exact ⟨standby, nofun⟩
  · rw [same] at standby ⊢
    have sent : ({ s.started r.base with current } : Server).sentSince s =
        [(s.startTargets r.base).map ((s.started r.base).startCommand (s.startTargets r.base))] :=
      Server.sentSince_started
    dsimp only
    rw [sent, List.flatten_singleton]
    refine Sites.standby_of_postAll ?_ standby
    rintro c mem
    obtain ⟨id, _, rfl⟩ := List.mem_map.mp mem
    rfl

end SiteRound

/-- **A start that fails after a command has arrived cannot be repeated.** Whatever the server does
between its attempts, while nothing else puts the monitor into `Standby` again, every later
attempt that needs its node leaves the server in `Initializing`. -/
theorem not_running_of_arrived {rounds : Nat → SiteRound} {servers : Nat → Server}
    {sites : Nat → Sites}
    (between : ∀ k url, (sites (k + 1) url).1.state = .standby →
      (((rounds k).startOver setting (servers k) (sites k)).2 url).1.state = .standby)
    {m n : Nat} (later : m < n) {c : Command}
    (sent : c ∈ (((rounds m).startOver setting (servers m) (sites m)).1.sentSince (servers m)).flatten)
    (arrives : ((rounds m).errands c.nodeURL).transport.arrives = true) {id : String}
    (active : (servers n).nodes.statusOf id = some .active)
    (same : (servers n).nodes.urlOf id = c.nodeURL)
    (initializing : (servers n).current = .initializing) :
    ((rounds n).startOver setting (servers n) (sites n)).1.current = .initializing := by
  have left : ∀ k, m + 1 ≤ k → (sites k c.nodeURL).1.state ≠ .standby := by
    intro k reached
    induction k, reached using Nat.le_induction with
    | base =>
        intro standby
        have lost := (SiteRound.standby_of_startOver (between m _ standby)).2 c sent rfl
        exact Bool.false_ne_true (lost.symm.trans arrives)
    | succ k _ ih => exact fun standby => ih (SiteRound.standby_of_startOver (between k _ standby)).1
  rcases lt_or_ge ((servers n).nodes.count .active)
    (setting.config.expectedNodes - setting.config.standbyNodes) with few | enough
  · rw [SiteRound.startOver, checkAndStartProgram_run_waiting setting _ rfl rfl initializing few]
    exact initializing
  · obtain ⟨_, current, run, ends⟩ :=
      @run_start setting (rounds n) (servers n) (sites n) (fun _ => .free) rfl rfl initializing enough
    rw [SiteRound.startOver, run]
    rcases ends with ⟨_, confirmed⟩ | ⟨waiting, _⟩
    · have standby := Command.standby_of_accepted rfl (confirmed id active).2
      have url : ((servers n).started (rounds n).base).nodes.urlOf id = c.nodeURL :=
        (Server.urlOf_started id).trans same
      exact absurd (url ▸ standby) (left n later)
    · exact waiting

/-- The command to one node is lost. -/
def oneLost : SiteRound where
  errands url := { transport := if url = "http://b.ns:1" then .lost "timeout" else .delivered }

/-- The first attempt loses a command, and the later ones lose none. -/
def firstLost (n : Nat) : SiteRound := if n = 0 then oneLost else {}

/-- The sites when nothing but the attempts of one server changes them. -/
def sitesOver (s : Server) (rounds : Nat → SiteRound) : Nat → Sites
  | 0 => standbySites
  | n + 1 => ((rounds n).startOver smallSetting s (sitesOver s rounds n)).2

theorem not_running_of_arrived_lost : ((firstLost 5).startOver smallSetting gatheredServer
    (sitesOver gatheredServer firstLost 5)).1.current = .initializing := by
  have arrived : (⟨"a.ns.1", "http://a.ns:1", .start, 0, 3, "a.ns", "29500"⟩ : Command) ∈
      (((firstLost 0).startOver smallSetting gatheredServer standbySites).1.sentSince
        gatheredServer).flatten := by decide +kernel
  exact @not_running_of_arrived smallSetting firstLost (fun _ => gatheredServer)
    (sitesOver gatheredServer firstLost) (fun _ _ standby => standby) 0 5 (by decide) _ arrived rfl
    "a.ns.1" (by decide) (by decide) rfl

end Start

/-! ## Reconfiguration -/

namespace SiteRound

variable (setting : Setting) (rounds : Nat → SiteRound)

/-- The server and the sites after an attempt that has failed. -/
def afterAttempt (r : SiteRound) (w : Server × Sites) : Server × Sites :=
  (w.1.marked setting (r.restartRound setting w.1 w.2),
    w.2.postAll r.errands ((w.1.targets setting r.base).map
      ((w.1.renumbered setting r.base).restartCommand setting)))

/-- The server and the sites before an attempt. -/
def beforeAttempt (w : Server × Sites) : Nat → Server × Sites
  | 0 => w
  | n + 1 => (rounds n).afterAttempt setting (beforeAttempt w n)

/-- The rounds of a reconfiguration, answered by the sites. -/
def restartRounds (s : Server) (sites : Sites) (n : Nat) : Round :=
  let w := beforeAttempt setting rounds ({ s with current := .reconfiguring }, sites) n
  (rounds n).restartRound setting w.1 w.2

variable (w : Server × Sites)

/-- The sites have served the rounds of restart commands that were sent. -/
theorem sent_beforeAttempt (n : Nat) : ∃ sent : List (List Command), sent.length = n ∧
    (beforeAttempt setting rounds w n).1.rounds = w.1.rounds ++ sent ∧
    (beforeAttempt setting rounds w n).2 =
      w.2.postRounds (fun n => (rounds n).errands) 0 sent := by
  induction n with
  | zero => exact ⟨[], rfl, (List.append_nil _).symm, rfl⟩
  | succ n ih =>
      obtain ⟨sent, length, sends, served⟩ := ih
      have next := @Server.rounds_notified setting ((rounds n).restartRound setting
        (beforeAttempt setting rounds w n).1 (beforeAttempt setting rounds w n).2)
          (beforeAttempt setting rounds w n).1
      rw [sends, List.append_assoc] at next
      refine ⟨_, ?_, Server.rounds_marked.trans next, ?_⟩
      · rw [List.length_append, length, List.length_singleton]
      · rw [Sites.postRounds_concat, ← served, length, Nat.zero_add]
        rfl

variable {w}

theorem attached_beforeAttempt (attached : w.2.Attached) (n : Nat) :
    (beforeAttempt setting rounds w n).2.Attached := by
  induction n with
  | zero => exact attached
  | succ n ih => exact ih.postAll _

theorem distinctURLs_beforeAttempt (distinct : w.1.nodes.DistinctURLs) (n : Nat) :
    (beforeAttempt setting rounds w n).1.nodes.DistinctURLs := by
  induction n with
  | zero => exact distinct
  | succ n ih =>
      exact ih.congr Server.keys_marked Server.urlOf_marked

end SiteRound

section Reconfigure

variable {setting : Setting} {rounds : Nat → SiteRound} {s s' : Server} {sites : Sites}
  {locks locks' : Lock → RWMutex}

/-- A call that returns nil has notified every target of an attempt. -/
theorem exists_attempt_of_returned {w : Server × Sites} (left attempt : Nat)
    (returns : (SiteRound.beforeAttempt setting rounds w attempt).1.reconfigureFrom setting
      (fun n => (rounds n).restartRound setting (SiteRound.beforeAttempt setting rounds w n).1
        (SiteRound.beforeAttempt setting rounds w n).2) true left attempt = .returned s') :
    ∃ n, ∃ round : Round, round = (rounds n).restartRound setting
        (SiteRound.beforeAttempt setting rounds w n).1 (SiteRound.beforeAttempt setting rounds w n).2 ∧
      (SiteRound.beforeAttempt setting rounds w n).1.unreached setting round = [] ∧
      s' = ((SiteRound.beforeAttempt setting rounds w n).1.notified setting round).resumed := by
  induction left generalizing attempt with
  | zero => cases returns
  | succ left ih =>
      rw [Server.reconfigureFrom] at returns
      split at returns
      · cases returns
      · split at returns
        · next answered =>
            cases returns
            exact ⟨attempt, _, rfl, answered, rfl⟩
        · exact ih (attempt + 1) returns

/-- What the sites do in a reconfiguration that returns. -/
theorem trains_of_returned (distinct : s.nodes.DistinctURLs) (attached : sites.Attached)
    (outcome : s.reconfigure setting (SiteRound.restartRounds setting rounds s sites) true =
      .returned s') :
    s'.nodes.ConsecutiveRanks ∧ ∀ id, s'.nodes.statusOf id = some .active →
      Trains (Env.Assigns (s'.nodes.rankOf id) setting.config.activeNodes
          (setting.getenv "MASTER_ADDR") (setting.getenv "MASTER_PORT"))
        (sites.postRounds (fun n => (rounds n).errands) 0 (s'.sentSince s) (s'.nodes.urlOf id)) := by
  obtain ⟨n, round, answers, reached, rfl⟩ :=
    exists_attempt_of_returned (w := ({ s with current := .reconfiguring }, sites)) maxAttempts 0 outcome
  obtain ⟨sent, length, sends, served⟩ :=
    SiteRound.sent_beforeAttempt setting rounds ({ s with current := .reconfiguring }, sites) n
  have distinct := SiteRound.distinctURLs_beforeAttempt setting rounds
    (w := ({ s with current := .reconfiguring }, sites)) distinct n
  have attached := SiteRound.attached_beforeAttempt setting rounds
    (w := ({ s with current := .reconfiguring }, sites)) attached n
  generalize SiteRound.beforeAttempt setting rounds ({ s with current := .reconfiguring }, sites) n = w
    at answers reached sends served distinct attached
  have rounds_after : ((w.1.notified setting round).resumed).rounds =
      s.rounds ++ (sent ++ [(w.1.targets setting round).map
        ((w.1.renumbered setting round).restartCommand setting)]) := by
    rw [Server.rounds_resumed, Server.rounds_notified, sends, List.append_assoc]
  rw [Server.sentSince_of_append rounds_after, Sites.postRounds_concat, ← served, length, Nat.zero_add,
    Server.nodes_resumed]
  refine ⟨Server.consecutiveRanks_notified, fun id active => ?_⟩
  have target : id ∈ w.1.targets setting round := Server.mem_targets_iff.mpr active
  have confirmed := Server.unreached_eq_nil.mp reached id target
  have nodup := Server.nodup_nodeURL ((w.1.renumbered setting round).restartCommand setting)
    (Server.nodup_targets : (w.1.targets setting round).Nodup) distinct
    (fun _ => Server.registered_of_mem_targets) Server.urlOf_notified
  subst answers
  exact Sites.trains_of_confirms nodup (List.mem_map_of_mem target) attached
    (of_decide_eq_true confirmed)

/-- **A reconfiguration that returns nil.** The ranks are consecutive, and every active node trains with
its rank in the registry, the required number of active nodes and the master address of the
environment, whatever the earlier attempts did to the sites. -/
theorem trains_of_reconfigure (free : ∀ l, locks l = .free) (distinct : s.nodes.DistinctURLs)
    (attached : sites.Attached)
    (returns : (reconfigureCluster setting (SiteRound.restartRounds setting rounds s sites)).run
      ⟨s, locks⟩ = .ok (.ok ()) ⟨s', locks'⟩) :
    s'.nodes.ConsecutiveRanks ∧ ∀ id, s'.nodes.statusOf id = some .active →
      Trains (Env.Assigns (s'.nodes.rankOf id) setting.config.activeNodes
          (setting.getenv "MASTER_ADDR") (setting.getenv "MASTER_PORT"))
        (sites.postRounds (fun n => (rounds n).errands) 0 (s'.sentSince s) (s'.nodes.urlOf id)) := by
  exact trains_of_returned distinct attached (returned_of_run free returns).2

/-- One of three active nodes has failed, and the standby node takes its place. -/
def bereavedServer : Server :=
  { gatheredServer with
    current := .running
    nodes := gatheredServer.nodes.setStatus "b.ns.1" .failed }

theorem trains_of_reconfigure_one :
    ∃ s' locks', (reconfigureCluster smallSetting (SiteRound.restartRounds smallSetting (fun _ => {})
        bereavedServer standbySites)).run ⟨bereavedServer, fun _ => .free⟩ = .ok (.ok ()) ⟨s', locks'⟩ ∧
      s'.nodes.ConsecutiveRanks ∧ ∀ id, s'.nodes.statusOf id = some .active →
        Trains (Env.Assigns (s'.nodes.rankOf id) 3 "" "")
          (standbySites.postRounds (fun _ _ => {}) 0 (s'.sentSince bereavedServer)
            (s'.nodes.urlOf id)) := by
  obtain ⟨⟨s', locks'⟩, run, _⟩ := exists_of_returnsNil (fun _ => true)
    ((reconfigureCluster smallSetting (SiteRound.restartRounds smallSetting (fun _ => {}) bereavedServer
      standbySites)).run ⟨bereavedServer, fun _ => .free⟩) (by decide +kernel)
  exact ⟨s', locks', run, trains_of_reconfigure (fun _ => rfl) (by decide) attached_standbySites run⟩

end Reconfigure

end C4D
