import C4D.Server.Capacity
import C4D.Server.Frames
import C4D.Server.Removal

/-!
# The rendezvous of the training processes

A start command carries the master address the server captured at the first
registration. A restart command carries the one in the environment of the server
process, which nothing relates to the captured one. `Misdirects` lists the steps
that send restart commands while the two differ.

Along every run without such steps all commands of all rounds carry the address
of the first registration, and the world size of a round is the number of nodes
it addresses (`gathers_of_run`). The restart commands carry the configured
number of active nodes; a round addresses exactly that many, since the capacity
is never exceeded and an attempt with fewer nodes notifies nobody.
-/

set_option autoImplicit false

namespace C4D

open Foundations Guarded

/-! ## Rounds of commands -/

/-- All commands of a round carry one master address, and the size of the round as world size. -/
def Gathers (masterAddr masterPort : String) (commands : List Command) : Prop :=
  ∀ command ∈ commands, command.masterAddr = masterAddr ∧ command.masterPort = masterPort ∧
    command.worldSize = commands.length

/-- The captured master address and the rounds sent so far. -/
structure Dispatch where
  masterAddr : String
  masterPort : String
  rounds : List (List Command)

namespace Server

def dispatch (s : Server) : Dispatch :=
  { masterAddr := s.masterAddr, masterPort := s.masterPort, rounds := s.rounds }

variable (s : Server)

theorem dispatch_failNode (nodeID : String) (oldStatus : Status) :
    (s.failNode nodeID oldStatus).dispatch = s.dispatch := by
  cases oldStatus <;> rfl

theorem dispatch_handleNodeTimeout (nodeID : String) :
    (s.handleNodeTimeout nodeID).dispatch = s.dispatch := by
  rw [handleNodeTimeout_eq]
  split <;> rfl

theorem dispatch_foldl_removeDead (nodeIDs : List String) :
    (nodeIDs.foldl removeDead s).dispatch = s.dispatch := by
  induction nodeIDs generalizing s with
  | nil => rfl
  | cons id rest ih =>
      rw [List.foldl_cons, ih, removeDead]
      cases s.nodes.statusOf id with
      | none => rfl
      | some status => cases status <;> rfl

theorem dispatch_admitNode (setting : Setting) :
    (s.admitNode setting).2.dispatch = s.dispatch := by
  unfold admitNode
  split_ifs <;> rfl

theorem dispatch_registerSession (nodeID nodeURL : String) (status : Status) (rank now : Int) :
    (s.registerSession nodeID nodeURL status rank now).2.dispatch = s.dispatch := by
  unfold registerSession
  cases s.sessions.lookup nodeID <;> rfl

end Server

/-! ## Operations that send nothing -/

/-- However the program ends, it sends no command and captures no address. -/
def SendsNothing {α : Type} (op : Op α) : Prop := ∀ d, Preserves (fun s : Server => s.dispatch = d) op

theorem SendsNothing.preserves {α : Type} {op : Op α} (nothing : SendsNothing op)
    {I : Dispatch → Prop} : Preserves (fun s : Server => I s.dispatch) op :=
  Leaves.preserves nothing

theorem ignores_dispatch : Ignores Server.dispatch where
  current _ _ := rfl
  latencyMatrix _ _ := rfl
  spawned _ _ := rfl
  heartbeat _ _ _ := rfl
  failNode := Server.dispatch_failNode
  recordFailure _ _ := rfl
  handleNodeTimeout := Server.dispatch_handleNodeTimeout

theorem sendsNothing_transition (target : State) : SendsNothing (transition target) :=
  Leaves.transition ignores_dispatch target

theorem sendsNothing_current : SendsNothing current := Leaves.currentState Server.dispatch

theorem sendsNothing_checkNodesHealth (setting : Setting) (now : Int) (order : Shuffle String) :
    SendsNothing (checkNodesHealth setting now order) := fun d =>
  .bind .rlock fun _ => .bind .read fun _ => .bind (Leaves.checkLoop ignores_dispatch setting now _ d) fun _ =>
    .bind .runlock fun _ => .critical fun _ same => same

theorem sendsNothing_cleanupDeadConnections (setting : Setting) (now : Int)
    (order : Shuffle String) : SendsNothing (cleanupDeadConnections setting now order) := by
  intro d
  have disconnected (nodeIDs : List String) :
      Preserves (fun s : Server => s.dispatch = d) (disconnectLoop now nodeIDs) := by
    induction nodeIDs with
    | nil => exact .pure _
    | cons id rest ih => exact .bind (.critical fun _ same => same) fun _ => ih
  exact .withLock (.bind .read fun s => .bind (disconnected _) fun _ =>
    .update fun s same => (s.dispatch_foldl_removeDead _).trans same)

/-! ## Registrations -/

namespace Dispatch

variable (a p : String)

/-- The master address is captured and all rounds gather there. -/
structure Captured (d : Dispatch) : Prop where
  addr : d.masterAddr = a
  port : d.masterPort = p
  gathered : ∀ commands ∈ d.rounds, Gathers a p commands

/-- As long as no master address is captured, no commands are sent. -/
structure Steered (d : Dispatch) : Prop where
  captured : d.masterAddr = "" ∨ d.masterAddr = a ∧ d.masterPort = p
  gathered : ∀ commands ∈ d.rounds, Gathers a p commands

end Dispatch

section Register

variable {a p : String} (setting : Setting) (req : RegisterRequest) (now : Int) (round : Round)

/-- An operation keeps the captured master address and sends commands that gather there. -/
def SendsTo (a p : String) {α : Type} (op : Op α) : Prop :=
  Preserves (fun s : Server => s.dispatch.Captured a p) op

theorem sendsTo_startProgramOnNodes (answers : String → Bool) (nodes : List String) :
    SendsTo a p (startProgramOnNodes answers nodes) := by
  refine .bind (.update fun s captured => ⟨captured.addr, captured.port, fun commands mem => ?_⟩)
    fun _ => .ite (fun _ => .pure _) fun _ => .pure _
  rcases List.mem_append.mp mem with sent | last
  · exact captured.gathered commands sent
  · rw [List.mem_singleton.mp last]
    intro command mem
    obtain ⟨id, _, rfl⟩ := List.mem_map.mp mem
    exact ⟨captured.addr, captured.port, by rw [List.length_map]; rfl⟩

theorem sendsTo_checkAndStartProgram :
    SendsTo a p (checkAndStartProgram setting round) := by
  refine .withLock (.bind sendsNothing_current.preserves fun _ => .ite (fun _ => .pure _) fun _ =>
    .bind .read fun _ => .ite (fun _ => .pure _) fun _ =>
      .bind sendsNothing_current.preserves fun _ => .ite (fun _ => .pure _) fun _ =>
        .bind (.update fun _ captured => captured) fun _ =>
          .bind (sendsTo_startProgramOnNodes _ _) fun result => ?_)
  cases result with
  | error _ => exact .pure _
  | ok _ =>
      refine .bind (sendsNothing_transition _).preserves ?_
      intro result
      cases result <;> exact .pure _

theorem sendsTo_registerNew : SendsTo a p (registerNew setting req now round) := by
  refine .bind (.critical fun s captured => by rwa [Server.dispatch_admitNode]) fun admission => ?_
  cases admission with
  | error _ => exact .pure _
  | ok admitted =>
      refine .bind (.critical fun s captured => by rwa [Server.dispatch_registerSession]) fun _ =>
        .bind (.critical fun _ captured => captured) fun _ => .bind .read fun _ =>
          .bind sendsNothing_current.preserves fun _ => .ite (fun _ => ?_) fun _ => .pure _
      refine .bind (sendsTo_checkAndStartProgram setting round) ?_
      intro result
      cases result <;> exact .pure _

theorem sendsTo_registerBySession : SendsTo a p (registerBySession setting req now round) := by
  refine .bind (.bind (.withRLock .read) fun _ => .pure _) fun session => ?_
  cases session with
  | none => exact sendsTo_registerNew setting req now round
  | some session =>
      refine .bind .lock fun _ => .bind .read fun s => ?_
      cases s.nodes.lookup req.nodeId with
      | none => exact .bind .unlock fun _ => sendsTo_registerNew setting req now round
      | some node =>
          exact .bind (.critical fun _ captured => captured) fun _ =>
            .bind (.update fun _ captured => captured) fun _ => .bind .unlock fun _ => .pure _

end Register

/-! ## Reconfigurations -/

/-- The data a call of `reconfigureCluster` leaves behind. -/
def Reconfigured.data : Reconfigured → Server
  | .returned s => s
  | .exited s => s
  | .stuck s => s

/-- The environment of the server process holds the given master address. -/
def Setting.Directs (setting : Setting) (a p : String) : Prop :=
  setting.getenv "MASTER_ADDR" = a ∧ setting.getenv "MASTER_PORT" = p

instance (setting : Setting) (a p : String) : Decidable (setting.Directs a p) :=
  inferInstanceAs (Decidable (_ ∧ _))

section Reconfigure

variable {setting : Setting} {s : Server} {a p : String}

theorem Dispatch.Captured.steered {d : Dispatch} (captured : d.Captured a p) : d.Steered a p :=
  ⟨.inr ⟨captured.addr, captured.port⟩, captured.gathered⟩

theorem Dispatch.Steered.elsewhere {s s' : Server} (steered : s.dispatch.Steered a p)
    (same : s'.elsewhere = s.elsewhere) (gathered : ∀ commands ∈ s'.rounds, Gathers a p commands) :
    s'.dispatch.Steered a p := by
  have addr : s'.masterAddr = s.masterAddr := congrArg Elsewhere.masterAddr same
  have port : s'.masterPort = s.masterPort := congrArg Elsewhere.masterPort same
  refine ⟨?_, gathered⟩
  change s'.masterAddr = "" ∨ s'.masterAddr = a ∧ s'.masterPort = p
  rw [addr, port]
  exact steered.captured

/-- A notification addresses the configured number of nodes, so its commands gather. -/
theorem steered_notified (round : Round) (steered : s.dispatch.Steered a p)
    (bounded : s.nodes.count .active ≤ setting.config.activeNodes) (directs : setting.Directs a p)
    (enough : setting.config.activeNodes ≤ (s.chosen setting round).length) :
    (s.notified setting round).dispatch.Steered a p := by
  apply steered.elsewhere (Server.elsewhere_notified setting round s)
  intro commands mem
  rw [Server.rounds_notified] at mem
  rcases List.mem_append.mp mem with sent | last
  · exact steered.gathered commands sent
  have size : ((s.targets setting round).length : Int) = setting.config.activeNodes := by
    have same : (s.targets setting round).length = (s.chosen setting round).length :=
      (sortBy_perm _ _ _).length_eq
    rw [same]
    exact le_antisymm (Server.length_chosen_le bounded) enough
  rw [List.mem_singleton.mp last]
  intro command mem
  obtain ⟨id, _, rfl⟩ := List.mem_map.mp mem
  exact ⟨directs.1, directs.2, by rw [List.length_map, size]; rfl⟩

theorem steered_prepared {round : Round} (steered : s.dispatch.Steered a p) :
    (s.prepared setting round).dispatch.Steered a p := by
  refine steered.elsewhere (Server.elsewhere_notified setting round s) ?_
  intro commands mem
  have same : (s.prepared setting round).rounds = s.rounds := Server.rounds_promoteFrom _ _ _ s
  rw [same] at mem
  exact steered.gathered commands mem

theorem steered_resumed (steered : s.dispatch.Steered a p) : s.resumed.dispatch.Steered a p := by
  unfold Server.resumed
  split <;> exact steered

/-- With the right address in the environment, all attempts send commands that gather. -/
theorem steered_reconfigureFrom (rounds : Nat → Round) (clusterFree : Bool)
    (directs : setting.Directs a p) (left attempt : Nat) (steered : s.dispatch.Steered a p)
    (bounded : s.nodes.count .active ≤ setting.config.activeNodes) :
    (s.reconfigureFrom setting rounds clusterFree left attempt).data.dispatch.Steered a p := by
  induction left generalizing attempt s with
  | zero => exact steered
  | succ left ih =>
      rw [Server.reconfigureFrom]
      split
      · exact steered_prepared steered
      next few =>
        have notified := steered_notified (rounds attempt) steered bounded directs
          (not_lt.mp few)
        split
        · exact steered_resumed notified
        split
        · refine ih (attempt + 1) ?_ ?_
          · refine notified.elsewhere (Server.elsewhere_foldl_markFailed _ _) ?_
            intro commands mem
            rw [Server.rounds_marked] at mem
            exact notified.gathered commands mem
          · refine (Registry.count_le fun _ => Server.active_of_marked).trans ?_
            rw [Server.count_notified, ← Server.length_chosen]
            exact Server.length_chosen_le bounded
        · exact notified

/-- With too few nodes for the first attempt nothing is sent. -/
theorem steered_reconfigure (setting : Setting) (rounds : Nat → Round) (clusterFree : Bool)
    (steered : s.dispatch.Steered a p)
    (bounded : s.nodes.count .active ≤ setting.config.activeNodes)
    (directs : setting.config.activeNodes ≤ s.nodes.count .active + s.nodes.count .standby →
      setting.Directs a p) :
    (s.reconfigure setting rounds clusterFree).data.dispatch.Steered a p := by
  let entered : Server := { s with current := .reconfiguring }
  have enters : entered.dispatch.Steered a p := steered
  by_cases few : ((entered.chosen setting (rounds 0)).length : Int) < setting.config.activeNodes
  · change ((entered.reconfigureFrom setting rounds clusterFree (2 + 1) 0).data).dispatch.Steered a p
    rw [Server.reconfigureFrom, if_pos few]
    exact steered_prepared enters
  · exact steered_reconfigureFrom (s := entered) rounds clusterFree
      (directs (Server.le_length_chosen_iff.mp (not_lt.mp few))) maxAttempts 0 enters bounded

end Reconfigure

/-! ## Steps -/

/-- While no master address is captured, a registration carries the given one. -/
def FirstCarries (a p : String) (w : World) : Action → Prop
  | .register req _ _ => w.data.masterAddr = "" → req.masterAddr = a ∧ req.masterPort = p
  | _ => True

/-- The step sends restart commands, while the environment of the server process holds another
master address. -/
def Misdirects (setting : Setting) (a p : String) (w : World) : Action → Prop
  | .removeNode nodeID _ => ¬ setting.Directs a p ∧ w.locks .clusterMu = .free ∧
      w.data.nodes.statusOf nodeID = some .active ∧ w.data.current.reconfigurable ∧
      setting.config.activeNodes < w.data.nodes.count .active + w.data.nodes.count .standby
  | .reconfigure _ => ¬ setting.Directs a p ∧ w.data.current.reconfigurable ∧
      setting.config.activeNodes ≤ w.data.nodes.count .active + w.data.nodes.count .standby
  | _ => False

instance (a p : String) (w : World) : (act : Action) → Decidable (FirstCarries a p w act)
  | .register _ _ _ => inferInstanceAs (Decidable (_ → _))
  | .sendHeartbeat _ _ => inferInstanceAs (Decidable True)
  | .notifyFailure _ => inferInstanceAs (Decidable True)
  | .sendMetrics _ _ => inferInstanceAs (Decidable True)
  | .healthTick _ _ => inferInstanceAs (Decidable True)
  | .cleanupTick _ _ => inferInstanceAs (Decidable True)
  | .removeNode _ _ => inferInstanceAs (Decidable True)
  | .reconfigure _ => inferInstanceAs (Decidable True)

instance (setting : Setting) (a p : String) (w : World) :
    (act : Action) → Decidable (Misdirects setting a p w act)
  | .removeNode _ _ => inferInstanceAs (Decidable (_ ∧ _))
  | .reconfigure _ => inferInstanceAs (Decidable (_ ∧ _))
  | .register _ _ _ => inferInstanceAs (Decidable False)
  | .sendHeartbeat _ _ => inferInstanceAs (Decidable False)
  | .notifyFailure _ => inferInstanceAs (Decidable False)
  | .sendMetrics _ _ => inferInstanceAs (Decidable False)
  | .healthTick _ _ => inferInstanceAs (Decidable False)
  | .cleanupTick _ _ => inferInstanceAs (Decidable False)

theorem World.run_snd {α : Type} (op : Op α) (w : World) : (w.run op).2 = final (op.run w) := by
  rw [World.run]
  split <;> next run => rw [run, final]

section Steps

variable {setting : Setting} {s : Server} {locks : Lock → RWMutex} {a p : String}

theorem steered_of_sendsNothing {α : Type} {op : Op α} (nothing : SendsNothing op) {w : World}
    (steered : w.data.dispatch.Steered a p) : (w.run op).2.data.dispatch.Steered a p := by
  rw [World.run_snd]
  exact nothing.preserves w steered

/-- A registration captures the master address before it starts anything. -/
theorem steered_register (settled : Settled ⟨s, locks⟩) (steered : s.dispatch.Steered a p)
    {req : RegisterRequest} (now : Int) (round : Round)
    (first : FirstCarries a p ⟨s, locks⟩ (.register req now round)) :
    (World.run (register setting req now round) ⟨s, locks⟩).2.data.dispatch.Steered a p := by
  have captured : (s.captureMaster req).dispatch.Captured a p := by
    unfold Server.captureMaster
    split
    · next empty =>
        obtain ⟨addr, port⟩ := first empty
        exact ⟨addr, port, steered.gathered⟩
    · next full =>
        obtain ⟨addr, port⟩ := steered.captured.resolve_left full
        exact ⟨addr, port, steered.gathered⟩
  rw [World.run_snd, register, EStateM.run_bind, current_run settled.stateFree]
  change (final ((if s.current = .failed then _ else _ : Op _).run ⟨s, locks⟩)).data.dispatch.Steered a p
  split
  · exact steered
  · split
    · exact steered
    · exact (sendsTo_registerBySession setting req now round ⟨_, locks⟩ captured).steered

theorem steered_removed {nodeID : String} {status : Status} (steered : s.dispatch.Steered a p) :
    (s.removed nodeID status).dispatch.Steered a p := by
  cases status <;> exact steered

theorem steered_removeNode (settled : Settled ⟨s, locks⟩) (steered : s.dispatch.Steered a p)
    (bounded : s.nodes.count .active ≤ setting.config.activeNodes) {nodeID : String}
    {rounds : Nat → Round}
    (sound : ¬ Misdirects setting a p ⟨s, locks⟩ (.removeNode nodeID rounds)) :
    (World.run (removeNode setting nodeID rounds) ⟨s, locks⟩).2.data.dispatch.Steered a p := by
  rw [World.run_snd]
  have sent (clusterFree : locks .clusterMu = .free)
      (known : s.nodes.statusOf nodeID = some .active) (accepted : s.current.reconfigurable) :
      ((s.removed nodeID .active).reconfigure setting rounds false).data.dispatch.Steered a p := by
    refine steered_reconfigure setting rounds false (steered_removed steered) ?_ fun enough => ?_
    · have count := Registry.count_erase s.nodes nodeID .active
      change Registry.count (AList.erase nodeID s.nodes) .active ≤ _
      rw [count]
      split <;> omega
    · by_contra elsewhere
      rw [Server.count_removed known, Int.le_sub_one_iff] at enough
      exact sound ⟨elsewhere, clusterFree, known, accepted, enough⟩
  have ends := removeNode_ends setting settled rounds nodeID
  generalize (removeNode setting nodeID rounds).run ⟨s, locks⟩ = outcome at ends ⊢
  cases ends with
  | waiting held => exact steered
  | unknown refusal absent => exact steered
  | refused refusal refused => exact steered
  | inactive clusterFree known accepted inactive => exact steered_removed steered
  | returned clusterFree known accepted returns =>
      have sent := sent clusterFree known accepted
      rwa [returns] at sent
  | exited locks' clusterFree known accepted exits =>
      have sent := sent clusterFree known accepted
      rwa [exits] at sent
  | stuck clusterFree known accepted sticks =>
      have sent := sent clusterFree known accepted
      rwa [sticks] at sent

theorem steered_spawnedReconfigure (settled : Settled ⟨s, locks⟩) (steered : s.dispatch.Steered a p)
    (bounded : s.nodes.count .active ≤ setting.config.activeNodes) {rounds : Nat → Round}
    (sound : ¬ Misdirects setting a p ⟨s, locks⟩ (.reconfigure rounds)) :
    (World.run (spawnedReconfigure setting rounds) ⟨s, locks⟩).2.data.dispatch.Steered a p := by
  rw [World.run_snd]
  have sent (accepted : s.current.reconfigurable) := steered_reconfigure setting (s := s.scheduled)
    rounds (decide (locks .clusterMu = .free)) steered bounded fun enough => by
      by_contra elsewhere
      exact sound ⟨elsewhere, accepted, enough⟩
  have ends := spawnedReconfigure_ends setting settled rounds
  generalize (spawnedReconfigure setting rounds).run ⟨s, locks⟩ = outcome at ends ⊢
  cases ends with
  | refused locks' refused => exact steered
  | returned accepted returns =>
      have sent := sent accepted
      rw [returns] at sent
      exact ⟨sent.captured, sent.gathered⟩
  | exited locks' accepted exits =>
      have sent := sent accepted
      rwa [exits] at sent
  | stuck accepted sticks =>
      have sent := sent accepted
      rwa [sticks] at sent

/-- **A step that does not misdirect keeps the course**, also when it ends the process. -/
theorem steered_run {w : World} (settled : Settled w) (steered : w.data.dispatch.Steered a p)
    (bounded : w.data.nodes.count .active ≤ setting.config.activeNodes) {act : Action}
    (first : FirstCarries a p w act) (sound : ¬ Misdirects setting a p w act) :
    (act.run setting w).2.data.dispatch.Steered a p := by
  cases act with
  | register req now round => exact steered_register settled steered now round first
  | sendHeartbeat req now => exact steered_of_sendsNothing (Leaves.sendHeartbeat ignores_dispatch req now) steered
  | notifyFailure req => exact steered_of_sendsNothing (Leaves.notifyFailure ignores_dispatch req) steered
  | sendMetrics req order =>
      exact steered_of_sendsNothing (Leaves.sendMetrics ignores_dispatch req order) steered
  | healthTick now order =>
      exact steered_of_sendsNothing (sendsNothing_checkNodesHealth setting now order) steered
  | cleanupTick now order =>
      exact steered_of_sendsNothing (sendsNothing_cleanupDeadConnections setting now order) steered
  | removeNode nodeID rounds => exact steered_removeNode settled steered bounded sound
  | reconfigure rounds => exact steered_spawnedReconfigure settled steered bounded sound

theorem World.run_of_next {w w' : World} {act : Action} (next : w.next setting act = some w') :
    (act.run setting w).2 = w' := by
  rw [World.next] at next
  split at next
  · split at next
    · next run => rw [run, ← Option.some.inj next]
    · next run => rw [run, ← Option.some.inj next]
    · cases next
    · cases next
  · cases next

end Steps

/-- **Where the nodes gather.** Along a run without misdirected steps, every command of every round
carries the address of the first registration and the size of its round, and so do the commands of
one more step, even if it ends the process. -/
theorem gathers_of_run {deployment : Deployment} {a p : String} {w : World}
    (run : (system deployment).Run (fun w act => FirstCarries a p w act ∧
      ¬ Misdirects deployment.toSetting a p w act) w) :
    (∀ commands ∈ w.data.rounds, Gathers a p commands) ∧
      ∀ act : Action, FirstCarries a p w act → ¬ Misdirects deployment.toSetting a p w act →
        ∀ commands ∈ (act.run deployment.toSetting w).2.data.rounds, Gathers a p commands := by
  have known (w : World) (reachable : (system deployment).Reachable w) :
      Settled w ∧ w.data.nodes.count .active ≤ deployment.config.activeNodes :=
    ⟨settled_of_reachable reachable,
      (capped_of_reachable deployment.toSetting deployment.positive reachable).bounded .active _ rfl⟩
  have steered : w.data.dispatch.Steered a p := by
    refine run.inductOver (I := fun w => w.data.dispatch.Steered a p) known (fun w start => ?_)
      fun w act w' known steered allowed next => ?_
    · rw [show w = World.new deployment.toSetting from start]
      exact ⟨.inl rfl, fun commands mem => absurd mem List.not_mem_nil⟩
    · rw [← World.run_of_next next]
      exact steered_run known.1 steered known.2 allowed.1 allowed.2
  have settled := known w run.reachable
  exact ⟨steered.gathered, fun act first sound =>
    (steered_run settled.1 steered settled.2 first sound).gathered⟩

/-- The small deployment with the master address in the environment of the server process. -/
def directedDeployment : Deployment :=
  { smallDeployment with
    getenv := fun name => if name = "MASTER_ADDR" then "master" else "29500" }

/-- An active node fails and its cluster is reconfigured. -/
def failover (nodeID : String) : List Action :=
  [.notifyFailure ⟨nodeID, "exit", 1, "process"⟩, .reconfigure fun _ => .except []]

/-- With the master address in the environment, the restart follows the start. -/
theorem gathers_directed :
    ∃ w, (system directedDeployment).Run (fun w act => FirstCarries "master" "29500" w act ∧
        ¬ Misdirects directedDeployment.toSetting "master" "29500" w act) w ∧
      w.data.rounds.length = 2 ∧ ∀ commands ∈ w.data.rounds, Gathers "master" "29500" commands := by
  obtain ⟨w, run, rounds⟩ := System.exists_run (S := system directedDeployment)
    (C := fun w act => FirstCarries "master" "29500" w act ∧
      ¬ Misdirects directedDeployment.toSetting "master" "29500" w act)
    (fun w act => FirstCarries "master" "29500" w act ∧
      ¬ Misdirects directedDeployment.toSetting "master" "29500" w act)
    (gathering ++ failover "a.ns.1") (fun w => w.data.rounds.length = 2)
    (fun _ _ _ holds => of_decide_eq_true holds) rfl (by decide +kernel)
  exact ⟨w, run, of_decide_eq_true rounds, (gathers_of_run run).1⟩

/-- Without it, the restart sends the nodes to an empty address. -/
theorem restart_misdirected :
    ∃ w, (system smallDeployment).Run (FirstCarries "master" "29500") w ∧
      ∃ commands ∈ w.data.rounds, ¬ Gathers "master" "29500" commands := by
  obtain ⟨w, run, sent⟩ := System.exists_run (S := system smallDeployment)
    (C := FirstCarries "master" "29500")
    (fun w act => FirstCarries "master" "29500" w act) (gathering ++ failover "a.ns.1")
    (fun w => ∃ commands ∈ w.data.rounds, ∃ command ∈ commands, command.masterAddr = "")
    (fun _ _ _ holds => of_decide_eq_true holds) rfl (by decide +kernel)
  obtain ⟨commands, mem, command, sent, addr⟩ := of_decide_eq_true sent
  refine ⟨w, run, commands, mem, fun gathers => ?_⟩
  have same := (gathers command sent).1
  rw [addr] at same
  exact absurd same (by decide)

end C4D
