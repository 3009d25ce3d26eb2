import C4D.Foundations.Transition
import C4D.Server.Endings

/-!
# The server as a transition system

A step is one operation run to its end: a request, one of the two ticks, a
removal through the API, or a spawned reconfiguration. A step that waits for a
lock leaves the world as it was when it began to wait; it never goes on, since
nobody releases that lock. A step that ends the process has no successor.

`Effect` says once what each step can do, from a world between two steps
(`Settled`), and `Action.run_effect` that it says everything. Invariants are
proved by cases on it.
-/

set_option autoImplicit false

namespace C4D

open Foundations Guarded

/-! ## Steps -/

/-- The operations of the server, with everything the environment decides. -/
inductive Action where
  | register (req : RegisterRequest) (now : Int) (round : Round)
  | sendHeartbeat (req : HeartbeatRequest) (now : Int)
  | notifyFailure (req : FailureNotificationRequest)
  | sendMetrics (req : MetricsRequest) (order : Shuffle Int)
  | healthTick (now : Int) (order : Shuffle String)
  | cleanupTick (now : Int) (order : Shuffle String)
  | removeNode (nodeID : String) (rounds : Nat → Round)
  | reconfigure (rounds : Nat → Round)

/-- How an operation ends. -/
inductive Ending where
  | returned
  | blocked
  | exited
  | panicked
deriving DecidableEq

/-- Run an operation to its end, and forget its result. -/
def World.run {α : Type} (op : Op α) (w : World) : Ending × World :=
  match op.run w with
  | .ok _ w' => (.returned, w')
  | .error (.blocked _) w' => (.blocked, w')
  | .error .exited w' => (.exited, w')
  | .error .panicked w' => (.panicked, w')

namespace Action

/-- The operation of a step. -/
def run (setting : Setting) (w : World) : Action → Ending × World
  | .register req now round => w.run (C4D.register setting req now round)
  | .sendHeartbeat req now => w.run (C4D.sendHeartbeat req now)
  | .notifyFailure req => w.run (C4D.notifyFailure req)
  | .sendMetrics req order => w.run (C4D.sendMetrics req order)
  | .healthTick now order => w.run (checkNodesHealth setting now order)
  | .cleanupTick now order => w.run (cleanupDeadConnections setting now order)
  | .removeNode nodeID rounds => w.run (C4D.removeNode setting nodeID rounds)
  | .reconfigure rounds => w.run (spawnedReconfigure setting rounds)

/-- A reconfiguration runs when one was spawned. -/
def enabled (s : Server) : Action → Prop
  | .reconfigure _ => 0 < s.spawned
  | _ => True

instance (s : Server) (a : Action) : Decidable (a.enabled s) := by
  cases a <;> unfold enabled <;> infer_instance

end Action

/-- The world after a step, unless the process ended. -/
def World.next (setting : Setting) (w : World) (a : Action) : Option World :=
  if a.enabled w.data then
    match a.run setting w with
    | (.returned, w') => some w'
    | (.blocked, w') => some w'
    | (.exited, _) => none
    | (.panicked, _) => none
  else none

/-- The server started under a deployment. -/
def system (deployment : Deployment) : System World Action where
  init w := w = World.new deployment.toSetting
  next := World.next deployment.toSetting

/-- The server started under any setting. -/
def Setting.system (setting : Setting) : System World Action where
  init w := w = World.new setting
  next := World.next setting

/-! ## What a step can do -/

/-- The fields the claims of a server about its members are made of. -/
structure Membership where
  current : State
  nodes : Registry
  activeNodes : Int
  standbyNodes : Int
  failedNodes : Int
  spawned : Nat
  inFlight : Nat

namespace Server

def membership (s : Server) : Membership :=
  { current := s.current, nodes := s.nodes, activeNodes := s.activeNodes
    standbyNodes := s.standbyNodes, failedNodes := s.failedNodes
    spawned := s.spawned, inFlight := s.inFlight }

/-- The reconfigurations that were spawned and have not ended. -/
def pending (s : Server) : Nat := s.spawned + s.inFlight

end Server

/-- The members stay as they are, and so do their connections. -/
structure Kept (s s' : Server) : Prop where
  membership : s'.membership = s.membership
  connected : ∀ id, s.Connected id → s'.Connected id
  square : s.latencyMatrix.Square → s'.latencyMatrix.Square
  history : s'.statusWrites = s.statusWrites

namespace Kept

variable {s s' : Server}

theorem refl (s : Server) : Kept s s := ⟨rfl, fun _ h => h, fun h => h, rfl⟩

theorem nodes (kept : Kept s s') : s'.nodes = s.nodes := congrArg Membership.nodes kept.membership

theorem current (kept : Kept s s') : s'.current = s.current :=
  congrArg Membership.current kept.membership

theorem pending (kept : Kept s s') : s'.pending = s.pending :=
  congrArg (fun m : Membership => m.spawned + m.inFlight) kept.membership

theorem drift (kept : Kept s s') (status : Status) : s'.drift status = s.drift status := by
  rw [Server.drift, Server.drift, kept.nodes]
  cases status with
  | active => exact congrArg (· - _) (congrArg Membership.activeNodes kept.membership)
  | standby => exact congrArg (· - _) (congrArg Membership.standbyNodes kept.membership)
  | failed => exact congrArg (· - _) (congrArg Membership.failedNodes kept.membership)

end Kept

/-- Everything a step can do. -/
inductive Effect (setting : Setting) : World → Action → Ending → World → Prop where
  | kept {s s' : Server} {locks : Lock → RWMutex} (a : Action) (kept : Kept s s') :
      Effect setting ⟨s, locks⟩ a .returned ⟨s', locks⟩
  | waiting {s s' : Server} {locks : Lock → RWMutex} (a : Action) (l : Lock)
      (held : locks l ≠ .free) (kept : Kept s s') :
      Effect setting ⟨s, locks⟩ a .blocked ⟨s', locks⟩
  /-- Only reconfigurations end the process. -/
  | exited {w w' : World} (a : Action)
      (reconfigures : (∃ id rounds, a = .removeNode id rounds) ∨ ∃ rounds, a = .reconfigure rounds) :
      Effect setting w a .exited w'
  | panicked {s : Server} {locks : Lock → RWMutex} {w' : World} (req : MetricsRequest)
      (order : Shuffle Int) (crashes : req.crashes s) :
      Effect setting ⟨s, locks⟩ (.sendMetrics req order) .panicked w'
  /-- An admitted node waits for the registry. -/
  | counted {s counted : Server} {locks : Lock → RWMutex} (req : RegisterRequest) (now : Int)
      (round : Round) (status : Status) (rank : Int) (held : locks .registryMu ≠ .free)
      (accepting : s.current.accepting) (fresh : s.sessions.lookup req.nodeId = none)
      (admitted : (s.captureMaster req).admitNode setting = (.ok (status, rank), counted)) :
      Effect setting ⟨s, locks⟩ (.register req now round) .blocked
        ⟨counted.sessionRegistered req now status rank, locks⟩
  | enrolled {s counted : Server} {locks : Lock → RWMutex} (req : RegisterRequest) (now : Int)
      (round : Round) (status : Status) (rank : Int)
      (enrolls : Enrolls setting s locks req status rank counted) (ending : Ending)
      (ends : ending = .returned ∨ (ending = .blocked ∧ locks .clusterMu ≠ .free)) :
      Effect setting ⟨s, locks⟩ (.register req now round) ending
        ⟨counted.enrolled req now status rank, locks⟩
  /-- The last expected node starts the program, and some node does not answer. -/
  | startFailed {s counted : Server} {locks : Lock → RWMutex} (req : RegisterRequest) (now : Int)
      (round : Round) (status : Status) (rank : Int)
      (enrolls : Enrolls setting s locks req status rank counted)
      (complete : (counted.enrolled req now status rank).complete setting) :
      Effect setting ⟨s, locks⟩ (.register req now round) .returned
        ⟨(counted.enrolled req now status rank).started round, locks⟩
  /-- The last expected node starts the program. -/
  | started {s counted : Server} {locks : Lock → RWMutex} (req : RegisterRequest) (now : Int)
      (round : Round) (status : Status) (rank : Int)
      (enrolls : Enrolls setting s locks req status rank counted)
      (complete : (counted.enrolled req now status rank).complete setting)
      (enough : setting.config.expectedNodes - setting.config.standbyNodes ≤
        (counted.enrolled req now status rank).nodes.count .active) :
      Effect setting ⟨s, locks⟩ (.register req now round) .returned
        ⟨{ (counted.enrolled req now status rank).started round with current := .running }, locks⟩
  /-- A refused failure notification leaves the registry lock held. -/
  | leaked {s : Server} {locks : Lock → RWMutex} (req : FailureNotificationRequest) (status : Status)
      (registryFree : locks .registryMu = .free)
      (known : s.nodes.statusOf req.nodeId = some status) (working : status ≠ .failed)
      (refused : ¬ s.current.reconfigurable) :
      Effect setting ⟨s, locks⟩ (.notifyFailure req) .blocked
        ⟨s, Function.update locks .registryMu .written⟩
  | failedOver {s : Server} {locks : Lock → RWMutex} (req : FailureNotificationRequest)
      (status : Status) (registryFree : locks .registryMu = .free)
      (known : s.nodes.statusOf req.nodeId = some status) (working : status ≠ .failed)
      (accepted : s.current.reconfigurable) :
      Effect setting ⟨s, locks⟩ (.notifyFailure req) .returned
        ⟨((s.failedOver req.nodeId status).recordFailure req).2, locks⟩
  | timedOut {s : Server} {locks : Lock → RWMutex} (now : Int) (order : Shuffle String)
      (registryFree : locks .registryMu = .free) :
      Effect setting ⟨s, locks⟩ (.healthTick now order) .returned
        ⟨s.timedOut now setting order, locks⟩
  | cleanedUp {s : Server} {locks : Lock → RWMutex} (now : Int) (order : Shuffle String)
      (registryFree : locks .registryMu = .free) :
      Effect setting ⟨s, locks⟩ (.cleanupTick now order) .returned
        ⟨s.cleanedUp now setting order, locks⟩
  | removedInactive {s : Server} {locks : Lock → RWMutex} (nodeID : String) (rounds : Nat → Round)
      (status : Status) (clusterFree : locks .clusterMu = .free)
      (known : s.nodes.statusOf nodeID = some status) (accepted : s.current.reconfigurable)
      (inactive : status ≠ .active) :
      Effect setting ⟨s, locks⟩ (.removeNode nodeID rounds) .returned
        ⟨s.removed nodeID status, locks⟩
  | removedActive {s s' : Server} {locks : Lock → RWMutex} (nodeID : String) (rounds : Nat → Round)
      (clusterFree : locks .clusterMu = .free)
      (known : s.nodes.statusOf nodeID = some .active) (accepted : s.current.reconfigurable)
      (returns : (s.removed nodeID .active).reconfigure setting rounds false = .returned s') :
      Effect setting ⟨s, locks⟩ (.removeNode nodeID rounds) .returned ⟨s', locks⟩
  /-- A removal waits for the cluster lock it holds. -/
  | removedStuck {s s' : Server} {locks : Lock → RWMutex} (nodeID : String) (rounds : Nat → Round)
      (clusterFree : locks .clusterMu = .free)
      (known : s.nodes.statusOf nodeID = some .active) (accepted : s.current.reconfigurable)
      (sticks : (s.removed nodeID .active).reconfigure setting rounds false = .stuck s') :
      Effect setting ⟨s, locks⟩ (.removeNode nodeID rounds) .blocked
        ⟨s', Function.update locks .clusterMu .written⟩
  | reconfigured {s s' : Server} {locks : Lock → RWMutex} (rounds : Nat → Round)
      (spawned : 0 < s.spawned) (accepted : s.current.reconfigurable)
      (returns : s.scheduled.reconfigure setting rounds (decide (locks .clusterMu = .free)) =
        .returned s') :
      Effect setting ⟨s, locks⟩ (.reconfigure rounds) .returned
        ⟨{ s' with inFlight := s'.inFlight - 1 }, locks⟩
  | reconfigureStuck {s s' : Server} {locks : Lock → RWMutex} (rounds : Nat → Round)
      (spawned : 0 < s.spawned) (accepted : s.current.reconfigurable)
      (sticks : s.scheduled.reconfigure setting rounds (decide (locks .clusterMu = .free)) =
        .stuck s') :
      Effect setting ⟨s, locks⟩ (.reconfigure rounds) .blocked ⟨s', locks⟩

/-! ## Every step is an effect -/

section Run

variable {α : Type} {op : Op α} {w w' : World}

theorem World.run_of_ok {a : α} (run : op.run w = .ok a w') : w.run op = (.returned, w') := by
  rw [World.run, run]

theorem World.run_of_blocked {l : Lock} (run : op.run w = .error (.blocked l) w') :
    w.run op = (.blocked, w') := by
  rw [World.run, run]

theorem World.run_of_panicked (run : op.run w = .error .panicked w') :
    w.run op = (.panicked, w') := by
  rw [World.run, run]

end Run

section Effects

variable {setting : Setting} {s : Server} {locks : Lock → RWMutex}

/-- The effect of an operation, by what its run gives. -/
def EffectOf (setting : Setting) (w : World) (a : Action) (outcome : Ending × World) : Prop :=
  Effect setting w a outcome.1 outcome.2

theorem kept_captureMaster (req : RegisterRequest) : Kept s (s.captureMaster req) := by
  unfold Server.captureMaster
  split
  · exact ⟨rfl, fun _ h => h, fun h => h, rfl⟩
  · exact .refl s

theorem kept_reconnected (req : RegisterRequest) (now : Int) (node : NodeState) :
    Kept s ((s.captureMaster req).reconnected req now node) := by
  have captured := kept_captureMaster (s := s) req
  exact ⟨captured.membership, fun id connected =>
    (captured.connected id connected).update fun _ _ => rfl, captured.square, captured.history⟩

theorem register_effect (settled : Settled ⟨s, locks⟩) (req : RegisterRequest) (now : Int)
    (round : Round) :
    EffectOf setting ⟨s, locks⟩ (.register req now round)
      (Action.run setting ⟨s, locks⟩ (.register req now round)) := by
  rw [Action.run, World.run]
  have ends := register_ends setting settled req now round
  generalize (register setting req now round).run ⟨s, locks⟩ = outcome at ends ⊢
  cases ends with
  | refused refusal closed => exact .kept _ (.refl s)
  | reconnected response accepting registryFree found registered =>
      exact .kept _ (kept_reconnected req now _)
  | waiting accepting held found => exact .waiting _ .registryMu held (kept_captureMaster req)
  | full refusal accepting new refuses => exact .kept _ (kept_captureMaster req)
  | counted accepting fresh held admitted =>
      exact .counted req now round _ _ held accepting fresh admitted
  | enrolled response enrolls incomplete =>
      exact .enrolled req now round _ _ enrolls .returned (.inl rfl)
  | completing enrolls complete held =>
      exact .enrolled req now round _ _ enrolls .blocked (.inr ⟨rfl, held⟩)
  | short response enrolls complete clusterFree few =>
      exact .enrolled req now round _ _ enrolls .returned (.inl rfl)
  | started response enrolls complete clusterFree enough =>
      exact .started req now round _ _ enrolls complete enough
  | startFailed enrolls complete clusterFree enough silent =>
      exact .startFailed req now round _ _ enrolls complete

theorem sendHeartbeat_effect (req : HeartbeatRequest) (now : Int) :
    EffectOf setting ⟨s, locks⟩ (.sendHeartbeat req now)
      (Action.run setting ⟨s, locks⟩ (.sendHeartbeat req now)) := by
  rw [Action.run]
  by_cases registryFree : locks .registryMu = .free
  · obtain ⟨_, run⟩ := sendHeartbeat_run s req now registryFree
    rw [World.run_of_ok run]
    exact .kept _ ⟨rfl, fun _ h => h, fun h => h, rfl⟩
  · have run : (sendHeartbeat req now).run ⟨s, locks⟩ =
        .error (.blocked .registryMu) ⟨s, locks⟩ := by
      simp only [sendHeartbeat, EStateM.run_bind, critical_run_blocked registryFree]
    rw [World.run_of_blocked run]
    exact .waiting _ .registryMu registryFree (.refl s)

theorem notifyFailure_effect (settled : Settled ⟨s, locks⟩) (req : FailureNotificationRequest) :
    EffectOf setting ⟨s, locks⟩ (.notifyFailure req)
      (Action.run setting ⟨s, locks⟩ (.notifyFailure req)) := by
  rw [Action.run]
  rcases settled.registry with registryFree | ⟨held, _⟩
  · by_cases ignored : s.nodes.statusOf req.nodeId = none ∨
        s.nodes.statusOf req.nodeId = some .failed
    · obtain ⟨_, run⟩ := notifyFailure_run_ignored registryFree ignored
      rw [World.run_of_ok run]
      exact .kept _ (.refl s)
    · obtain ⟨unknown, failed⟩ := not_or.mp ignored
      obtain ⟨status, known⟩ := Option.ne_none_iff_exists'.mp unknown
      have working : status ≠ .failed := fun same => failed (same ▸ known)
      by_cases accepted : s.current.reconfigurable
      · obtain ⟨_, run⟩ := notifyFailure_run registryFree settled.stateFree known working accepted
        rw [World.run_of_ok run]
        exact .failedOver req status registryFree known working accepted
      · rw [World.run_of_blocked (notifyFailure_run_refused registryFree settled.stateFree known
          working accepted)]
        exact .leaked req status registryFree known working accepted
  · rw [World.run_of_blocked (notifyFailure_run_waiting held)]
    exact .waiting _ .registryMu (RWMutex.ne_free_of_written held) (.refl s)

theorem sendMetrics_effect (settled : Settled ⟨s, locks⟩) (req : MetricsRequest)
    (order : Shuffle Int) :
    EffectOf setting ⟨s, locks⟩ (.sendMetrics req order)
      (Action.run setting ⟨s, locks⟩ (.sendMetrics req order)) := by
  rw [Action.run]
  by_cases crashes : req.crashes s
  · obtain ⟨_, run⟩ := sendMetrics_run_crashes order settled.stateFree
      settled.metricsFree crashes
    rw [World.run_of_panicked run]
    exact .panicked req order crashes
  · obtain ⟨_, lm, square, run⟩ := sendMetrics_run order settled.stateFree settled.metricsFree
      settled.matrixFree settled.square crashes
    rw [World.run_of_ok run]
    exact .kept _ ⟨rfl, fun _ h => h, fun _ => square, rfl⟩

theorem healthTick_effect (settled : Settled ⟨s, locks⟩) (now : Int) (order : Shuffle String) :
    EffectOf setting ⟨s, locks⟩ (.healthTick now order)
      (Action.run setting ⟨s, locks⟩ (.healthTick now order)) := by
  rw [Action.run]
  rcases settled.registry with registryFree | ⟨held, _⟩
  · rw [World.run_of_ok (checkNodesHealth_run registryFree settled.sessionFree)]
    exact .timedOut now order registryFree
  · rw [World.run_of_blocked (checkNodesHealth_run_blocked held)]
    exact .waiting _ .registryMu (RWMutex.ne_free_of_written held) (.refl s)

theorem cleanupTick_effect (settled : Settled ⟨s, locks⟩) (now : Int) (order : Shuffle String) :
    EffectOf setting ⟨s, locks⟩ (.cleanupTick now order)
      (Action.run setting ⟨s, locks⟩ (.cleanupTick now order)) := by
  rw [Action.run]
  by_cases registryFree : locks .registryMu = .free
  · rw [World.run_of_ok (cleanupDeadConnections_run registryFree settled.sessionFree)]
    exact .cleanedUp now order registryFree
  · rw [cleanupDeadConnections, World.run_of_blocked (withLock_run_blocked registryFree _)]
    exact .waiting _ .registryMu registryFree (.refl s)

theorem removeNode_effect (settled : Settled ⟨s, locks⟩) (nodeID : String)
    (rounds : Nat → Round) :
    EffectOf setting ⟨s, locks⟩ (.removeNode nodeID rounds)
      (Action.run setting ⟨s, locks⟩ (.removeNode nodeID rounds)) := by
  rw [Action.run, World.run]
  have ends := removeNode_ends setting settled rounds nodeID
  generalize (removeNode setting nodeID rounds).run ⟨s, locks⟩ = outcome at ends ⊢
  cases ends with
  | waiting held => exact .waiting _ .clusterMu held (.refl s)
  | unknown refusal absent => exact .kept _ (.refl s)
  | refused refusal refused => exact .kept _ (.refl s)
  | inactive clusterFree known accepted inactive =>
      exact .removedInactive nodeID rounds _ clusterFree known accepted inactive
  | returned clusterFree known accepted returns =>
      exact .removedActive nodeID rounds clusterFree known accepted returns
  | exited locks' clusterFree known accepted exits => exact .exited _ (.inl ⟨nodeID, rounds, rfl⟩)
  | stuck clusterFree known accepted sticks =>
      exact .removedStuck nodeID rounds clusterFree known accepted sticks

theorem reconfigure_effect (settled : Settled ⟨s, locks⟩) (rounds : Nat → Round)
    (spawned : 0 < s.spawned) :
    EffectOf setting ⟨s, locks⟩ (.reconfigure rounds)
      (Action.run setting ⟨s, locks⟩ (.reconfigure rounds)) := by
  rw [Action.run, World.run]
  have ends := spawnedReconfigure_ends setting settled rounds
  generalize (spawnedReconfigure setting rounds).run ⟨s, locks⟩ = outcome at ends ⊢
  cases ends with
  | refused locks' refused => exact .exited _ (.inr ⟨rounds, rfl⟩)
  | returned accepted returns => exact .reconfigured rounds spawned accepted returns
  | exited locks' accepted exits => exact .exited _ (.inr ⟨rounds, rfl⟩)
  | stuck accepted sticks => exact .reconfigureStuck rounds spawned accepted sticks

/-- **Every step from a settled world is one of the effects.** -/
theorem Action.run_effect (setting : Setting) (settled : Settled ⟨s, locks⟩) (a : Action)
    (enabled : a.enabled s) :
    EffectOf setting ⟨s, locks⟩ a (a.run setting ⟨s, locks⟩) := by
  cases a with
  | register req now round => exact register_effect settled req now round
  | sendHeartbeat req now => exact sendHeartbeat_effect req now
  | notifyFailure req => exact notifyFailure_effect settled req
  | sendMetrics req order => exact sendMetrics_effect settled req order
  | healthTick now order => exact healthTick_effect settled now order
  | cleanupTick now order => exact cleanupTick_effect settled now order
  | removeNode nodeID rounds => exact removeNode_effect settled nodeID rounds
  | reconfigure rounds => exact reconfigure_effect settled rounds enabled

end Effects

/-- The run behind a step that leads to a world. -/
theorem World.runs_of_next {setting : Setting} {w w' : World} {a : Action}
    (next : w.next setting a = some w') : ∃ ending, (ending = .returned ∨ ending = .blocked) ∧
      a.enabled w.data ∧ a.run setting w = (ending, w') := by
  unfold World.next at next
  split at next
  · next enabled =>
      rcases outcome : a.run setting w with ⟨_ | _ | _ | _, after⟩
      all_goals rw [outcome] at next
      · exact ⟨_, .inl rfl, enabled, by rw [Option.some.inj next]⟩
      · exact ⟨_, .inr rfl, enabled, by rw [Option.some.inj next]⟩
      · cases next
      · cases next
  · cases next

/-- The effect behind a step that leads to a world. -/
theorem World.effect_of_next {setting : Setting} {w w' : World} {a : Action} (settled : Settled w)
    (next : w.next setting a = some w') :
    ∃ ending, (ending = .returned ∨ ending = .blocked) ∧ Effect setting w a ending w' := by
  obtain ⟨ending, ends, enabled, run⟩ := World.runs_of_next next
  have effect := Action.run_effect setting settled a enabled
  rw [run] at effect
  exact ⟨ending, ends, effect⟩

/-! ## Steps lead from settled worlds to settled worlds -/

section Settles

variable {setting : Setting} {s s' : Server} {locks : Lock → RWMutex}

theorem Settled.move (settled : Settled ⟨s, locks⟩) (matrix : s'.latencyMatrix = s.latencyMatrix)
    (alive : s'.current.alive)
    (registry : locks .registryMu = .free ∨ s'.current = s.current) : Settled ⟨s', locks⟩ where
  stateFree := settled.stateFree
  metricsFree := settled.metricsFree
  sessionFree := settled.sessionFree
  matrixFree := settled.matrixFree
  registry := by
    rcases settled.registry with free | ⟨held, initializing⟩
    · exact .inl free
    · rcases registry with free | same
      · exact .inl free
      · exact .inr ⟨held, same.trans initializing⟩
  alive := alive
  square := by
    have square := settled.square
    rw [← matrix] at square
    exact square

/-- What keeps the lifecycle keeps the world settled. -/
theorem Settled.lifecycle (settled : Settled ⟨s, locks⟩) (same : s'.lifecycle = s.lifecycle) :
    Settled ⟨s', locks⟩ := by
  have current : s'.current = s.current := congrArg Lifecycle.current same
  exact settled.move (congrArg Lifecycle.latencyMatrix same)
    (by rw [current]; exact settled.alive) (.inr current)

theorem Settled.keep (settled : Settled ⟨s, locks⟩) (kept : Kept s s') : Settled ⟨s', locks⟩ :=
  { settled with
    registry := settled.registry.imp_right fun held => ⟨held.1, kept.current.trans held.2⟩
    alive := (congrArg State.alive kept.current).mpr settled.alive
    square := kept.square settled.square }

theorem Settled.hold (settled : Settled ⟨s, locks⟩)
    (initializing : s.current = .initializing) :
    Settled ⟨s, Function.update locks .registryMu .written⟩ where
  stateFree := settled.stateFree
  metricsFree := settled.metricsFree
  sessionFree := settled.sessionFree
  matrixFree := settled.matrixFree
  registry := .inr ⟨Function.update_self Lock.registryMu _ locks, initializing⟩
  alive := settled.alive
  square := settled.square

theorem Settled.holdCluster (settled : Settled ⟨s, locks⟩) :
    Settled ⟨s, Function.update locks .clusterMu .written⟩ where
  stateFree := settled.stateFree
  metricsFree := settled.metricsFree
  sessionFree := settled.sessionFree
  matrixFree := settled.matrixFree
  registry := settled.registry
  alive := settled.alive
  square := settled.square

theorem lifecycle_removed (nodeID : String) (status : Status) :
    (s.removed nodeID status).lifecycle = { s.lifecycle with current := .reconfiguring } := by
  cases status <;> rfl

/-- **A step leads from a settled world to a settled world.** -/
theorem Settled.effect {w w' : World} {a : Action} {ending : Ending} (settled : Settled w)
    (ends : ending = .returned ∨ ending = .blocked) (effect : Effect setting w a ending w') :
    Settled w' := by
  cases effect with
  | kept a kept => exact settled.keep kept
  | waiting a l held kept => exact settled.keep kept
  | exited a reconfigures => rcases ends with ends | ends <;> cases ends
  | panicked req order crashes => rcases ends with ends | ends <;> cases ends
  | counted req now round status rank held accepting fresh admitted =>
      apply settled.lifecycle
      obtain ⟨_, _, same⟩ := Server.sessionRegistered_eq _ req now status rank
      rw [same]
      exact (Server.counted_of_admits admitted).lifecycle
  | enrolled req now round status rank enrolls ending ends =>
      exact settled.lifecycle (Server.lifecycle_enrolled req now (Server.counted_of_admits enrolls.admitted))
  | startFailed req now round status rank enrolls complete =>
      exact settled.lifecycle (Server.lifecycle_enrolled req now (Server.counted_of_admits enrolls.admitted))
  | started req now round status rank enrolls complete enough =>
      have lifecycle := Server.lifecycle_enrolled req now
        (Server.counted_of_admits enrolls.admitted)
      exact settled.move (congrArg Lifecycle.latencyMatrix lifecycle) (.inr (.inl rfl))
        (.inl enrolls.registryFree)
  | leaked req status registryFree known working refused =>
      exact settled.hold (settled.initializing_of_refused refused)
  | failedOver req status registryFree known working accepted =>
      exact settled.move (congrArg Lifecycle.latencyMatrix (Server.lifecycle_failedOver ..))
        (.inr (.inr (congrArg Lifecycle.current (Server.lifecycle_failedOver ..)))) (.inl registryFree)
  | timedOut now order registryFree =>
      exact settled.lifecycle (Server.expired_timedOut setting now order).lifecycle
  | cleanedUp now order registryFree =>
      exact settled.lifecycle (Server.departed_cleanedUp setting now order).2
  | removedInactive nodeID rounds status clusterFree known accepted inactive =>
      exact settled.move (congrArg Lifecycle.latencyMatrix (lifecycle_removed nodeID status))
        (.inr (.inr (congrArg Lifecycle.current (lifecycle_removed nodeID status))))
        (.inl (settled.registryFree accepted))
  | removedActive nodeID rounds clusterFree known accepted returns =>
      have elsewhere := (Server.returned_of_reconfigure returns).elsewhere
      exact settled.move (congrArg Elsewhere.latencyMatrix elsewhere)
        (.inr (.inl (congrArg Elsewhere.current elsewhere))) (.inl (settled.registryFree accepted))
  | removedStuck nodeID rounds clusterFree known accepted sticks =>
      have elsewhere := (Server.underway_of_stuck sticks).2.elsewhere
      exact (settled.move (congrArg Elsewhere.latencyMatrix elsewhere)
        (.inr (.inr (congrArg Elsewhere.current elsewhere)))
        (.inl (settled.registryFree accepted))).holdCluster
  | reconfigured rounds spawned accepted returns =>
      have elsewhere := (Server.returned_of_reconfigure returns).elsewhere
      exact settled.move (congrArg Elsewhere.latencyMatrix elsewhere)
        (.inr (.inl (congrArg Elsewhere.current elsewhere))) (.inl (settled.registryFree accepted))
  | reconfigureStuck rounds spawned accepted sticks =>
      have elsewhere := (Server.underway_of_stuck sticks).2.elsewhere
      exact settled.move (congrArg Elsewhere.latencyMatrix elsewhere)
        (.inr (.inr (congrArg Elsewhere.current elsewhere))) (.inl (settled.registryFree accepted))

end Settles

theorem settled_new (setting : Setting) : Settled (World.new setting) :=
  ⟨rfl, rfl, rfl, rfl, .inl rfl, .inl rfl, square_newLatencyMatrix _⟩

/-- **Every reachable world is settled.** -/
theorem Setting.settled_of_reachable (setting : Setting) {w : World}
    (reachable : setting.system.Reachable w) : Settled w := by
  refine reachable.induct (fun w initial => ?_) fun w a w' settled _ next => ?_
  · rw [show w = World.new setting from initial]
    exact settled_new _
  · obtain ⟨ending, ends, effect⟩ := World.effect_of_next settled next
    exact settled.effect ends effect

theorem settled_of_reachable {deployment : Deployment} {w : World}
    (reachable : (system deployment).Reachable w) : Settled w :=
  deployment.toSetting.settled_of_reachable reachable

/-- **The invariant rule of the server.** What holds of the fresh server and is kept by every
effect of an allowed step holds along every run. Other invariants of reachable worlds may be
used. -/
theorem Setting.invariant_of_run (setting : Setting) {C : World → Action → Prop}
    {I J : World → Prop} (known : ∀ w, setting.system.Reachable w → J w)
    (initial : I (World.new setting))
    (kept : ∀ {w w' : World} {a : Action} {ending : Ending}, Settled w → J w → I w → C w a →
      (ending = .returned ∨ ending = .blocked) → Effect setting w a ending w' → I w')
    {w : World} (run : setting.system.Run C w) : I w := by
  refine run.inductOver (J := fun w => Settled w ∧ J w)
    (fun w reachable => ⟨setting.settled_of_reachable reachable, known w reachable⟩)
    (fun w start => ?_) fun w a w' holds invariant allowed next => ?_
  · rw [show w = World.new setting from start]
    exact initial
  · obtain ⟨ending, ends, effect⟩ := World.effect_of_next holds.1 next
    exact kept holds.1 holds.2 invariant allowed ends effect

theorem invariant_of_run {deployment : Deployment} {C : World → Action → Prop} {I J : World → Prop}
    (known : ∀ w, (system deployment).Reachable w → J w)
    (initial : I (World.new deployment.toSetting))
    (kept : ∀ {w w' : World} {a : Action} {ending : Ending}, Settled w → J w → I w → C w a →
      (ending = .returned ∨ ending = .blocked) → Effect deployment.toSetting w a ending w' → I w')
    {w : World} (run : (system deployment).Run C w) : I w :=
  deployment.toSetting.invariant_of_run known initial kept run

/-! ## A cluster that starts -/

/-- The registration of a node whose commands are all answered. -/
def enlist (nodeID nodeURL : String) : Action :=
  .register ⟨nodeID, nodeURL, "master", "29500"⟩ 0 (.except [])

/-- Three active nodes and a standby node register, and the program is started. -/
def gathering : List Action :=
  [enlist "a.ns.1" "http://a.ns:1", enlist "b.ns.1" "http://b.ns:1",
    enlist "c.ns.1" "http://c.ns:1", enlist "d.ns.1" "http://d.ns:1"]

/-- The step is a registration, and nothing is running yet. -/
def Action.gathers (w : World) : Action → Bool
  | .register _ _ _ => w.data.current = .initializing ∧ w.locks .registryMu = .free
  | _ => false

/-- The cluster starts in every run that allows registrations before the start. -/
theorem gathered {C : World → Action → Prop}
    (sound : ∀ w a, Action.gathers w a = true → C w a) :
    ∃ w, (system smallDeployment).Run C w ∧ w.data.current = .running ∧ w.data.pending = 0 ∧
      w.data.nodes.count .active = 3 ∧ w.data.nodes.statusOf "a.ns.1" = some .active := by
  obtain ⟨w, run, holds⟩ := System.exists_run (S := system smallDeployment) Action.gathers
    gathering (fun w => w.data.current = .running ∧ w.data.pending = 0 ∧
      w.data.nodes.count .active = 3 ∧ w.data.nodes.statusOf "a.ns.1" = some .active)
    (fun w a _ => sound w a) rfl (by decide +kernel)
  exact ⟨w, run, of_decide_eq_true holds⟩

theorem Action.of_gathers {w : World} {a : Action} (gathers : Action.gathers w a = true) :
    (∃ req now round, a = .register req now round) ∧ w.data.current = .initializing ∧
      w.locks .registryMu = .free := by
  cases a with
  | register req now round => exact ⟨⟨req, now, round, rfl⟩, of_decide_eq_true gathers⟩
  | _ => cases gathers

end C4D
