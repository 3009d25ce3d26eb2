import C4D.Server.Bookkeeping

/-!
# How the operations on the members end

Between two steps every lock is free, apart from the registry lock and the cluster lock
(`Settled`). `RegisterEnds`, `RemoveNodeEnds` and `SpawnedReconfigureEnds` list the ways in
which `Register`, `removeNode` and a spawned reconfiguration end from there, each with what
was met and what is left. What a step does to the members is proved by cases on them.
-/

set_option autoImplicit false

namespace C4D

open Foundations Guarded

/-! ## The world between two steps -/

/-- The states of a server that runs. -/
def State.alive (state : State) : Prop :=
  state = .initializing ∨ state = .running ∨ state = .reconfiguring

/-- The world between two steps. -/
structure Settled (w : World) : Prop where
  stateFree : w.locks .stateMu = .free
  metricsFree : w.locks .metricsMu = .free
  sessionFree : w.locks .sessionMu = .free
  matrixFree : w.locks .matrixMu = .free
  /-- The registry lock was left held in `Initializing`, if at all. -/
  registry : w.locks .registryMu = .free ∨
    (w.locks .registryMu = .written ∧ w.data.current = .initializing)
  alive : w.data.current.alive
  square : w.data.latencyMatrix.Square

namespace Settled

variable {s : Server} {locks : Lock → RWMutex} (settled : Settled ⟨s, locks⟩)

include settled

theorem registryFree (accepted : s.current.reconfigurable) : locks .registryMu = .free := by
  rcases settled.registry with free | ⟨_, initializing⟩
  · exact free
  · rcases accepted with same | same <;> cases initializing.symm.trans same

theorem ne_failed : s.current ≠ .failed := by
  intro failed
  rcases settled.alive with same | same | same <;> cases failed.symm.trans same

theorem initializing_of_refused (refused : ¬ s.current.reconfigurable) :
    s.current = .initializing := by
  rcases settled.alive with same | same
  · exact same
  · exact absurd same refused

end Settled

variable {setting : Setting} {s : Server} {locks : Lock → RWMutex}

/-! ## Register -/

/-- `Register` admits a node that it does not know. -/
structure Enrolls (setting : Setting) (s : Server) (locks : Lock → RWMutex) (req : RegisterRequest)
    (status : Status) (rank : Int) (counted : Server) : Prop where
  registryFree : locks .registryMu = .free
  accepting : s.current.accepting
  unknown : s.sessions.lookup req.nodeId = none ∨ s.nodes.lookup req.nodeId = none
  admitted : (s.captureMaster req).admitNode setting = (.ok (status, rank), counted)

/-- `Register` takes the request for that of a new node. -/
def World.TakesForNew (w : World) (req : RegisterRequest) : Prop :=
  w.data.sessions.lookup req.nodeId = none ∨
    (w.locks .registryMu = .free ∧ w.data.nodes.lookup req.nodeId = none)

/-- Every way in which a call of `Register` ends. -/
inductive RegisterEnds (setting : Setting) (req : RegisterRequest) (now : Int) (round : Round)
    (s : Server) (locks : Lock → RWMutex) :
    EStateM.Result (Halt Lock) World (Except GrpcError RegisterResponse) → Prop where
  | refused (refusal : GrpcError) (closed : ¬ s.current.accepting) :
      RegisterEnds setting req now round s locks (.ok (.error refusal) ⟨s, locks⟩)
  | reconnected {session : SessionState} {node : NodeState} (response : RegisterResponse)
      (accepting : s.current.accepting) (registryFree : locks .registryMu = .free)
      (found : s.sessions.lookup req.nodeId = some session)
      (registered : s.nodes.lookup req.nodeId = some node) :
      RegisterEnds setting req now round s locks
        (.ok (.ok response) ⟨(s.captureMaster req).reconnected req now node, locks⟩)
  /-- A node with a session waits for the registry. -/
  | waiting {session : SessionState} (accepting : s.current.accepting)
      (held : locks .registryMu ≠ .free) (found : s.sessions.lookup req.nodeId = some session) :
      RegisterEnds setting req now round s locks
        (.error (.blocked .registryMu) ⟨s.captureMaster req, locks⟩)
  /-- There is no place for a new node. -/
  | full (refusal : GrpcError) (accepting : s.current.accepting)
      (new : World.TakesForNew ⟨s, locks⟩ req)
      (refuses : (s.captureMaster req).admitNode setting = (.error refusal, s.captureMaster req)) :
      RegisterEnds setting req now round s locks
        (.ok (.error refusal) ⟨s.captureMaster req, locks⟩)
  /-- An admitted node waits for the registry. -/
  | counted {status : Status} {rank : Int} {counted : Server} (accepting : s.current.accepting)
      (fresh : s.sessions.lookup req.nodeId = none) (held : locks .registryMu ≠ .free)
      (admitted : (s.captureMaster req).admitNode setting = (.ok (status, rank), counted)) :
      RegisterEnds setting req now round s locks
        (.error (.blocked .registryMu) ⟨counted.sessionRegistered req now status rank, locks⟩)
  | enrolled {status : Status} {rank : Int} {counted : Server} (response : RegisterResponse)
      (enrolls : Enrolls setting s locks req status rank counted)
      (incomplete : ¬ (counted.enrolled req now status rank).complete setting) :
      RegisterEnds setting req now round s locks
        (.ok (.ok response) ⟨counted.enrolled req now status rank, locks⟩)
  /-- The last expected node waits for the cluster lock. -/
  | completing {status : Status} {rank : Int} {counted : Server}
      (enrolls : Enrolls setting s locks req status rank counted)
      (complete : (counted.enrolled req now status rank).complete setting)
      (held : locks .clusterMu ≠ .free) :
      RegisterEnds setting req now round s locks
        (.error (.blocked .clusterMu) ⟨counted.enrolled req now status rank, locks⟩)
  /-- The last expected node starts nothing, since active nodes are missing. -/
  | short {status : Status} {rank : Int} {counted : Server} (response : RegisterResponse)
      (enrolls : Enrolls setting s locks req status rank counted)
      (complete : (counted.enrolled req now status rank).complete setting)
      (clusterFree : locks .clusterMu = .free)
      (few : (counted.enrolled req now status rank).nodes.count .active <
        setting.config.expectedNodes - setting.config.standbyNodes) :
      RegisterEnds setting req now round s locks
        (.ok (.ok response) ⟨counted.enrolled req now status rank, locks⟩)
  | started {status : Status} {rank : Int} {counted : Server} (response : RegisterResponse)
      (enrolls : Enrolls setting s locks req status rank counted)
      (complete : (counted.enrolled req now status rank).complete setting)
      (clusterFree : locks .clusterMu = .free)
      (enough : setting.config.expectedNodes - setting.config.standbyNodes ≤
        (counted.enrolled req now status rank).nodes.count .active) :
      RegisterEnds setting req now round s locks (.ok (.ok response)
        ⟨{ (counted.enrolled req now status rank).started round with current := .running }, locks⟩)
  /-- Some node does not answer its start command. -/
  | startFailed {status : Status} {rank : Int} {counted : Server}
      (enrolls : Enrolls setting s locks req status rank counted)
      (complete : (counted.enrolled req now status rank).complete setting)
      (clusterFree : locks .clusterMu = .free)
      (enough : setting.config.expectedNodes - setting.config.standbyNodes ≤
        (counted.enrolled req now status rank).nodes.count .active)
      (silent : ¬ ((counted.enrolled req now status rank).startTargets round).all round.answers) :
      RegisterEnds setting req now round s locks
        (.ok (.error ⟨.internal, "failed to start programs"⟩)
          ⟨(counted.enrolled req now status rank).started round, locks⟩)

section Register

variable (settled : Settled ⟨s, locks⟩) {req : RegisterRequest} {now : Int} {round : Round}

include settled

/-- A node without a session, or one that is no longer registered, is registered anew. -/
theorem register_run_new (accepting : s.current.accepting)
    (new : World.TakesForNew ⟨s, locks⟩ req) :
    (register setting req now round).run ⟨s, locks⟩ =
      (registerNew setting req now round).run ⟨s.captureMaster req, locks⟩ := by
  cases session : s.sessions.lookup req.nodeId with
  | none =>
      exact register_run_fresh setting req now round settled.stateFree settled.sessionFree accepting
        session
  | some existing =>
      rcases new with fresh | ⟨registryFree, unregistered⟩
      · cases session.symm.trans fresh
      · exact register_run_unregistered setting req now round settled.stateFree settled.sessionFree
          accepting session registryFree unregistered

variable (now round)

/-- A new node is admitted by the counters, and the last expected one starts the program. -/
theorem registerNew_ends (accepting : s.current.accepting)
    (new : World.TakesForNew ⟨s, locks⟩ req) :
    RegisterEnds setting req now round s locks
      ((registerNew setting req now round).run ⟨s.captureMaster req, locks⟩) := by
  rcases admission : (s.captureMaster req).admitNode setting with
    ⟨refusal | ⟨status, rank⟩, counted⟩
  · obtain rfl := Server.eq_of_refused admission
    rw [registerNew_run_full setting req now round settled.metricsFree admission]
    exact .full refusal accepting new admission
  by_cases registryFree : locks .registryMu = .free
  case neg =>
    rw [registerNew_run_blocked setting req now round settled.metricsFree admission
      settled.sessionFree registryFree]
    exact .counted accepting (new.resolve_right fun free => registryFree free.1) registryFree
      admission
  have enrolls : Enrolls setting s locks req status rank counted :=
    ⟨registryFree, accepting, new.imp_right And.right, admission⟩
  by_cases complete : (counted.enrolled req now status rank).complete setting
  case neg =>
    obtain ⟨response, run⟩ := registerNew_run_enrolled setting req now round settled.metricsFree
      admission settled.sessionFree registryFree settled.stateFree complete
    rw [run]
    exact .enrolled response enrolls complete
  by_cases clusterFree : locks .clusterMu = .free
  case neg =>
    rw [registerNew_run_complete_blocked setting req now round settled.metricsFree admission
      settled.sessionFree registryFree settled.stateFree complete clusterFree]
    exact .completing enrolls complete clusterFree
  have run {result : Except ClusterError Unit} {w : World}
      (starts : (checkAndStartProgram setting round).run
        ⟨counted.enrolled req now status rank, locks⟩ = .ok result w) :=
    registerNew_run_complete setting req now round settled.metricsFree admission
      settled.sessionFree registryFree settled.stateFree complete starts
  rcases lt_or_ge ((counted.enrolled req now status rank).nodes.count .active)
    (setting.config.expectedNodes - setting.config.standbyNodes) with few | enough
  · obtain ⟨response, run⟩ := run (checkAndStartProgram_run_waiting setting round clusterFree
      settled.stateFree complete.2 few)
    rw [run]
    exact .short response enrolls complete clusterFree few
  · have starts := checkAndStartProgram_run setting round clusterFree settled.stateFree complete.2
      enough
    split at starts
    · obtain ⟨response, run⟩ := run starts
      rw [run]
      exact .started response enrolls complete clusterFree enough
    · next silent =>
        obtain ⟨_, run⟩ := run starts
        rw [run]
        exact .startFailed enrolls complete clusterFree enough silent

variable (setting req)

theorem register_ends : RegisterEnds setting req now round s locks
    ((register setting req now round).run ⟨s, locks⟩) := by
  by_cases accepting : s.current.accepting
  case neg =>
    obtain ⟨refusal, run⟩ := register_run_refused setting req now round settled.stateFree
      (not_or.mp accepting)
    rw [run]
    exact .refused refusal accepting
  cases session : s.sessions.lookup req.nodeId with
  | none =>
      rw [register_run_new settled accepting (.inl session)]
      exact registerNew_ends settled now round accepting (.inl session)
  | some existing =>
      by_cases registryFree : locks .registryMu = .free
      case neg =>
        rw [register_run_blocked setting req now round settled.stateFree settled.sessionFree
          accepting session registryFree]
        exact .waiting accepting registryFree session
      cases registered : s.nodes.lookup req.nodeId with
      | none =>
          rw [register_run_new settled accepting (.inr ⟨registryFree, registered⟩)]
          exact registerNew_ends settled now round accepting (.inr ⟨registryFree, registered⟩)
      | some node =>
          obtain ⟨response, run⟩ := register_run_reconnected setting req now round
            settled.stateFree settled.sessionFree accepting session registryFree registered
          rw [run]
          exact .reconnected response accepting registryFree session registered

end Register

/-! ## Removals and reconfigurations -/

/-- Every way in which a removal ends. -/
inductive RemoveNodeEnds (setting : Setting) (nodeID : String) (rounds : Nat → Round) (s : Server)
    (locks : Lock → RWMutex) :
    EStateM.Result (Halt Lock) World (Except ClusterError Unit) → Prop where
  | waiting (held : locks .clusterMu ≠ .free) :
      RemoveNodeEnds setting nodeID rounds s locks (.error (.blocked .clusterMu) ⟨s, locks⟩)
  | unknown (refusal : ClusterError) (absent : s.nodes.statusOf nodeID = none) :
      RemoveNodeEnds setting nodeID rounds s locks (.ok (.error refusal) ⟨s, locks⟩)
  | refused (refusal : ClusterError) (refused : ¬ s.current.reconfigurable) :
      RemoveNodeEnds setting nodeID rounds s locks (.ok (.error refusal) ⟨s, locks⟩)
  | inactive {status : Status} (clusterFree : locks .clusterMu = .free)
      (known : s.nodes.statusOf nodeID = some status) (accepted : s.current.reconfigurable)
      (inactive : status ≠ .active) :
      RemoveNodeEnds setting nodeID rounds s locks (.ok (.ok ()) ⟨s.removed nodeID status, locks⟩)
  | returned {s' : Server} (clusterFree : locks .clusterMu = .free)
      (known : s.nodes.statusOf nodeID = some .active) (accepted : s.current.reconfigurable)
      (returns : (s.removed nodeID .active).reconfigure setting rounds false = .returned s') :
      RemoveNodeEnds setting nodeID rounds s locks (.ok (.ok ()) ⟨s', locks⟩)
  | exited {s' : Server} (locks' : Lock → RWMutex) (clusterFree : locks .clusterMu = .free)
      (known : s.nodes.statusOf nodeID = some .active) (accepted : s.current.reconfigurable)
      (exits : (s.removed nodeID .active).reconfigure setting rounds false = .exited s') :
      RemoveNodeEnds setting nodeID rounds s locks (.error .exited ⟨s', locks'⟩)
  /-- It waits for the cluster lock it holds. -/
  | stuck {s' : Server} (clusterFree : locks .clusterMu = .free)
      (known : s.nodes.statusOf nodeID = some .active) (accepted : s.current.reconfigurable)
      (sticks : (s.removed nodeID .active).reconfigure setting rounds false = .stuck s') :
      RemoveNodeEnds setting nodeID rounds s locks
        (.error (.blocked .clusterMu) ⟨s', Function.update locks .clusterMu .written⟩)

/-- Every way in which a spawned reconfiguration ends. -/
inductive SpawnedReconfigureEnds (setting : Setting) (rounds : Nat → Round) (s : Server)
    (locks : Lock → RWMutex) : EStateM.Result (Halt Lock) World Unit → Prop where
  | refused (locks' : Lock → RWMutex) (refused : ¬ s.current.reconfigurable) :
      SpawnedReconfigureEnds setting rounds s locks
        (.error .exited ⟨s.scheduled.terminated, locks'⟩)
  | returned {s' : Server} (accepted : s.current.reconfigurable)
      (returns : s.scheduled.reconfigure setting rounds (decide (locks .clusterMu = .free)) =
        .returned s') :
      SpawnedReconfigureEnds setting rounds s locks
        (.ok () ⟨{ s' with inFlight := s'.inFlight - 1 }, locks⟩)
  | exited {s' : Server} (locks' : Lock → RWMutex) (accepted : s.current.reconfigurable)
      (exits : s.scheduled.reconfigure setting rounds (decide (locks .clusterMu = .free)) =
        .exited s') :
      SpawnedReconfigureEnds setting rounds s locks (.error .exited ⟨s', locks'⟩)
  | stuck {s' : Server} (accepted : s.current.reconfigurable)
      (sticks : s.scheduled.reconfigure setting rounds (decide (locks .clusterMu = .free)) =
        .stuck s') :
      SpawnedReconfigureEnds setting rounds s locks (.error (.blocked .clusterMu) ⟨s', locks⟩)

section Reconfigure

variable (setting) (settled : Settled ⟨s, locks⟩) (rounds : Nat → Round)

include settled

theorem removeNode_ends (nodeID : String) : RemoveNodeEnds setting nodeID rounds s locks
    ((removeNode setting nodeID rounds).run ⟨s, locks⟩) := by
  by_cases clusterFree : locks .clusterMu = .free
  case neg =>
    rw [removeNode, withLock_run_blocked clusterFree]
    exact .waiting clusterFree
  cases known : s.nodes.statusOf nodeID with
  | none =>
      rw [removeNode_run_unknown setting rounds clusterFree known]
      exact .unknown _ known
  | some status =>
      by_cases accepted : s.current.reconfigurable
      case neg =>
        obtain ⟨refusal, run⟩ := removeNode_run_refused setting rounds clusterFree
          settled.stateFree known accepted
        rw [run]
        exact .refused refusal accepted
      by_cases active : status = .active
      case neg =>
        rw [removeNode_run_inactive setting rounds clusterFree settled.stateFree known accepted
          active]
        exact .inactive clusterFree known accepted active
      have run := removeNode_run_active setting rounds clusterFree settled.stateFree known accepted
        (settled.registryFree accepted) settled.metricsFree active
      subst active
      cases outcome : (s.removed nodeID .active).reconfigure setting rounds false with
      | returned s' =>
          rw [outcome] at run
          rw [run]
          exact .returned clusterFree known accepted outcome
      | exited s' =>
          rw [outcome] at run
          obtain ⟨locks', run⟩ := run
          rw [run]
          exact .exited locks' clusterFree known accepted outcome
      | stuck s' =>
          rw [outcome] at run
          rw [run]
          exact .stuck clusterFree known accepted outcome

theorem spawnedReconfigure_ends : SpawnedReconfigureEnds setting rounds s locks
    ((spawnedReconfigure setting rounds).run ⟨s, locks⟩) := by
  by_cases accepted : s.current.reconfigurable
  case neg =>
    obtain ⟨locks', run⟩ := spawnedReconfigure_run_refused setting rounds settled.stateFree
      accepted settled.ne_failed
    rw [run]
    exact .refused locks' accepted
  have run := spawnedReconfigure_run setting rounds settled.stateFree
    (settled.registryFree accepted) settled.metricsFree accepted
  cases outcome : s.scheduled.reconfigure setting rounds (decide (locks .clusterMu = .free)) with
  | returned s' =>
      rw [outcome] at run
      rw [run]
      exact .returned accepted outcome
  | exited s' =>
      rw [outcome] at run
      obtain ⟨locks', run⟩ := run
      rw [run]
      exact .exited locks' accepted outcome
  | stuck s' =>
      rw [outcome] at run
      rw [run]
      exact .stuck accepted outcome

end Reconfigure

end C4D
