import C4D.Foundations.Threads
import C4D.Server.Bookkeeping

/-!
# Registrations that run at once

`Register` is not one critical section. Its steps are the critical sections of
the session lock, the metrics lock, the registry lock and the cluster lock, and
the reads and writes of the master address, the counters and the lifecycle state
between them. `Registration.step` takes one of these steps; the point of a call
holds the local variables that later steps use.

A call that runs alone computes `register` (`register_of_alone`).
-/

set_option autoImplicit false

namespace C4D

open Foundations Guarded

/-- What the counters decided about an admitted node. -/
structure Admission where
  status : Status
  rank : Int
deriving DecidableEq, Repr

/-- What the environment decides in a step. -/
structure Tick where
  now : Int
  round : Round

namespace Registration

/-! ## Steps -/

/-- Where a call of `Register` stands: the step it takes next, with the local variables that are
still used. A call that has returned keeps its admission for the record. -/
inductive Point where
  | checkState
  | checkMaster
  | writeMasterAddr
  | writeMasterPort
  | getSession
  | reconnect (existingSession : SessionState)
  | admitNode
  | registerSession (admission : Admission)
  | registerNode (admission : Admission) (session : Int)
  | loadActive (admission : Admission) (session : Int)
  | loadStandby (admission : Admission) (session activeNodes : Int)
  | checkStart (admission : Admission) (session totalNodes : Int)
  | checkAndStart (admission : Admission) (session : Int)
  | returned (admission : Option Admission) (result : Except GrpcError RegisterResponse)

/-- The answer to an admitted node after an attempt to start the program. -/
def answer (req : RegisterRequest) (admission : Admission) (session : Int) :
    Except ClusterError Unit → Except GrpcError RegisterResponse
  | .error _ => .error ⟨.internal, "failed to start programs"⟩
  | .ok () => .ok (registeredResponse req admission.status admission.rank session)

/-- Every lock is free between two steps. -/
def unlocked : Lock → RWMutex := fun _ => .free

theorem unlocked_eq (l : Lock) : unlocked l = .free := rfl

/-- One atomic step of a call of `Register`. -/
def step (setting : Setting) (req : RegisterRequest) (tick : Tick) :
    Point → Server → Option (Point × Server)
  | .checkState, s =>
      if s.current = .failed then
        some (.returned none (.error ⟨.unavailable, "server in failed state"⟩), s)
      else if s.current ≠ .initializing ∧ s.current ≠ .running then
        some (.returned none (.error ⟨.unavailable,
          "server not accepting registrations in " ++ s.current.toString ++ " state"⟩), s)
      else some (.checkMaster, s)
  | .checkMaster, s =>
      if s.masterAddr = "" then some (.writeMasterAddr, s) else some (.getSession, s)
  | .writeMasterAddr, s => some (.writeMasterPort, { s with masterAddr := req.masterAddr })
  | .writeMasterPort, s => some (.getSession, { s with masterPort := req.masterPort })
  | .getSession, s =>
      match s.sessions.lookup req.nodeId with
      | some existingSession => some (.reconnect existingSession, s)
      | none => some (.admitNode, s)
  | .reconnect existingSession, s =>
      match s.nodes.lookup req.nodeId with
      | some node =>
          some (.returned none
            (.ok (reconnectedResponse req node.rank (existingSession.reconnectCount + 1))),
            s.reconnected req tick.now node)
      | none => some (.admitNode, s)
  | .admitNode, s =>
      match s.admitNode setting with
      | (.error e, s') => some (.returned none (.error e), s')
      | (.ok (nodeStatus, nodeRank), s') => some (.registerSession ⟨nodeStatus, nodeRank⟩, s')
  | .registerSession admission, s =>
      let registered := s.registerSession req.nodeId req.nodeUrl admission.status admission.rank
        tick.now
      some (.registerNode admission registered.1.reconnectCount, registered.2)
  | .registerNode admission session, s =>
      some (.loadActive admission session,
        (s.registerNode req.nodeId req.nodeUrl admission.status admission.rank tick.now).2)
  | .loadActive admission session, s => some (.loadStandby admission session s.activeNodes, s)
  | .loadStandby admission session activeNodes, s =>
      some (.checkStart admission session (activeNodes + s.standbyNodes), s)
  | .checkStart admission session totalNodes, s =>
      if setting.config.expects totalNodes ∧ s.current = .initializing then
        some (.checkAndStart admission session, s)
      else
        some (.returned (some admission)
          (.ok (registeredResponse req admission.status admission.rank session)), s)
  | .checkAndStart admission session, s =>
      match (checkAndStartProgram setting tick.round).run ⟨s, unlocked⟩ with
      | .ok result w => some (.returned (some admission) (answer req admission session result), w.data)
      | .error _ _ => none
  | .returned _ _, _ => none

/-- The call is admitted, or it is refused and changes nothing. -/
theorem admitNode_of_step {setting : Setting} {req : RegisterRequest} {tick : Tick} {p' : Point}
    {s s' : Server} (steps : step setting req tick .admitNode s = some (p', s')) :
    (∃ status rank, s.Admitted setting status rank s' ∧ p' = .registerSession ⟨status, rank⟩) ∨
      ∃ refusal, s' = s ∧ p' = .returned none (.error refusal) := by
  simp only [step] at steps
  rcases admits : s.admitNode setting with ⟨refusal | ⟨status, rank⟩, counted⟩
  · rw [admits] at steps
    cases steps
    exact .inr ⟨refusal, Server.eq_of_refused admits, rfl⟩
  · rw [admits] at steps
    cases steps
    exact .inl ⟨status, rank, Server.admitted_of_admits admits, rfl⟩

/-! ## A call alone -/

section Alone

variable (setting : Setting) (req : RegisterRequest) (tick : Tick)

/-- What is left of `register` at a point. -/
def Point.rest : Point → Op (Except GrpcError RegisterResponse)
  | .checkState => register setting req tick.now tick.round
  | .checkMaster => do
      update (Server.captureMaster req)
      registerBySession setting req tick.now tick.round
  | .writeMasterAddr => do
      update fun s => { s with masterAddr := req.masterAddr, masterPort := req.masterPort }
      registerBySession setting req tick.now tick.round
  | .writeMasterPort => do
      update fun s => { s with masterPort := req.masterPort }
      registerBySession setting req tick.now tick.round
  | .getSession => registerBySession setting req tick.now tick.round
  | .reconnect existingSession => registerKnown setting req tick.now tick.round existingSession
  | .admitNode => registerNew setting req tick.now tick.round
  | .registerSession admission => do
      let newSession ← critical .sessionMu
        (Server.registerSession req.nodeId req.nodeUrl admission.status admission.rank tick.now)
      critical .registryMu
        (Server.registerNode req.nodeId req.nodeUrl admission.status admission.rank tick.now)
      let s ← read
      startWhenComplete setting tick.round
        (registeredResponse req admission.status admission.rank newSession.reconnectCount)
        (s.activeNodes + s.standbyNodes)
  | .registerNode admission session => do
      critical .registryMu
        (Server.registerNode req.nodeId req.nodeUrl admission.status admission.rank tick.now)
      let s ← read
      startWhenComplete setting tick.round
        (registeredResponse req admission.status admission.rank session)
        (s.activeNodes + s.standbyNodes)
  | .loadActive admission session => do
      let s ← read
      startWhenComplete setting tick.round
        (registeredResponse req admission.status admission.rank session)
        (s.activeNodes + s.standbyNodes)
  | .loadStandby admission session activeNodes => do
      let s ← read
      startWhenComplete setting tick.round
        (registeredResponse req admission.status admission.rank session)
        (activeNodes + s.standbyNodes)
  | .checkStart admission session totalNodes =>
      startWhenComplete setting tick.round
        (registeredResponse req admission.status admission.rank session) totalNodes
  | .checkAndStart admission session => do
      let result ← checkAndStartProgram setting tick.round
      return answer req admission session result
  | .returned _ result => return result

variable {setting req tick}

/-- One step does not change the outcome of what is left. -/
theorem rest_step {p p' : Point} {s s' : Server}
    (steps : step setting req tick p s = some (p', s')) :
    (p'.rest setting req tick).run ⟨s', unlocked⟩ =
      (p.rest setting req tick).run ⟨s, unlocked⟩ := by
  cases p with
  | checkState =>
      simp only [Point.rest, register, EStateM.run_bind, current_run (unlocked_eq _)]
      simp only [step] at steps
      split_ifs at steps ⊢ <;> cases steps <;> rfl
  | checkMaster =>
      simp only [Point.rest, EStateM.run_bind, update_run, Server.captureMaster]
      simp only [step] at steps
      split_ifs at steps ⊢ <;> cases steps <;> rfl
  | writeMasterAddr =>
      cases steps
      rfl
  | writeMasterPort =>
      cases steps
      rfl
  | getSession =>
      simp only [Point.rest, registerBySession, EStateM.run_bind, getSession_run (unlocked_eq _)]
      simp only [step] at steps
      cases known : s.sessions.lookup req.nodeId <;> rw [known] at steps <;> cases steps <;> rfl
  | reconnect existingSession =>
      have free := unlocked_eq .registryMu
      have sessionWithin : Function.update unlocked .registryMu .written .sessionMu = .free := rfl
      simp only [Point.rest, registerKnown, EStateM.run_bind, lock_run free, read_run]
      simp only [step] at steps
      cases registered : s.nodes.lookup req.nodeId with
      | none =>
          rw [registered] at steps
          cases steps
          simp only [EStateM.run_bind, unlock_run, release_eq free]
      | some node =>
          rw [registered] at steps
          cases steps
          simp only [EStateM.run_bind, critical_run sessionWithin, update_run, unlock_run,
            release_eq free]
          rfl
  | admitNode =>
      simp only [Point.rest, registerNew, EStateM.run_bind, critical_run (unlocked_eq _)]
      simp only [step] at steps
      rcases admits : s.admitNode setting with ⟨refusal | ⟨status, rank⟩, counted⟩ <;>
        rw [admits] at steps <;> cases steps <;> rfl
  | registerSession admission =>
      cases steps
      simp only [Point.rest, EStateM.run_bind, critical_run (unlocked_eq _)]
  | registerNode admission session =>
      cases steps
      simp only [Point.rest, EStateM.run_bind, critical_run (unlocked_eq _)]
  | loadActive admission session =>
      cases steps
      rfl
  | loadStandby admission session activeNodes =>
      cases steps
      rfl
  | checkStart admission session totalNodes =>
      simp only [Point.rest, startWhenComplete, EStateM.run_bind, current_run (unlocked_eq _)]
      simp only [step] at steps
      split_ifs at steps ⊢
      · cases steps
        simp only [EStateM.run_bind]
        rcases (checkAndStartProgram setting tick.round).run ⟨s, unlocked⟩ with
          ⟨_ | _, _⟩ | ⟨_, _⟩ <;> rfl
      · cases steps
        rfl
  | checkAndStart admission session =>
      simp only [step] at steps
      simp only [Point.rest, EStateM.run_bind]
      obtain ⟨result, started, returns, _⟩ := checkAndStartProgram_returns setting tick.round
        (s := s) (unlocked_eq .clusterMu) (unlocked_eq .stateMu)
      rw [returns] at steps ⊢
      cases steps
      rfl
  | returned admission result => cases steps

/-- **A call that runs alone computes `register`.** -/
theorem register_of_alone {s s' : Server} {admission : Option Admission}
    {result : Except GrpcError RegisterResponse}
    (run : Threads.Alone (step setting req tick) (.checkState, s) (.returned admission result, s')) :
    (register setting req tick.now tick.round).run ⟨s, unlocked⟩ = .ok result ⟨s', unlocked⟩ :=
  (run.same (f := fun p s => (p.rest setting req tick).run ⟨s, unlocked⟩)
    fun _ _ _ _ => rest_step).symm

end Alone

end Registration

end C4D
