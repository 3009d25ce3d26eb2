import C4D.Server.Attendance

/-!
# What a refused registration leaves behind

`Register` has three kinds of error answers. The refusal by the lifecycle state comes
before every write. The refusal for want of a place comes after the master address was
recorded. The error of a failed start comes last: the node is counted and registered
by then, with its session, and the ranks are assigned.

So a refused registration changes nothing exactly if it neither fails to start the
programs nor leaves a new master address behind (`unchanged_iff`).
-/

set_option autoImplicit false

namespace C4D

open Foundations Guarded

/-! ## What a registration meets -/

/-- The fields a refused registration has to leave alone. -/
structure Unchanged (s s' : Server) : Prop where
  nodes : s'.nodes = s.nodes
  health : s'.health = s.health
  sessions : s'.sessions = s.sessions
  activeNodes : s'.activeNodes = s.activeNodes
  standbyNodes : s'.standbyNodes = s.standbyNodes
  failedNodes : s'.failedNodes = s.failedNodes
  current : s'.current = s.current
  masterAddr : s'.masterAddr = s.masterAddr
  masterPort : s'.masterPort = s.masterPort

theorem Unchanged.refl (s : Server) : Unchanged s s :=
  ⟨rfl, rfl, rfl, rfl, rfl, rfl, rfl, rfl, rfl⟩

/-- The place the counters have for a new node. -/
def Server.place (setting : Setting) (s : Server) : Option Status :=
  if s.activeNodes < setting.config.activeNodes then some .active
  else if s.standbyNodes < setting.config.standbyNodes then some .standby
  else none

/-- The request gets a place, completes the cluster, and some active node does not answer. -/
structure FailsToStart (setting : Setting) (w : World) (req : RegisterRequest) (round : Round)
    (status : Status) : Prop where
  initializing : w.data.current = .initializing
  registryFree : w.locks .registryMu = .free
  clusterFree : w.locks .clusterMu = .free
  unregistered : w.data.nodes.statusOf req.nodeId = none
  place : w.data.place setting = some status
  last : setting.config.expects (w.data.activeNodes + w.data.standbyNodes + 1)
  enough : setting.config.expectedNodes - setting.config.standbyNodes ≤
    w.data.nodes.count .active + if status = .active then 1 else 0
  silent : ∃ id, (if id = req.nodeId then some status else w.data.nodes.statusOf id) =
    some .active ∧ round.answers id = false

/-- The request gets no place, and its master address is the first one. -/
structure LeavesAddress (setting : Setting) (w : World) (req : RegisterRequest) : Prop where
  accepting : w.data.current.accepting
  new : w.TakesForNew req
  full : w.data.place setting = none
  unset : w.data.masterAddr = ""
  other : req.masterAddr ≠ "" ∨ req.masterPort ≠ w.data.masterPort

variable {setting : Setting} {s : Server} {locks : Lock → RWMutex}

namespace Server

theorem place_captureMaster (req : RegisterRequest) :
    (s.captureMaster req).place setting = s.place setting := by
  unfold captureMaster
  split <;> rfl

theorem place_of_admits {status : Status} {rank : Int} {counted : Server}
    (admits : s.admitNode setting = (.ok (status, rank), counted)) :
    s.place setting = some status := by
  rcases admitted_of_admits admits with room | ⟨full, room⟩
  · rw [place, if_pos room]
  · rw [place, if_neg (not_lt.mpr full), if_pos room]

theorem place_of_refused {refusal : GrpcError} {s' : Server}
    (refused : s.admitNode setting = (.error refusal, s')) : s.place setting = none := by
  unfold admitNode at refused
  unfold place
  split_ifs at refused ⊢ with room full
  · cases refused
  · cases refused
  · rfl

/-- An admission is one of a node or a refusal. -/
theorem admitNode_cases (setting : Setting) (s : Server) :
    (∃ refusal, s.place setting = none ∧ s.admitNode setting = (.error refusal, s)) ∨
      ∃ status rank counted, s.place setting = some status ∧
        s.admitNode setting = (.ok (status, rank), counted) := by
  rcases admission : s.admitNode setting with ⟨refusal | ⟨status, rank⟩, counted⟩
  · have same := eq_of_refused admission
    exact .inl ⟨refusal, place_of_refused admission, by rw [same]⟩
  · exact .inr ⟨status, rank, counted, place_of_admits admission, rfl⟩

/-- An enrolled node is counted once. -/
theorem total_enrolled {req : RegisterRequest} {now : Int} {status : Status} {rank : Int}
    {counted : Server}
    (admitted : (s.captureMaster req).admitNode setting = (.ok (status, rank), counted)) :
    (counted.enrolled req now status rank).activeNodes +
      (counted.enrolled req now status rank).standbyNodes = s.activeNodes + s.standbyNodes + 1 := by
  have counts := counted_of_admits admitted
  obtain ⟨_, _, same⟩ := enrolled_eq counted req now status rank
  have active : counted.activeNodes = s.activeNodes + if status = .active then 1 else 0 :=
    counts.counter .active
  have standby : counted.standbyNodes = s.standbyNodes + if status = .standby then 1 else 0 :=
    counts.counter .standby
  rw [same]
  change counted.activeNodes + counted.standbyNodes = _
  rw [active, standby]
  cases status with
  | active => simp only [if_true, reduceCtorEq, if_false]; omega
  | standby => simp only [if_true, reduceCtorEq, if_false]; omega
  | failed => exact absurd rfl counts.working

end Server

/-! ## The start of the programs -/

/-- The start of the programs fails for the node that completes the cluster. -/
structure StartFails (setting : Setting) (s : Server) (locks : Lock → RWMutex) (round : Round) :
    Prop where
  registryFree : locks .registryMu = .free
  clusterFree : locks .clusterMu = .free
  complete : s.complete setting
  enough : setting.config.expectedNodes - setting.config.standbyNodes ≤ s.nodes.count .active
  silent : ¬ (s.startTargets round).all round.answers

/-- What the failure of the start comes from, in terms of the state before the registration. -/
theorem startFails_iff {req : RegisterRequest} {now : Int} {round : Round} {status : Status}
    {rank : Int} {counted : Server}
    (admitted : (s.captureMaster req).admitNode setting = (.ok (status, rank), counted))
    (unregistered : s.nodes.statusOf req.nodeId = none) :
    StartFails setting (counted.enrolled req now status rank) locks round ↔
      FailsToStart setting ⟨s, locks⟩ req round status := by
  have counts := Server.counted_of_admits admitted
  have place : s.place setting = some status :=
    (Server.place_captureMaster req).symm.trans (Server.place_of_admits admitted)
  have current : (counted.enrolled req now status rank).current = s.current :=
    congrArg Lifecycle.current (Server.lifecycle_enrolled req now counts)
  have count : (counted.enrolled req now status rank).nodes.count .active =
      s.nodes.count .active + if status = .active then 1 else 0 := by
    rw [Server.nodes_enrolled req now counts, Registry.count_insert, unregistered]
    simp only [reduceCtorEq, if_false, sub_zero]
  have silent : (¬ ((counted.enrolled req now status rank).startTargets round).all round.answers) ↔
      ∃ id, (if id = req.nodeId then some status else s.nodes.statusOf id) = some .active ∧
        round.answers id = false := by
    simp only [List.all_eq_true, Server.mem_startTargets, Server.statusOf_enrolled req now counts,
      not_forall, Bool.not_eq_true, exists_prop]
  have total : (counted.enrolled req now status rank).activeNodes +
      (counted.enrolled req now status rank).standbyNodes = s.activeNodes + s.standbyNodes + 1 :=
    Server.total_enrolled admitted
  constructor
  · rintro ⟨registryFree, clusterFree, ⟨complete, initializing⟩, enough, quiet⟩
    exact ⟨current ▸ initializing, registryFree, clusterFree, unregistered, place,
      total ▸ complete, count ▸ enough, silent.mp quiet⟩
  · rintro ⟨initializing, registryFree, clusterFree, _, _, last, enough, quiet⟩
    exact ⟨registryFree, clusterFree, ⟨total.symm ▸ last, current.trans initializing⟩, count ▸ enough,
      silent.mpr quiet⟩

/-! ## Error answers -/

section Register

variable (settled : Settled ⟨s, locks⟩) (attended : Attended s) {req : RegisterRequest} {now : Int}
  {round : Round}

include settled

theorem register_run_startFails {status : Status} {rank : Int} {counted : Server}
    (accepting : s.current.accepting) (new : World.TakesForNew ⟨s, locks⟩ req)
    (admitted : (s.captureMaster req).admitNode setting = (.ok (status, rank), counted))
    (fails : StartFails setting (counted.enrolled req now status rank) locks round) :
    (register setting req now round).run ⟨s, locks⟩ =
      .ok (.error ⟨.internal, "failed to start programs"⟩)
        ⟨(counted.enrolled req now status rank).started round, locks⟩ := by
  have starts := checkAndStartProgram_run setting round fails.clusterFree settled.stateFree
    fails.complete.2 fails.enough
  rw [if_neg fails.silent] at starts
  obtain ⟨_, run⟩ := registerNew_run_complete setting req now round settled.metricsFree admitted
    settled.sessionFree fails.registryFree settled.stateFree fails.complete starts
  exact (register_run_new settled accepting new).trans run

variable {status : Status}

/-- A registration that fails to start the programs has counted its node. -/
theorem error_of_failsToStart (fails : FailsToStart setting ⟨s, locks⟩ req round status)
    (now : Int) : ∃ w', (register setting req now round).run ⟨s, locks⟩ =
        .ok (.error ⟨.internal, "failed to start programs"⟩) w' ∧
      w'.data.activeNodes + w'.data.standbyNodes = s.activeNodes + s.standbyNodes + 1 := by
  have unregistered := Registry.statusOf_eq_none.mp fails.unregistered
  have place := (Server.place_captureMaster req).trans fails.place
  rcases (s.captureMaster req).admitNode_cases setting with
    ⟨_, full, _⟩ | ⟨status', rank, counted, same, admitted⟩
  · cases place.symm.trans full
  cases place.symm.trans same
  have starts : StartFails setting (counted.enrolled req now status rank) locks round :=
    (startFails_iff admitted fails.unregistered).mpr fails
  refine ⟨_, register_run_startFails settled (.inl fails.initializing)
    (.inr ⟨fails.registryFree, unregistered⟩) admitted starts, ?_⟩
  exact Server.total_enrolled admitted

/-- A registration without a place has recorded its master address. -/
theorem error_of_leavesAddress (leaves : LeavesAddress setting ⟨s, locks⟩ req) (now : Int)
    (round : Round) : ∃ refusal, (register setting req now round).run ⟨s, locks⟩ =
      .ok (.error refusal) ⟨s.captureMaster req, locks⟩ := by
  have full := (Server.place_captureMaster req).trans leaves.full
  rcases (s.captureMaster req).admitNode_cases setting with
    ⟨refusal, _, refused⟩ | ⟨_, _, _, same, _⟩
  · exact ⟨refusal, (register_run_new settled leaves.accepting leaves.new).trans
      (registerNew_run_full setting req now round settled.metricsFree refused)⟩
  · cases full.symm.trans same

include attended

/-- An error answer is that of a state that refuses, of a full server or of a failed start. -/
theorem error_of_register {refusal : GrpcError} {w : World}
    (returns : (register setting req now round).run ⟨s, locks⟩ = .ok (.error refusal) w) :
    w.data = s ∨ (s.current.accepting ∧ World.TakesForNew ⟨s, locks⟩ req ∧
        s.place setting = none ∧ w.data = s.captureMaster req) ∨
      ∃ status, FailsToStart setting ⟨s, locks⟩ req round status := by
  have ends := register_ends setting settled req now round
  rw [returns] at ends
  cases ends with
  | refused refusal closed => exact .inl rfl
  | full refusal accepting new refuses =>
      have full := (Server.place_captureMaster req).symm.trans (Server.place_of_refused refuses)
      exact .inr (.inl ⟨accepting, new, full, rfl⟩)
  | @startFailed status _ _ enrolls complete clusterFree enough silent =>
      refine .inr (.inr ⟨status, ?_⟩)
      exact (startFails_iff enrolls.admitted (enrolls.unregistered attended)).mp
        ⟨enrolls.registryFree, clusterFree, complete, enough, silent⟩

end Register

/-! ## When a refusal changes nothing -/

/-- **A refused registration changes nothing** exactly if it neither fails to start the programs
nor leaves a new master address behind. -/
theorem unchanged_iff {w : World} (reachable : setting.system.Reachable w) (req : RegisterRequest)
    (now : Int) (round : Round) :
    (∀ refusal w', (register setting req now round).run w = .ok (.error refusal) w' →
        Unchanged w.data w'.data) ↔
      (¬ ∃ status, FailsToStart setting w req round status) ∧ ¬ LeavesAddress setting w req := by
  have settled := setting.settled_of_reachable reachable
  have attended := setting.attended_of_reachable reachable
  constructor
  · intro unchanged
    constructor
    · rintro ⟨status, fails⟩
      obtain ⟨w', returns, total⟩ := error_of_failsToStart settled fails now
      have same := unchanged _ w' returns
      rw [same.activeNodes, same.standbyNodes] at total
      omega
    · intro leaves
      obtain ⟨refusal, returns⟩ := error_of_leavesAddress settled leaves now round
      have same := unchanged refusal _ returns
      have captured : w.data.captureMaster req =
          { w.data with masterAddr := req.masterAddr, masterPort := req.masterPort } :=
        if_pos leaves.unset
      rw [captured] at same
      exact leaves.other.elim (fun other => other (same.masterAddr.trans leaves.unset))
        fun other => other same.masterPort
  · rintro ⟨starts, address⟩ refusal w' returns
    rcases error_of_register settled attended returns with
      same | ⟨accepting, new, full, same⟩ | fails
    · rw [same]
      exact .refl _
    · rw [same]
      unfold Server.captureMaster
      split
      · next unset =>
          have kept : req.masterAddr = "" ∧ req.masterPort = w.data.masterPort := by
            by_contra other
            exact address ⟨accepting, new, full, unset, by tauto⟩
          exact ⟨rfl, rfl, rfl, rfl, rfl, rfl, rfl, kept.1.trans unset.symm, kept.2⟩
      · exact .refl _
    · exact absurd fails starts

/-- A running server that is full refuses one more node, and nothing changes. -/
theorem unchanged_full : ∃ w refusal w', w.data.current = .running ∧
    (register smallSetting ⟨"e.ns.1", "http://e.ns:1", "master", "29500"⟩ 0 (.except [])).run w =
      .ok (.error refusal) w' ∧ Unchanged w.data w'.data := by
  obtain ⟨⟨s, locks⟩, reachable, holds⟩ := System.exists_reachable (S := smallSetting.system)
    gathering (fun w => w.data.current = .running ∧ w.data.masterAddr = "master" ∧
      (w.data.sessions.lookup "e.ns.1").isNone ∧ w.data.place smallSetting = none) rfl
    (by decide +kernel)
  obtain ⟨running, captured, fresh, full⟩ := of_decide_eq_true holds
  have settled := smallSetting.settled_of_reachable reachable
  rcases admission : (s.captureMaster ⟨"e.ns.1", "http://e.ns:1", "master", "29500"⟩).admitNode
    smallSetting with ⟨refusal | ⟨status, rank⟩, counted⟩
  · have returns := (register_run_new settled (.inr running)
      (.inl (Option.isNone_iff_eq_none.mp fresh))).trans
        (registerNew_run_full smallSetting _ 0 (.except []) settled.metricsFree admission)
    refine ⟨_, refusal, _, running, returns,
      (unchanged_iff reachable _ 0 _).mpr ⟨?_, ?_⟩ refusal _ returns⟩
    · rintro ⟨status, fails⟩
      cases running.symm.trans fails.initializing
    · intro leaves
      exact absurd (captured.symm.trans leaves.unset) (by decide)
  · have place := Server.place_of_admits admission
    rw [Server.place_captureMaster, full] at place
    cases place

/-- The fourth node of the cluster is refused, since another one does not answer its start command,
and is registered all the same. -/
theorem refused_and_registered :
    ∃ w refusal w', smallSetting.system.Reachable w ∧
      (register smallSetting ⟨"d.ns.1", "http://d.ns:1", "master", "29500"⟩ 0
        (.except ["b.ns.1"])).run w = .ok (.error refusal) w' ∧ ¬ Unchanged w.data w'.data := by
  obtain ⟨w, reachable, holds⟩ := System.exists_reachable (S := smallSetting.system)
    gathering.dropLast (fun w => (w.data.current = .initializing ∧ w.locks .registryMu = .free ∧
      w.locks .clusterMu = .free ∧ w.data.nodes.statusOf "d.ns.1" = none) ∧
      w.data.place smallSetting = some .standby ∧ w.data.activeNodes + w.data.standbyNodes + 1 = 4 ∧
      w.data.nodes.count .active = 3 ∧ w.data.nodes.statusOf "b.ns.1" = some .active)
    rfl (by decide +kernel)
  obtain ⟨⟨initializing, registryFree, clusterFree, unregistered⟩, place, last, count, active⟩ :=
    of_decide_eq_true holds
  have fails : FailsToStart smallSetting w ⟨"d.ns.1", "http://d.ns:1", "master", "29500"⟩
      (.except ["b.ns.1"]) .standby :=
    ⟨initializing, registryFree, clusterFree, unregistered, place, ServerConfig.expects_of_eq last, by rw [count]; decide,
      "b.ns.1", active, by simp [Round.except]⟩
  obtain ⟨w', returns, total⟩ :=
    error_of_failsToStart (smallSetting.settled_of_reachable reachable) fails 0
  refine ⟨w, _, w', reachable, returns, fun same => ?_⟩
  rw [same.activeNodes, same.standbyNodes] at total
  omega

end C4D
