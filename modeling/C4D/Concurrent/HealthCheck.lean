import C4D.Concurrent.Duplicates
import C4D.Concurrent.Promotion
import C4D.Server.HealthTick

/-!
# A health check beside heartbeats, registrations and failure reports

`checkNodesHealth` decides under the read lock that a node is to be timed out, and
`handleNodeTimeout` marks it failed in a later critical section, without looking
again. `beside` interleaves one check with any number of calls of `SendHeartbeat`,
`Register` and `NotifyFailure`. Each region under the registry lock is one step.

A check by itself computes `checkNodesHealth` (`checkNodesHealth_of_alone`). The nodes
that it marks have timed out and had not failed along every run in which no call
overtakes a time-out and no scan finds a node that has failed (`right_of_run`).
-/

set_option autoImplicit false

namespace C4D

open Foundations Guarded

namespace HealthCheck

/-- A critical section as one step. It is not taken while its lock is held. -/
def atomically {α π : Type} (op : Op α) (w : World) (next : α → Option π) : Option (π × World) :=
  match op.run w with
  | .ok a w' => (next a).map fun p => (p, w')
  | .error _ _ => none

/-! ## The check -/

/-- What a scan meets: the nodes it passes, and the first stale one. -/
structure Sighting where
  passed : List String
  found : Option String

/-- Where the check stands. `entries` are the keys of the health map when its iteration began, and
`seen` are those that were visited. -/
inductive Point where
  | begin
  | scan (entries seen : List String)
  | timeout (nodeID : String) (entries seen : List String)
  | cleanup
  | returned

section Check

variable (setting : Setting) (now : Int) (sighting : Sighting)

/-- The iteration over the health map up to the next stale node. An entry that was there from the
start is visited; one that came later may be. -/
def scan (entries seen : List String) (s : Server) : Option Point :=
  let seen := seen ++ sighting.passed
  if seen.Nodup ∧ ∀ id ∈ sighting.passed, id ∈ s.health ∧ ¬ s.Stale setting now id then
    match sighting.found with
    | some id =>
        if id ∉ seen ∧ s.Stale setting now id then some (.timeout id entries (seen ++ [id]))
        else none
    | none => if ∀ id ∈ entries, id ∈ s.health → id ∈ seen then some .cleanup else none
  else none

/-- One step of `checkNodesHealth`, for a tick at the time `now`. -/
def step : Point → World → Option (Point × World)
  | .begin, w => atomically (withRLock .registryMu read) w fun s =>
      scan setting now sighting s.health.keys [] s
  | .scan entries seen, w => atomically (withRLock .registryMu read) w fun s =>
      scan setting now sighting entries seen s
  | .timeout nodeID entries seen, w => atomically (handleNodeTimeout nodeID) w fun _ =>
      some (.scan entries seen)
  | .cleanup, w =>
      atomically (critical .sessionMu fun s =>
        s.cleanupSessions (setting.config.heartbeatTimeout * 2) now) w fun _ => some .returned
  | .returned, _ => none

end Check

/-! ## The other calls -/

/-- A call of one of the handlers. -/
inductive Request where
  | sendHeartbeat (req : HeartbeatRequest)
  | register (req : RegisterRequest)
  | notifyFailure (req : FailureNotificationRequest)

/-- Where a call of a handler stands. -/
inductive Handler where
  | sendHeartbeat (req : HeartbeatRequest)
  | register (req : RegisterRequest) (point : Registration.Point)
  | notifyFailure (req : FailureNotificationRequest)
  | handleNodeFailure (req : FailureNotificationRequest)
  | recordFailure (req : FailureNotificationRequest)
  | returned

def Request.start : Request → Handler
  | .sendHeartbeat req => .sendHeartbeat req
  | .register req => .register req .checkState
  | .notifyFailure req => .notifyFailure req

/-- The next step of `Register` is under the registry lock. -/
def takesRegistry : Registration.Point → Bool
  | .reconnect _ => true
  | .registerNode _ _ => true
  | _ => false

/-- One step of a handler. -/
def Handler.step (setting : Setting) (tick : Tick) : Handler → World → Option (Handler × World)
  | .sendHeartbeat req, w => atomically (C4D.sendHeartbeat req tick.now) w fun _ => some .returned
  | .register req p, w =>
      if takesRegistry p ∧ w.locks .registryMu ≠ .free then none
      else (Registration.step setting req tick p w.data).map fun r =>
        (.register req r.1, { w with data := r.2 })
  | .notifyFailure req, w => atomically (withRLock .registryMu read) w fun s =>
      if s.nodes.statusOf req.nodeId = none ∨ s.nodes.statusOf req.nodeId = some .failed then
        some .returned
      else some (.handleNodeFailure req)
  | .handleNodeFailure req, w => atomically (C4D.handleNodeFailure req.nodeId) w fun _ =>
      some (.recordFailure req)
  | .recordFailure req, w => atomically (critical .registryMu (Server.recordFailure req)) w fun _ =>
      some .returned
  | .returned, _ => none

/-! ## Interleavings -/

/-- A node that the check sets to failed: the status it had then, and whether its last heartbeat
was older than the time-out. -/
structure Mark where
  nodeID : String
  found : Status
  outdated : Bool
deriving DecidableEq

/-- The check and the other calls over the server, with the marks of the check on record. -/
structure Scene (ι : Type) where
  check : Point
  handlers : ι → Handler
  world : World
  marks : List Mark

/-- Who takes the next step. -/
inductive Turn (ι : Type) where
  | check (sighting : Sighting)
  | handler (i : ι) (tick : Tick)

section Interleavings

variable {ι : Type} (setting : Setting) (now : Int)

/-- The node that the next step of the check sets to failed. -/
def Scene.marking (c : Scene ι) : List Mark :=
  match c.check with
  | .timeout nodeID _ _ => (c.world.data.nodes.statusOf nodeID).toList.map fun found =>
      ⟨nodeID, found, c.world.data.Outdated setting now nodeID⟩
  | _ => []

/-- The interleavings of a check with calls of the handlers. -/
def beside [DecidableEq ι] (requests : ι → Request) (before : World) : System (Scene ι) (Turn ι) where
  init c := c = ⟨.begin, fun i => (requests i).start, before, []⟩
  next c
    | .check sighting => (step setting now sighting c.check c.world).map fun r =>
        { c with check := r.1, world := r.2, marks := c.marks ++ c.marking setting now }
    | .handler i tick => ((c.handlers i).step setting tick c.world).map fun r =>
        { c with handlers := Function.update c.handlers i r.1, world := r.2 }

end Interleavings

/-! ## What a critical section does -/

section Atomically

variable {α π : Type} {op : Op α} {w w' : World} {next : α → Option π} {p : π}

theorem ran_of_atomically (steps : atomically op w next = some (p, w')) :
    ∃ a, op.run w = .ok a w' ∧ next a = some p := by
  unfold atomically at steps
  split at steps
  · next a after run =>
      obtain ⟨p', goes, same⟩ := Option.map_eq_some_iff.mp steps
      cases same
      exact ⟨a, run, goes⟩
  · cases steps

/-- Reading under the lock changes nothing. -/
theorem eq_of_readLocked {l : Lock} {s : Server}
    (run : (withRLock l read : Op Server).run w = .ok s w') : s = w.data ∧ w' = w := by
  rcases w with ⟨data, locks⟩
  have taken : (rlock l : Op Unit).run ⟨data, locks⟩ =
      if (locks l).writer then .error (.blocked l) ⟨data, locks⟩
      else .ok () ⟨data, Function.update locks l
        { locks l with readers := (locks l).readers + 1 }⟩ := rfl
  have released (locks : Lock → RWMutex) : (runlock l : Op Unit).run ⟨data, locks⟩ =
      .ok () ⟨data, Function.update locks l
        { locks l with readers := (locks l).readers - 1 }⟩ := rfl
  rw [withRLock, EStateM.run_bind, taken] at run
  split at run
  · next outcome =>
      split at outcome
      · cases outcome
      · cases outcome
        simp only [EStateM.run_bind, read_run, released, Function.update_self,
          Function.update_idem, Nat.add_sub_cancel, Function.update_eq_self, EStateM.run_pure] at run
        cases run
        exact ⟨rfl, rfl⟩
  · cases run

theorem eq_of_critical {l : Lock} {f : Server → α × Server} {a : α}
    (run : (critical l f : Op α).run w = .ok a w') :
    w.locks l = .free ∧ a = (f w.data).1 ∧ w' = ⟨(f w.data).2, w.locks⟩ := by
  by_cases free : w.locks l = .free
  · rw [critical_run free] at run
    cases run
    exact ⟨free, rfl, rfl⟩
  · rw [critical_run_blocked free] at run
    cases run

/-- A report marks the node, or it changes nothing. -/
theorem data_of_handleNodeFailure {nodeID : String}
    (run : (handleNodeFailure nodeID).run w = .ok () w') :
    w'.data = Interrupted.reportFailure nodeID w.data := by
  rcases w with ⟨s, locks⟩
  by_cases registryFree : locks .registryMu = .free
  case neg =>
    rw [handleNodeFailure, EStateM.run_bind, lock_run_blocked registryFree] at run
    cases run
  unfold Interrupted.reportFailure
  cases known : s.nodes.statusOf nodeID with
  | none =>
      rw [handleNodeFailure_run_unknown registryFree known] at run
      cases run
      rfl
  | some status =>
      by_cases stateFree : locks .stateMu = .free
      · by_cases accepted : s.current.reconfigurable
        · rw [handleNodeFailure_run registryFree stateFree known accepted] at run
          cases run
          exact (if_pos accepted).symm
        · rw [handleNodeFailure_run_refused registryFree stateFree known accepted] at run
          cases run
          exact (if_neg accepted).symm
      · have within : Function.update locks .registryMu .written .stateMu ≠ .free := by
          rwa [Function.update_of_ne (by decide)]
        simp only [handleNodeFailure, EStateM.run_bind, lock_run registryFree, read_run, known,
          transition, withLock_run_blocked within] at run
        cases run

end Atomically

/-! ## A check alone -/

variable {setting : Setting} {now : Int} {tick : Tick}

section Alone

variable {ι : Type}

/-- The check takes the next step. -/
def Turn.isCheck (_ : Scene ι) : Turn ι → Prop
  | .check _ => True
  | .handler _ _ => False

/-- The data after the check has visited some entries. -/
def visited (setting : Setting) (now : Int) (seen : List String) (s : Server) : Server :=
  (seen.filter fun id => s.Stale setting now id).foldl (fun s nodeID => s.handleNodeTimeout nodeID) s

theorem visited_append (seen more : List String) (s : Server) :
    visited setting now (seen ++ more) s = (more.filter fun id => s.Stale setting now id).foldl
      (fun s nodeID => s.handleNodeTimeout nodeID) (visited setting now seen s) := by
  rw [visited, List.filter_append, List.foldl_append]
  rfl

theorem health_visited (seen : List String) (s : Server) :
    (visited setting now seen s).health = s.health :=
  Server.health_timeouts _ s

theorem timeouts_eq_filter (order : Shuffle String) (s : Server) :
    s.timeouts now setting order =
      (order.apply s.health.keys).filter fun id => s.Stale setting now id := by
  refine List.filter_congr fun id _ => ?_
  rw [Bool.eq_iff_iff, Option.any_eq_true, decide_eq_true_iff]
  exact exists_congr fun health => and_congr_right fun _ => decide_eq_true_iff

/-- Where a check that runs alone stands, and what it has done. -/
def Progressed (setting : Setting) (now : Int) (s : Server) : Point → Server → Prop
  | .begin, s' => s' = s
  | .scan entries seen, s' => entries = s.health.keys ∧ seen ⊆ s.health.keys ∧
      s' = visited setting now seen s
  | .timeout nodeID entries seen, s' => ∃ earlier, seen = earlier ++ [nodeID] ∧
      entries = s.health.keys ∧ seen ⊆ s.health.keys ∧ s.Stale setting now nodeID ∧
      s' = visited setting now earlier s
  | .cleanup, s' => ∃ seen, seen.Perm s.health.keys ∧ s' = visited setting now seen s
  | .returned, s' => ∃ order, s' = s.timedOut now setting order

/-- A scan of unchanged entries goes on with what it has visited. -/
theorem progressed_of_scan {sighting : Sighting} {seen : List String} {s s' : Server} {p : Point}
    (known : seen ⊆ s.health.keys) (same : s' = visited setting now seen s)
    (scans : scan setting now sighting s.health.keys seen s' = some p) :
    Progressed setting now s p s' := by
  have health : s'.health = s.health := by rw [same, health_visited]
  have stale (id : String) : s'.Stale setting now id ↔ s.Stale setting now id := by
    rw [Server.Stale, health, Server.Stale]
  unfold scan at scans
  dsimp only at scans
  split at scans
  · next passes =>
      obtain ⟨distinct, passes⟩ := passes
      have listed : seen ++ sighting.passed ⊆ s.health.keys := by
        refine List.append_subset.mpr ⟨known, fun id mem => ?_⟩
        have found := (passes id mem).1
        rwa [health, AList.mem_keys] at found
      have nothing : sighting.passed.filter (fun id => s.Stale setting now id) = [] := by
        rw [List.filter_eq_nil_iff]
        intro id mem hit
        exact (passes id mem).2 ((stale id).mpr (of_decide_eq_true hit))
      have further : s' = visited setting now (seen ++ sighting.passed) s := by
        rw [visited_append, nothing]
        exact same
      split at scans
      · next nodeID _ =>
          split at scans
          · next hit =>
              cases scans
              refine ⟨seen ++ sighting.passed, rfl, rfl, ?_, (stale nodeID).mp hit.2, further⟩
              refine List.append_subset.mpr ⟨listed, fun id mem => ?_⟩
              obtain ⟨entry, found, _⟩ := (stale nodeID).mp hit.2
              rw [List.mem_singleton.mp mem, ← AList.mem_keys]
              exact Table.mem_iff_exists_lookup.mpr ⟨entry, found⟩
          · cases scans
      · split at scans
        · next all =>
            cases scans
            refine ⟨seen ++ sighting.passed, ?_, further⟩
            refine (List.perm_ext_iff_of_nodup distinct s.health.keys_nodup).mpr fun id => ?_
            refine ⟨fun mem => listed mem, fun mem => all id mem ?_⟩
            rw [health]
            exact AList.mem_keys.mpr mem
        · cases scans
  · cases scans

theorem progressed_of_step {sighting : Sighting} {s : Server} {w w' : World} {p p' : Point}
    (progressed : Progressed setting now s p w.data)
    (steps : step setting now sighting p w = some (p', w')) :
    Progressed setting now s p' w'.data ∧ w'.locks = w.locks := by
  cases p with
  | begin =>
      obtain ⟨_, run, scans⟩ := ran_of_atomically steps
      obtain ⟨rfl, rfl⟩ := eq_of_readLocked run
      rw [show w'.data = s from progressed] at scans ⊢
      exact ⟨progressed_of_scan (List.nil_subset _) rfl scans, rfl⟩
  | scan entries seen =>
      obtain ⟨_, run, scans⟩ := ran_of_atomically steps
      obtain ⟨rfl, rfl⟩ := eq_of_readLocked run
      obtain ⟨rfl, known, same⟩ := progressed
      exact ⟨progressed_of_scan known same scans, rfl⟩
  | timeout nodeID entries seen =>
      obtain ⟨_, run, goes⟩ := ran_of_atomically steps
      obtain ⟨_, _, rfl⟩ := eq_of_critical run
      cases goes
      obtain ⟨earlier, rfl, rfl, known, stale, same⟩ := progressed
      refine ⟨⟨rfl, known, ?_⟩, rfl⟩
      dsimp only
      rw [visited_append, same, List.filter_cons_of_pos (by exact decide_eq_true stale)]
      rfl
  | cleanup =>
      obtain ⟨_, run, goes⟩ := ran_of_atomically steps
      obtain ⟨_, _, rfl⟩ := eq_of_critical run
      cases goes
      obtain ⟨seen, perm, same⟩ := progressed
      obtain ⟨order, applied⟩ := Shuffle.exists_apply_eq perm
      refine ⟨⟨order, ?_⟩, rfl⟩
      rw [Server.timedOut, timeouts_eq_filter, applied, same]
      rfl
  | returned => cases steps

/-- **A check that runs alone computes `checkNodesHealth`** for some order of the iteration. -/
theorem checkNodesHealth_of_alone [DecidableEq ι] {requests : ι → Request} {before : World}
    (registryFree : before.locks .registryMu = .free) (sessionFree : before.locks .sessionMu = .free)
    {c : Scene ι} (run : (beside setting now requests before).Run Turn.isCheck c)
    (returned : c.check = .returned) :
    ∃ order, (checkNodesHealth setting now order).run before = .ok () c.world := by
  have progressed : Progressed setting now before.data c.check c.world.data ∧
      c.world.locks = before.locks := by
    refine run.induct (I := fun c => Progressed setting now before.data c.check c.world.data ∧
      c.world.locks = before.locks) (fun c initial => ?_) fun c turn c' progressed check next => ?_
    · rw [show c = ⟨.begin, fun i => (requests i).start, before, []⟩ from initial]
      exact ⟨rfl, rfl⟩
    · cases turn with
      | check sighting =>
          obtain ⟨⟨p, w⟩, steps, rfl⟩ := Option.map_eq_some_iff.mp next
          obtain ⟨further, locks⟩ := progressed_of_step progressed.1 steps
          exact ⟨further, locks.trans progressed.2⟩
      | handler i tick => cases check
  rw [returned] at progressed
  obtain ⟨⟨order, data⟩, locks⟩ := progressed
  refine ⟨order, (checkNodesHealth_run registryFree sessionFree).trans ?_⟩
  rw [← data, ← locks]

end Alone

/-! ## Right marks -/

/-- The assignment makes a node fail that had not failed. -/
def fails (write : StatusWrite) : Bool := write.old ≠ .failed ∧ write.new = .failed

/-- The counter of failed nodes rises by one for every node that fails. -/
def Tallied (before after : Server) : Prop :=
  ∃ writes, after.statusWrites = before.statusWrites ++ writes ∧
    after.failedNodes = before.failedNodes + (writes.countP fails : Nat)

/-- Every node that the check has set to failed had timed out and had not failed, and every failure
is counted once. -/
structure Scene.Right {ι : Type} (before : Server) (c : Scene ι) : Prop where
  marks : ∀ mark ∈ c.marks, mark.outdated = true ∧ mark.found ≠ .failed
  counted : Tallied before c.world.data

/-- A step of a handler for a node that is about to be timed out: the node gets a heartbeat within
the time-out, or it is set to failed. -/
def Handler.Overtakes (setting : Setting) (now : Int) (tick : Tick) (s : Server) (id : String) :
    Handler → Prop
  | .sendHeartbeat req => req.nodeId = id ∧ now - tick.now ≤ setting.config.heartbeatTimeout
  | .register req (.reconnect _) => req.nodeId = id ∧ id ∈ s.nodes ∧
      now - tick.now ≤ setting.config.heartbeatTimeout
  | .register req (.registerNode _ _) => req.nodeId = id ∧
      now - tick.now ≤ setting.config.heartbeatTimeout
  | .handleNodeFailure req => req.nodeId = id ∧ id ∈ s.nodes ∧ s.current.reconfigurable
  | _ => False

/-- No scan finds a node that has failed, and no call overtakes a time-out. -/
def Undisturbed {ι : Type} (setting : Setting) (now : Int) (c : Scene ι) : Turn ι → Prop
  | .check sighting => ∀ id ∈ sighting.found, c.world.data.nodes.statusOf id ≠ some .failed
  | .handler i tick => ∀ id entries seen, c.check = .timeout id entries seen →
      ¬ (c.handlers i).Overtakes setting now tick c.world.data id

instance (setting : Setting) (now : Int) (tick : Tick) (s : Server) (id : String) (h : Handler) :
    Decidable (h.Overtakes setting now tick s id) :=
  match h with
  | .sendHeartbeat _ | .register _ (.registerNode _ _) => inferInstanceAs (Decidable (_ ∧ _))
  | .register _ (.reconnect _) | .handleNodeFailure _ => inferInstanceAs (Decidable (_ ∧ _ ∧ _))
  | .register _ .checkState | .register _ .checkMaster | .register _ .writeMasterAddr
  | .register _ .writeMasterPort | .register _ .getSession | .register _ .admitNode
  | .register _ (.registerSession _) | .register _ (.loadActive _ _)
  | .register _ (.loadStandby _ _ _) | .register _ (.checkStart _ _ _)
  | .register _ (.checkAndStart _ _) | .register _ (.returned _ _)
  | .notifyFailure _ | .recordFailure _ | .returned => instDecidableFalse

/-- Whether a step is undisturbed, decided at the point of the check. -/
def undisturbed {ι : Type} (setting : Setting) (now : Int) (c : Scene ι) : Turn ι → Bool
  | .check sighting => sighting.found.all fun id => c.world.data.nodes.statusOf id ≠ some .failed
  | .handler i tick =>
      match c.check with
      | .timeout id _ _ => ¬ (c.handlers i).Overtakes setting now tick c.world.data id
      | _ => true

theorem undisturbed_sound {ι : Type} (setting : Setting) (now : Int) (c : Scene ι) (turn : Turn ι)
    (allowed : undisturbed setting now c turn = true) : Undisturbed setting now c turn := by
  cases turn with
  | check sighting =>
      intro id found
      have all := (Option.all_eq_true _ _).mp allowed id found
      exact of_decide_eq_true all
  | handler i tick =>
      intro id entries seen point
      simp only [undisturbed, point] at allowed
      exact of_decide_eq_true allowed

/-! ## What a step does -/

namespace Tallied

variable {before middle after : Server}

theorem same (history : after.statusWrites = before.statusWrites)
    (failedNodes : after.failedNodes = before.failedNodes) : Tallied before after :=
  ⟨[], history.trans (List.append_nil _).symm, failedNodes.trans (add_zero _).symm⟩

theorem trans (first : Tallied before middle) (second : Tallied middle after) :
    Tallied before after := by
  obtain ⟨writes, history, counts⟩ := first
  obtain ⟨more, later, recounts⟩ := second
  refine ⟨writes ++ more, ?_, ?_⟩
  · rw [later, history, List.append_assoc]
  · rw [recounts, counts, List.countP_append, Nat.cast_add, add_assoc]

theorem reportFailure (nodeID : String) (s : Server) :
    Tallied s (Interrupted.reportFailure nodeID s) := by
  unfold Interrupted.reportFailure
  cases known : s.nodes.statusOf nodeID with
  | none => exact same rfl rfl
  | some old =>
      by_cases accepted : s.current.reconfigurable
      · refine ⟨[⟨nodeID, old, .failed⟩], ?_, ?_⟩
        · dsimp only
          rw [if_pos accepted]
          exact Interrupted.history_failedOver known
        · dsimp only
          rw [if_pos accepted]
          cases old with
          | active => rfl
          | standby => rfl
          | failed => exact (add_zero _).symm
      · dsimp only
        rw [if_neg accepted]
        exact same rfl rfl

/-- A time-out is tallied, unless the node has failed. -/
theorem handleNodeTimeout {nodeID : String} {s : Server}
    (working : s.nodes.statusOf nodeID ≠ some .failed) :
    Tallied s (s.handleNodeTimeout nodeID) := by
  rw [Server.handleNodeTimeout_eq]
  split
  · next registered =>
      obtain ⟨old, known⟩ := Registry.mem_iff_statusOf.mp registered
      have first : old ≠ .failed := fun failed => working (failed ▸ known)
      refine ⟨[⟨nodeID, old, .failed⟩], history_setStatus known .failed, ?_⟩
      have one : [(⟨nodeID, old, .failed⟩ : StatusWrite)].countP fails = 1 := by
        simp [fails, first]
      rw [one]
      rfl
  · exact same rfl rfl

end Tallied

/-- The node may be timed out. -/
def Due (setting : Setting) (now : Int) (s : Server) (id : String) : Prop :=
  s.Outdated setting now id ∧ s.nodes.statusOf id ≠ some .failed

/-- What a step of `Register` does to the health and the statuses of nodes. -/
inductive Renewal (req : RegisterRequest) (now : Int) (s : Server) :
    Registration.Point → Server → Prop where
  | aside {p : Registration.Point} {s' : Server} (health : s'.health = s.health)
      (statusOf : ∀ id, s'.nodes.statusOf id = s.nodes.statusOf id)
      (history : s'.statusWrites = s.statusWrites) (failedNodes : s'.failedNodes = s.failedNodes) :
      Renewal req now s p s'
  | reconnected (existingSession : SessionState) (node : NodeState)
      (registered : s.nodes.lookup req.nodeId = some node) :
      Renewal req now s (.reconnect existingSession) (s.reconnected req now node)
  | enrolled (admission : Admission) (session : Int) :
      Renewal req now s (.registerNode admission session)
        (s.registerNode req.nodeId req.nodeUrl admission.status admission.rank now).2

theorem renewal_of_step {req : RegisterRequest} {p p' : Registration.Point} {s s' : Server}
    (steps : Registration.step setting req tick p s = some (p', s')) :
    Renewal req tick.now s p s' := by
  have still : Renewal req tick.now s p s := .aside rfl (fun _ => rfl) rfl rfl
  cases p with
  | checkState =>
      simp only [Registration.step] at steps
      split_ifs at steps <;> cases steps <;> exact still
  | checkMaster =>
      simp only [Registration.step] at steps
      split_ifs at steps <;> cases steps <;> exact still
  | writeMasterAddr =>
      cases steps
      exact .aside rfl (fun _ => rfl) rfl rfl
  | writeMasterPort =>
      cases steps
      exact .aside rfl (fun _ => rfl) rfl rfl
  | getSession =>
      simp only [Registration.step] at steps
      cases known : s.sessions.lookup req.nodeId <;> rw [known] at steps <;> cases steps <;>
        exact still
  | reconnect existingSession =>
      simp only [Registration.step] at steps
      cases registered : s.nodes.lookup req.nodeId with
      | none =>
          rw [registered] at steps
          cases steps
          exact still
      | some node =>
          rw [registered] at steps
          cases steps
          exact .reconnected existingSession node registered
  | admitNode =>
      rcases Registration.admitNode_of_step steps with ⟨status, rank, admits, rfl⟩ | ⟨_, rfl, rfl⟩
      · cases admits <;> exact .aside rfl (fun _ => rfl) rfl rfl
      · exact still
  | registerSession admission =>
      obtain ⟨session, _, registered⟩ := Server.sessionRegistered_eq s req tick.now
        admission.status admission.rank
      cases steps
      change Renewal req tick.now s _
        (s.sessionRegistered req tick.now admission.status admission.rank)
      rw [registered]
      exact .aside rfl (fun _ => rfl) rfl rfl
  | registerNode admission session =>
      cases steps
      exact .enrolled admission session
  | loadActive admission session =>
      cases steps
      exact still
  | loadStandby admission session activeNodes =>
      cases steps
      exact still
  | checkStart admission session totalNodes =>
      simp only [Registration.step] at steps
      split_ifs at steps <;> cases steps <;> exact still
  | checkAndStart admission session =>
      obtain ⟨result, started, returns, unchanged⟩ := checkAndStartProgram_returns setting
        tick.round (s := s) (Registration.unlocked_eq .clusterMu) (Registration.unlocked_eq .stateMu)
      simp only [Registration.step, returns] at steps
      cases steps
      rcases unchanged with rfl | ⟨current, rfl⟩
      · exact still
      · exact .aside rfl (Server.statusOf_started s tick.round) rfl rfl
  | returned admission result => cases steps

namespace Renewal

variable {req : RegisterRequest} {p : Registration.Point} {s s' : Server}
  (renewal : Renewal req tick.now s p s')

include renewal

theorem tallied : Tallied s s' := by
  cases renewal with
  | aside health statusOf history failedNodes => exact .same history failedNodes
  | reconnected existingSession node registered => exact .same rfl rfl
  | enrolled admission session => exact .same rfl rfl

/-- A node that is due stays due, unless its registration renews it. -/
theorem due {id : String} (due : Due setting now s id) (working : ¬ p.AdmittedAs .failed)
    (calm : ¬ (Handler.register req p).Overtakes setting now tick s id) :
    Due setting now s' id := by
  cases renewal with
  | aside health statusOf history failedNodes =>
      refine ⟨?_, ?_⟩
      · rw [Server.Outdated, health]
        exact due.1
      · rw [statusOf]
        exact due.2
  | reconnected existingSession node registered =>
      refine ⟨?_, due.2⟩
      by_cases here : req.nodeId = id
      · subst here
        have known : req.nodeId ∈ s.nodes := Table.mem_iff_exists_lookup.mpr ⟨node, registered⟩
        refine ⟨_, AList.lookup_insert _, ?_⟩
        exact not_le.mp fun late => calm ⟨rfl, known, late⟩
      · obtain ⟨health, found, outdated⟩ := due.1
        exact ⟨health, (AList.lookup_insert_ne (Ne.symm here)).trans found, outdated⟩
  | enrolled admission session =>
      by_cases here : req.nodeId = id
      · subst here
        refine ⟨⟨_, AList.lookup_insert _, not_le.mp fun late => calm ⟨rfl, late⟩⟩, ?_⟩
        change Registry.statusOf (AList.insert req.nodeId _ s.nodes) req.nodeId ≠ _
        rw [Registry.statusOf_insert, if_pos rfl]
        exact working
      · obtain ⟨health, found, outdated⟩ := due.1
        refine ⟨⟨health, (AList.lookup_insert_ne (Ne.symm here)).trans found, outdated⟩, ?_⟩
        change Registry.statusOf (AList.insert req.nodeId _ s.nodes) id ≠ _
        rw [Registry.statusOf_insert, if_neg (Ne.symm here)]
        exact due.2

end Renewal

/-- A node that is due stays due, unless it gets a heartbeat within the time-out. -/
theorem Due.heartbeat {s : Server} {id nodeID : String} (due : Due setting now s id)
    (calm : ¬ (nodeID = id ∧ now - tick.now ≤ setting.config.heartbeatTimeout)) :
    Due setting now (s.heartbeat nodeID tick.now).2 id := by
  obtain ⟨⟨health, found, outdated⟩, working⟩ := due
  refine ⟨?_, working⟩
  change ∃ health ∈ (Table.modify nodeID _ s.health).lookup id, _
  by_cases here : id = nodeID
  · rw [here, Table.lookup_modify_self, ← here, found]
    exact ⟨_, rfl, not_le.mp fun late => calm ⟨here.symm, late⟩⟩
  · rw [Table.lookup_modify_of_ne here]
    exact ⟨health, found, outdated⟩

/-- Nor does the record of a failure change that. -/
theorem Due.recordFailure {s : Server} {id : String} (due : Due setting now s id)
    (req : FailureNotificationRequest) : Due setting now (s.recordFailure req).2 id := by
  obtain ⟨⟨health, found, outdated⟩, working⟩ := due
  refine ⟨?_, working⟩
  change ∃ health ∈ (Table.modify req.nodeId _ s.health).lookup id, _
  rw [Table.lookup_modify, found, Option.map_some]
  refine ⟨_, rfl, ?_⟩
  split
  · exact outdated
  · exact outdated

theorem Due.reportFailure {s : Server} {id nodeID : String} (due : Due setting now s id)
    (calm : ¬ (nodeID = id ∧ id ∈ s.nodes ∧ s.current.reconfigurable)) :
    Due setting now (Interrupted.reportFailure nodeID s) id := by
  have health : (Interrupted.reportFailure nodeID s).health = s.health := by
    unfold Interrupted.reportFailure
    split
    · next old _ =>
        split
        · cases old <;> rfl
        · rfl
    · rfl
  refine ⟨?_, ?_⟩
  · rw [Server.Outdated, health]
    exact due.1
  · rw [Interrupted.statusOf_reportFailure calm]
    exact due.2

namespace Handler

/-- A call of `Register` admits no node as failed. -/
def Sound : Handler → Prop
  | .register _ p => ¬ p.AdmittedAs .failed
  | _ => True

variable {h h' : Handler} {w w' : World}

theorem sound_start (request : Request) : request.start.Sound := by
  cases request with
  | register req => exact fun failed => nomatch failed
  | _ => trivial

/-- **What a step of a handler does.** -/
theorem effect (steps : h.step setting tick w = some (h', w')) (sound : h.Sound) :
    h'.Sound ∧ Tallied w.data w'.data ∧ ∀ id, Due setting now w.data id →
      ¬ h.Overtakes setting now tick w.data id → Due setting now w'.data id := by
  cases h with
  | sendHeartbeat req =>
      obtain ⟨_, run, goes⟩ := ran_of_atomically steps
      cases goes
      by_cases registryFree : w.locks .registryMu = .free
      · obtain ⟨_, beats⟩ := sendHeartbeat_run w.data req tick.now registryFree
        cases beats.symm.trans run
        exact ⟨trivial, .same rfl rfl, fun id due calm => due.heartbeat calm⟩
      · simp only [C4D.sendHeartbeat, EStateM.run_bind, critical_run_blocked registryFree] at run
        cases run
  | register req p =>
      dsimp only [step] at steps
      split at steps
      · cases steps
      · obtain ⟨⟨p', s'⟩, registers, same⟩ := Option.map_eq_some_iff.mp steps
        cases same
        have renewal := renewal_of_step registers
        exact ⟨(Registration.turn_of_step registers).working sound, renewal.tallied,
          fun id due calm => renewal.due due sound calm⟩
  | notifyFailure req =>
      obtain ⟨s, run, goes⟩ := ran_of_atomically steps
      obtain ⟨rfl, rfl⟩ := eq_of_readLocked run
      refine ⟨?_, .same rfl rfl, fun id due _ => due⟩
      split at goes <;> cases goes <;> trivial
  | handleNodeFailure req =>
      obtain ⟨_, run, goes⟩ := ran_of_atomically steps
      cases goes
      rw [data_of_handleNodeFailure run]
      exact ⟨trivial, .reportFailure _ _, fun id due calm => due.reportFailure calm⟩
  | recordFailure req =>
      obtain ⟨_, run, goes⟩ := ran_of_atomically steps
      cases goes
      obtain ⟨_, _, rfl⟩ := eq_of_critical run
      exact ⟨trivial, .same rfl rfl, fun id due _ => due.recordFailure req⟩
  | returned => cases steps

end Handler

/-! ## The invariant -/

theorem stale_of_scan {sighting : Sighting} {entries seen : List String} {s : Server} {p : Point}
    {id : String} {entries' seen' : List String}
    (scans : scan setting now sighting entries seen s = some p)
    (found : p = .timeout id entries' seen') : id ∈ sighting.found ∧ s.Stale setting now id := by
  subst found
  unfold scan at scans
  dsimp only at scans
  split at scans
  · split at scans
    · next nodeID sight =>
        split at scans
        · next stale =>
            cases scans
            exact ⟨sight, stale.2⟩
        · cases scans
    · split at scans <;> cases scans
  · cases scans

variable {ι : Type}

/-- The marks so far are right, and a node that is about to be marked is due. -/
structure Scene.Sound (setting : Setting) (now : Int) (before : Server) (c : Scene ι) : Prop where
  right : c.Right before
  handlers : ∀ i, (c.handlers i).Sound
  due : ∀ id entries seen, c.check = .timeout id entries seen → Due setting now c.world.data id

namespace Scene.Sound

variable {before : Server} {c : Scene ι}

theorem check (sound : c.Sound setting now before) {sighting : Sighting}
    (working : ∀ id ∈ sighting.found, c.world.data.nodes.statusOf id ≠ some .failed) {p : Point}
    {w : World} (steps : step setting now sighting c.check c.world = some (p, w)) :
    Scene.Sound setting now before
      { c with check := p, world := w, marks := c.marks ++ c.marking setting now } := by
  have scanned (entries : Server → List String) (seen : List String)
      (unmarked : c.marking setting now = [])
      (steps : atomically (withRLock .registryMu read) c.world
        (fun s => scan setting now sighting (entries s) seen s) = some (p, w)) :
      Scene.Sound setting now before
        { c with check := p, world := w, marks := c.marks ++ c.marking setting now } := by
    obtain ⟨s, run, scans⟩ := ran_of_atomically steps
    obtain ⟨rfl, rfl⟩ := eq_of_readLocked run
    rw [unmarked, List.append_nil]
    refine ⟨⟨sound.right.marks, sound.right.counted⟩, sound.handlers, fun id _ _ found => ?_⟩
    obtain ⟨sighted, stale⟩ := stale_of_scan scans found
    exact ⟨(Server.stale_iff.mp stale).1, working id sighted⟩
  cases point : c.check with
  | begin =>
      rw [point] at steps
      exact scanned (fun s => s.health.keys) [] (by rw [Scene.marking, point]) steps
  | scan entries seen =>
      rw [point] at steps
      exact scanned (fun _ => entries) seen (by rw [Scene.marking, point]) steps
  | timeout nodeID entries seen =>
      have due := sound.due nodeID entries seen point
      rw [point] at steps
      obtain ⟨_, run, goes⟩ := ran_of_atomically steps
      obtain ⟨_, _, rfl⟩ := eq_of_critical run
      cases goes
      refine ⟨⟨fun mark mem => ?_, ?_⟩, sound.handlers, fun _ _ _ found => by cases found⟩
      · rcases List.mem_append.mp mem with mem | mem
        · exact sound.right.marks mark mem
        · simp only [Scene.marking, point, List.mem_map, Option.mem_toList] at mem
          obtain ⟨found, known, rfl⟩ := mem
          exact ⟨decide_eq_true due.1, fun failed => due.2 (failed ▸ known)⟩
      · exact sound.right.counted.trans (.handleNodeTimeout due.2)
  | cleanup =>
      rw [point] at steps
      obtain ⟨_, run, goes⟩ := ran_of_atomically steps
      obtain ⟨_, _, rfl⟩ := eq_of_critical run
      cases goes
      have unmarked : c.marking setting now = [] := by rw [Scene.marking, point]
      rw [unmarked, List.append_nil]
      exact ⟨⟨sound.right.marks, sound.right.counted.trans (.same rfl rfl)⟩, sound.handlers,
        fun _ _ _ found => by cases found⟩
  | returned =>
      rw [point] at steps
      cases steps

theorem handler [DecidableEq ι] (sound : c.Sound setting now before) {i : ι}
    (calm : ∀ id entries seen, c.check = .timeout id entries seen →
      ¬ (c.handlers i).Overtakes setting now tick c.world.data id) {h : Handler} {w : World}
    (steps : (c.handlers i).step setting tick c.world = some (h, w)) :
    Scene.Sound setting now before
      { c with handlers := Function.update c.handlers i h, world := w } := by
  obtain ⟨admits, tallied, stays⟩ := Handler.effect steps (sound.handlers i)
  refine ⟨⟨sound.right.marks, sound.right.counted.trans tallied⟩, fun j => ?_, ?_⟩
  · by_cases here : j = i
    · subst here
      dsimp only
      rw [Function.update_self]
      exact admits
    · dsimp only
      rw [Function.update_of_ne here]
      exact sound.handlers j
  · intro id entries seen point
    exact stays id (sound.due id entries seen point) (calm id entries seen point)

end Scene.Sound

variable [DecidableEq ι]

/-- **The health check marks the right nodes while it is not disturbed.** In every interleaving of
a check with calls of the handlers in which no scan finds a node that has failed and no call
overtakes a time-out, every node that the check sets to failed has timed out and had not failed,
and every failure is counted once. -/
theorem right_of_run (setting : Setting) (now : Int) (requests : ι → Request) (before : World)
    {c : Scene ι} (run : (beside setting now requests before).Run (Undisturbed setting now) c) :
    c.Right before.data := by
  have sound : c.Sound setting now before.data := by
    refine run.induct (I := fun c => c.Sound setting now before.data) (fun c initial => ?_)
      fun c turn c' sound allowed next => ?_
    · rw [show c = ⟨.begin, fun i => (requests i).start, before, []⟩ from initial]
      refine ⟨⟨fun mark mem => ?_, .same rfl rfl⟩, fun i => Handler.sound_start (requests i),
        fun id entries seen point => ?_⟩
      · cases mem
      · cases point
    · cases turn with
      | check sighting =>
          obtain ⟨⟨p, w⟩, steps, rfl⟩ := Option.map_eq_some_iff.mp next
          exact sound.check allowed steps
      | handler i tick =>
          obtain ⟨⟨h, w⟩, steps, rfl⟩ := Option.map_eq_some_iff.mp next
          exact sound.handler allowed steps
  exact sound.right

/-! ## Runs -/

section Runs

/-- Three of four nodes have sent a heartbeat, and the first one has not. -/
def silence : List Action :=
  gathering ++ [.sendHeartbeat ⟨"b.ns.1"⟩ 6, .sendHeartbeat ⟨"c.ns.1"⟩ 6,
    .sendHeartbeat ⟨"d.ns.1"⟩ 6]

/-- A step of a handler at the time of the tick. -/
def answer : Turn Unit := .handler () ⟨6, .except []⟩

/-- The check finds the silent node. -/
def finds : Turn Unit := .check ⟨[], some "a.ns.1"⟩

/-- The check goes on. -/
def goesOn : Turn Unit := .check ⟨[], none⟩

/-- A run of a check beside one call, decided from the start of the server. -/
theorem exists_beside {C : Scene Unit → Turn Unit → Prop} (request : Request)
    (allowed : Scene Unit → Turn Unit → Bool)
    (sound : ∀ c turn, allowed c turn = true → C c turn) (turns : List (Turn Unit))
    (p : Scene Unit → Bool)
    (ends : ((system smallDeployment).runAll (fun _ _ => true) (World.new smallSetting)
      silence).any (fun w => ((beside smallSetting 6 (fun _ => request) w).runAll allowed
        ⟨.begin, fun _ => request.start, w, []⟩ turns).any p) = true) :
    ∃ w, (system smallDeployment).Reachable w ∧
      ∃ c, (beside smallSetting 6 (fun _ => request) w).Run C c ∧ p c = true := by
  obtain ⟨w, reachable, ends⟩ := System.exists_reachable (S := system smallDeployment) silence _ rfl
    ends
  exact ⟨w, reachable, System.exists_run (S := beside smallSetting 6 (fun _ => request) w) allowed
    turns p (fun c turn _ => sound c turn) rfl ends⟩

/-- The silent node is timed out while another node sends a heartbeat. -/
theorem right_of_run_silent :
    ∃ w, (system smallDeployment).Reachable w ∧
      ∃ c, (beside smallSetting 6 (fun _ : Unit => .sendHeartbeat ⟨"b.ns.1"⟩) w).Run
          (Undisturbed smallSetting 6) c ∧
        c.marks = [⟨"a.ns.1", .active, true⟩] ∧ c.Right w.data := by
  obtain ⟨w, reachable, c, run, holds⟩ := exists_beside (.sendHeartbeat ⟨"b.ns.1"⟩)
    (undisturbed smallSetting 6) (undisturbed_sound smallSetting 6) [finds, answer, goesOn]
    (fun c => c.marks = [⟨"a.ns.1", .active, true⟩]) (by decide +kernel)
  exact ⟨w, reachable, c, run, of_decide_eq_true holds, right_of_run smallSetting 6 _ w run⟩

/-- A heartbeat of the silent node arrives before its time-out, or a report of its failure does. A
live node is failed in the one case, and a failed node is counted twice in the other. -/
theorem overtaken :
    (∃ w, (system smallDeployment).Reachable w ∧
      ∃ c, (beside smallSetting 6 (fun _ : Unit => .sendHeartbeat ⟨"a.ns.1"⟩) w).Reachable c ∧
        c.marks = [⟨"a.ns.1", .active, false⟩] ∧ ¬ c.Right w.data) ∧
    ∃ w, (system smallDeployment).Reachable w ∧
      ∃ c, (beside smallSetting 6
          (fun _ : Unit => .notifyFailure ⟨"a.ns.1", "CUDA error", 1, "process"⟩) w).Reachable c ∧
        c.marks = [⟨"a.ns.1", .failed, true⟩] ∧ c.world.data.failedNodes = 2 ∧
        c.world.data.nodes.count .failed = 1 ∧ ¬ c.Right w.data := by
  constructor
  · obtain ⟨w, reachable, c, run, holds⟩ := exists_beside (C := fun _ _ => True)
      (.sendHeartbeat ⟨"a.ns.1"⟩) (fun _ _ => true) (fun _ _ _ => trivial) [finds, answer, goesOn]
      (fun c => c.marks = [⟨"a.ns.1", .active, false⟩]) (by decide +kernel)
    have marks := of_decide_eq_true holds
    refine ⟨w, reachable, c, run, marks, fun right => ?_⟩
    cases (right.marks _ (marks ▸ List.mem_singleton_self _)).1
  · obtain ⟨w, reachable, c, run, holds⟩ := exists_beside (C := fun _ _ => True)
      (.notifyFailure ⟨"a.ns.1", "CUDA error", 1, "process"⟩) (fun _ _ => true)
      (fun _ _ _ => trivial) [finds, answer, answer, answer, goesOn]
      (fun c => c.marks = [⟨"a.ns.1", .failed, true⟩] ∧ c.world.data.failedNodes = 2 ∧
        c.world.data.nodes.count .failed = 1) (by decide +kernel)
    obtain ⟨marks, two, one⟩ := of_decide_eq_true holds
    refine ⟨w, reachable, c, run, marks, two, one, fun right => ?_⟩
    exact (right.marks _ (marks ▸ List.mem_singleton_self _)).2 rfl

end Runs

end HealthCheck

end C4D
