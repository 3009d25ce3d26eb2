import C4D.Server.Rendezvous

/-!
# The ranks of a round

The commands of a round carry the ranks `0, …, n - 1` in their order, one node each
(`Positioned`). Every step of the server adds such rounds behind those that were sent before,
also when it ends the process (`extends_run`). A round that was sent is never changed.
-/

set_option autoImplicit false

namespace C4D

open Foundations Guarded

/-- The commands carry their positions as ranks, and every node gets one. -/
structure Positioned (commands : List Command) : Prop where
  ranks : ∀ i (h : i < commands.length), (commands.get ⟨i, h⟩).rank = i
  nodes : (commands.map Command.nodeID).Nodup

/-- The commands to nodes whose ranks are their positions. -/
theorem positioned_map {nodes : List String} {command : String → Command} (nodup : nodes.Nodup)
    (positions : ∀ id ∈ nodes, (command id).rank = nodes.idxOf id)
    (names : ∀ id, (command id).nodeID = id) : Positioned (nodes.map command) where
  ranks i h := by
    rw [List.length_map] at h
    have here : (command nodes[i]).rank = i := by
      rw [positions _ (List.getElem_mem h), nodup.idxOf_getElem i h]
    rw [List.get_eq_getElem, List.getElem_map]
    exact here
  nodes := by
    rw [List.map_map, show Command.nodeID ∘ command = id from funext names, List.map_id]
    exact nodup

/-- Rounds with positioned commands were sent after some rounds. -/
def Dispatch.Extends (base : List (List Command)) (d : Dispatch) : Prop :=
  ∃ sent, d.rounds = base ++ sent ∧ ∀ commands ∈ sent, Positioned commands

namespace Dispatch.Extends

variable {base : List (List Command)} {d d' : Dispatch}

theorem refl (d : Dispatch) : d.Extends d.rounds := ⟨[], (List.append_nil _).symm, nofun⟩

theorem of_rounds (extended : d.Extends base) (same : d'.rounds = d.rounds) : d'.Extends base := by
  obtain ⟨sent, rounds, positioned⟩ := extended
  exact ⟨sent, same.trans rounds, positioned⟩

theorem concat (extended : d.Extends base) {commands : List Command}
    (positioned : Positioned commands) (adds : d'.rounds = d.rounds ++ [commands]) :
    d'.Extends base := by
  obtain ⟨sent, rounds, before⟩ := extended
  refine ⟨sent ++ [commands], by rw [adds, rounds, List.append_assoc], fun later mem => ?_⟩
  rcases List.mem_append.mp mem with mem | mem
  · exact before later mem
  · rw [List.mem_singleton.mp mem]
    exact positioned

end Dispatch.Extends

variable {setting : Setting} {base : List (List Command)} {s : Server} {locks : Lock → RWMutex}

/-! ## Start -/

/-- The start sends a positioned round. -/
theorem extends_started (round : Round) (extended : s.dispatch.Extends base) :
    (s.started round).dispatch.Extends base := by
  refine extended.concat (positioned_map Server.nodup_startTargets (fun id mem => ?_) fun _ => rfl) rfl
  exact Server.rankOf_started round (Server.mem_startTargets.mp mem)

section Register

variable {req : RegisterRequest} {now : Int} {status : Status} {rank : Int} {counted : Server}

theorem rounds_captureMaster (req : RegisterRequest) : (s.captureMaster req).rounds = s.rounds := by
  unfold Server.captureMaster
  split
  · rfl
  · rfl

theorem rounds_admitted
    (admitted : (s.captureMaster req).admitNode setting = (.ok (status, rank), counted)) :
    counted.rounds = s.rounds := by
  refine Eq.trans ?_ (rounds_captureMaster req)
  rcases Server.admitted_of_admits admitted with _ | _
  · rfl
  · rfl

theorem rounds_sessionRegistered :
    (counted.sessionRegistered req now status rank).rounds = counted.rounds := by
  obtain ⟨_, _, same⟩ := Server.sessionRegistered_eq counted req now status rank
  rw [same]

theorem rounds_enrolled : (counted.enrolled req now status rank).rounds = counted.rounds := by
  obtain ⟨_, _, same⟩ := Server.enrolled_eq counted req now status rank
  rw [same]

theorem extends_register (settled : Settled ⟨s, locks⟩) (round : Round)
    (extended : s.dispatch.Extends base) :
    (World.run (register setting req now round) ⟨s, locks⟩).2.data.dispatch.Extends base := by
  rw [World.run_snd]
  have ends := register_ends setting settled req now round
  generalize (register setting req now round).run ⟨s, locks⟩ = outcome at ends ⊢
  cases ends with
  | refused refusal closed => exact extended
  | reconnected response accepting registryFree found registered =>
      exact extended.of_rounds (rounds_captureMaster req)
  | waiting accepting held found => exact extended.of_rounds (rounds_captureMaster req)
  | full refusal accepting new refuses => exact extended.of_rounds (rounds_captureMaster req)
  | counted accepting fresh held admitted =>
      exact extended.of_rounds (rounds_sessionRegistered.trans (rounds_admitted admitted))
  | enrolled response enrolls incomplete =>
      exact extended.of_rounds (rounds_enrolled.trans (rounds_admitted enrolls.admitted))
  | completing enrolls complete held =>
      exact extended.of_rounds (rounds_enrolled.trans (rounds_admitted enrolls.admitted))
  | short response enrolls complete clusterFree few =>
      exact extended.of_rounds (rounds_enrolled.trans (rounds_admitted enrolls.admitted))
  | @started status rank counted response enrolls complete clusterFree enough =>
      have before : (counted.enrolled req now status rank).dispatch.Extends base :=
        extended.of_rounds (rounds_enrolled.trans (rounds_admitted enrolls.admitted))
      exact (extends_started round before).of_rounds rfl
  | startFailed enrolls complete clusterFree enough silent =>
      exact extends_started round
        (extended.of_rounds (rounds_enrolled.trans (rounds_admitted enrolls.admitted)))

end Register

/-! ## Reconfigurations -/

/-- The notifications send a positioned round. -/
theorem extends_notified (round : Round) (extended : s.dispatch.Extends base) :
    (s.notified setting round).dispatch.Extends base :=
  extended.concat (positioned_map Server.nodup_targets (fun _ => Server.rankOf_notified) fun _ => rfl)
    Server.rounds_notified

/-- However its attempts end, a reconfiguration sends positioned rounds. -/
theorem extends_reconfigureFrom (rounds : Nat → Round) (clusterFree : Bool) (left attempt : Nat)
    (extended : s.dispatch.Extends base) :
    (s.reconfigureFrom setting rounds clusterFree left attempt).data.dispatch.Extends base := by
  induction left generalizing attempt s with
  | zero => exact extended
  | succ left ih =>
      rw [Server.reconfigureFrom]
      have notified : (s.notified setting (rounds attempt)).dispatch.Extends base :=
        extends_notified (rounds attempt) extended
      split
      · exact extended.of_rounds (Server.rounds_promoteFrom _ _ _ s)
      split
      · exact notified.of_rounds (Server.rounds_resumed _)
      split
      · exact ih (attempt + 1) (notified.of_rounds Server.rounds_marked)
      · exact notified

theorem extends_reconfigure (rounds : Nat → Round) (clusterFree : Bool)
    (extended : s.dispatch.Extends base) :
    (s.reconfigure setting rounds clusterFree).data.dispatch.Extends base :=
  extends_reconfigureFrom (s := { s with current := .reconfiguring }) rounds clusterFree maxAttempts 0
    extended

theorem extends_removed {nodeID : String} {status : Status} (extended : s.dispatch.Extends base) :
    (s.removed nodeID status).dispatch.Extends base := by
  cases status <;> exact extended

theorem extends_removeNode (settled : Settled ⟨s, locks⟩) (nodeID : String) (rounds : Nat → Round)
    (extended : s.dispatch.Extends base) :
    (World.run (removeNode setting nodeID rounds) ⟨s, locks⟩).2.data.dispatch.Extends base := by
  rw [World.run_snd]
  have sent : ((s.removed nodeID .active).reconfigure setting rounds false).data.dispatch.Extends base :=
    extends_reconfigure rounds false (extends_removed extended)
  have ends := removeNode_ends setting settled rounds nodeID
  generalize (removeNode setting nodeID rounds).run ⟨s, locks⟩ = outcome at ends ⊢
  cases ends with
  | waiting held => exact extended
  | unknown refusal absent => exact extended
  | refused refusal refused => exact extended
  | inactive clusterFree known accepted inactive => exact extends_removed extended
  | returned clusterFree known accepted returns => rwa [returns] at sent
  | exited locks' clusterFree known accepted exits => rwa [exits] at sent
  | stuck clusterFree known accepted sticks => rwa [sticks] at sent

theorem extends_spawnedReconfigure (settled : Settled ⟨s, locks⟩) (rounds : Nat → Round)
    (extended : s.dispatch.Extends base) :
    (World.run (spawnedReconfigure setting rounds) ⟨s, locks⟩).2.data.dispatch.Extends base := by
  rw [World.run_snd]
  have sent : (s.scheduled.reconfigure setting rounds
      (decide (locks .clusterMu = .free))).data.dispatch.Extends base :=
    extends_reconfigure rounds _ extended
  have ends := spawnedReconfigure_ends setting settled rounds
  generalize (spawnedReconfigure setting rounds).run ⟨s, locks⟩ = outcome at ends ⊢
  cases ends with
  | refused locks' refused => exact extended
  | returned accepted returns =>
      rw [returns] at sent
      exact sent.of_rounds rfl
  | exited locks' accepted exits => rwa [exits] at sent
  | stuck accepted sticks => rwa [sticks] at sent

/-! ## Steps -/

/-- The server only takes in what others report, or what its clock says. -/
def Action.Listens : Action → Prop
  | .sendHeartbeat _ _ => True
  | .notifyFailure _ => True
  | .sendMetrics _ _ => True
  | .healthTick _ _ => True
  | .cleanupTick _ _ => True
  | _ => False

/-- Such a step sends no command. -/
theorem rounds_of_listens {w : World} {act : Action} (listens : act.Listens) :
    (act.run setting w).2.data.rounds = w.data.rounds := by
  have silent {α : Type} {op : Op α} (nothing : SendsNothing op) :
      (w.run op).2.data.rounds = w.data.rounds := by
    rw [World.run_snd]
    exact congrArg Dispatch.rounds (nothing w.data.dispatch w rfl)
  cases act with
  | sendHeartbeat req now => exact silent (Leaves.sendHeartbeat ignores_dispatch req now)
  | notifyFailure req => exact silent (Leaves.notifyFailure ignores_dispatch req)
  | sendMetrics req order => exact silent (Leaves.sendMetrics ignores_dispatch req order)
  | healthTick now order => exact silent (sendsNothing_checkNodesHealth setting now order)
  | cleanupTick now order => exact silent (sendsNothing_cleanupDeadConnections setting now order)
  | register => cases listens
  | removeNode => cases listens
  | reconfigure => cases listens

/-- **Every step adds positioned rounds behind those that were sent**, also when it ends the process. -/
theorem extends_run {w : World} (settled : Settled w) (act : Action) :
    (act.run setting w).2.data.dispatch.Extends w.data.rounds := by
  have start : w.data.dispatch.Extends w.data.rounds := .refl w.data.dispatch
  cases act with
  | register req now round => exact extends_register settled round start
  | sendHeartbeat => exact start.of_rounds (rounds_of_listens trivial)
  | notifyFailure => exact start.of_rounds (rounds_of_listens trivial)
  | sendMetrics => exact start.of_rounds (rounds_of_listens trivial)
  | healthTick => exact start.of_rounds (rounds_of_listens trivial)
  | cleanupTick => exact start.of_rounds (rounds_of_listens trivial)
  | removeNode nodeID rounds => exact extends_removeNode settled nodeID rounds start
  | reconfigure rounds => exact extends_spawnedReconfigure settled rounds start

theorem extends_of_next {w w' : World} (settled : Settled w) {act : Action}
    (next : w.next setting act = some w') : w'.data.dispatch.Extends w.data.rounds :=
  World.run_of_next next ▸ extends_run settled act

end C4D
