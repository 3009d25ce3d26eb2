import C4D.Server.Handlers

/-!
# Reconfiguration as a function on the data

One attempt of `reconfigureCluster` promotes (`prepared`), sorts (`targets`),
renumbers and notifies (`notified`), and marks what it finds under the URLs that
did not answer (`marked`). `reconfigureFrom` repeats that and says how the call
ends. `reconfigureCluster_run` states that the code computes this function, with
every lock as before, when the locks it takes are free; the cluster lock may be
held, and then the marking of failed nodes waits for it for good.
-/

set_option autoImplicit false

namespace C4D

open Foundations Guarded

/-! ## One attempt -/

namespace Server

/-- The data after the promotion loop, from a list of `len` active nodes and turn `i` on. -/
def promoteFrom : Nat → Nat → List String → Server → Server
  | _, _, [], s => s
  | len, i, id :: rest, s => promoteFrom (len + 1) (i + 1) rest (s.promote id (len + i))

section Attempt

variable (setting : Setting) (round : Round) (s : Server)

/-- The active nodes an attempt finds. -/
def activeList : List String := s.nodes.listWith round.order .active

/-- The standby nodes an attempt promotes: as many as are missing, in the order it finds them. -/
def promotions : List String :=
  (s.nodes.listWith round.order .standby).take
    (setting.config.activeNodes - (s.activeList round).length).toNat

/-- The nodes that are active after the promotions. -/
def chosen : List String := s.activeList round ++ s.promotions setting round

/-- The data after the promotions. -/
def prepared : Server :=
  (promoteFrom (s.activeList round).length 0 (s.promotions setting round) s).countPromoted
    (s.promotions setting round).length

/-- The nodes that are notified, in the order of their new ranks. -/
def targets : List String :=
  sortBy round.ties (s.prepared setting round).nodes.rankOf (s.chosen setting round)

/-- The data after the ranks are assigned. -/
def renumbered : Server :=
  let s' := s.prepared setting round
  { s' with nodes := s'.nodes.assignRanks (s.targets setting round) 0 }

/-- The data after the commands are sent. -/
def notified : Server :=
  let s' := s.renumbered setting round
  { s' with rounds := s'.rounds ++ [(s.targets setting round).map (s'.restartCommand setting)] }

/-- The URLs that did not answer with 200. -/
def unreached : List String :=
  (((s.targets setting round).filter fun id => !round.answers id).map
    (s.notified setting round).nodes.urlOf).dedup

/-- The data after the nodes found under these URLs are marked failed. -/
def marked : Server := (s.unreached setting round).foldl markFailed (s.notified setting round)

/-- Back to `Running` after the nodes were notified. -/
def resumed : Server := if s.current = .reconfiguring then { s with current := .running } else s

/-- Ended by a transition to `Failed`. -/
def terminated : Server := { s with current := .failed }

end Attempt

end Server

/-! ## What an attempt leaves alone -/

/-- The fields that promotions, commands and markings do not write. -/
structure Elsewhere where
  current : State
  health : Table String NodeHealth
  sessions : Table String SessionState
  latencyMatrix : LatencyMatrix
  masterAddr : String
  masterPort : String
  spawned : Nat
  inFlight : Nat

namespace Server

/-- The part of the server that an attempt leaves alone. -/
def elsewhere (s : Server) : Elsewhere :=
  { current := s.current, health := s.health, sessions := s.sessions
    latencyMatrix := s.latencyMatrix, masterAddr := s.masterAddr, masterPort := s.masterPort
    spawned := s.spawned, inFlight := s.inFlight }

variable (setting : Setting) (round : Round)

@[simp] theorem elsewhere_promoteFrom (len i : Nat) (promoted : List String) (s : Server) :
    (s.promoteFrom len i promoted).elsewhere = s.elsewhere := by
  induction promoted generalizing len i s with
  | nil => rfl
  | cons id rest ih => exact ih ..

@[simp] theorem elsewhere_markFailed (s : Server) (nodeURL : String) :
    (s.markFailed nodeURL).elsewhere = s.elsewhere := by
  unfold markFailed
  cases s.nodes.statusOf nodeURL with
  | none => rfl
  | some oldStatus => cases oldStatus <;> rfl

theorem elsewhere_foldl_markFailed (urls : List String) (s : Server) :
    (urls.foldl markFailed s).elsewhere = s.elsewhere := by
  induction urls generalizing s with
  | nil => rfl
  | cons url rest ih => rw [List.foldl_cons, ih, elsewhere_markFailed]

@[simp] theorem elsewhere_notified (s : Server) :
    (s.notified setting round).elsewhere = s.elsewhere :=
  elsewhere_promoteFrom ..

@[simp] theorem elsewhere_marked (s : Server) :
    (s.marked setting round).elsewhere = s.elsewhere := by
  rw [marked, elsewhere_foldl_markFailed, elsewhere_notified]

end Server

/-! ## All attempts -/

/-- How a run of `reconfigureCluster` ends once it is in `Reconfiguring`. -/
inductive Reconfigured where
  /-- It returned nil. -/
  | returned (s : Server)
  /-- It ended the process. -/
  | exited (s : Server)
  /-- It waits for the cluster lock. -/
  | stuck (s : Server)

/-- The attempts that are left, from a given one on. -/
def Server.reconfigureFrom (setting : Setting) (rounds : Nat → Round) (clusterFree : Bool) :
    Nat → Nat → Server → Reconfigured
  | 0, _, s => .exited s.terminated
  | left + 1, attempt, s =>
      if ((s.chosen setting (rounds attempt)).length : Int) < setting.config.activeNodes then
        .exited (s.prepared setting (rounds attempt)).terminated
      else if s.unreached setting (rounds attempt) = [] then
        .returned (s.notified setting (rounds attempt)).resumed
      else if clusterFree then
        reconfigureFrom setting rounds clusterFree left (attempt + 1)
          (s.marked setting (rounds attempt))
      else
        .stuck (s.notified setting (rounds attempt))

/-- The call entered from `Running` or `Reconfiguring`. -/
def Server.reconfigure (setting : Setting) (rounds : Nat → Round) (clusterFree : Bool)
    (s : Server) : Reconfigured :=
  reconfigureFrom setting rounds clusterFree maxAttempts 0 { s with current := .reconfiguring }

/-! ## The code computes these functions -/

section Run

variable {s : Server} {locks : Lock → RWMutex}

theorem promoteLoop_run (free : locks .registryMu = .free) (activeNodes promoted : List String)
    (i : Nat) :
    (promoteLoop activeNodes promoted i).run ⟨s, locks⟩ =
      .ok (activeNodes ++ promoted) ⟨s.promoteFrom activeNodes.length i promoted, locks⟩ := by
  induction promoted generalizing activeNodes i s with
  | nil => simp only [promoteLoop, EStateM.run_pure, Server.promoteFrom, List.append_nil]
  | cons id rest ih =>
      simp only [promoteLoop, EStateM.run_bind, critical_run free]
      rw [ih]
      simp only [Server.promoteFrom, List.append_assoc, List.singleton_append, List.length_append,
        List.length_singleton]

theorem promoteNeeded_run (setting : Setting) (registryFree : locks .registryMu = .free)
    (metricsFree : locks .metricsMu = .free) (activeNodes standbyNodes : List String) :
    (promoteNeeded setting activeNodes standbyNodes).run ⟨s, locks⟩ =
      let promoted := standbyNodes.take (setting.config.activeNodes - activeNodes.length).toNat
      .ok (activeNodes ++ promoted)
        ⟨(s.promoteFrom activeNodes.length 0 promoted).countPromoted promoted.length, locks⟩ := by
  by_cases needed : 0 < setting.config.activeNodes - activeNodes.length ∧ 0 < standbyNodes.length
  · have same : standbyNodes.take
        (min (setting.config.activeNodes - activeNodes.length) (standbyNodes.length : Int)).toNat =
        standbyNodes.take (setting.config.activeNodes - activeNodes.length).toNat :=
      List.take_eq_take_iff.mpr (by omega)
    have size : min (setting.config.activeNodes - activeNodes.length) (standbyNodes.length : Int) =
        (standbyNodes.take (setting.config.activeNodes - activeNodes.length).toNat).length := by
      rw [List.length_take]
      omega
    simp only [promoteNeeded, if_pos needed, EStateM.run_bind, promoteLoop_run registryFree,
      critical_run metricsFree, EStateM.run_pure]
    rw [same, ← size]
  · have none : standbyNodes.take (setting.config.activeNodes - activeNodes.length).toNat = [] := by
      rw [List.take_eq_nil_iff]
      rcases not_and_or.mp needed with enough | empty
      · exact .inl (by omega)
      · exact .inr (List.length_eq_zero_iff.mp (by omega))
    simp only [promoteNeeded, if_neg needed, EStateM.run_pure, none, List.append_nil,
      List.length_nil, Server.promoteFrom, Server.countPromoted, Nat.cast_zero, add_zero, sub_zero]

/-- The notifications, with the marking of the nodes found under the URLs that failed. -/
theorem notifyNodesInParallel_run (s : Server) (locks : Lock → RWMutex) (setting : Setting)
    (round : Round) :
    (notifyNodesInParallel setting round.answers (s.targets setting round)).run
        ⟨s.prepared setting round, locks⟩ =
      if s.unreached setting round = [] then .ok (.ok ()) ⟨s.notified setting round, locks⟩
      else if locks .clusterMu = .free then
        .ok (.error (.notificationFailed (s.unreached setting round).length))
          ⟨s.marked setting round, locks⟩
      else .error (.blocked .clusterMu) ⟨s.notified setting round, locks⟩ := by
  have failedNodes : ((((s.targets setting round).filter fun id => !round.answers id).map
      (s.notified setting round).nodes.urlOf).dedup) = s.unreached setting round := rfl
  have commands : (s.renumbered setting round).rounds ++
      [(s.targets setting round).map ((s.renumbered setting round).restartCommand setting)] =
        (s.notified setting round).rounds := rfl
  simp only [notifyNodesInParallel, EStateM.run_bind, update_run, read_run]
  change (if 0 < (s.unreached setting round).length then _ else _ : Op _).run
    ⟨s.notified setting round, locks⟩ = _
  by_cases answered : s.unreached setting round = []
  · rw [if_neg (by rw [answered]; exact lt_irrefl 0), if_pos answered, EStateM.run_pure]
  · rw [if_pos (List.length_pos_iff.mpr answered), if_neg answered]
    by_cases free : locks .clusterMu = .free
    · rw [if_pos free]
      simp only [EStateM.run_bind, lock_run free, update_run, unlock_run, release_eq free,
        EStateM.run_pure]
      rfl
    · rw [if_neg free, EStateM.run_bind, lock_run_blocked free]

/-- Where a call that computes a `Reconfigured` leaves the world. -/
def Reconfigured.Describes (locks : Lock → RWMutex) (outcome : Reconfigured)
    (result : EStateM.Result (Halt Lock) World (Except ClusterError Unit)) : Prop :=
  match outcome with
  | .returned s => result = .ok (.ok ()) ⟨s, locks⟩
  | .exited s => result = .error .exited ⟨s, Function.update locks .stateMu .written⟩
  | .stuck s => result = .error (.blocked .clusterMu) ⟨s, locks⟩

/-- **The attempts compute `reconfigureFrom`.** -/
theorem reconfigureAttempts_run (setting : Setting) (rounds : Nat → Round)
    (registryFree : locks .registryMu = .free) (stateFree : locks .stateMu = .free)
    (metricsFree : locks .metricsMu = .free) (left attempt : Nat)
    (reconfiguring : s.current = .reconfiguring) :
    (s.reconfigureFrom setting rounds (decide (locks .clusterMu = .free)) left attempt).Describes locks
      ((reconfigureAttempts setting rounds left attempt).run ⟨s, locks⟩) := by
  induction left generalizing attempt s with
  | zero =>
      have ne : s.current ≠ .failed := by rw [reconfiguring]; decide
      simp only [reconfigureAttempts, EStateM.run_bind, transition_failed_run stateFree ne]
      rfl
  | succ left ih =>
      have prepared : (s.prepared setting (rounds attempt)).current = .reconfiguring :=
        (congrArg Elsewhere.current (Server.elsewhere_notified setting (rounds attempt) s)).trans
          reconfiguring
      have promotes : (promoteNeeded setting (s.nodes.listWith (rounds attempt).order .active)
          (s.nodes.listWith (rounds attempt).order .standby)).run ⟨s, locks⟩ =
            .ok (s.chosen setting (rounds attempt)) ⟨s.prepared setting (rounds attempt), locks⟩ :=
        promoteNeeded_run setting registryFree metricsFree _ _
      have notifies := notifyNodesInParallel_run s locks setting (rounds attempt)
      rw [Server.targets] at notifies
      simp only [reconfigureAttempts, Server.reconfigureFrom, EStateM.run_bind,
        readLocked_run registryFree, promotes]
      by_cases few : ((s.chosen setting (rounds attempt)).length : Int) < setting.config.activeNodes
      · have ne : (s.prepared setting (rounds attempt)).current ≠ .failed := by
          rw [prepared]; decide
        simp only [if_pos few, EStateM.run_bind, transition_failed_run stateFree ne]
        rfl
      · simp only [if_neg few, EStateM.run_bind, read_run, notifies]
        by_cases answered : s.unreached setting (rounds attempt) = []
        · have running : State.running ∈ validTransitions
              (s.notified setting (rounds attempt)).current := by
            change State.running ∈ validTransitions (s.prepared setting (rounds attempt)).current
            rw [prepared]; decide
          have back : (s.notified setting (rounds attempt)).current = .reconfiguring := prepared
          simp only [if_pos answered, EStateM.run_bind, current_run stateFree, if_pos back,
            transition_run .running stateFree (by decide) running, EStateM.run_pure, Server.resumed]
          rfl
        · by_cases free : locks .clusterMu = .free
          · rw [decide_eq_true free] at ih ⊢
            simp only [if_neg answered, if_pos free, if_true]
            exact ih (attempt + 1) ((congrArg Elsewhere.current
              (Server.elsewhere_marked setting (rounds attempt) s)).trans reconfiguring)
          · simp only [if_neg answered, if_neg free, decide_eq_false free, Bool.false_eq_true,
              if_false]
            rfl

/-- **`reconfigureCluster` computes `reconfigure`** from a state it accepts. -/
theorem reconfigureCluster_run (setting : Setting) (rounds : Nat → Round)
    (registryFree : locks .registryMu = .free) (stateFree : locks .stateMu = .free)
    (metricsFree : locks .metricsMu = .free) (accepted : s.current.reconfigurable) :
    (s.reconfigure setting rounds (decide (locks .clusterMu = .free))).Describes locks
      ((reconfigureCluster setting rounds).run ⟨s, locks⟩) := by
  have run := reconfigureAttempts_run (s := { s with current := .reconfiguring }) setting rounds
    registryFree stateFree metricsFree maxAttempts 0 rfl
  by_cases already : s.current = .reconfiguring
  · have same : { s with current := .reconfiguring } = s := by rw [← already]
    simp only [reconfigureCluster, EStateM.run_bind, current_run stateFree, already, ne_eq,
      not_true_eq_false, if_false]
    rw [same] at run
    rwa [Server.reconfigure, same]
  · simp only [reconfigureCluster, EStateM.run_bind, current_run stateFree, ne_eq, already,
      not_false_eq_true, if_true,
      transition_run .reconfiguring stateFree (by decide) (State.reconfigurable_iff.mp accepted)]
    exact run

/-- From any other state it is refused and changes nothing. -/
theorem reconfigureCluster_run_refused (setting : Setting) (rounds : Nat → Round)
    (stateFree : locks .stateMu = .free) (refused : ¬ s.current.reconfigurable) :
    (reconfigureCluster setting rounds).run ⟨s, locks⟩ =
      .ok (.error (.reconfiguringRefused (.invalidTransition s.current .reconfiguring)))
        ⟨s, locks⟩ := by
  have ne : s.current ≠ .reconfiguring := fun same => refused (.inr same)
  simp only [reconfigureCluster, EStateM.run_bind, current_run stateFree, ne_eq, ne,
    not_false_eq_true, if_true,
    transition_run_refused stateFree (by decide) (State.reconfigurable_iff.not.mp refused),
    EStateM.run_pure]

/-- With every lock free, a call that returns nil was accepted and computed its result. -/
theorem returned_of_run {setting : Setting} {rounds : Nat → Round} {s' : Server}
    {locks' : Lock → RWMutex} (free : ∀ l, locks l = .free)
    (returns : (reconfigureCluster setting rounds).run ⟨s, locks⟩ = .ok (.ok ()) ⟨s', locks'⟩) :
    s.current.reconfigurable ∧ s.reconfigure setting rounds true = .returned s' := by
  by_cases accepted : s.current.reconfigurable
  · have describes := reconfigureCluster_run setting rounds (free _) (free _) (free _) accepted
    rw [decide_eq_true (free .clusterMu), returns] at describes
    refine ⟨accepted, ?_⟩
    cases outcome : s.reconfigure setting rounds true with
    | returned s'' =>
        rw [outcome] at describes
        injection describes with _ equal
        injection equal with equal
        rw [equal]
    | exited s'' => rw [outcome] at describes; cases describes
    | stuck s'' => rw [outcome] at describes; cases describes
  · rw [reconfigureCluster_run_refused setting rounds (free _) accepted] at returns
    cases returns

end Run

namespace Server

@[simp] theorem nodes_resumed (s : Server) : s.resumed.nodes = s.nodes := by
  unfold resumed
  split <;> rfl

@[simp] theorem rounds_resumed (s : Server) : s.resumed.rounds = s.rounds := by
  unfold resumed
  split <;> rfl

@[simp] theorem history_resumed (s : Server) : s.resumed.statusWrites = s.statusWrites := by
  unfold resumed
  split <;> rfl

end Server

end C4D
