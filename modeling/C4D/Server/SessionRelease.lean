import C4D.Server.Together

/-!
# The sessions of departed nodes

A node leaves the registry by a cleanup tick or by a removal through the API. A cleanup
tick disconnects its session, which `CleanupSessions` drops when its timeout has passed
(`Departed.lookup_cleanupSessions`). A removal leaves the session connected, and
`CleanupSessions` drops no connected session. The other step that separates a node from
its session is the registration of a new node that waits for the registry: its session
is entered first. In a run without these steps every connected session belongs to a
registered node (`released_of_run`), and each of them ends that (`released_next_iff`).
-/

set_option autoImplicit false

namespace C4D

open Foundations Guarded

/-- Every connected session belongs to a registered node. -/
def Released (s : Server) : Prop := ∀ id, s.Connected id → id ∈ s.nodes

/-- The node is not registered, and its session was disconnected at a time or before it. -/
structure Departed (id : String) (departed : Int) (s : Server) : Prop where
  unregistered : id ∉ s.nodes
  disconnected : ∀ session, s.sessions.lookup id = some session →
    session.isConnected = false ∧ session.lastSeen ≤ departed

/-- The step is a registration of the node. -/
def Action.registers (id : String) : Action → Prop
  | .register req _ _ => req.nodeId = id
  | _ => False

variable {setting : Setting} {s s' : Server} {w w' : World} {a : Action} {id : String}
  {departed : Int}

theorem Server.mem_of_deadConnections {now : Int} {order : Shuffle String}
    (dead : id ∈ s.deadConnections setting now order) : id ∈ s.health := by
  have listed := (List.mem_filter.mp dead).1
  exact AList.mem_keys.mpr ((order.mem_apply _ id).mp listed)

/-! ## Connected sessions of registered nodes -/

namespace Released

/-- The rolls decide it. -/
theorem iff_roll : Released s ↔ ∀ id session, s.roll.session id = some session →
    session.isConnected = true → s.roll.registered id :=
  ⟨fun released id session found connected => released id ⟨session, found, connected⟩,
    fun released id ⟨session, found, connected⟩ => released id session found connected⟩

theorem step (released : Released w.data) (step : RollStep setting w a s'.roll)
    (joined : ¬ a.severs setting w) : Released s' := by
  rw [iff_roll] at released ⊢
  generalize s'.roll = after at step ⊢
  intro id session found connected
  cases step with
  | kept => exact released id session found connected
  | entered req now round entered _ registryFree =>
      by_cases here : id = req.nodeId
      · exact .inl here
      · simp only [Roll.enter, Function.update_of_ne here] at found
        exact .inr (released id session found connected)
  | waiting req now round entered _ severs => exact absurd severs joined
  | swept now order =>
      exact released id session (Option.filter_eq_some_iff.mp found).1 connected
  | departed now order =>
      obtain ⟨before, known, same⟩ := Option.map_eq_some_iff.mp found
      split at same
      · subst same
        cases connected
      · next stays =>
          subst same
          exact ⟨stays, released id before known connected⟩
  | struck nodeID rounds severs => exact absurd severs joined

/-- A step that severs a node from its session leaves a connected session behind. -/
theorem not_of_severs (attended : Attended w.data) (step : RollStep setting w a s'.roll)
    (severs : a.severs setting w) : ¬ Released s' := by
  rw [iff_roll]
  generalize s'.roll = after at step
  intro released
  cases step with
  | kept _ joined => exact joined severs
  | entered req now round session connected registryFree => exact severs.1 registryFree
  | waiting req now round session connected _ =>
      have registered := released req.nodeId session (Function.update_self ..) connected
      obtain ⟨session, found, _⟩ := attended req.nodeId
        (Registry.statusOf_ne_none.mpr (AList.mem_keys.mp registered))
      cases found.symm.trans severs.2.2.1
  | swept now order => exact severs
  | departed now order => exact severs
  | struck nodeID rounds _ =>
      obtain ⟨session, found, connected⟩ := attended nodeID
        (Registry.statusOf_ne_none.mpr (AList.mem_keys.mp severs.2.1))
      exact (released nodeID session found connected).1 rfl

end Released

/-- A step keeps the connected sessions those of registered nodes unless it severs one. -/
theorem released_next_iff (reachable : setting.system.Reachable w) (released : Released w.data)
    (next : w.next setting a = some w') : Released w'.data ↔ ¬ a.severs setting w := by
  have step := rollStep_of_next (setting.settled_of_reachable reachable) next
  exact ⟨fun still severs =>
      Released.not_of_severs (setting.attended_of_reachable reachable) step severs still,
    released.step step⟩

/-! ## Departed nodes -/

namespace Departed

/-- A node that leaves in a step that severs nothing is struck by a cleanup tick. -/
theorem of_step (step : RollStep setting w a s'.roll) (joined : ¬ a.severs setting w)
    (registered : id ∈ w.data.nodes) (left : id ∉ s'.nodes) :
    ∃ now order, a = .cleanupTick now order ∧ Departed id now s' := by
  have gone : ¬ s'.roll.registered id := left
  generalize roll : s'.roll = after at step gone
  cases step with
  | kept => exact absurd registered gone
  | entered req now round session connected registryFree => exact absurd (.inr registered) gone
  | waiting req now round session connected severs => exact absurd severs joined
  | swept now order => exact absurd registered gone
  | departed now order =>
      refine ⟨now, order, rfl, left, fun session found => ?_⟩
      have dead : id ∈ w.data.deadConnections setting now order := by
        by_contra alive
        exact gone ⟨alive, registered⟩
      have here : s'.roll.session id = some session := found
      rw [roll] at here
      obtain ⟨before, _, same⟩ := Option.map_eq_some_iff.mp here
      rw [if_pos dead] at same
      subst same
      exact ⟨rfl, le_refl now⟩
  | struck nodeID rounds severs => exact absurd severs joined

/-- A departed node stays departed until it registers again. -/
theorem step (gone : Departed id departed w.data) (paired : Paired w.data)
    (step : RollStep setting w a s'.roll) (away : ¬ a.registers id) : Departed id departed s' := by
  have unregistered : ¬ w.data.roll.registered id := gone.unregistered
  have disconnected : ∀ session, w.data.roll.session id = some session →
    session.isConnected = false ∧ session.lastSeen ≤ departed := gone.disconnected
  suffices after : ¬ s'.roll.registered id ∧ ∀ session, s'.roll.session id = some session →
      session.isConnected = false ∧ session.lastSeen ≤ departed from ⟨after.1, after.2⟩
  generalize s'.roll = after at step ⊢
  cases step with
  | kept => exact ⟨unregistered, disconnected⟩
  | entered req now round session connected registryFree =>
      have other : id ≠ req.nodeId := fun same => away same.symm
      refine ⟨not_or.mpr ⟨other, unregistered⟩, fun session found => ?_⟩
      simp only [Roll.enter, Function.update_of_ne other] at found
      exact disconnected session found
  | waiting req now round session connected severs =>
      have other : id ≠ req.nodeId := fun same => away same.symm
      refine ⟨unregistered, fun session found => ?_⟩
      simp only [Roll.connect, Function.update_of_ne other] at found
      exact disconnected session found
  | swept now order =>
      exact ⟨unregistered, fun session found =>
        disconnected session (Option.filter_eq_some_iff.mp found).1⟩
  | departed now order =>
      have alive : id ∉ w.data.deadConnections setting now order := fun dead =>
        unregistered ((paired id).mpr (Server.mem_of_deadConnections dead))
      refine ⟨fun registered => unregistered registered.2, fun session found => ?_⟩
      simp only [Roll.depart, if_neg alive, Option.map_id'] at found
      exact disconnected session found
  | struck nodeID rounds severs =>
      exact ⟨fun registered => unregistered registered.2, disconnected⟩

theorem run (reachable : setting.system.Reachable w) (gone : Departed id departed w.data)
    (later : (setting.system.startingAt w).Run (fun _ a => ¬ a.registers id) w') :
    Departed id departed w'.data :=
  System.Run.inductOver (I := fun w => Departed id departed w.data)
    (J := fun w => Settled w ∧ Paired w.data)
    (fun _ more => ⟨setting.settled_of_reachable (reachable.append more),
      setting.paired_of_reachable (reachable.append more)⟩)
    (fun _ (initial : _ = w) => initial ▸ gone)
    (fun _ _ _ known gone away next => gone.step known.2 (rollStep_of_next known.1 next) away)
    later

theorem lookup_cleanupSessions (gone : Departed id departed s) {timeout now : Int}
    (passed : departed < now - timeout) :
    (s.cleanupSessions timeout now).2.sessions.lookup id = none := by
  rw [Server.lookup_cleanupSessions, Option.filter_eq_none_iff]
  intro session found
  obtain ⟨silent, seen⟩ := gone.disconnected session found
  have late : ¬ now - timeout ≤ session.lastSeen := not_le.mpr (seen.trans_lt passed)
  simp only [silent, Bool.false_eq_true, late, or_self, decide_false, not_false_eq_true]

theorem checkNodesHealth (gone : Departed id departed w.data) (settled : Settled w) {now : Int}
    {order : Shuffle String} (passed : departed < now - setting.config.heartbeatTimeout * 2)
    (returns : (checkNodesHealth setting now order).run w = .ok () w') :
    w'.data.sessions.lookup id = none := by
  obtain ⟨s, locks⟩ := w
  rcases settled.registry with registryFree | ⟨held, _⟩
  · rw [checkNodesHealth_run registryFree settled.sessionFree] at returns
    cases returns
    rw [Server.sessions_timedOut, gone.lookup_cleanupSessions passed]
  · rw [checkNodesHealth_run_blocked held] at returns
    cases returns

end Departed

/-! ## Runs -/

/-- **Without severing steps connected sessions belong to registered nodes**, and when a node leaves,
each `CleanupSessions` and each health tick after the timeout leaves it without a session, until it
registers again. -/
theorem released_of_run (run : setting.system.Run (fun w a => ¬ a.severs setting w) w) :
    Released w.data ∧
    ∀ a w' id, ¬ a.severs setting w → w.next setting a = some w' → id ∈ w.data.nodes →
      id ∉ w'.data.nodes → ∃ departed order, a = .cleanupTick departed order ∧
        ∀ later, (setting.system.startingAt w').Run (fun _ a => ¬ a.registers id) later →
          (∀ timeout now, departed < now - timeout →
            (later.data.cleanupSessions timeout now).2.sessions.lookup id = none) ∧
          ∀ now order after, departed < now - setting.config.heartbeatTimeout * 2 →
            (checkNodesHealth setting now order).run later = .ok () after →
            after.data.sessions.lookup id = none := by
  constructor
  · refine setting.roll_invariant_of_run (I := Released) (fun id connected => ?_)
      (fun released joined step => released.step step joined) run
    obtain ⟨session, found, _⟩ := connected
    cases found
  · intro a w' id joined next registered left
    have step := rollStep_of_next (setting.settled_of_reachable run.reachable) next
    obtain ⟨departed, order, tick, gone⟩ := Departed.of_step step joined registered left
    refine ⟨departed, order, tick, fun later more => ?_⟩
    have reachable : setting.system.Reachable w' := .step a run.reachable trivial next
    have still := gone.run reachable more
    have settled := setting.settled_of_reachable (reachable.append (more.mono fun _ _ _ => trivial))
    exact ⟨fun timeout now passed => still.lookup_cleanupSessions passed,
      fun now order after passed returns => still.checkNodesHealth settled passed returns⟩

/-- A cleanup tick strikes the gathered nodes, and a later `CleanupSessions` drops their sessions. -/
theorem released_cleanedUp : ∃ w w' : World, Released w.data ∧
    w.next smallSetting (.cleanupTick 100 .inOrder) = some w' ∧ "a.ns.1" ∈ w.data.nodes ∧
    (w'.data.cleanupSessions 10 200).2.sessions.lookup "a.ns.1" = none := by
  obtain ⟨w, run, holds⟩ := System.exists_run (S := smallSetting.system)
    (C := fun w a => ¬ a.severs smallSetting w) Action.gathers gathering
    (fun w => "a.ns.1" ∈ w.data.nodes ∧ (w.next smallSetting (.cleanupTick 100 .inOrder)).any
      fun w' => "a.ns.1" ∉ w'.data.nodes)
    (fun w a _ gathers severs => by
      cases a with
      | register req now round => exact severs.1 (of_decide_eq_true gathers).2
      | _ => cases gathers) rfl (by decide +kernel)
  obtain ⟨registered, left⟩ := of_decide_eq_true holds
  obtain ⟨w', next, left⟩ := (Option.any_eq_true _ _).mp left
  obtain ⟨released, departs⟩ := released_of_run run
  obtain ⟨departed, order, tick, drops⟩ :=
    departs (.cleanupTick 100 .inOrder) w' "a.ns.1" not_false next registered
      (of_decide_eq_true left)
  cases tick
  exact ⟨w, w', released, next, registered, (drops w' (.start rfl)).1 10 200 (by decide)⟩

/-- The standby node of the gathered cluster is removed. Its session stays connected, and no
`CleanupSessions` drops it. -/
theorem not_released_removed : ∃ w : World, smallSetting.system.Reachable w ∧
    "d.ns.1" ∉ w.data.nodes ∧ w.data.Connected "d.ns.1" ∧
    ∀ timeout now, (w.data.cleanupSessions timeout now).2.sessions.lookup "d.ns.1" ≠ none := by
  obtain ⟨w, reachable, holds⟩ := System.exists_reachable (S := smallSetting.system)
    (gathering ++ [.removeNode "d.ns.1" fun _ => .except []])
    (fun w => "d.ns.1" ∉ w.data.nodes ∧ (w.data.sessions.lookup "d.ns.1").any (·.isConnected)) rfl
    (by decide +kernel)
  obtain ⟨unregistered, connected⟩ := of_decide_eq_true holds
  obtain ⟨session, found, connected⟩ := (Option.any_eq_true _ _).mp connected
  have known : w.data.Connected "d.ns.1" := ⟨session, found, connected⟩
  refine ⟨w, reachable, unregistered, known, fun timeout now => ?_⟩
  rw [known.cleanupSessions timeout now, found]
  exact Option.some_ne_none session

end C4D
