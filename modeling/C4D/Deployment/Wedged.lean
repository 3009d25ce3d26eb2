import C4D.Deployment.Rounds
import C4D.Server.Numbering

/-!
# One failed start

A monitor whose engine does not start reports its failure to the server before it answers the start
command. The server is still in `Initializing` then, refuses to reconfigure, and keeps the lock of
the registry (`locked_of_report`). In `Initializing` nothing leads on without that lock: no
step of the server ever leaves this state, changes a node or sends a command
(`wedged_of_failed_start`).
-/

set_option autoImplicit false

namespace C4D

open Foundations Program

/-! ## The report of the monitor -/

/-- The request `notifyFailure` sends. -/
def Monitor.failureNotification (m : Monitor) : FailureNotificationRequest where
  nodeId := m.nodeID
  errorMessage := "Node entered failed state"
  processId := 0
  failureType := "state_transition"

namespace Monitor

/-- An operation that sets no state reports no failure. -/
theorem failures_actOver {q : MonitorOp} (unset : q.sets = none) (os : CallChoice)
    (s : Monitor × Host) : (actOver q os s).2.1.failures = s.1.failures := by
  cases q with
  | setState newState => cases unset
  | _ => rfl

/-- A start of the engine reports no failure. -/
theorem failures_startAgent (envVars : Option Env) (choices : Nat → CallChoice)
    (s : Monitor × Host) :
    ((startAgent envVars).run actOver choices s).state.1.failures = s.1.failures := by
  have keeps : Keeps actOver (fun t => t.1.failures = s.1.failures) (startAgent envVars) := by
    refine Uses.keeps (enters_startAgent envVars) ?_
    intro q enters os t same
    have unset : q.sets = none :=
      Option.eq_none_iff_forall_not_mem.mpr fun newState sets => List.not_mem_nil (enters newState sets)
    exact (failures_actOver unset os t).trans same
  exact keeps choices s rfl

end Monitor

/-- A start that is answered 500 has reported one failure. -/
theorem Command.reports_of_failed {c : Command} {choices : Nat → CallChoice} {site : Monitor × Host}
    (start : c.command = .start) (fails : (c.serve choices site).value.code = 500) :
    (c.serve choices site).state.1.failures = site.1.failures + 1 := by
  rw [serve_of_start start] at fails ⊢
  simp only [Monitor.commandStart, Monitor.getState, op_bind, Monitor.run_getState_over] at fails ⊢
  split at fails
  · cases fails
  · next standby =>
      rw [if_neg standby]
      rw [run_bind] at fails ⊢
      have same := Monitor.failures_startAgent (some c.envVars) (fun n => choices (n + 1)) site
      cases value : ((Monitor.startAgent (some c.envVars)).run Monitor.actOver
          (fun n => choices (n + 1)) site).value with
      | ok _ =>
          rw [value] at fails
          cases fails
      | error err => exact congrArg (· + 1) same

/-! ## The server without its registry -/

/-- The server is in `Initializing` with its registry locked, as it was before. -/
structure Wedged (before : Server) (w : World) : Prop where
  initializing : w.data.current = .initializing
  locked : w.locks .registryMu ≠ .free
  nodes : w.data.nodes = before.nodes
  rounds : w.data.rounds = before.rounds

variable {setting : Setting} {before : Server} {s : Server} {locks : Lock → RWMutex}

theorem State.not_reconfigurable_initializing : ¬ State.reconfigurable .initializing := by decide

/-- No step of a wedged server sends a command. -/
theorem Wedged.rounds_run (settled : Settled ⟨s, locks⟩) (wedged : Wedged before ⟨s, locks⟩)
    (act : Action) : (act.run setting ⟨s, locks⟩).2.data.rounds = s.rounds := by
  have refuses : ¬ s.current.reconfigurable := by
    rw [show s.current = .initializing from wedged.initializing]
    exact State.not_reconfigurable_initializing
  cases act with
  | register req now round =>
      rw [Action.run, World.run_snd]
      have ends := register_ends setting settled req now round
      generalize (register setting req now round).run ⟨s, locks⟩ = outcome at ends ⊢
      cases ends with
      | refused refusal closed => rfl
      | reconnected response accepting registryFree => exact absurd registryFree wedged.locked
      | waiting accepting held found => exact rounds_captureMaster req
      | full refusal accepting new refuses => exact rounds_captureMaster req
      | counted accepting fresh held admitted =>
          exact rounds_sessionRegistered.trans (rounds_admitted admitted)
      | enrolled response enrolls => exact absurd enrolls.registryFree wedged.locked
      | completing enrolls => exact absurd enrolls.registryFree wedged.locked
      | short response enrolls => exact absurd enrolls.registryFree wedged.locked
      | started response enrolls => exact absurd enrolls.registryFree wedged.locked
      | startFailed enrolls => exact absurd enrolls.registryFree wedged.locked
  | sendHeartbeat => exact rounds_of_listens trivial
  | notifyFailure => exact rounds_of_listens trivial
  | sendMetrics => exact rounds_of_listens trivial
  | healthTick => exact rounds_of_listens trivial
  | cleanupTick => exact rounds_of_listens trivial
  | removeNode nodeID rounds =>
      rw [Action.run, World.run_snd]
      have ends := removeNode_ends setting settled rounds nodeID
      generalize (removeNode setting nodeID rounds).run ⟨s, locks⟩ = outcome at ends ⊢
      cases ends with
      | waiting held => rfl
      | unknown refusal absent => rfl
      | refused refusal refused => rfl
      | inactive clusterFree known accepted => exact absurd accepted refuses
      | returned clusterFree known accepted => exact absurd accepted refuses
      | exited locks' clusterFree known accepted => exact absurd accepted refuses
      | stuck clusterFree known accepted => exact absurd accepted refuses
  | reconfigure rounds =>
      rw [Action.run, World.run_snd]
      have ends := spawnedReconfigure_ends setting settled rounds
      generalize (spawnedReconfigure setting rounds).run ⟨s, locks⟩ = outcome at ends ⊢
      cases ends with
      | refused locks' refused => rfl
      | returned accepted => exact absurd accepted refuses
      | exited locks' accepted => exact absurd accepted refuses
      | stuck accepted => exact absurd accepted refuses

/-- **No step leads out.** -/
theorem Wedged.next {w w' : World} {a : Action} (settled : Settled w) (wedged : Wedged before w)
    (next : w.next setting a = some w') : Wedged before w' := by
  have rounds : w'.data.rounds = w.data.rounds :=
    World.run_of_next next ▸ Wedged.rounds_run settled wedged a
  have sends := rounds.trans wedged.rounds
  have refuses : ¬ w.data.current.reconfigurable := by
    rw [wedged.initializing]
    exact State.not_reconfigurable_initializing
  obtain ⟨ending, ends, effect⟩ := World.effect_of_next settled next
  cases effect with
  | kept a kept =>
      exact ⟨kept.current.trans wedged.initializing, wedged.locked, kept.nodes.trans wedged.nodes, sends⟩
  | waiting a l held kept =>
      exact ⟨kept.current.trans wedged.initializing, wedged.locked, kept.nodes.trans wedged.nodes, sends⟩
  | exited a reconfigures => rcases ends with ends | ends <;> cases ends
  | panicked req order crashes => rcases ends with ends | ends <;> cases ends
  | @counted s counted _ req now round status rank held accepting fresh admitted =>
      have counts := Server.counted_of_admits admitted
      obtain ⟨_, _, same⟩ := Server.sessionRegistered_eq counted req now status rank
      refine ⟨?_, wedged.locked, ?_, sends⟩
      · rw [same]
        exact (congrArg Lifecycle.current counts.lifecycle).trans wedged.initializing
      · rw [same]
        exact counts.nodes.trans wedged.nodes
  | enrolled req now round status rank enrolls => exact absurd enrolls.registryFree wedged.locked
  | startFailed req now round status rank enrolls =>
      exact absurd enrolls.registryFree wedged.locked
  | started req now round status rank enrolls => exact absurd enrolls.registryFree wedged.locked
  | leaked req status registryFree => exact absurd registryFree wedged.locked
  | failedOver req status registryFree => exact absurd registryFree wedged.locked
  | timedOut now order registryFree => exact absurd registryFree wedged.locked
  | cleanedUp now order registryFree => exact absurd registryFree wedged.locked
  | removedInactive nodeID rounds status clusterFree known accepted => exact absurd accepted refuses
  | removedActive nodeID rounds clusterFree known accepted => exact absurd accepted refuses
  | removedStuck nodeID rounds clusterFree known accepted => exact absurd accepted refuses
  | reconfigured rounds spawned accepted => exact absurd accepted refuses
  | reconfigureStuck rounds spawned accepted => exact absurd accepted refuses

/-- The report of a working node in `Initializing`. -/
theorem Wedged.of_report {w w' : World} {req : FailureNotificationRequest} {status : Status}
    (settled : Settled w) (initializing : w.data.current = .initializing)
    (registryFree : w.locks .registryMu = .free)
    (known : w.data.nodes.statusOf req.nodeId = some status) (working : status ≠ .failed)
    (next : w.next setting (.notifyFailure req) = some w') : Wedged w.data w' := by
  obtain ⟨s, locks⟩ := w
  have refused : ¬ s.current.reconfigurable := by
    rw [show s.current = .initializing from initializing]
    exact State.not_reconfigurable_initializing
  have blocks := notifyFailure_run_refused registryFree settled.stateFree known working refused
  have runs := World.run_of_next next
  rw [Action.run, World.run_of_blocked blocks] at runs
  obtain rfl := runs
  have held : (Function.update locks .registryMu .written) .registryMu ≠ .free := by
    rw [Function.update_self]
    decide
  exact ⟨initializing, held, rfl, rfl⟩

/-- **A failed start is final.** A start command that is answered 500 reports the failure of its node
first. Once the server in `Initializing` has received the report of a node that it knows, it never
leaves this state, never changes a node and never sends a command again. -/
theorem wedged_of_failed_start {w w' w'' : World} {c : Command} {choices : Nat → CallChoice}
    {site : Monitor × Host} {status : Status} (reachable : setting.system.Reachable w)
    (initializing : w.data.current = .initializing) (registryFree : w.locks .registryMu = .free)
    (start : c.command = .start) (fails : (c.serve choices site).value.code = 500)
    (known : w.data.nodes.statusOf site.1.nodeID = some status) (working : status ≠ .failed)
    (next : w.next setting (.notifyFailure site.1.failureNotification) = some w')
    (later : (setting.system.startingAt w').Reachable w'') :
    (c.serve choices site).state.1.failures = site.1.failures + 1 ∧ Wedged w.data w'' := by
  refine ⟨Command.reports_of_failed start fails, ?_⟩
  have settled := setting.settled_of_reachable reachable
  have reported : setting.system.Reachable w' :=
    .step (.notifyFailure site.1.failureNotification) reachable trivial next
  refine later.inductOver (J := Settled) ?_ ?_ ?_
  · intro v reached
    exact setting.settled_of_reachable (System.Run.append reported reached)
  · rintro v rfl
    exact .of_report settled initializing registryFree known working next
  · exact fun v a v' settled wedged _ next => wedged.next settled next

/-- A node whose engine does not answer. -/
def brokenSite : Monitor × Host :=
  ((Monitor.new "b.ns.1" "http://b.ns:1" (-1) 0).enter .standby, Host.new)

/-- The last of four nodes registers, and one of three start commands is refused. -/
def gatheringFailed : List Action :=
  [enlist "a.ns.1" "http://a.ns:1", enlist "b.ns.1" "http://b.ns:1",
    enlist "c.ns.1" "http://c.ns:1",
    .register ⟨"d.ns.1", "http://d.ns:1", "master", "29500"⟩ 0 (.except ["b.ns.1"])]

/-- The command that is refused. -/
def refusedStart : Command := ⟨"b.ns.1", "http://b.ns:1", .start, 1, 3, "a.ns", "29500"⟩

theorem wedged_of_failed_start_gathered :
    ∃ w w', smallSetting.system.Reachable w ∧ w.data.nodes.count .active = 3 ∧
      w.next smallSetting (.notifyFailure brokenSite.1.failureNotification) = some w' ∧
      ∀ w'', (smallSetting.system.startingAt w').Reachable w'' → Wedged w.data w'' := by
  obtain ⟨w, reachable, holds⟩ := System.exists_reachable (S := smallSetting.system) gatheringFailed
    (fun w => w.data.current = .initializing ∧ w.locks .registryMu = .free ∧
      w.data.nodes.statusOf "b.ns.1" = some .active ∧ w.data.nodes.count .active = 3 ∧
      (w.next smallSetting (.notifyFailure brokenSite.1.failureNotification)).isSome)
    rfl (by decide +kernel)
  obtain ⟨initializing, registryFree, known, three, steps⟩ := of_decide_eq_true holds
  obtain ⟨w', next⟩ := Option.isSome_iff_exists.mp steps
  have start : refusedStart.command = .start := rfl
  have fails : (refusedStart.serve (fun _ => .disconnected) brokenSite).value.code = 500 := by
    decide +kernel
  exact ⟨w, w', reachable, three, next, fun w'' later => (wedged_of_failed_start reachable
    initializing registryFree start fails known (by decide) next later).2⟩

end C4D
