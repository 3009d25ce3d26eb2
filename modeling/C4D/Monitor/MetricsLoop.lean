import C4D.Foundations.Histories
import C4D.Monitor.Handlers

/-!
# One metrics loop

Every `setState(Running)` starts a `sendMetrics` goroutine. At the top of each iteration it
reads the `stopChan` field, then it waits for that channel to be closed or for a tick, and
after a tick it takes a turn, which calls the engine and the server. A restart closes the
channel and replaces it. A loop that waits for a closed channel may return; one that is in a
turn, or takes a tick first, does not see the close and reads the new channel afterwards.

The loops are goroutines of their own here, beside the threads that serve requests and send
heartbeats. `setState` is one step, as it is done under the state lock. Along every run in
which the state is set to `Running` only when every earlier loop has returned, no two loops
are live and no loop sends after a restart. A step that sets it before an earlier loop has
taken its return leaves two live loops (`one_loop_of_run`).
-/

set_option autoImplicit false

namespace C4D

open Foundations Program

/-! ## The loops of a monitor -/

/-- Where a `sendMetrics` goroutine is. -/
inductive LoopPoint where
  /-- It is about to read the field `stopChan`. -/
  | top
  /-- It waits for a tick or for the channel it has read. -/
  | waiting (stopChan : Nat)
  /-- It is in the turn after a tick. -/
  | turn (p : MonitorProgram Bool)
  | returned

/-- A step of a loop. -/
inductive LoopMove where
  | read
  | closed
  | tick
  | go (o : Outcome)

/-- A loop reads the channel, finds it closed and returns, takes a tick, or goes on with its turn. -/
def loopStep : LoopMove → LoopPoint → Monitor → Option (LoopPoint × Monitor)
  | .read, .top, m => some (.waiting m.stopChan, m)
  | .closed, .waiting stopChan, m => if stopChan < m.stopChan then some (.returned, m) else none
  | .tick, .waiting _, m => some (.turn Monitor.sendMetrics, m)
  | .go o, .turn (.perform q next), m =>
      some (.turn (next (Monitor.act q o m).1), (Monitor.act q o m).2)
  | .go _, .turn (.done goesOn), m => some (if goesOn then .top else .returned, m)
  | _, _, _ => none

/-- A monitor, the threads that serve requests, heartbeats and the start, and the loops. -/
structure MonitorLoops where
  data : Monitor
  point : Nat → MonitorProgram Unit
  loop : Nat → LoopPoint

/-- A step of a thread or of a loop. -/
inductive LoopAction where
  | thread (i : Nat) (move : Move MonitorTask Outcome)
  | loop (k : Nat) (move : LoopMove)

namespace MonitorLoops

/-- The state after a step. Turns of metrics are taken by the loops that were started, and by no
thread. -/
def next (getenv : String → String) (c : MonitorLoops) : LoopAction → Option MonitorLoops
  | .thread _ (.begin .sendMetrics) => none
  | .thread i move =>
      (taskStep Monitor.act (MonitorTask.program getenv) move (c.point i) c.data).map fun r =>
        { c with data := r.2, point := Function.update c.point i r.1 }
  | .loop k move =>
      if k < c.data.metricsLoops then
        (loopStep move (c.loop k) c.data).map fun r =>
          { c with data := r.2, loop := Function.update c.loop k r.1 }
      else none

end MonitorLoops

/-- All interleavings of the threads and the loops of a monitor. -/
def monitorLoops (getenv : String → String) : System MonitorLoops LoopAction where
  init c := c.data.Fresh ∧ (∀ i, c.point i = .done ()) ∧ ∀ k, c.loop k = .top
  next := MonitorLoops.next getenv

/-! ## Live loops -/

/-- The loop has not returned. -/
def LoopPoint.live : LoopPoint → Bool
  | .returned => false
  | _ => true

/-- The state an operation sets. -/
def MonitorOp.sets : MonitorOp → Option Monitor.State
  | .setState newState => some newState
  | _ => none

/-- The state the next operation of a program sets. -/
def setsNext {α : Type} : MonitorProgram α → Option Monitor.State
  | .perform q _ => q.sets
  | .done _ => none

/-- The next operation of the loop sends a report. -/
def LoopPoint.sendsNext : LoopPoint → Bool
  | .turn (.perform (.sendMetrics _) _) => true
  | _ => false

namespace MonitorLoops

/-- The loop was started and has not returned. -/
def Live (c : MonitorLoops) (k : Nat) : Prop := k < c.data.metricsLoops ∧ (c.loop k).live

/-- The next step of the loop sends metrics. -/
def Sends (c : MonitorLoops) (k : Nat) : Prop := c.Live k ∧ (c.loop k).sendsNext

/-- The state a step sets. -/
def entering (c : MonitorLoops) : LoopAction → Option Monitor.State
  | .thread i (.go _) => setsNext (c.point i)
  | .loop k (.go _) =>
      match c.loop k with
      | .turn p => setsNext p
      | _ => none
  | _ => none

/-- The step sets the state to `Running` while an earlier loop has not returned. -/
def Overtakes (c : MonitorLoops) (a : LoopAction) : Prop :=
  c.entering a = some .running ∧ ∃ k, k < c.data.metricsLoops ∧ (c.loop k).live

instance (c : MonitorLoops) (a : LoopAction) : Decidable (c.Overtakes a) :=
  inferInstanceAs (Decidable (_ ∧ _))

/-- The step is the return of the loop: it takes the close of its channel, or ends its last turn. -/
inductive Returns (k : Nat) (c : MonitorLoops) : LoopAction → Prop where
  | closed : Returns k c (.loop k .closed)
  | ended (o : Outcome) (here : c.loop k = .turn (.done false)) : Returns k c (.loop k (.go o))

end MonitorLoops

/-! ## What a step does to the loops -/

theorem Monitor.metricsLoops_enter (m : Monitor) (newState : Monitor.State) :
    (m.enter newState).metricsLoops =
      m.metricsLoops + if newState = .running then 1 else 0 := by
  have started (m : Monitor) : m.startHeartbeat.metricsLoops = m.metricsLoops := by
    unfold Monitor.startHeartbeat
    cases m.heartbeat <;> rfl
  cases newState with
  | running => exact congrArg (· + 1) (started _)
  | standby =>
      apply (started _).trans
      split <;> rfl
  | restarting => exact started _
  | _ => rfl

/-- Only `setState(Running)` starts a loop. -/
theorem Monitor.metricsLoops_act (q : MonitorOp) (o : Outcome) (m : Monitor) :
    (Monitor.act q o m).2.metricsLoops =
      m.metricsLoops + if q.sets = some .running then 1 else 0 := by
  cases q with
  | setState newState =>
      apply (metricsLoops_enter m newState).trans
      simp only [MonitorOp.sets, Option.some.injEq]
  | _ => rfl

theorem Monitor.state_act {q : MonitorOp} {newState : Monitor.State}
    (sets : q.sets = some newState) (o : Outcome) (m : Monitor) :
    (Monitor.act q o m).2.state = newState := by
  cases q with
  | setState entered =>
      obtain rfl : entered = newState := Option.some.inj sets
      exact state_enter entered
  | _ => cases sets

namespace MonitorLoops

variable {getenv : String → String} {c c' : MonitorLoops} {a : LoopAction}

/-- What a step does to the loops: it starts one when it sets the state to `Running`, a loop that has
returned stays so, and a step that sets a state lets no loop return. -/
structure Stepped (c : MonitorLoops) (a : LoopAction) (c' : MonitorLoops) : Prop where
  started : c'.data.metricsLoops =
    c.data.metricsLoops + if c.entering a = some .running then 1 else 0
  state : ∀ newState, c.entering a = some newState → c'.data.state = newState
  returned : ∀ k, (c.loop k).live = false → (c'.loop k).live = false
  idle : ∀ k, c.data.metricsLoops ≤ k → c'.loop k = c.loop k
  stays : c.entering a ≠ none → ∀ k, (c'.loop k).live = (c.loop k).live

theorem Stepped.thread {i : Nat} {move : Move MonitorTask Outcome} {p : MonitorProgram Unit}
    {m : Monitor} (steps :
      taskStep Monitor.act (MonitorTask.program getenv) move (c.point i) c.data = some (p, m)) :
    Stepped c (.thread i move) { c with data := m, point := Function.update c.point i p } := by
  cases move with
  | begin task =>
      cases here : c.point i with
      | done =>
          rw [here] at steps
          cases steps
          exact ⟨rfl, nofun, fun _ live => live, fun _ _ => rfl, fun _ _ => rfl⟩
      | perform q rest =>
          rw [here] at steps
          cases steps
  | go o =>
      cases here : c.point i with
      | done =>
          rw [here] at steps
          cases steps
      | perform q rest =>
          rw [here] at steps
          cases steps
          have enters : c.entering (.thread i (.go o)) = q.sets := by
            rw [entering, here]
            rfl
          refine ⟨?_, fun newState sets => ?_, fun _ live => live, fun _ _ => rfl, fun _ _ => rfl⟩
          · rw [enters]
            exact Monitor.metricsLoops_act q o c.data
          · exact Monitor.state_act (enters ▸ sets) o c.data

/-- A loop that takes a step has not returned, and only an operation of its turn sets a state. -/
theorem loop_of_step {k : Nat} {move : LoopMove} {p : LoopPoint} {m : Monitor}
    (steps : loopStep move (c.loop k) c.data = some (p, m)) :
    (c.loop k).live = true ∧
      ((m = c.data ∧ c.entering (.loop k move) = none) ∨
        ∃ q o rest, m = (Monitor.act q o c.data).2 ∧ c.entering (.loop k move) = q.sets ∧
          p = .turn rest) := by
  cases here : c.loop k with
  | top =>
      rw [here] at steps
      cases move <;> cases steps
      exact ⟨rfl, .inl ⟨rfl, rfl⟩⟩
  | waiting stopChan =>
      rw [here] at steps
      cases move with
      | closed =>
          simp only [loopStep] at steps
          split at steps <;> cases steps
          exact ⟨rfl, .inl ⟨rfl, rfl⟩⟩
      | tick =>
          cases steps
          exact ⟨rfl, .inl ⟨rfl, rfl⟩⟩
      | _ => cases steps
  | turn program =>
      rw [here] at steps
      cases move with
      | go o =>
          have enters : c.entering (.loop k (.go o)) = setsNext program := by
            rw [entering, here]
          cases program with
          | done goesOn =>
              cases steps
              exact ⟨rfl, .inl ⟨rfl, enters⟩⟩
          | perform q rest =>
              cases steps
              exact ⟨rfl, .inr ⟨q, o, _, rfl, enters, rfl⟩⟩
      | _ => cases steps
  | returned =>
      rw [here] at steps
      cases move <;> cases steps

theorem Stepped.loop {k : Nat} {move : LoopMove} {p : LoopPoint} {m : Monitor}
    (spawned : k < c.data.metricsLoops)
    (steps : loopStep move (c.loop k) c.data = some (p, m)) :
    Stepped c (.loop k move) { c with data := m, loop := Function.update c.loop k p } := by
  obtain ⟨live, effect⟩ := loop_of_step steps
  have others {j : Nat} (ne : j ≠ k) : Function.update c.loop k p j = c.loop j :=
    Function.update_of_ne ne ..
  have returned (j : Nat) (dead : (c.loop j).live = false) :
      (Function.update c.loop k p j).live = false := by
    by_cases same : j = k
    · rw [same, live] at dead
      cases dead
    · rw [others same, dead]
  have idle (j : Nat) (later : c.data.metricsLoops ≤ j) :
      Function.update c.loop k p j = c.loop j := others (by omega)
  rcases effect with ⟨rfl, quiet⟩ | ⟨q, o, rest, rfl, enters, rfl⟩
  · exact ⟨by rw [quiet]; rfl, fun _ sets => absurd (quiet.symm.trans sets) nofun, returned, idle,
      fun sets => absurd quiet sets⟩
  · refine ⟨?_, fun newState sets => Monitor.state_act (enters ▸ sets) o c.data, returned, idle,
      fun _ j => ?_⟩
    · rw [enters]
      exact Monitor.metricsLoops_act q o c.data
    · by_cases same : j = k
      · simp only [same, Function.update_self, live]
        rfl
      · simp only [others same]

theorem stepped_of_next (next : (monitorLoops getenv).next c a = some c') : Stepped c a c' := by
  cases a with
  | thread i move =>
      have moved : ((taskStep Monitor.act (MonitorTask.program getenv) move (c.point i) c.data).map
          fun r => { c with data := r.2, point := Function.update c.point i r.1 }) = some c' := by
        cases move with
        | begin task => cases task <;> first | exact next | cases next
        | go o => exact next
      obtain ⟨⟨p, m⟩, steps, rfl⟩ := Option.map_eq_some_iff.mp moved
      exact .thread steps
  | loop k move =>
      simp only [monitorLoops, MonitorLoops.next] at next
      split at next
      · next spawned =>
          obtain ⟨⟨p, m⟩, steps, rfl⟩ := Option.map_eq_some_iff.mp next
          exact .loop spawned steps
      · cases next

/-- A loop that has not returned goes on, but for the step with which it returns. -/
theorem live_of_loopStep {k : Nat} {move : LoopMove} {p : LoopPoint} {m : Monitor}
    (steps : loopStep move (c.loop k) c.data = some (p, m)) :
    p.live = true ↔ ¬ Returns k c (.loop k move) := by
  cases here : c.loop k with
  | top =>
      rw [here] at steps
      cases move <;> cases steps
      exact iff_of_true rfl fun returns => by cases returns
  | waiting stopChan =>
      rw [here] at steps
      cases move with
      | closed =>
          simp only [loopStep] at steps
          split at steps <;> cases steps
          exact iff_of_false Bool.false_ne_true (not_not.mpr .closed)
      | tick =>
          cases steps
          exact iff_of_true rfl fun returns => by cases returns
      | _ => cases steps
  | turn program =>
      rw [here] at steps
      cases move with
      | go o =>
          have ends : Returns k c (.loop k (.go o)) ↔ program = .done false := by
            constructor
            · rintro (_ | ⟨_, done⟩)
              exact LoopPoint.turn.inj (here.symm.trans done)
            · rintro rfl
              exact .ended o here
          rw [ends]
          cases program with
          | done goesOn => cases goesOn <;> cases steps <;> simp [LoopPoint.live]
          | perform q rest =>
              cases steps
              exact iff_of_true rfl fun returns => by cases returns
      | _ => cases steps
  | returned =>
      rw [here] at steps
      cases move <;> cases steps

/-- A loop is live after a step if it was and does not return. -/
theorem live_of_next (next : (monitorLoops getenv).next c a = some c') (k : Nat) :
    (c'.loop k).live = true ↔ (c.loop k).live = true ∧ ¬ Returns k c a := by
  cases a with
  | thread i move =>
      have same : c'.loop = c.loop := by
        cases move with
        | begin task =>
            cases task <;> first
              | cases next
              | (obtain ⟨_, _, rfl⟩ := Option.map_eq_some_iff.mp next; rfl)
        | go o =>
            obtain ⟨_, _, rfl⟩ := Option.map_eq_some_iff.mp next
            rfl
      rw [same]
      exact (and_iff_left fun returns => by cases returns).symm
  | loop j move =>
      simp only [monitorLoops, MonitorLoops.next] at next
      split at next
      · obtain ⟨⟨p, m⟩, steps, rfl⟩ := Option.map_eq_some_iff.mp next
        by_cases here : k = j
        · subst here
          dsimp only
          rw [Function.update_self, live_of_loopStep steps]
          exact (and_iff_right (loop_of_step steps).1).symm
        · dsimp only
          rw [Function.update_of_ne here]
          refine (and_iff_left ?_).symm
          rintro (_ | _)
          · exact here rfl
          · exact here rfl
      · cases next

/-- **A loop is live until it takes its return.** -/
theorem live_iff_of_history {history : List (MonitorLoops × LoopAction)}
    (past : (monitorLoops getenv).History history c) (k : Nat) :
    (c.loop k).live = true ↔ ∀ step ∈ history, ¬ Returns k step.1 step.2 := by
  induction past with
  | start initial =>
      rw [initial.2.2 k]
      exact iff_of_true rfl fun _ mem => absurd mem List.not_mem_nil
  | step a _ next ih =>
      rw [live_of_next next k, ih, List.forall_mem_append, List.forall_mem_singleton]

theorem Stepped.mono (stepped : Stepped c a c') : c.data.metricsLoops ≤ c'.data.metricsLoops := by
  rw [stepped.started]
  exact Nat.le_add_right ..

/-! ## Runs -/

/-- Every loop but the one started last has returned. -/
def Single (c : MonitorLoops) : Prop := ∀ k, k + 1 < c.data.metricsLoops → (c.loop k).live = false

/-- A step that overtakes no loop leaves one at most. -/
theorem Single.next (single : Single c) (stepped : Stepped c a c') (allowed : ¬ c.Overtakes a) :
    Single c' := by
  intro k earlier
  apply stepped.returned k
  rw [stepped.started] at earlier
  split at earlier
  · next enters =>
      by_contra live
      exact allowed ⟨enters, k, by omega, Bool.eq_true_of_not_eq_false live⟩
  · exact single k earlier

theorem single_of_run (run : (monitorLoops getenv).Run (fun c a => ¬ c.Overtakes a) c) : Single c :=
  run.induct (I := Single)
    (fun c start k earlier => by
      obtain ⟨⟨_, _, _, _, fresh⟩, _⟩ := start
      rw [fresh] at earlier
      cases earlier)
    fun _ _ _ single allowed next => single.next (stepped_of_next next) allowed

theorem started_of_run {C : MonitorLoops → LoopAction → Prop}
    (run : ((monitorLoops getenv).startingAt c).Run C c') :
    c.data.metricsLoops ≤ c'.data.metricsLoops :=
  System.Run.induct (S := (monitorLoops getenv).startingAt c)
    (I := fun c' => c.data.metricsLoops ≤ c'.data.metricsLoops)
    (fun _ (initial : _ = c) => initial ▸ le_refl _)
    (fun _ _ _ more _ next => more.trans (@stepped_of_next getenv _ _ _ next).mono) run

theorem Single.eq (single : Single c) {j k : Nat} (liveJ : c.Live j) (liveK : c.Live k) : j = k := by
  have lastJ : ¬ j + 1 < c.data.metricsLoops := by
    intro earlier
    cases (single j earlier).symm.trans liveJ.2
  have lastK : ¬ k + 1 < c.data.metricsLoops := by
    intro earlier
    cases (single k earlier).symm.trans liveK.2
  have startedJ := liveJ.1
  have startedK := liveK.1
  omega

/-- A step overtakes a loop if an earlier loop has not taken its return. -/
theorem overtakes_iff_of_history {history : List (MonitorLoops × LoopAction)}
    (past : (monitorLoops getenv).History history c) : c.Overtakes a ↔ c.entering a = some .running ∧
      ∃ k, k < c.data.metricsLoops ∧ ∀ step ∈ history, ¬ Returns k step.1 step.2 :=
  and_congr_right fun _ => exists_congr fun k => and_congr_right fun _ => live_iff_of_history past k

/-- A step that overtakes a loop leaves two of them in `Running`. -/
theorem two_loops_of_overtakes (reachable : (monitorLoops getenv).Reachable c)
    (overtakes : c.Overtakes a) (next : (monitorLoops getenv).next c a = some c') :
    c'.data.state = .running ∧ ∃ j k, j ≠ k ∧ c'.Live j ∧ c'.Live k := by
  have unstarted : ∀ k, c.data.metricsLoops ≤ k → c.loop k = .top :=
    System.Run.induct (S := monitorLoops getenv)
      (I := fun c => ∀ k, c.data.metricsLoops ≤ k → c.loop k = .top)
      (fun _ start k _ => start.2.2 k)
      (fun _ _ _ unstarted _ next k later => by
        have stepped := stepped_of_next next
        have idle := stepped.mono.trans later
        rw [stepped.idle k idle, unstarted k idle]) reachable
  have stepped := stepped_of_next next
  obtain ⟨enters, k, started, live⟩ := overtakes
  have count := stepped.started
  rw [if_pos enters] at count
  have stays := stepped.stays (enters ▸ nofun)
  refine ⟨stepped.state _ enters, k, c.data.metricsLoops, by omega, ⟨by omega, ?_⟩,
    by omega, ?_⟩
  · rw [stays, live]
  · rw [stays, unstarted _ (le_refl _)]
    rfl

/-- **One metrics loop.** Along every run in which the state is set to `Running` only when every
earlier loop has returned, no two loops are live, and a loop that was started before a restart
does not send once the state was set to `Running` after it. The next step leaves two live loops if
and only if it sets the state to `Running` and the return of an earlier loop is not among the
steps of the run. -/
theorem one_loop_of_run (run : (monitorLoops getenv).Run (fun c a => ¬ c.Overtakes a) c) :
    (∀ j k, c.Live j → c.Live k → j = k) ∧
    (∀ a restarted, c.entering a = some .restarting →
      (monitorLoops getenv).next c a = some restarted →
      ∀ before,
        ((monitorLoops getenv).startingAt restarted).Run (fun c a => ¬ c.Overtakes a) before →
      ∀ b after, before.entering b = some .running → ¬ before.Overtakes b →
        (monitorLoops getenv).next before b = some after →
      ∀ later, ((monitorLoops getenv).startingAt after).Run (fun c a => ¬ c.Overtakes a) later →
        ∀ k, k < c.data.metricsLoops → ¬ later.Sends k) ∧
    ∀ history, (monitorLoops getenv).History history c →
      ∀ a c', (monitorLoops getenv).next c a = some c' →
        ((∃ j k, j ≠ k ∧ c'.Live j ∧ c'.Live k) ↔ c.entering a = some .running ∧
          ∃ k, k < c.data.metricsLoops ∧ ∀ step ∈ history, ¬ Returns k step.1 step.2) := by
  refine ⟨fun j k => (single_of_run run).eq, ?_, ?_⟩
  · intro a restarted restarts next before between b after runs allowed starts later since k old
      sends
    have quiet : ¬ c.Overtakes a := by
      intro overtakes
      cases restarts.symm.trans overtakes.1
    have toBefore := (run.step a quiet next).append between
    have toLater := (toBefore.step b allowed starts).append since
    have first := (stepped_of_next next).mono
    have second := started_of_run between
    have third := (stepped_of_next starts).started
    have fourth := started_of_run since
    rw [if_pos runs] at third
    have dead := single_of_run toLater k (by omega)
    rw [sends.1.2] at dead
    cases dead
  · intro history past a c' next
    rw [← overtakes_iff_of_history past]
    constructor
    · rintro ⟨j, k, ne, liveJ, liveK⟩
      by_contra quiet
      exact ne ((single_of_run (run.step a quiet next)).eq liveJ liveK)
    · exact fun overtakes => (two_loops_of_overtakes run.reachable overtakes next).2

/-! ## Two runs -/

/-- Operations of thread 0 that all succeed. -/
def served (task : MonitorTask) (operations : Nat) : List LoopAction :=
  .thread 0 (.begin task) :: List.replicate operations (.thread 0 (.go engineRunning))

/-- The monitor is registered and started, and its loop has read the stop channel. -/
def looping : List LoopAction :=
  served .start 4 ++ served (.command (some ⟨"start", none⟩)) 4 ++ [.loop 0 .read]

/-- A command to restart, up to the step that leaves the old state. -/
def restarting : List LoopAction := served (.command (some ⟨"restart", none⟩)) 2

/-- The rest of that command. -/
def restarted : List LoopAction := List.replicate 5 (.thread 0 (.go engineRunning))

/-- A loop that sees its channel closed returns before the restart is over, and one other runs. -/
theorem one_loop_restarted : ∃ c : MonitorLoops, c.data.state = .running ∧
    c.data.metricsLoops = 2 ∧ c.Live 1 ∧ ∀ k, c.Live k → k = 1 := by
  obtain ⟨c, run, holds⟩ := System.exists_run (S := monitorLoops fun _ => "")
    (C := fun c a => ¬ c.Overtakes a) (fun c a => ¬ c.Overtakes a)
    (looping ++ restarting ++ [.loop 0 .closed] ++ restarted)
    (fun c => c.data.state = .running ∧ c.data.metricsLoops = 2 ∧ (c.loop 1).live)
    (s := ⟨Monitor.new "a.ns.1" "http://a.ns:1" 0 3, fun _ => .done (), fun _ => .top⟩)
    (fun _ _ _ allowed => of_decide_eq_true allowed)
    ⟨⟨_, _, _, _, rfl⟩, fun _ => rfl, fun _ => rfl⟩ (by decide +kernel)
  obtain ⟨running, started, live⟩ := of_decide_eq_true holds
  have last : c.Live 1 := ⟨started ▸ Nat.one_lt_two, live⟩
  exact ⟨c, running, started, last, fun k live => (one_loop_of_run run).1 k 1 live last⟩

/-- The loop calls the engine during the restart. It does not return, and goes on to send. -/
theorem two_loops_restarted : ∃ c, (monitorLoops fun _ => "").Reachable c ∧
    c.data.state = .running ∧ c.Live 0 ∧ c.Live 1 ∧ c.Sends 0 := by
  obtain ⟨c, reachable, holds⟩ := System.exists_reachable (S := monitorLoops fun _ => "")
    (looping ++ [.loop 0 .tick, .loop 0 (.go {}), .loop 0 (.go {})] ++ restarting ++ restarted ++
      List.replicate 3 (.loop 0 (.go engineRunning)))
    (fun c => c.data.state = .running ∧ c.data.metricsLoops = 2 ∧ (c.loop 0).live ∧
      (c.loop 1).live ∧ (c.loop 0).sendsNext)
    (s := ⟨Monitor.new "a.ns.1" "http://a.ns:1" 0 3, fun _ => .done (), fun _ => .top⟩)
    ⟨⟨_, _, _, _, rfl⟩, fun _ => rfl, fun _ => rfl⟩ (by decide +kernel)
  obtain ⟨running, started, first, second, sends⟩ := of_decide_eq_true holds
  have live : c.Live 0 := ⟨started ▸ Nat.two_pos, first⟩
  exact ⟨c, reachable, running, live, ⟨started ▸ Nat.one_lt_two, second⟩, live, sends⟩

end MonitorLoops

end C4D
