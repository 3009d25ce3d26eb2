import C4D.Monitor.MetricsLoop

/-!
# The heartbeat goroutine

At the top of each iteration the goroutine reads `heartbeatDone` and evaluates
`heartbeatTicker.C`, one after the other and without the state lock. Then it waits for one
of the two channels it has found, and after a tick it takes a turn. `stopHeartbeat` closes
the channel and sets both fields to nil, so a goroutine that evaluates them afterwards
panics, or takes up the channels of a heartbeat that was started since. A ticker that was
stopped delivers no tick.

Any call of `setState` may come between two steps of the goroutines. Along every run in
which the heartbeat is stopped only when its goroutine waits, or is about to return, no
goroutine evaluates a nil ticker or sends after the stop (`beats_of_run`). Any other stop
can be followed by a panic (`panics_of_interrupts`).
-/

set_option autoImplicit false

namespace C4D

open Foundations Program

/-! ## The goroutines of a monitor -/

/-- Where a heartbeat goroutine is. -/
inductive BeatPoint where
  /-- It is about to read the field `heartbeatDone`. -/
  | top
  /-- It has read `heartbeatDone`, and is about to evaluate `heartbeatTicker.C`. -/
  | evaluating (channel : Option Nat)
  /-- It waits for a tick or for the channel it has read. -/
  | waiting (channel : Option Nat) (ticker : Nat)
  /-- It is in the turn after a tick. -/
  | turn (p : MonitorProgram Bool)
  | returned
  /-- It has evaluated `heartbeatTicker.C` while `heartbeatTicker` was nil. -/
  | panicked

/-- A step of a goroutine. -/
inductive BeatMove where
  | readDone
  | readTicker
  | closed
  | tick
  | go (o : Outcome)

/-- A goroutine evaluates the operands of its select, takes one of the two branches, or goes on with
its turn. The channel and the ticker of a heartbeat have its number. -/
def beatStep : BeatMove → BeatPoint → Monitor → Option (BeatPoint × Monitor)
  | .readDone, .top, m => some (.evaluating m.heartbeat, m)
  | .readTicker, .evaluating channel, m =>
      match m.heartbeat with
      | some ticker => some (.waiting channel ticker, m)
      | none => some (.panicked, m)
  | .closed, .waiting (some channel) _, m =>
      if m.heartbeat = some channel then none else some (.returned, m)
  | .tick, .waiting _ ticker, m =>
      if m.heartbeat = some ticker then some (.turn Monitor.heartbeatTurn, m) else none
  | .go o, .turn (.perform q next), m =>
      some (.turn (next (Monitor.act q o m).1), (Monitor.act q o m).2)
  | .go _, .turn (.done goesOn), m => some (if goesOn then .top else .returned, m)
  | _, _, _ => none

/-- A monitor and its heartbeat goroutines. -/
structure MonitorBeats where
  data : Monitor
  beat : Nat → BeatPoint

/-- A call of `setState`, by whoever makes it, or a step of a goroutine. -/
inductive BeatAction where
  | setState (newState : Monitor.State)
  | beat (k : Nat) (move : BeatMove)

/-- The goroutine has panicked. -/
def BeatPoint.crashed : BeatPoint → Bool
  | .panicked => true
  | _ => false

namespace MonitorBeats

/-- A goroutine has panicked, which ends the process. -/
def Crashed (c : MonitorBeats) : Prop := ∃ k, k < c.data.heartbeats ∧ (c.beat k).crashed

instance (c : MonitorBeats) : Decidable c.Crashed :=
  inferInstanceAs (Decidable (∃ k, k < c.data.heartbeats ∧ (c.beat k).crashed))

/-- The state after a step, while the process runs. -/
def next (c : MonitorBeats) (a : BeatAction) : Option MonitorBeats :=
  if c.Crashed then none
  else
    match a with
    | .setState newState => some { c with data := c.data.enter newState }
    | .beat k move =>
        if k < c.data.heartbeats then
          (beatStep move (c.beat k) c.data).map fun r =>
            { data := r.2, beat := Function.update c.beat k r.1 }
        else none

end MonitorBeats

/-- All interleavings of calls of `setState` with the heartbeat goroutines of a monitor. -/
def monitorBeats : System MonitorBeats BeatAction where
  init c := c.data.Fresh ∧ ∀ k, c.beat k = .top
  next := MonitorBeats.next

/-! ## Stops -/

/-- The next operation of the goroutine sends a heartbeat. -/
def BeatPoint.sendsNext : BeatPoint → Bool
  | .turn (.perform (.sendHeartbeat _ _) _) => true
  | _ => false

/-- The turn sets the state to `Failed` itself, or is over, and the goroutine returns. -/
def leaves : MonitorProgram Bool → Bool
  | .done goesOn => !goesOn
  | .perform q _ => q.sets = some .failed

/-- The goroutine waits in its select, or does not come back to it. -/
def BeatPoint.settled : BeatPoint → Bool
  | .waiting _ _ => true
  | .turn p => leaves p
  | .returned => true
  | _ => false

namespace MonitorBeats

/-- The state a step sets. -/
def entering (c : MonitorBeats) : BeatAction → Option Monitor.State
  | .setState newState => some newState
  | .beat k (.go _) =>
      match c.beat k with
      | .turn p => setsNext p
      | _ => none
  | _ => none

/-- The step calls `stopHeartbeat`. -/
def Stops (c : MonitorBeats) (a : BeatAction) : Prop :=
  c.entering a = some .failed ∨ c.entering a = some .initializing

/-- The step stops a heartbeat whose goroutine comes back to its select. -/
def Interrupts (c : MonitorBeats) (a : BeatAction) : Prop :=
  c.Stops a ∧ ∃ k ∈ c.data.heartbeat, (c.beat k).settled = false

instance (c : MonitorBeats) (a : BeatAction) : Decidable (c.Stops a) :=
  inferInstanceAs (Decidable (_ ∨ _))

instance (c : MonitorBeats) (a : BeatAction) : Decidable (c.Interrupts a) :=
  inferInstanceAs (Decidable (_ ∧ _))

end MonitorBeats

/-! ## Turns -/

/-- Some answers lead through the turn to the next iteration, and change nothing in the monitor. -/
def GoesOn : MonitorProgram Bool → Prop
  | .done goesOn => goesOn = true
  | .perform q next =>
      ∀ m, ∃ o, (Monitor.act q o m).2 = m ∧ GoesOn (next (Monitor.act q o m).1)

/-- The turn may go on until it sets the state to `Failed`, and returns afterwards. -/
def Orderly : MonitorProgram Bool → Prop
  | .done _ => True
  | .perform q next => (q.sets = none ∨ q.sets = some .failed) ∧ ∀ answer,
      Orderly (next answer) ∧ (leaves (next answer) ∨ GoesOn (next answer)) ∧
        (q.sets = some .failed → leaves (next answer))

/-- The turn of a goroutine is orderly, and leaves or may go on. -/
def BeatPoint.Turning : BeatPoint → Prop
  | .turn p => Orderly p ∧ (leaves p ∨ GoesOn p)
  | _ => True

namespace Monitor

/-- The turn from the call of the server on. -/
def beatFrom (m : Monitor) (currentState : State) : MonitorProgram Bool := do
  match ← sendHeartbeat ⟨m.nodeID⟩ currentState with
  | none => return true
  | some err =>
      if Mentions err "connection refused" ∨ Mentions err "transport is closing" then
        setState .failed
        return false
      else return true

theorem goesOn_beatFrom (m : Monitor) (currentState : State) : GoesOn (beatFrom m currentState) := by
  intro m'
  exact ⟨{ rpcError := none }, rfl, rfl⟩

theorem orderly_beatFrom (m : Monitor) (currentState : State) : Orderly (beatFrom m currentState) := by
  refine ⟨.inl rfl, ?_⟩
  intro answer
  cases answer with
  | none => exact ⟨trivial, .inr rfl, nofun⟩
  | some err =>
      change Orderly (if _ then _ else _) ∧ (leaves (if _ then _ else _) ∨ GoesOn (if _ then _ else _)) ∧ _
      split
      · refine ⟨⟨.inr rfl, ?_⟩, .inl rfl, nofun⟩
        intro _
        exact ⟨trivial, .inl rfl, fun _ => rfl⟩
      · exact ⟨trivial, .inr rfl, nofun⟩

theorem heartbeatTurn_eq : heartbeatTurn = .perform .getState fun currentState =>
    if currentState = .failed ∨ currentState = .initializing then .done true
    else .perform .fields fun m => beatFrom m currentState := rfl

theorem goesOn_heartbeatTurn : GoesOn heartbeatTurn := by
  rw [heartbeatTurn_eq]
  intro m
  refine ⟨{}, rfl, ?_⟩
  change GoesOn (if m.state = .failed ∨ m.state = .initializing then _ else _)
  split
  · rfl
  · intro m'
    exact ⟨{}, rfl, goesOn_beatFrom m' m.state⟩

theorem orderly_heartbeatTurn : Orderly heartbeatTurn := by
  rw [heartbeatTurn_eq]
  refine ⟨.inl rfl, ?_⟩
  intro currentState
  beta_reduce
  split
  · exact ⟨trivial, .inr rfl, nofun⟩
  · refine ⟨⟨.inl rfl, ?_⟩, .inr ?_, nofun⟩
    · intro m
      exact ⟨orderly_beatFrom m currentState, .inr (goesOn_beatFrom m currentState), nofun⟩
    · intro m
      exact ⟨{}, rfl, goesOn_beatFrom m currentState⟩

end Monitor

/-! ## What a step does to the heartbeat -/

/-- A heartbeat goes on, is started under a new number, or is stopped. -/
inductive HeartbeatChange (stops : Prop) (m m' : Monitor) : Prop where
  | kept (heartbeat : m'.heartbeat = m.heartbeat) (heartbeats : m'.heartbeats = m.heartbeats)
  | started (idle : m.heartbeat = none) (heartbeat : m'.heartbeat = some m.heartbeats)
      (heartbeats : m'.heartbeats = m.heartbeats + 1)
  | stopped (stop : stops) (heartbeat : m'.heartbeat = none)
      (heartbeats : m'.heartbeats = m.heartbeats)

namespace HeartbeatChange

variable {stops : Prop} {m m' : Monitor}

theorem startHeartbeat (heartbeat : m'.heartbeat = m.heartbeat)
    (heartbeats : m'.heartbeats = m.heartbeats) : HeartbeatChange stops m m'.startHeartbeat := by
  unfold Monitor.startHeartbeat
  cases running : m'.heartbeat with
  | none =>
      exact .started (heartbeat.symm.trans running) (congrArg some heartbeats)
        (congrArg (· + 1) heartbeats)
  | some k => exact .kept heartbeat heartbeats

theorem enter (m : Monitor) (newState : Monitor.State) :
    HeartbeatChange (newState = .failed ∨ newState = .initializing) m (m.enter newState) := by
  cases newState with
  | initializing => exact .stopped (.inr rfl) rfl rfl
  | stopped => exact .kept rfl rfl
  | running =>
      have change : HeartbeatChange False m { m with state := .running }.startHeartbeat :=
        startHeartbeat rfl rfl
      cases change with
      | kept heartbeat heartbeats => exact .kept heartbeat heartbeats
      | started idle heartbeat heartbeats => exact .started idle heartbeat heartbeats
      | stopped stop => cases stop
  | standby =>
      simp only [Monitor.enter]
      split
      · exact startHeartbeat rfl rfl
      · exact startHeartbeat rfl rfl
  | restarting => exact startHeartbeat rfl rfl
  | failed => exact .stopped (.inl rfl) rfl rfl

theorem act (q : MonitorOp) (o : Outcome) (m : Monitor) :
    HeartbeatChange (q.sets = some .failed ∨ q.sets = some .initializing) m
      (Monitor.act q o m).2 := by
  cases q with
  | setState newState =>
      simp only [MonitorOp.sets, Option.some.injEq]
      exact enter m newState
  | _ => exact .kept rfl rfl

theorem mono (change : HeartbeatChange stops m m') : m.heartbeats ≤ m'.heartbeats := by
  cases change <;> omega

end HeartbeatChange

namespace MonitorBeats

variable {c c' : MonitorBeats} {a : BeatAction}

/-- A step is a call of `setState`, or a step of a goroutine that was started. -/
theorem cases_of_next (next : monitorBeats.next c a = some c') :
    ¬ c.Crashed ∧
      ((∃ newState, a = .setState newState ∧ c' = { c with data := c.data.enter newState }) ∨
        ∃ k move p m, a = .beat k move ∧ k < c.data.heartbeats ∧
          beatStep move (c.beat k) c.data = some (p, m) ∧
          c' = { data := m, beat := Function.update c.beat k p }) := by
  change (if c.Crashed then none else _) = some c' at next
  split at next
  · cases next
  · next running =>
      refine ⟨running, ?_⟩
      cases a with
      | setState newState => exact .inl ⟨newState, rfl, (Option.some.inj next).symm⟩
      | beat k move =>
          dsimp only at next
          split at next
          · next started =>
              obtain ⟨⟨p, m⟩, steps, rfl⟩ := Option.map_eq_some_iff.mp next
              exact .inr ⟨k, move, p, m, rfl, started, steps, rfl⟩
          · cases next

/-- A step of a goroutine leaves the monitor as it is, unless it is an operation of its turn. -/
theorem cases_of_beatStep {k : Nat} {move : BeatMove} {p : BeatPoint} {m : Monitor}
    (steps : beatStep move (c.beat k) c.data = some (p, m)) :
    (m = c.data ∧ c.entering (.beat k move) = none) ∨
      ∃ q o rest, c.beat k = .turn (.perform q rest) ∧ m = (Monitor.act q o c.data).2 ∧
        p = .turn (rest (Monitor.act q o c.data).1) ∧ c.entering (.beat k move) = q.sets := by
  cases move with
  | go o =>
      have enters : ∀ program, c.beat k = .turn program → c.entering (.beat k (.go o)) = setsNext program := by
        intro program here
        rw [entering, here]
      cases here : c.beat k with
      | turn program =>
          rw [here] at steps
          cases program with
          | done goesOn =>
              cases steps
              exact .inl ⟨rfl, enters _ here⟩
          | perform q rest =>
              cases steps
              exact .inr ⟨q, o, rest, rfl, rfl, rfl, enters _ here⟩
      | _ =>
          rw [here] at steps
          cases steps
  | _ =>
      refine .inl ⟨?_, rfl⟩
      unfold beatStep at steps
      grind

end MonitorBeats

/-! ## Goroutines on their own channels -/

/-- A goroutine that comes back to its select belongs to the heartbeat that is running, and any
other one waits for its own channel or returns. -/
def BeatPoint.Sound (k : Nat) (m : Monitor) : BeatPoint → Prop
  | .top => m.heartbeat = some k
  | .evaluating channel => m.heartbeat = some k ∧ channel = some k
  | .waiting channel ticker => channel = some k ∧ ticker = k
  | .turn p => Orderly p ∧ (m.heartbeat = some k ∨ leaves p)
  | .returned => True
  | .panicked => False

namespace BeatPoint.Sound

variable {k : Nat} {m m' : Monitor} {p p' : BeatPoint}

/-- A goroutine that is settled when its heartbeat stops does not depend on what others do. -/
theorem change {stops : Prop} (sound : p.Sound k m) (change : HeartbeatChange stops m m')
    (allowed : stops → m.heartbeat = some k → p.settled = true) : p.Sound k m' := by
  cases p with
  | waiting channel ticker => exact sound
  | returned => exact sound
  | panicked => exact sound
  | top =>
      cases change with
      | kept heartbeat _ => exact heartbeat.trans sound
      | started idle _ _ => cases idle.symm.trans sound
      | stopped stop _ _ => cases allowed stop sound
  | evaluating channel =>
      cases change with
      | kept heartbeat _ => exact ⟨heartbeat.trans sound.1, sound.2⟩
      | started idle _ _ => cases idle.symm.trans sound.1
      | stopped stop _ _ => cases allowed stop sound.1
  | turn program =>
      refine ⟨sound.1, ?_⟩
      rcases sound.2 with current | leaving
      · cases change with
        | kept heartbeat _ => exact .inl (heartbeat.trans current)
        | started idle _ _ => cases idle.symm.trans current
        | stopped stop _ _ => exact .inr (allowed stop current)
      · exact .inr leaving

/-- **A goroutine keeps to its own channels.** -/
theorem step {move : BeatMove} (sound : p.Sound k m) (steps : beatStep move p m = some (p', m')) :
    p'.Sound k m' := by
  cases p with
  | top =>
      cases move <;> cases steps
      exact ⟨sound, sound⟩
  | evaluating channel =>
      cases move with
      | readTicker =>
          rw [beatStep, sound.1] at steps
          cases steps
          exact ⟨sound.2, rfl⟩
      | _ => cases steps
  | waiting channel ticker =>
      obtain ⟨rfl, rfl⟩ := sound
      cases move with
      | closed =>
          simp only [beatStep] at steps
          split at steps <;> cases steps
          trivial
      | tick =>
          simp only [beatStep] at steps
          split at steps
          · next current =>
              cases steps
              exact ⟨Monitor.orderly_heartbeatTurn, .inl current⟩
          · cases steps
      | _ => cases steps
  | turn program =>
      cases move with
      | go o =>
          obtain ⟨orderly, stays⟩ := sound
          cases program with
          | done goesOn =>
              cases steps
              cases goesOn with
              | true => exact stays.resolve_right nofun
              | false => trivial
          | perform q rest =>
              cases steps
              obtain ⟨sets, later⟩ := orderly
              obtain ⟨orderly, _, ends⟩ := later (Monitor.act q o m).1
              refine ⟨orderly, ?_⟩
              rcases sets with quiet | fails
              · have current : m.heartbeat = some k := by
                  apply stays.resolve_right
                  simp [leaves, quiet]
                cases HeartbeatChange.act q o m with
                | kept heartbeat _ => exact .inl (heartbeat.trans current)
                | started idle _ _ => cases idle.symm.trans current
                | stopped stop _ _ =>
                    rw [quiet] at stop
                    rcases stop with stop | stop <;> cases stop
              · exact .inr (ends fails)
      | _ => cases steps
  | returned => cases move <;> cases steps
  | panicked => cases sound

/-- A goroutine whose heartbeat is not running does not send. -/
theorem silent (sound : p.Sound k m) (stale : m.heartbeat ≠ some k) : p.sendsNext = false := by
  cases p with
  | turn program =>
      have leaving := sound.2.resolve_left stale
      cases program with
      | done goesOn => rfl
      | perform q rest => cases q <;> first | rfl | cases leaving
  | _ => rfl

theorem running (sound : p.Sound k m) : p.crashed = false := by
  cases p with
  | panicked => cases sound
  | _ => rfl

end BeatPoint.Sound

/-! ## Runs -/

namespace MonitorBeats

variable {c c' : MonitorBeats} {a : BeatAction}

/-- A step changes the heartbeat by the state it sets, and the point of one goroutine at most. -/
theorem change_of_next (next : monitorBeats.next c a = some c') :
    HeartbeatChange (c.Stops a) c.data c'.data := by
  rcases cases_of_next next with ⟨_, ⟨newState, rfl, rfl⟩ | ⟨k, move, p, m, rfl, _, steps, rfl⟩⟩
  · simpa only [Stops, entering, Option.some.injEq] using HeartbeatChange.enter c.data newState
  · rcases cases_of_beatStep steps with ⟨rfl, _⟩ | ⟨q, o, rest, _, rfl, _, enters⟩
    · exact .kept rfl rfl
    · rw [Stops, enters]
      exact .act q o c.data

/-- Every goroutine that was started is sound, and the others have not run. -/
structure Sound (c : MonitorBeats) : Prop where
  sound : ∀ k, k < c.data.heartbeats → (c.beat k).Sound k c.data
  fresh : ∀ k, c.data.heartbeats ≤ k → c.beat k = .top

theorem Sound.next (sound : Sound c) (allowed : ¬ c.Interrupts a)
    (next : monitorBeats.next c a = some c') : Sound c' := by
  have change := change_of_next next
  have settled : ∀ k, c.Stops a → c.data.heartbeat = some k → (c.beat k).settled = true := by
    intro k stops current
    by_contra unsettled
    exact allowed ⟨stops, k, current, Bool.eq_false_of_not_eq_true unsettled⟩
  have others : ∀ k, k < c.data.heartbeats → (c.beat k).Sound k c'.data := fun k started =>
    (sound.sound k started).change change (settled k)
  -- a goroutine that has just been started has not run
  have starts : ∀ k, c.data.heartbeats ≤ k → k < c'.data.heartbeats →
      (c.beat k).Sound k c'.data := by
    intro k later started
    rw [sound.fresh k later]
    cases change with
    | kept _ heartbeats => omega
    | started _ heartbeat heartbeats =>
        obtain rfl : k = c.data.heartbeats := by omega
        exact heartbeat
    | stopped _ _ heartbeats => omega
  have same : ∀ k, k < c'.data.heartbeats → (c.beat k).Sound k c'.data := by
    intro k started
    rcases lt_or_ge k c.data.heartbeats with earlier | later
    · exact others k earlier
    · exact starts k later started
  rcases cases_of_next next with ⟨_, ⟨newState, rfl, rfl⟩ | ⟨j, move, p, m, rfl, started, steps, rfl⟩⟩
  · exact ⟨same, fun k later => sound.fresh k (change.mono.trans later)⟩
  · constructor
    · intro k running
      by_cases moved : k = j
      · subst moved
        change (Function.update c.beat k p k).Sound k m
        rw [Function.update_self]
        exact (sound.sound k started).step steps
      · change (Function.update c.beat j p k).Sound k m
        rw [Function.update_of_ne moved]
        exact same k running
    · intro k later
      have idle := change.mono.trans later
      change Function.update c.beat j p k = .top
      rw [Function.update_of_ne (by omega)]
      exact sound.fresh k idle

theorem sound_of_run (run : monitorBeats.Run (fun c a => ¬ c.Interrupts a) c) : Sound c := by
  apply run.induct (I := Sound)
  · rintro c ⟨⟨_, _, _, _, fresh⟩, top⟩
    refine ⟨fun k started => ?_, fun k _ => top k⟩
    rw [fresh] at started
    cases started
  · intro c a c' sound allowed next
    exact sound.next allowed next

/-- A heartbeat that was stopped does not run again: a later one has a later number. -/
theorem later_of_run {C : MonitorBeats → BeatAction → Prop} (stopped : c.data.heartbeat = none)
    (run : (monitorBeats.startingAt c).Run C c') :
    c.data.heartbeats ≤ c'.data.heartbeats ∧
      ∀ k, c'.data.heartbeat = some k → c.data.heartbeats ≤ k := by
  apply run.induct (I := fun c' => c.data.heartbeats ≤ c'.data.heartbeats ∧
    ∀ k, c'.data.heartbeat = some k → c.data.heartbeats ≤ k)
  · intro c' initial
    rw [show c' = c from initial, stopped]
    exact ⟨le_refl _, nofun⟩
  · intro d a d' ⟨count, later⟩ _ next
    have change : HeartbeatChange (d.Stops a) d.data d'.data := change_of_next next
    refine ⟨count.trans change.mono, ?_⟩
    intro k current
    cases change with
    | kept heartbeat _ => exact later k (heartbeat.symm.trans current)
    | started _ heartbeat _ =>
        obtain rfl := Option.some.inj (heartbeat.symm.trans current)
        exact count
    | stopped _ heartbeat _ => cases heartbeat.symm.trans current

/-- **The heartbeat can be stopped safely.** Along every run in which the heartbeat is stopped only
when its goroutine waits in its select, or is about to return, no goroutine evaluates the ticker
while it is nil, and after a stop no goroutine that was started before it sends again. -/
theorem beats_of_run (run : monitorBeats.Run (fun c a => ¬ c.Interrupts a) c) :
    ¬ c.Crashed ∧
    ∀ a stopped, ¬ c.Interrupts a → c.data.heartbeat ≠ none →
      monitorBeats.next c a = some stopped → stopped.data.heartbeat = none →
      ∀ later, (monitorBeats.startingAt stopped).Run (fun c a => ¬ c.Interrupts a) later →
        ∀ k, k < c.data.heartbeats → (later.beat k).sendsNext = false := by
  constructor
  · rintro ⟨k, started, crashed⟩
    rw [((sound_of_run run).sound k started).running] at crashed
    cases crashed
  · intro a stopped allowed _ next stop later since k started
    have toStop := run.step a allowed next
    have sound := sound_of_run (toStop.append since)
    have first := (change_of_next next).mono
    obtain ⟨second, numbers⟩ := later_of_run stop since
    apply (sound.sound k (by omega)).silent
    intro current
    have := numbers k current
    omega

/-! ## Stops that come at another time -/

theorem turning_step {move : BeatMove} {p p' : BeatPoint} {m m' : Monitor} (turning : p.Turning)
    (steps : beatStep move p m = some (p', m')) : p'.Turning := by
  cases p with
  | top =>
      cases move <;> cases steps
      trivial
  | evaluating channel =>
      cases move with
      | readTicker =>
          simp only [beatStep] at steps
          split at steps <;> cases steps <;> trivial
      | _ => cases steps
  | waiting channel ticker =>
      cases move with
      | closed =>
          unfold beatStep at steps
          grind [BeatPoint.Turning]
      | tick =>
          simp only [beatStep] at steps
          split at steps <;> cases steps
          exact ⟨Monitor.orderly_heartbeatTurn, .inr Monitor.goesOn_heartbeatTurn⟩
      | _ => cases steps
  | turn program =>
      cases move with
      | go o =>
          cases program with
          | done goesOn =>
              cases steps
              cases goesOn <;> trivial
          | perform q next =>
              cases steps
              obtain ⟨orderly, goes, _⟩ := turning.1.2 (Monitor.act q o m).1
              exact ⟨orderly, goes⟩
      | _ => cases steps
  | _ => cases move <;> cases steps

theorem turning_of_reachable (reachable : monitorBeats.Reachable c) (k : Nat) :
    (c.beat k).Turning := by
  revert k
  apply reachable.induct (I := fun c => ∀ k, (c.beat k).Turning)
  · intro c ⟨_, top⟩ k
    rw [top k]
    trivial
  · intro c a c' turning _ next k
    rcases cases_of_next next with ⟨_, ⟨_, _, rfl⟩ | ⟨j, move, p, m, _, _, steps, rfl⟩⟩
    · exact turning k
    by_cases moved : k = j
    · subst moved
      change (Function.update c.beat k p k).Turning
      rw [Function.update_self]
      exact turning_step (turning k) steps
    · change (Function.update c.beat j p k).Turning
      rw [Function.update_of_ne moved]
      exact turning k

section Crash

variable {k : Nat} (started : k < c.data.heartbeats) (running : ¬ c.Crashed)

include started running

/-- A goroutine takes a step that leaves the monitor as it is. -/
theorem next_beat {move : BeatMove} {p : BeatPoint}
    (steps : beatStep move (c.beat k) c.data = some (p, c.data)) :
    monitorBeats.next c (.beat k move) = some { c with beat := Function.update c.beat k p } := by
  change (if c.Crashed then none else if k < c.data.heartbeats then _ else none) = _
  rw [if_neg running, if_pos started, steps]
  rfl

omit started in
theorem running_update {p : BeatPoint} (alive : p.crashed = false) :
    ¬ Crashed { c with beat := Function.update c.beat k p } := by
  rintro ⟨j, earlier, crashed⟩
  by_cases same : j = k
  · subst same
    simp only [Function.update_self, alive] at crashed
    cases crashed
  · simp only [Function.update_of_ne same] at crashed
    exact running ⟨j, earlier, crashed⟩

variable (stopped : c.data.heartbeat = none)

include stopped

/-- A goroutine that has read `heartbeatDone` panics, if the heartbeat is not running. -/
theorem crashes_of_evaluating {channel : Option Nat} (here : c.beat k = .evaluating channel) :
    ∃ c', (monitorBeats.startingAt c).Reachable c' ∧ c'.Crashed := by
  have steps : beatStep .readTicker (c.beat k) c.data = some (.panicked, c.data) := by
    rw [here, beatStep, stopped]
  refine ⟨_, .cons _ (next_beat started running steps) (.start rfl), k, started, ?_⟩
  simp only [Function.update_self]
  rfl

theorem crashes_of_top (here : c.beat k = .top) :
    ∃ c', (monitorBeats.startingAt c).Reachable c' ∧ c'.Crashed := by
  have steps : beatStep .readDone (c.beat k) c.data = some (.evaluating c.data.heartbeat, c.data) := by
    rw [here, beatStep]
  obtain ⟨c', later, crashed⟩ := crashes_of_evaluating
    (c := { c with beat := Function.update c.beat k (.evaluating c.data.heartbeat) }) started
    (running_update running rfl) stopped (Function.update_self ..)
  exact ⟨c', .cons _ (next_beat started running steps) later, crashed⟩

omit started running stopped in
theorem crashes_of_goesOn (p : MonitorProgram Bool) (goes : GoesOn p) :
    ∀ c : MonitorBeats, k < c.data.heartbeats → ¬ c.Crashed → c.data.heartbeat = none →
      c.beat k = .turn p → ∃ c', (monitorBeats.startingAt c).Reachable c' ∧ c'.Crashed := by
  induction p with
  | done goesOn =>
      intro c started running stopped here
      have steps : beatStep (.go {}) (c.beat k) c.data = some (.top, c.data) := by
        rw [here, beatStep, if_pos (show goesOn = true from goes)]
      obtain ⟨c', later, crashed⟩ := crashes_of_top
        (c := { c with beat := Function.update c.beat k .top }) started
        (running_update running rfl) stopped (Function.update_self ..)
      exact ⟨c', .cons _ (next_beat started running steps) later, crashed⟩
  | perform q next ih =>
      intro c started running stopped here
      obtain ⟨o, same, goes⟩ := goes c.data
      have steps : beatStep (.go o) (c.beat k) c.data =
          some (.turn (next (Monitor.act q o c.data).1), c.data) := by
        rw [here, beatStep, same]
      obtain ⟨c', later, crashed⟩ := ih _ goes
        { c with beat := Function.update c.beat k (.turn (next (Monitor.act q o c.data).1)) } started
        (running_update running rfl) stopped (Function.update_self ..)
      exact ⟨c', .cons _ (next_beat started running steps) later, crashed⟩

end Crash

theorem current_lt_of_reachable (reachable : monitorBeats.Reachable c) :
    ∀ k, c.data.heartbeat = some k → k < c.data.heartbeats := by
  apply reachable.induct (I := fun c => ∀ k, c.data.heartbeat = some k → k < c.data.heartbeats)
  · rintro c ⟨⟨_, _, _, _, fresh⟩, _⟩ k current
    rw [fresh] at current
    cases current
  · intro c a c' earlier _ next k current
    have change := change_of_next next
    cases change with
    | kept heartbeat heartbeats =>
        rw [heartbeats]
        exact earlier k (heartbeat.symm.trans current)
    | started _ heartbeat heartbeats =>
        obtain rfl := Option.some.inj (heartbeat.symm.trans current)
        omega
    | stopped _ heartbeat _ => cases heartbeat.symm.trans current

/-- After a stop no heartbeat is running, and a goroutine that was not settled is where it was. -/
theorem stopped_of_stops (reachable : monitorBeats.Reachable c) (stops : c.Stops a)
    (next : monitorBeats.next c a = some c') :
    c'.data.heartbeat = none ∧ ¬ c'.Crashed ∧
      ∀ k, (c.beat k).settled = false → c'.beat k = c.beat k := by
  have change := change_of_next next
  rcases cases_of_next next with ⟨running, ⟨newState, rfl, rfl⟩ |
    ⟨j, move, p, m, rfl, started, steps, rfl⟩⟩
  · rcases stops with stops | stops
    · obtain rfl := Option.some.inj stops
      exact ⟨rfl, running, fun _ _ => rfl⟩
    · obtain rfl := Option.some.inj stops
      exact ⟨rfl, running, fun _ _ => rfl⟩
  · rcases cases_of_beatStep steps with ⟨rfl, enters⟩ | ⟨q, o, rest, here, rfl, rfl, enters⟩
    · rw [Stops, enters] at stops
      rcases stops with stops | stops <;> cases stops
    · have fails : q.sets = some .failed := by
        have turning := turning_of_reachable reachable j
        rw [here] at turning
        rw [Stops, enters] at stops
        rcases turning.1.1 with quiet | fails
        · rw [quiet] at stops
          rcases stops with stops | stops <;> cases stops
        · exact fails
      obtain rfl : q = .setState .failed := by
        cases q with
        | setState newState => exact congrArg MonitorOp.setState (Option.some.inj fails)
        | _ => cases fails
      refine ⟨rfl, running_update (c := { c with data := c.data.enter .failed }) running rfl, ?_⟩
      intro k unsettled
      apply Function.update_of_ne
      rintro rfl
      rw [here] at unsettled
      cases unsettled

/-- **A stop that comes at another time can be followed by a panic.** -/
theorem panics_of_interrupts (reachable : monitorBeats.Reachable c) (interrupts : c.Interrupts a)
    (next : monitorBeats.next c a = some c') :
    ∃ c'', (monitorBeats.startingAt c').Reachable c'' ∧ c''.Crashed := by
  obtain ⟨stops, k, current, unsettled⟩ := interrupts
  obtain ⟨stopped, running, same⟩ := stopped_of_stops reachable stops next
  have started : k < c'.data.heartbeats :=
    (current_lt_of_reachable reachable k current).trans_le (change_of_next next).mono
  have turning := turning_of_reachable reachable k
  have stays := same k unsettled
  cases here : c.beat k with
  | top => exact crashes_of_top started running stopped (stays.trans here)
  | evaluating channel => exact crashes_of_evaluating started running stopped (stays.trans here)
  | turn p =>
      rw [here] at turning unsettled
      have goes : GoesOn p := by
        apply turning.2.resolve_left
        intro leaving
        cases leaving.symm.trans unsettled
      exact crashes_of_goesOn p goes c' started running stopped (stays.trans here)
  | panicked =>
      have crashed : (c.beat k).crashed = true := by
        rw [here]
        rfl
      exact absurd ⟨k, current_lt_of_reachable reachable k current, crashed⟩ (cases_of_next next).1
  | _ =>
      rw [here] at unsettled
      cases unsettled

/-! ## Two runs -/

/-- The first heartbeat is running, and its goroutine waits. -/
def beating : List BeatAction :=
  [.setState .standby, .beat 0 .readDone, .beat 0 .readTicker]

/-- Its goroutine is in the call of the server. -/
def sending : List BeatAction := [.beat 0 .tick, .beat 0 (.go {}), .beat 0 (.go {})]

/-- The call succeeds, and the goroutine evaluates the operands of its select again. -/
def selecting : List BeatAction :=
  [.beat 0 (.go {}), .beat 0 (.go {}), .beat 0 .readDone, .beat 0 .readTicker]

/-- A fresh monitor. -/
def fresh : MonitorBeats := ⟨Monitor.new "a.ns.1" "http://a.ns:1" 0 3, fun _ => .top⟩

/-- A goroutine that waits when the heartbeat is stopped does not send after the next start. -/
theorem beats_stopped : ∃ c stopped later : MonitorBeats,
    monitorBeats.Run (fun c a => ¬ c.Interrupts a) c ∧ c.data.heartbeat = some 0 ∧
      monitorBeats.next c (.setState .failed) = some stopped ∧
      (monitorBeats.startingAt stopped).Run (fun c a => ¬ c.Interrupts a) later ∧
      later.data.heartbeat = some 1 ∧ (later.beat 0).sendsNext = false := by
  let allowed : MonitorBeats → BeatAction → Bool := fun c a => ¬ c.Interrupts a
  have sound : ∀ c a, allowed c a = true → ¬ c.Interrupts a := fun _ _ => of_decide_eq_true
  have runs : (monitorBeats.runAll allowed fresh beating).any (fun c =>
      c.data.heartbeat = some 0 && allowed c (.setState .failed) &&
        (monitorBeats.next c (.setState .failed)).any fun stopped =>
          stopped.data.heartbeat = none &&
            (monitorBeats.runAll allowed stopped [.setState .standby, .beat 0 .closed]).any
              fun later => later.data.heartbeat = some 1) = true := by decide +kernel
  obtain ⟨c, reached, runs⟩ := (Option.any_eq_true _ _).mp runs
  simp only [Bool.and_eq_true, decide_eq_true_eq] at runs
  obtain ⟨⟨running, permitted⟩, runs⟩ := runs
  obtain ⟨stopped, next, runs⟩ := (Option.any_eq_true _ _).mp runs
  simp only [Bool.and_eq_true, decide_eq_true_eq] at runs
  obtain ⟨idle, runs⟩ := runs
  obtain ⟨later, since, again⟩ := (Option.any_eq_true _ _).mp runs
  have toStop : monitorBeats.Run (fun c a => ¬ c.Interrupts a) c :=
    .runAll (fun c a _ => sound c a) (.start ⟨⟨_, _, _, _, rfl⟩, fun _ => rfl⟩) reached
  have onwards : (monitorBeats.startingAt stopped).Run (fun c a => ¬ c.Interrupts a) later :=
    .ofRunAll (fun c a _ => sound c a) since
  refine ⟨c, stopped, later, toStop, running, next, onwards, of_decide_eq_true again, ?_⟩
  exact (beats_of_run toStop).2 _ stopped (sound _ _ permitted) (running ▸ nofun) next idle later
    onwards 0 (current_lt_of_reachable toStop.reachable 0 running)

/-- A heartbeat is being sent when the heartbeat is stopped: the goroutine panics, or goes on to send
if the heartbeat was started again. -/
theorem beats_interrupted :
    (∃ c, monitorBeats.Reachable c ∧ c.Crashed) ∧
      ∃ c stopped returned later : MonitorBeats,
        monitorBeats.Reachable c ∧ c.data.heartbeat = some 0 ∧
          monitorBeats.next c (.setState .failed) = some stopped ∧
          stopped.data.heartbeat = none ∧
          (monitorBeats.startingAt stopped).Reachable returned ∧ (returned.beat 0).sendsNext = false ∧
          (monitorBeats.startingAt returned).Reachable later ∧ (later.beat 0).sendsNext = true := by
  constructor
  · obtain ⟨c, reachable, holds⟩ := System.exists_reachable (S := monitorBeats)
      (beating ++ sending ++ [.setState .failed] ++ selecting) (fun c => c.Crashed) (s := fresh)
      ⟨⟨_, _, _, _, rfl⟩, fun _ => rfl⟩ (by decide +kernel)
    exact ⟨c, reachable, of_decide_eq_true holds⟩
  · have runs : (monitorBeats.runAll (fun _ _ => true) fresh (beating ++ sending)).any (fun c =>
        c.data.heartbeat = some 0 && (monitorBeats.next c (.setState .failed)).any fun stopped =>
          stopped.data.heartbeat = none &&
            (monitorBeats.runAll (fun _ _ => true) stopped (.setState .standby :: selecting)).any
              fun returned => !(returned.beat 0).sendsNext &&
                (monitorBeats.runAll (fun _ _ => true) returned sending).any fun later =>
                  (later.beat 0).sendsNext) = true := by decide +kernel
    obtain ⟨c, reached, runs⟩ := (Option.any_eq_true _ _).mp runs
    simp only [Bool.and_eq_true, decide_eq_true_eq] at runs
    obtain ⟨running, runs⟩ := runs
    obtain ⟨stopped, next, runs⟩ := (Option.any_eq_true _ _).mp runs
    simp only [Bool.and_eq_true, decide_eq_true_eq] at runs
    obtain ⟨idle, runs⟩ := runs
    obtain ⟨returned, selects, runs⟩ := (Option.any_eq_true _ _).mp runs
    simp only [Bool.and_eq_true, Bool.not_eq_true'] at runs
    obtain ⟨silent, runs⟩ := runs
    obtain ⟨later, since, sends⟩ := (Option.any_eq_true _ _).mp runs
    exact ⟨c, stopped, returned, later,
      .runAll (fun _ _ _ _ => trivial) (.start ⟨⟨_, _, _, _, rfl⟩, fun _ => rfl⟩) reached, running,
      next, idle, .ofRunAll (fun _ _ _ _ => trivial) selects, silent,
      .ofRunAll (fun _ _ _ _ => trivial) since, sends⟩

end MonitorBeats

end C4D
