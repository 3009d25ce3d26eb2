import C4D.Engine.Record

/-!
# At most one training process

The engine is meant to run one process at a time. It keeps to that as long as it
never lets go of the handle of a process that is still running (`LosesChild`): a
failed status check makes a start or a status request drop the handle, a start
drops the handle of a new process it cannot check, and a stop drops the handle
of a process that has not ended one second after its kill or cannot be waited for.

Along every run without such steps the only process that may be alive is the one
in `script_process` (`oneProcess_of_run`).
-/

set_option autoImplicit false

namespace C4D

open Foundations

namespace Host

/-- The process at hand is alive. -/
def Busy (h : Host) : Prop := ∃ child ∈ h.app.scriptProcess, h.Alive child.process

instance (h : Host) : Decidable h.Busy := inferInstanceAs (Decidable (∃ child ∈ _, _))

/-- At most one process is alive, and it is the one in `script_process`. -/
structure OneProcess (h : Host) : Prop where
  atMostOne : ∀ i j, h.Alive i → h.Alive j → i = j
  held : ∀ i, h.Alive i → h.Holds i

/-- A start drops the handle of a process that is running. -/
def StartLoses (h : Host) (os : StartOutcome) : Prop :=
  (h.Busy ∧ os.checkError ≠ none) ∨
    (¬ h.Busy ∧ os.spawned.isOk ∧ os.exits = none ∧ os.recheckError ≠ none)

/-- A stop drops the handle of a process that is running. -/
def StopLoses (h : Host) (os : StopOutcome) : Prop := h.Busy ∧ os.exits = none

/-- The engine drops the handle of a process that is running. -/
def LosesChild (h : Host) : EngineAction → Prop
  | .start _ os => h.StartLoses os
  | .stop os => h.StopLoses os
  | .status os => h.Busy ∧ os.checkError ≠ none
  | .restart _ os => h.StopLoses os
  | .resume _ os => h.StartLoses os
  | .exit _ _ => False

instance (h : Host) (os : StartOutcome) : Decidable (h.StartLoses os) :=
  inferInstanceAs (Decidable (_ ∨ _))

instance (h : Host) (os : StopOutcome) : Decidable (h.StopLoses os) :=
  inferInstanceAs (Decidable (_ ∧ _))

instance (h : Host) (a : EngineAction) : Decidable (h.LosesChild a) := by
  cases a <;> unfold LosesChild <;> infer_instance

/-! ## Which processes are alive -/

variable {h : Host}

/-- Nothing the engine spawned is running. -/
def Quiet (h : Host) : Prop := ∀ i, ¬ h.Alive i

theorem alive_spawned (p : Process) (i : Nat) :
    ({ h with processes := h.processes ++ [p] } : Host).Alive i ↔
      h.Alive i ∨ (i = h.processes.length ∧ p.status = none) := by
  rw [Alive, Alive, Host.status, Host.status, List.length_append, List.length_singleton]
  rcases lt_trichotomy i h.processes.length with before | here | after
  · rw [List.getElem?_append_left before]
    constructor
    · exact fun alive => .inl ⟨before, alive.2⟩
    · rintro (alive | ⟨same, _⟩)
      · exact ⟨Nat.lt_succ_of_lt before, alive.2⟩
      · exact absurd same before.ne
  · subst here
    rw [List.getElem?_concat_length, Option.bind_some]
    constructor
    · exact fun alive => .inr ⟨rfl, alive.2⟩
    · rintro (alive | ⟨_, running⟩)
      · exact absurd alive.1 (lt_irrefl _)
      · exact ⟨Nat.lt_succ_self _, running⟩
  · refine iff_of_false (fun alive => ?_) ?_
    · exact absurd (Nat.lt_succ_iff.mp alive.1) (not_le.mpr after)
    · rintro (alive | ⟨same, _⟩)
      · exact absurd alive.1 (not_lt.mpr after.le)
      · exact absurd same after.ne'

theorem status_spawned (p : Process) :
    ({ h with processes := h.processes ++ [p] } : Host).status h.processes.length = p.status := by
  rw [Host.status, List.getElem?_concat_length, Option.bind_some]

theorem tryWait_eq_ok {child : Child} {error : Option String} {found : Option ExitStatus} :
    h.tryWait child error = .ok found ↔ error = none ∧ h.status child.process = found := by
  cases error <;> simp [tryWait]

theorem tryWait_eq_error {child : Child} {error : Option String} {e : String} :
    h.tryWait child error = .error e ↔ error = some e := by
  cases error <;> simp [tryWait]

theorem busy_iff {child : Child} (held : h.app.scriptProcess = some child) :
    h.Busy ↔ h.Alive child.process := by
  constructor
  · rintro ⟨other, mem, alive⟩
    rw [held] at mem
    cases mem
    exact alive
  · exact fun alive => ⟨child, held, alive⟩

theorem not_busy_of_none (empty : h.app.scriptProcess = none) : ¬ h.Busy := by
  rintro ⟨child, mem, _⟩
  rw [empty] at mem
  cases mem

theorem not_busy_of_ended {child : Child} {status : ExitStatus}
    (held : h.app.scriptProcess = some child) (ended : h.status child.process = some status) :
    ¬ h.Busy := by
  intro busy
  have running := ((busy_iff held).mp busy).2
  rw [ended] at running
  cases running

theorem alive_of_alive_killProcessTree {process j : Nat} {exits : Option ExitStatus}
    (alive : (h.killProcessTree process exits).Alive j) : h.Alive j := by
  cases exits with
  | none => exact alive
  | some status => exact (alive_finish.mp alive).2

end Host

/-- The only process that may be alive is the one in `script_process`. -/
def Tracked (h : Host) : Prop := ∀ i, h.Alive i → h.Holds i

namespace Tracked

variable {h : Host}

theorem of_quiet (quiet : h.Quiet) : Tracked h := fun i alive => absurd alive (quiet i)

theorem quiet (tracked : Tracked h) (free : ¬ h.Busy) : h.Quiet := by
  intro i alive
  obtain ⟨child, held, same⟩ := Option.map_eq_some_iff.mp (tracked i alive)
  exact free ⟨child, held, same ▸ alive⟩

/-- A new process is held, unless it has ended or cannot be checked. -/
theorem spawnScript (quiet : h.Quiet) (params : ScriptParams) {os : StartOutcome}
    (checked : os.spawned.isOk → os.exits = none → os.recheckError = none) :
    Tracked (h.spawnScript params os).2 := by
  unfold Host.spawnScript
  cases spawned : os.spawned with
  | error e => exact of_quiet quiet
  | ok pid =>
      simp only
      have alone (i : Nat) {p : Process}
          (alive : ({ h with processes := h.processes ++ [p] } : Host).Alive i) :
          i = h.processes.length ∧ p.status = none :=
        ((Host.alive_spawned p i).mp alive).resolve_left (quiet i)
      split
      · next status ended =>
          apply of_quiet
          intro i alive
          have found := (Host.tryWait_eq_ok.mp ended).2
          rw [Host.status_spawned, (alone i alive).2] at found
          cases found
      · intro i alive
        exact congrArg some (alone i alive).1.symm
      · next e failed =>
          apply of_quiet
          intro i alive
          have fine := checked (by rw [spawned]; rfl) (alone i alive).2
          rw [fine] at failed
          cases failed

theorem startScript (tracked : Tracked h) (params : ScriptParams)
    {os : StartOutcome} (keeps : ¬ h.StartLoses os) : Tracked (h.startScript params os).2 := by
  rw [Host.StartLoses, not_or] at keeps
  have checked (free : ¬ h.Busy) (spawned : os.spawned.isOk) (running : os.exits = none) :
      os.recheckError = none := by
    by_contra failed
    exact keeps.2 ⟨free, spawned, running, failed⟩
  unfold Host.startScript
  cases held : h.app.scriptProcess with
  | none =>
      have free := Host.not_busy_of_none held
      exact spawnScript (tracked.quiet free) params (checked free)
  | some child =>
      simp only
      split
      · next status ended =>
          have free := Host.not_busy_of_ended held (Host.tryWait_eq_ok.mp ended).2
          exact spawnScript (h := h.setProcess none) (tracked.quiet free) params (checked free)
      · exact tracked
      · next e failed =>
          have free : ¬ h.Busy := by
            intro busy
            refine keeps.1 ⟨busy, ?_⟩
            rw [Host.tryWait_eq_error.mp failed]
            exact Option.some_ne_none e
          exact spawnScript (h := h.setProcess none) (tracked.quiet free) params (checked free)

/-- A stop leaves nothing running, unless the process survives it. -/
theorem stopScript (coherent : Coherent h) (tracked : Tracked h) {os : StopOutcome}
    (keeps : ¬ h.StopLoses os) : (h.stopScript os).2.Quiet := by
  unfold Host.stopScript
  cases held : h.app.scriptProcess with
  | none => exact tracked.quiet (Host.not_busy_of_none held)
  | some child =>
      obtain ⟨_, p, _, _, id, _⟩ := coherent child held
      have killed : ((h.setProcess none).killProcessTree child.process os.exits).Quiet := by
        intro i alive
        have before : h.Alive i :=
          Host.alive_of_alive_killProcessTree (h := h.setProcess none) alive
        have same : some child.process = some i := by
          have holds := tracked i before
          rwa [Host.Holds, held] at holds
        obtain rfl : child.process = i := Option.some.inj same
        cases exits : os.exits with
        | none => exact keeps ⟨(Host.busy_iff held).mpr before, exits⟩
        | some status =>
            rw [exits] at alive
            exact (Host.alive_finish.mp alive).1 rfl
      simp only [id]
      split <;> exact killed

theorem getStatus (tracked : Tracked h) {os : StatusOutcome}
    (keeps : ¬ (h.Busy ∧ os.checkError ≠ none)) : Tracked (h.getStatus os).2 := by
  unfold Host.getStatus
  cases held : h.app.scriptProcess with
  | none => exact tracked
  | some child =>
      simp only
      split
      · next status ended =>
          have free := Host.not_busy_of_ended held (Host.tryWait_eq_ok.mp ended).2
          exact of_quiet (tracked.quiet free)
      · exact tracked
      · next e failed =>
          have free : ¬ h.Busy := by
            intro busy
            refine keeps ⟨busy, ?_⟩
            rw [Host.tryWait_eq_error.mp failed]
            exact Option.some_ne_none e
          exact of_quiet (tracked.quiet free)

theorem finish (tracked : Tracked h) (process : Nat) (status : ExitStatus) :
    Tracked (h.finish process status) :=
  fun i alive => tracked i (Host.alive_finish.mp alive).2

/-- **An action that loses no child keeps the one that is alive at hand.** -/
theorem next {h' : Host} {a : EngineAction} (coherent : Coherent h) (tracked : Tracked h)
    (keeps : ¬ h.LosesChild a) (next : engine.next h a = some h') : Tracked h' := by
  cases a with
  | start params os =>
      cases next
      exact tracked.startScript params keeps
  | stop os =>
      cases next
      exact of_quiet (stopScript coherent tracked keeps)
  | status os =>
      cases next
      exact tracked.getStatus keeps
  | restart params os =>
      cases next
      exact of_quiet (stopScript coherent tracked keeps)
  | resume params os =>
      obtain ⟨_, rfl⟩ := resume_of_next next
      exact startScript (h := { h with restarting := h.restarting.erase params }) tracked params keeps
  | exit process status =>
      obtain ⟨_, rfl⟩ := exit_of_next next
      exact tracked.finish process status

end Tracked

/-- Along every run without lost children the process that may be alive is at hand. -/
theorem tracked_of_run {h : Host} (run : engine.Run (fun h a => ¬ h.LosesChild a) h) :
    Tracked h := by
  refine run.inductOver (I := Tracked) (fun _ => coherent_of_reachable) (fun h start => ?_)
    fun h a h' coherent tracked keeps next => Tracked.next coherent tracked keeps next
  rw [show h = Host.new from start]
  exact fun i alive => absurd alive.1 (Nat.not_lt_zero i)

/-- **At most one training process.** Along every run without lost children at most one process is
alive, and it is the one in `script_process`. -/
theorem oneProcess_of_run {h : Host} (run : engine.Run (fun h a => ¬ h.LosesChild a) h) :
    h.OneProcess := by
  have tracked := tracked_of_run run
  refine ⟨fun i j first second => ?_, tracked⟩
  exact Option.some.inj ((tracked i first).symm.trans (tracked j second))

/-- A process is started and seen running. -/
def launch (pid : UInt32) : EngineAction :=
  .start ⟨none, none⟩ { spawned := .ok pid, startTime := .epoch, endTime := .epoch }

theorem oneProcess_launched :
    ∃ h, engine.Run (fun h a => ¬ h.LosesChild a) h ∧ h.Alive 0 ∧ h.OneProcess := by
  obtain ⟨h, run, alive⟩ := System.exists_run (S := engine) (C := fun h a => ¬ h.LosesChild a)
    (fun h a => ¬ h.LosesChild a) [launch 7] (fun h => h.Alive 0)
    (fun _ _ _ keeps => of_decide_eq_true keeps) rfl (by decide +kernel)
  exact ⟨h, run, of_decide_eq_true alive, oneProcess_of_run run⟩

/-- A process outlives its kill by more than a second, and the next start adds a second process. -/
theorem two_processes_alive :
    ∃ h, engine.Reachable h ∧ h.Alive 0 ∧ h.Alive 1 ∧ ¬ h.OneProcess := by
  obtain ⟨h, reachable, alive⟩ := System.exists_reachable (S := engine)
    [launch 7, .stop { exits := none, endTime := .epoch }, launch 8]
    (fun h => h.Alive 0 ∧ h.Alive 1) rfl (by decide +kernel)
  obtain ⟨first, second⟩ := of_decide_eq_true alive
  exact ⟨h, reachable, first, second, fun one => absurd (one.atMostOne 0 1 first second) (by decide)⟩

end C4D
