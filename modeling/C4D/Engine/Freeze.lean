import C4D.Engine.Requests

/-!
# Can a handler freeze its worker?

`stop_script` keeps both mutexes of the engine across its awaits, so a worker that
takes up another request in the meantime waits for a mutex whose holder can only
go on after the wait (`engine_frozen_by_status`).

All other handlers give the mutexes back before they await. A worker that takes
up no request, and no restart after its sleep, while a stop is suspended never
freezes, and one that does freezes at once (`engine_not_frozen_of_run`).
-/

set_option autoImplicit false

namespace C4D

open Foundations Program Worker

/-- A worker of the engine with any number of requests. -/
def engineWorker : System (Worker AppMutex EngineOp EngineOp.Answer Host)
    (WorkerMove EngineRequest OsChoice) :=
  Worker.system Host.act EngineRequest.program fun h => h = Host.new

/-! ## The handlers and their guards -/

namespace Handler

/-- No mutex is held. -/
def noGuard : AppMutex → Bool := fun _ => false

/-- The guard of `script_process` is held. -/
def processGuard : AppMutex → Bool := Function.update noGuard .scriptProcess true

/-- Both guards are held. -/
def bothGuards : AppMutex → Bool := Function.update processGuard .lastExecution true

/-- From some guards to others, the handler is orderly with `script_process` as its main mutex. -/
abbrev Orderly {α : Type} (held : AppMutex → Bool) (p : EngineProgram α) (left : AppMutex → Bool) :
    Prop :=
  Worker.Orderly .scriptProcess held p left

variable {α : Type} {held left : AppMutex → Bool} {params : ScriptParams}

theorem orderly_withProcess {body : EngineProgram α}
    (within : Orderly processGuard body processGuard) :
    Orderly noGuard (withMutex .scriptProcess body) noGuard := by
  refine .lock rfl (fun _ _ => rfl) (fun other => absurd rfl other) (.bind within fun a => ?_)
  refine .unlock rfl (fun _ k other => Function.update_of_ne other ..) ?_
  funext k
  cases k <;> rfl

theorem orderly_withExecution {body : EngineProgram α}
    (within : Orderly bothGuards body bothGuards) :
    Orderly processGuard (withMutex .lastExecution body) processGuard := by
  refine .lock rfl (fun same => AppMutex.noConfusion same) (fun _ => rfl) (.bind within fun a => ?_)
  refine .unlock rfl (fun same => AppMutex.noConfusion same) ?_
  funext k
  cases k <;> rfl

/-- An operation under the guard of `script_process`. -/
theorem orderly_call {q : EngineOp} {f : q.Answer → EngineProgram α}
    (guarded : held .scriptProcess = true) (later : ∀ answer, Orderly held (f answer) left) :
    Orderly held (call q >>= f) left := .call guarded later

theorem orderly_recordExecution (info : ExecutionInfo) :
    Orderly processGuard (recordExecution info) processGuard :=
  orderly_withExecution ⟨rfl, fun _ => rfl⟩

theorem orderly_spawnScript : Orderly processGuard (spawnScript params) processGuard := by
  apply orderly_call rfl
  intro spawned
  split
  · rfl
  · refine orderly_call rfl fun startTime => orderly_call rfl fun looked => ?_
    split
    · exact orderly_call rfl fun endTime =>
        .bind (orderly_recordExecution _) fun _ => rfl
    · exact orderly_call rfl fun _ => .bind (orderly_recordExecution _) fun _ => rfl
    · rfl

theorem orderly_startScript : Orderly noGuard (startScript params) noGuard := by
  refine orderly_withProcess (orderly_call rfl fun process => ?_)
  split
  · apply orderly_call rfl
    intro looked
    split
    · exact orderly_call rfl fun _ => orderly_spawnScript
    · rfl
    · exact orderly_call rfl fun _ => orderly_spawnScript
  · exact orderly_spawnScript

theorem orderly_settle (currentStatus : String)
    (update : Timestamp → ExecutionInfo → ExecutionInfo) :
    Orderly bothGuards (settle currentStatus update) bothGuards :=
  orderly_call rfl fun _ => orderly_call rfl fun _ =>
    orderly_call rfl fun _ => rfl

theorem orderly_stopScript : Orderly noGuard stopScript noGuard := by
  refine orderly_withProcess (orderly_withExecution (orderly_call rfl fun process => ?_))
  split
  · apply orderly_call rfl
    intro _
    split
    · -- both guards are held across the awaits
      refine .await (fun free => Bool.noConfusion free) (.await (fun free => Bool.noConfusion free)
        (orderly_call rfl fun looked => ?_))
      split
      · exact orderly_settle _ _
      · rfl
      · exact orderly_settle _ _
    · rfl
  · rfl

theorem orderly_getStatus : Orderly noGuard getStatus noGuard := by
  refine orderly_withProcess (orderly_withExecution (orderly_call rfl fun process => ?_))
  split
  · apply orderly_call rfl
    intro looked
    split
    · exact orderly_call rfl fun _ => orderly_call rfl fun _ =>
        orderly_call rfl fun _ => orderly_call rfl fun _ => rfl
    · exact orderly_call rfl fun _ => rfl
    · exact orderly_call rfl fun _ => orderly_call rfl fun _ => rfl
  · exact orderly_call rfl fun _ => rfl

theorem orderly_getMetrics : Orderly noGuard getMetrics noGuard :=
  orderly_withProcess (orderly_call rfl fun _ => rfl)

theorem orderly_getEnv : Orderly noGuard getEnv noGuard := by
  refine orderly_withProcess (orderly_call rfl fun process => ?_)
  split <;> rfl

/-- After its sleep a restart takes `script_process` first. -/
theorem orderly_restartScript : Orderly noGuard (restartScript params) noGuard :=
  .bind orderly_stopScript fun _ => .await (fun _ => ⟨_, rfl⟩) orderly_startScript

end Handler

/-- **Every handler is orderly.** -/
theorem EngineRequest.orderly (request : EngineRequest) :
    Handler.Orderly Handler.noGuard request.program Handler.noGuard := by
  cases request with
  | start params => exact .bind Handler.orderly_startScript fun _ => rfl
  | stop => exact .bind Handler.orderly_stopScript fun _ => rfl
  | status => exact .bind Handler.orderly_getStatus fun _ => rfl
  | metrics => exact .bind Handler.orderly_getMetrics fun _ => rfl
  | env => exact .bind Handler.orderly_getEnv fun _ => rfl
  | restart params => exact .bind Handler.orderly_restartScript fun _ => rfl

/-! ## Workers of the engine -/

theorem disciplined_of_reachable {c : Worker AppMutex EngineOp EngineOp.Answer Host}
    (reachable : engineWorker.Reachable c) : Disciplined .scriptProcess c := by
  refine reachable.induct (I := Disciplined .scriptProcess) (fun c start => ?_)
    fun c a c' disciplined _ next => disciplined.next EngineRequest.orderly next
  obtain ⟨_, free, _, ended⟩ := start
  refine ⟨fun i => ?_, fun l i taken => ?_, fun l i taken => ?_⟩
  · rw [ended i]
    funext l
    exact holds_eq_false.mpr fun taken => Option.some_ne_none i (taken.symm.trans (free l))
  · exact absurd (taken.symm.trans (free l)) (Option.some_ne_none i)
  · exact absurd (taken.symm.trans (free l)) (Option.some_ne_none i)

/-- **When a worker freezes.** Along every run in which no request and no restart is taken up while a
suspended handler holds a mutex, the running handler does not wait for a suspended one. The next
step freezes the worker if and only if it takes one up. -/
theorem engine_not_frozen_of_run
    {c : Worker AppMutex EngineOp EngineOp.Answer Host}
    (run : engineWorker.Run (fun c a => ¬ c.Interferes a) c) :
    ¬ c.Frozen ∧ ∀ a c', engineWorker.next c a = some c' → (c'.Frozen ↔ c.Interferes a) := by
  refine ⟨Worker.not_frozen_of_run run, fun a c' next => ⟨fun frozen => ?_, fun interferes => ?_⟩⟩
  · by_contra apart
    exact Worker.not_frozen_of_run (run.step a apart next) frozen
  · exact frozen_of_interferes (disciplined_of_reachable run.reachable) interferes next

/-- No mutex is held by another handler than the one that is taken up. -/
def apart (c : Worker AppMutex EngineOp EngineOp.Answer Host)
    (a : WorkerMove EngineRequest OsChoice) : Bool :=
  match a with
  | .resume i => [AppMutex.scriptProcess, .lastExecution].all fun l =>
      c.holder l == none || c.holder l == some i
  | _ => true

theorem not_interferes_of_apart {c : Worker AppMutex EngineOp EngineOp.Answer Host}
    {a : WorkerMove EngineRequest OsChoice} (holds : apart c a = true) : ¬ c.Interferes a := by
  cases a with
  | resume i =>
      rintro ⟨l, j, taken, ne⟩
      have free : (c.holder l == none || c.holder l == some i) = true := by
        have mem : l ∈ [AppMutex.scriptProcess, .lastExecution] := by cases l <;> decide
        exact List.all_eq_true.mp holds l mem
      rw [taken] at free
      simp [ne] at free
  | _ => exact id

/-- A process is started, and a stop is suspended while it kills it. -/
def stopSuspended : List (WorkerMove EngineRequest OsChoice) :=
  [.arrive 0 (.start ⟨none, none⟩), .resume 0] ++ List.replicate 10 (.go { spawned := .ok 7 }) ++
    [.arrive 1 .stop, .resume 1] ++ List.replicate 4 (.go {}) ++ [.suspend]

/-- The stop ends before the next request is taken up. -/
theorem engine_not_frozen_stopped : ∃ c, engineWorker.Run (fun c a => ¬ c.Interferes a) c ∧
    c.running = some 2 ∧ ¬ c.Frozen := by
  obtain ⟨c, run, runs⟩ := System.exists_run (S := engineWorker)
    (C := fun c a => ¬ c.Interferes a) apart
    (stopSuspended ++ [.arrive 2 .status, .resume 1] ++
      List.replicate 7 (.go { exits := some (.signaled 9) }) ++ [.resume 2])
    (fun c => c.running = some 2)
    (s := ⟨Host.new, fun _ => none, none, fun _ => .done ()⟩)
    (fun _ _ _ => not_interferes_of_apart)
    ⟨rfl, fun _ => rfl, rfl, fun _ => rfl⟩ (by decide +kernel)
  exact ⟨c, run, of_decide_eq_true runs, (engine_not_frozen_of_run run).1⟩

/-- The monitor asks for the status while the stop is suspended. -/
theorem engine_frozen_by_status : ∃ c, engineWorker.Reachable c ∧ c.Frozen := by
  obtain ⟨c, reachable, waits⟩ := System.exists_reachable (S := engineWorker)
    (stopSuspended ++ [.arrive 2 .status, .resume 2]) (fun c => c.waitsFor 2 1)
    (s := ⟨Host.new, fun _ => none, none, fun _ => .done ()⟩)
    ⟨rfl, fun _ => rfl, rfl, fun _ => rfl⟩ (by decide +kernel)
  exact ⟨c, reachable, frozen_of_waitsFor (by decide) waits⟩

end C4D
