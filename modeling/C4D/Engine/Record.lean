import C4D.Engine.Handlers

/-!
# The process at hand and its record

While the engine holds the handle of a process, that process is the one started
last, and the execution record is the one made at its start (`Fresh`). This holds
after every action, whatever the operating system does (`coherent_of_reachable`):
the handle is stored together with a new record, and every handler that changes
the record lets go of the handle.
-/

set_option autoImplicit false

namespace C4D

open Foundations

namespace Host

variable {h : Host}

/-! ## What assignments and endings do to the processes -/

@[simp] theorem app_finish (process : Nat) (status : ExitStatus) :
    (h.finish process status).app = h.app := rfl

@[simp] theorem app_killProcessTree (process : Nat) (exits : Option ExitStatus) :
    (h.killProcessTree process exits).app = h.app := by
  cases exits <;> rfl

@[simp] theorem scriptProcess_setProcess (child : Option Child) :
    (h.setProcess child).app.scriptProcess = child := rfl

@[simp] theorem scriptProcess_updateExecution (f : ExecutionInfo → ExecutionInfo) :
    (h.updateExecution f).app.scriptProcess = h.app.scriptProcess := rfl

theorem getElem?_finish (process j : Nat) (status : ExitStatus) :
    (h.finish process status).processes[j]? = h.processes[j]?.map fun p =>
      if process = j then { p with status := p.status.or (some status) } else p :=
  List.getElem?_modify ..

theorem status_finish (process j : Nat) (status : ExitStatus) :
    (h.finish process status).status j =
      if process = j ∧ j < h.processes.length then (h.status j).or (some status)
      else h.status j := by
  rw [Host.status, Host.status, getElem?_finish]
  by_cases same : process = j
  · by_cases bound : j < h.processes.length
    · rw [if_pos ⟨same, bound⟩, List.getElem?_eq_getElem bound]
      simp only [same, if_true, Option.map_some, Option.bind_some]
    · rw [if_neg fun both => bound both.2, List.getElem?_eq_none (not_lt.mp bound)]
      rfl
  · rw [if_neg fun both => same both.1]
    simp [same]

/-- A process that ends is not alive, and the others are as they were. -/
theorem alive_finish {process j : Nat} {status : ExitStatus} :
    (h.finish process status).Alive j ↔ j ≠ process ∧ h.Alive j := by
  rw [Alive, Alive, status_finish]
  have length : (h.finish process status).processes.length = h.processes.length :=
    List.length_modify ..
  rw [length]
  by_cases same : process = j
  · subst same
    constructor
    · rintro ⟨bound, alive⟩
      rw [if_pos ⟨rfl, bound⟩] at alive
      cases found : h.status process with
      | none => rw [found] at alive; cases alive
      | some _ => rw [found] at alive; cases alive
    · exact fun both => absurd rfl both.1
  · rw [if_neg fun both => same both.1]
    exact ⟨fun alive => ⟨Ne.symm same, alive⟩, fun both => both.2⟩

/-- A stop starts no process. -/
theorem length_stopScript (os : StopOutcome) :
    (h.stopScript os).2.processes.length = h.processes.length := by
  have killed (process : Nat) :
      ((h.setProcess none).killProcessTree process os.exits).processes.length =
        h.processes.length := by
    cases os.exits with
    | none => rfl
    | some status => exact List.length_modify ..
  unfold stopScript
  split
  · next child _ =>
      split
      · simp only
        split <;> exact killed child.process
      · rfl
  · rfl

end Host

/-! ## The record of the process at hand -/

/-- The record made when a process has been started. -/
def Process.info (p : Process) (startTime : Timestamp) : ExecutionInfo where
  startTime := startTime
  endTime := none
  exitCode := none
  exitSignal := none
  pid := some p.pid
  envVars := p.envVars
  scriptPath := p.scriptPath

/-- The child is the process started last, and the record is the one made at its start. -/
structure Fresh (h : Host) (child : Child) : Prop where
  last : child.process + 1 = h.processes.length
  record : ∃ p startTime, h.processes[child.process]? = some p ∧ child.id = some p.pid ∧
    h.app.lastExecution = some (p.info startTime)

/-- The process at hand is fresh. -/
def Coherent (h : Host) : Prop := ∀ child, h.app.scriptProcess = some child → Fresh h child

namespace Coherent

variable {h : Host}

theorem of_none (empty : h.app.scriptProcess = none) : Coherent h := by
  intro child held
  rw [empty] at held
  cases held

/-- The end of a process changes no record. -/
theorem finish (coherent : Coherent h) (process : Nat) (status : ExitStatus) :
    Coherent (h.finish process status) := by
  intro child held
  obtain ⟨last, p, startTime, found, id, record⟩ := coherent child held
  have found' := Host.getElem?_finish (h := h) process child.process status
  rw [found, Option.map_some] at found'
  refine ⟨last.trans (List.length_modify ..).symm, _, startTime, found', ?_, ?_⟩
  · rw [id]
    split <;> rfl
  · rw [Host.app_finish, record]
    split <;> rfl

/-- A process is at hand after a start only together with its record. -/
theorem spawnScript (empty : h.app.scriptProcess = none) (params : ScriptParams)
    (os : StartOutcome) : Coherent (h.spawnScript params os).2 := by
  unfold Host.spawnScript
  cases os.spawned with
  | error e => exact .of_none empty
  | ok pid =>
      simp only
      split
      · exact .of_none empty
      · intro child held
        cases held
        refine ⟨?_, _, os.startTime, List.getElem?_concat_length, rfl, rfl⟩
        change h.processes.length + 1 = (h.processes ++ [_]).length
        rw [List.length_append, List.length_singleton]
      · exact .of_none empty

theorem startScript (coherent : Coherent h) (params : ScriptParams) (os : StartOutcome) :
    Coherent (h.startScript params os).2 := by
  unfold Host.startScript
  cases held : h.app.scriptProcess with
  | none => exact spawnScript held params os
  | some child =>
      simp only
      split
      · exact spawnScript rfl params os
      · exact coherent
      · exact spawnScript rfl params os

/-- A stop lets go of the handle. -/
theorem scriptProcess_stopScript (h : Host) (os : StopOutcome) :
    (h.stopScript os).2.app.scriptProcess = none := by
  unfold Host.stopScript
  cases held : h.app.scriptProcess with
  | none => exact held
  | some child =>
      simp only
      split
      · split <;> simp
      · rfl

theorem getStatus (coherent : Coherent h) (os : StatusOutcome) : Coherent (h.getStatus os).2 := by
  unfold Host.getStatus
  cases held : h.app.scriptProcess with
  | none => exact coherent
  | some child =>
      simp only
      split
      · exact .of_none rfl
      · exact coherent
      · exact .of_none rfl

end Coherent

/-- **After every action the process at hand is the one started last, with its record.** -/
theorem coherent_of_reachable {h : Host} (reachable : engine.Reachable h) : Coherent h := by
  refine reachable.induct (I := Coherent) (fun h start => ?_) fun h a h' coherent _ next => ?_
  · rw [show h = Host.new from start]
    exact .of_none rfl
  cases a with
  | start params os =>
      cases next
      exact coherent.startScript params os
  | stop os =>
      cases next
      exact .of_none (Coherent.scriptProcess_stopScript h os)
  | status os =>
      cases next
      exact coherent.getStatus os
  | restart params os =>
      cases next
      exact .of_none (Coherent.scriptProcess_stopScript h os)
  | resume params os =>
      obtain ⟨_, rfl⟩ := resume_of_next next
      exact Coherent.startScript (h := { h with restarting := h.restarting.erase params })
        (fun child held => ⟨(coherent child held).last, (coherent child held).record⟩) params os
  | exit process status =>
      obtain ⟨_, rfl⟩ := exit_of_next next
      exact coherent.finish process status

end C4D
