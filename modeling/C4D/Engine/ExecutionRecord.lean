import C4D.Engine.SingleProcess

/-!
# The record of the execution at hand

`script_process` and `last_execution` are meant to move together: while a process
is at hand, its record has no end time, and a record without one belongs to a
process at hand. Three branches drop the handle and leave the record open
(`Forgets`): a start that lets go of the process at hand and records no new one,
a stop whose wait fails, and a status request whose check fails.

Along every run without such steps the record follows the process
(`recordFollows_of_run`), and such a step always leaves it open
(`closed_next_iff`). Whatever happens, an end is only ever written into the record
of the process that ended or was given up (`owned_of_reachable`).
-/

set_option autoImplicit false

namespace C4D

open Foundations

/-! ## Records and their processes -/

/-- The record of the process as it was made, with the exit status of the process, or given up after
the kill. -/
inductive Process.Records (p : Process) : ExecutionInfo → Prop where
  | started (startTime : Timestamp) : Records p (p.info startTime)
  | finished (startTime : Timestamp) {status : ExitStatus} (ended : p.status = some status)
      (endTime : Timestamp) : Records p ((p.info startTime).finished status endTime)
  | abandoned (startTime endTime : Timestamp) : Records p ((p.info startTime).abandoned endTime)

/-- The record is that of a process of the engine. -/
def ExecutionInfo.OwnedIn (h : Host) (e : ExecutionInfo) : Prop :=
  ∃ p ∈ h.processes, p.Records e

/-- The record follows the process at hand. -/
structure Host.RecordFollows (h : Host) : Prop where
  held_iff : (∃ child, h.app.scriptProcess = some child) ↔
    ∃ e ∈ h.app.lastExecution, e.endTime = none
  pid : ∀ child ∈ h.app.scriptProcess, ∀ e ∈ h.app.lastExecution, e.pid = child.id
  owned : ∀ e ∈ h.app.lastExecution, e.OwnedIn h

namespace Host

/-- There is a record without an end time. -/
def Open (h : Host) : Prop := ∃ e ∈ h.app.lastExecution, e.endTime = none

/-- A record without an end time belongs to a process at hand. -/
def Closed (h : Host) : Prop := h.Open → h.app.scriptProcess ≠ none

/-- The process at hand has ended or cannot be checked. -/
def LetsGo (h : Host) (checkError : Option String) : Prop :=
  ∃ child ∈ h.app.scriptProcess, checkError ≠ none ∨ h.status child.process ≠ none

instance (h : Host) (checkError : Option String) : Decidable (h.LetsGo checkError) :=
  inferInstanceAs (Decidable (∃ child ∈ _, _))

end Host

/-- The new process is not recorded: it was not spawned, or it cannot be checked. -/
def StartOutcome.Unrecorded (os : StartOutcome) : Prop :=
  ¬ os.spawned.isOk ∨ os.recheckError ≠ none

instance (os : StartOutcome) : Decidable os.Unrecorded := inferInstanceAs (Decidable (_ ∨ _))

/-- The engine drops the handle of the process at hand and leaves its record open. -/
def Host.Forgets (h : Host) : EngineAction → Prop
  | .start _ os => h.LetsGo os.checkError ∧ os.Unrecorded
  | .stop os => h.app.scriptProcess ≠ none ∧ os.waitError ≠ none
  | .status os => h.app.scriptProcess ≠ none ∧ os.checkError ≠ none
  | .restart _ os => h.app.scriptProcess ≠ none ∧ os.waitError ≠ none
  | .resume _ os => h.LetsGo os.checkError ∧ os.Unrecorded
  | .exit _ _ => False

instance (h : Host) : (a : EngineAction) → Decidable (h.Forgets a)
  | .start _ _ => inferInstanceAs (Decidable (_ ∧ _))
  | .stop _ => inferInstanceAs (Decidable (_ ∧ _))
  | .status _ => inferInstanceAs (Decidable (_ ∧ _))
  | .restart _ _ => inferInstanceAs (Decidable (_ ∧ _))
  | .resume _ _ => inferInstanceAs (Decidable (_ ∧ _))
  | .exit _ _ => inferInstanceAs (Decidable False)

variable {h : Host}

theorem Coherent.open_of_held (coherent : Coherent h) {child : Child}
    (held : h.app.scriptProcess = some child) : h.Open := by
  obtain ⟨_, p, startTime, _, _, record⟩ := coherent child held
  exact ⟨p.info startTime, record, rfl⟩

/-! ## Which steps leave a record open -/

section Closed

variable {params : ScriptParams}

theorem closed_of_ended {e : ExecutionInfo} (record : h.app.lastExecution = some e)
    (ended : e.endTime ≠ none) : h.Closed := by
  rintro ⟨other, mem, unended⟩
  obtain rfl : e = other := Option.some.inj (record.symm.trans mem)
  exact absurd unended ended

theorem closed_of_held {child : Child} (held : h.app.scriptProcess = some child) : h.Closed :=
  fun _ => held ▸ Option.some_ne_none child

theorem closed_iff_of_none (empty : h.app.scriptProcess = none) : h.Closed ↔ ¬ h.Open :=
  ⟨fun closed unended => closed unended empty, fun none unended => absurd unended none⟩

/-- Without a process at hand, an open record stays open exactly if no new one takes its place. -/
theorem closed_spawnScript_iff (empty : h.app.scriptProcess = none) (os : StartOutcome) :
    (h.spawnScript params os).2.Closed ↔ ¬ (h.Open ∧ os.Unrecorded) := by
  unfold Host.spawnScript
  rw [StartOutcome.Unrecorded]
  cases os.spawned with
  | error e =>
      rw [closed_iff_of_none empty]
      exact not_congr (iff_self_and.mpr fun _ => .inl Bool.false_ne_true)
  | ok pid =>
      simp only
      split
      · next status ended =>
          apply iff_of_true (closed_of_ended rfl (Option.some_ne_none _))
          rintro ⟨_, unspawned | fails⟩
          · exact unspawned rfl
          · exact fails (Host.tryWait_eq_ok.mp ended).1
      · next running =>
          apply iff_of_true (closed_of_held rfl)
          rintro ⟨_, unspawned | fails⟩
          · exact unspawned rfl
          · exact fails (Host.tryWait_eq_ok.mp running).1
      · next e failed =>
          refine (closed_iff_of_none empty).trans (not_congr (iff_self_and.mpr fun _ => .inr ?_))
          rw [Host.tryWait_eq_error.mp failed]
          exact Option.some_ne_none e

theorem closed_startScript_iff (coherent : Coherent h) (closed : h.Closed) (os : StartOutcome) :
    (h.startScript params os).2.Closed ↔ ¬ (h.LetsGo os.checkError ∧ os.Unrecorded) := by
  unfold Host.startScript
  cases held : h.app.scriptProcess with
  | none =>
      have ended : ¬ h.Open := fun unended => closed unended held
      refine iff_of_true ((closed_spawnScript_iff held os).mpr fun both => ended both.1) ?_
      rintro ⟨⟨child, mem, _⟩, _⟩
      rw [held] at mem
      cases mem
  | some child =>
      have unended : (h.setProcess none).Open := coherent.open_of_held held
      simp only
      split
      · next status ended =>
          refine (closed_spawnScript_iff (h := h.setProcess none) rfl os).trans (not_congr ?_)
          refine and_congr_left fun _ => iff_of_true unended ⟨child, held, .inr ?_⟩
          rw [(Host.tryWait_eq_ok.mp ended).2]
          exact Option.some_ne_none status
      · next running =>
          apply iff_of_true closed
          obtain ⟨checked, alive⟩ := Host.tryWait_eq_ok.mp running
          rintro ⟨⟨other, mem, fails | ended⟩, _⟩
          · exact fails checked
          · obtain rfl : child = other := Option.some.inj (held.symm.trans mem)
            exact ended alive
      · next e failed =>
          refine (closed_spawnScript_iff (h := h.setProcess none) rfl os).trans (not_congr ?_)
          refine and_congr_left fun _ => iff_of_true unended ⟨child, held, .inl ?_⟩
          rw [Host.tryWait_eq_error.mp failed]
          exact Option.some_ne_none e

/-- After a wait the record has an end time. -/
theorem closed_updateExecution {f : ExecutionInfo → ExecutionInfo}
    (ends : ∀ e, (f e).endTime ≠ none) : (h.updateExecution f).Closed := by
  rintro ⟨e, mem, unended⟩
  obtain ⟨before, _, rfl⟩ := Option.map_eq_some_iff.mp mem
  exact absurd unended (ends before)

theorem closed_stopScript_iff (coherent : Coherent h) (closed : h.Closed) (os : StopOutcome) :
    (h.stopScript os).2.Closed ↔ ¬ (h.app.scriptProcess ≠ none ∧ os.waitError ≠ none) := by
  unfold Host.stopScript
  cases held : h.app.scriptProcess with
  | none => exact iff_of_true closed fun both => both.1 rfl
  | some child =>
      obtain ⟨_, p, _, _, id, _⟩ := coherent child held
      have unended : ((h.setProcess none).killProcessTree child.process os.exits).Open := by
        rw [Host.Open, Host.app_killProcessTree]
        exact coherent.open_of_held held
      have empty : ((h.setProcess none).killProcessTree child.process
          os.exits).app.scriptProcess = none := by
        rw [Host.app_killProcessTree]
        rfl
      simp only [id]
      split
      · next status ended =>
          refine iff_of_true (closed_updateExecution fun _ => Option.some_ne_none _) fun both => ?_
          exact both.2 (Host.tryWait_eq_ok.mp ended).1
      · next e failed =>
          refine iff_of_false (fun closed => closed unended empty) fun keeps => keeps ⟨?_, ?_⟩
          · exact Option.some_ne_none child
          · rw [Host.tryWait_eq_error.mp failed]
            exact Option.some_ne_none e
      · next running =>
          refine iff_of_true (closed_updateExecution fun _ => Option.some_ne_none _) fun both => ?_
          exact both.2 (Host.tryWait_eq_ok.mp running).1

theorem closed_getStatus_iff (coherent : Coherent h) (closed : h.Closed) (os : StatusOutcome) :
    (h.getStatus os).2.Closed ↔ ¬ (h.app.scriptProcess ≠ none ∧ os.checkError ≠ none) := by
  unfold Host.getStatus
  cases held : h.app.scriptProcess with
  | none => exact iff_of_true closed fun both => both.1 rfl
  | some child =>
      simp only
      split
      · next status ended =>
          refine iff_of_true ?_ fun both => both.2 (Host.tryWait_eq_ok.mp ended).1
          rintro ⟨e, mem, unended⟩
          obtain ⟨before, _, rfl⟩ := Option.map_eq_some_iff.mp mem
          cases unended
      · next running => exact iff_of_true closed fun both => both.2 (Host.tryWait_eq_ok.mp running).1
      · next e failed =>
          refine iff_of_false (fun closed => ?_) fun keeps => keeps ⟨?_, ?_⟩
          · exact closed (coherent.open_of_held held) rfl
          · exact Option.some_ne_none child
          · rw [Host.tryWait_eq_error.mp failed]
            exact Option.some_ne_none e

/-- **A step leaves a record open** exactly if it forgets the process at hand. -/
theorem closed_next_iff {h' : Host} {a : EngineAction} (coherent : Coherent h) (closed : h.Closed)
    (next : engine.next h a = some h') : h'.Closed ↔ ¬ h.Forgets a := by
  cases a with
  | start params os =>
      cases next
      exact closed_startScript_iff coherent closed os
  | stop os =>
      cases next
      exact closed_stopScript_iff coherent closed os
  | status os =>
      cases next
      exact closed_getStatus_iff coherent closed os
  | restart params os =>
      cases next
      exact closed_stopScript_iff coherent closed os
  | resume params os =>
      obtain ⟨_, rfl⟩ := resume_of_next next
      exact closed_startScript_iff (h := { h with restarting := h.restarting.erase params })
        (fun child held => ⟨(coherent child held).last, (coherent child held).record⟩) closed os
  | exit process status =>
      obtain ⟨_, rfl⟩ := exit_of_next next
      exact iff_of_true closed id

end Closed

/-! ## Whose record it is -/

section Owned

variable {params : ScriptParams} {e : ExecutionInfo}

/-- The record is that of a process of the engine. -/
def Owned (h : Host) : Prop := ∀ e ∈ h.app.lastExecution, e.OwnedIn h

theorem ExecutionInfo.OwnedIn.append (owned : e.OwnedIn h) (p : Process) :
    e.OwnedIn { h with processes := h.processes ++ [p] } := by
  obtain ⟨q, mem, records⟩ := owned
  exact ⟨q, List.mem_append_left _ mem, records⟩

/-- A process that ends keeps its record. -/
theorem Process.Records.end {p : Process} (records : p.Records e) (status : ExitStatus) :
    ({ p with status := p.status.or (some status) } : Process).Records e := by
  cases records with
  | started startTime => exact .started (p := { p with status := _ }) startTime
  | finished startTime ended endTime =>
      refine .finished (p := { p with status := _ }) startTime ?_ endTime
      rw [ended]
      rfl
  | abandoned startTime endTime => exact .abandoned (p := { p with status := _ }) startTime endTime

theorem ExecutionInfo.OwnedIn.finish (owned : e.OwnedIn h) (process : Nat) (status : ExitStatus) :
    e.OwnedIn (h.finish process status) := by
  obtain ⟨p, mem, records⟩ := owned
  obtain ⟨i, found⟩ := List.mem_iff_getElem?.mp mem
  have after := Host.getElem?_finish (h := h) process i status
  rw [found, Option.map_some] at after
  refine ⟨_, List.mem_of_getElem? after, ?_⟩
  split
  · exact records.end status
  · exact records

theorem ExecutionInfo.OwnedIn.killProcessTree (owned : e.OwnedIn h) (process : Nat)
    (exits : Option ExitStatus) : e.OwnedIn (h.killProcessTree process exits) := by
  cases exits with
  | none => exact owned
  | some status => exact owned.finish process status

/-- The process at hand and its record, after the process may have ended. -/
theorem Fresh.killed {child : Child} (fresh : Fresh h child) {g : Host}
    (same : g.processes = h.processes) (exits : Option ExitStatus) :
    ∃ p startTime, p ∈ (g.killProcessTree child.process exits).processes ∧
      (g.killProcessTree child.process exits).status child.process = p.status ∧
      h.app.lastExecution = some (p.info startTime) := by
  obtain ⟨_, p, startTime, found, _, record⟩ := fresh
  rw [← same] at found
  cases exits with
  | none =>
      refine ⟨p, startTime, List.mem_of_getElem? found, ?_, record⟩
      rw [Host.killProcessTree, Host.status, found, Option.bind_some]
  | some status =>
      have after := Host.getElem?_finish (h := g) child.process child.process status
      rw [found, Option.map_some, if_pos rfl] at after
      refine ⟨_, startTime, List.mem_of_getElem? after, ?_, record⟩
      rw [Host.killProcessTree, Host.status, after, Option.bind_some]

namespace Owned

theorem spawnScript (owned : Owned h) (os : StartOutcome) :
    Owned (h.spawnScript params os).2 := by
  unfold Host.spawnScript
  cases os.spawned with
  | error e => exact owned
  | ok pid =>
      have last (p : Process) : p ∈ h.processes ++ [p] :=
        List.mem_append_right _ (List.mem_singleton.mpr rfl)
      simp only
      split
      · next status ended =>
          rintro e mem
          cases mem
          refine ⟨_, last _, .finished (p := ⟨pid, _, _, os.exits⟩) os.startTime ?_ os.endTime⟩
          have found := (Host.tryWait_eq_ok.mp ended).2
          rwa [Host.status_spawned] at found
      · rintro e mem
        cases mem
        exact ⟨_, last _, .started (p := ⟨pid, _, _, os.exits⟩) os.startTime⟩
      · exact fun e mem => (owned e mem).append _

theorem startScript (owned : Owned h) (os : StartOutcome) :
    Owned (h.startScript params os).2 := by
  unfold Host.startScript
  split
  · split
    · exact spawnScript (h := h.setProcess none) owned os
    · exact owned
    · exact spawnScript (h := h.setProcess none) owned os
  · exact owned.spawnScript os

theorem stopScript (coherent : Coherent h) (owned : Owned h) (os : StopOutcome) :
    Owned (h.stopScript os).2 := by
  unfold Host.stopScript
  cases held : h.app.scriptProcess with
  | none => exact owned
  | some child =>
      obtain ⟨p, startTime, mem, status, record⟩ :=
        (coherent child held).killed (g := h.setProcess none) rfl os.exits
      have killed : Owned ((h.setProcess none).killProcessTree child.process os.exits) := by
        intro e mem
        rw [Host.app_killProcessTree] at mem
        exact (owned e mem).killProcessTree (h := h.setProcess none) child.process os.exits
      have updated (f : ExecutionInfo → ExecutionInfo)
          (records : p.Records (f (p.info startTime))) : Owned
            (((h.setProcess none).killProcessTree child.process os.exits).updateExecution f) := by
        rintro e found
        obtain ⟨before, recorded, rfl⟩ := Option.map_eq_some_iff.mp found
        rw [Host.app_killProcessTree] at recorded
        obtain rfl : p.info startTime = before := Option.some.inj (record.symm.trans recorded)
        exact ⟨p, mem, records⟩
      simp only
      split
      · split
        · next ends ended =>
            refine updated _ (.finished startTime ?_ os.endTime)
            rw [← status]
            exact (Host.tryWait_eq_ok.mp ended).2
        · exact killed
        · exact updated _ (.abandoned startTime os.endTime)
      · exact owned

theorem getStatus (coherent : Coherent h) (owned : Owned h) (os : StatusOutcome) :
    Owned (h.getStatus os).2 := by
  unfold Host.getStatus
  cases held : h.app.scriptProcess with
  | none => exact owned
  | some child =>
      obtain ⟨p, startTime, mem, status, record⟩ := (coherent child held).killed rfl none
      simp only
      split
      · next ends ended =>
          rintro e found
          obtain ⟨before, recorded, rfl⟩ := Option.map_eq_some_iff.mp found
          obtain rfl : p.info startTime = before := Option.some.inj (record.symm.trans recorded)
          refine ⟨p, mem, .finished startTime ?_ os.endTime⟩
          rw [← status]
          exact (Host.tryWait_eq_ok.mp ended).2
      · exact owned
      · exact owned

end Owned

end Owned

/-- **The record is that of a process of the engine**, whatever the operating system does. -/
theorem owned_of_reachable (reachable : engine.Reachable h) : Owned h := by
  refine reachable.inductOver (I := Owned) (fun _ => coherent_of_reachable) (fun h start => ?_)
    fun h a h' coherent owned _ next => ?_
  · rw [show h = Host.new from start]
    exact fun e none => nomatch none
  cases a with
  | start params os =>
      cases next
      exact owned.startScript os
  | stop os =>
      cases next
      exact Owned.stopScript coherent owned os
  | status os =>
      cases next
      exact Owned.getStatus coherent owned os
  | restart params os =>
      cases next
      exact Owned.stopScript coherent owned os
  | resume params os =>
      obtain ⟨_, rfl⟩ := resume_of_next next
      exact Owned.startScript (h := { h with restarting := h.restarting.erase params }) owned os
  | exit process status =>
      obtain ⟨_, rfl⟩ := exit_of_next next
      exact fun e mem => (owned e mem).finish process status

/-! ## The record follows the process -/

/-- Along every run that forgets no process a record without an end time has its process at hand. -/
theorem closed_of_run (run : engine.Run (fun h a => ¬ h.Forgets a) h) : h.Closed := by
  refine run.inductOver (I := Host.Closed) (fun _ => coherent_of_reachable) (fun h start => ?_)
    fun h a h' coherent closed keeps next => (closed_next_iff coherent closed next).mpr keeps
  rw [show h = Host.new from start]
  rintro ⟨e, none, _⟩
  cases none

/-- **The record follows the process** along every run that forgets no process. -/
theorem recordFollows_of_run (run : engine.Run (fun h a => ¬ h.Forgets a) h) :
    h.RecordFollows := by
  have coherent := coherent_of_reachable run.reachable
  refine ⟨⟨fun ⟨child, held⟩ => coherent.open_of_held held, fun unended => ?_⟩,
    fun child held e mem => ?_, owned_of_reachable run.reachable⟩
  · exact Option.ne_none_iff_exists'.mp (closed_of_run run unended)
  · obtain ⟨_, p, startTime, _, id, record⟩ := coherent child held
    obtain rfl : p.info startTime = e := Option.some.inj (record.symm.trans mem)
    exact id.symm

/-- A process that is started and seen running has its record. -/
theorem recordFollows_launched :
    ∃ h, engine.Run (fun h a => ¬ h.Forgets a) h ∧ h.Holds 0 ∧ h.RecordFollows := by
  obtain ⟨h, run, holds⟩ := System.exists_run (S := engine) (C := fun h a => ¬ h.Forgets a)
    (fun h a => ¬ h.Forgets a) [launch 7] (fun h => h.Holds 0)
    (fun _ _ _ keeps => of_decide_eq_true keeps) rfl (by decide +kernel)
  exact ⟨h, run, of_decide_eq_true holds, recordFollows_of_run run⟩

/-- A process exits, and the next start cannot spawn one: the old record stays without an end. -/
theorem record_left_open : ∃ h, engine.Reachable h ∧ ¬ h.RecordFollows := by
  obtain ⟨h, reachable, holds⟩ := System.exists_reachable (S := engine)
    [launch 7, .exit 0 (.exited 0),
      .start ⟨none, none⟩
        { spawned := .error "Resource temporarily unavailable", startTime := .epoch
          endTime := .epoch }]
    (fun h => h.app.scriptProcess = none ∧ h.app.lastExecution.map (·.endTime) = some none) rfl
    (by decide +kernel)
  obtain ⟨empty, unended⟩ := of_decide_eq_true holds
  refine ⟨h, reachable, fun follows => ?_⟩
  obtain ⟨e, record, ended⟩ := Option.map_eq_some_iff.mp unended
  obtain ⟨child, held⟩ := follows.held_iff.mpr ⟨e, record, ended⟩
  cases held.symm.trans empty

end C4D
