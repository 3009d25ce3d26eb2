import C4D.Deployment.Sites
import C4D.Server.Numbering

/-!
# Where the environments of the processes come from

The server and all sites take steps in any order. A command that was sent may be served at any later time
and any number of times, and between the commands the monitors serve their other tasks. Only
direct requests to a monitor for a start or a restart are left out.

Then every process that was ever spawned carries the environment of a command that the server sent to
its URL. Its rank is the position of the command in a round that gives every node another
rank (`issued_of_reachable`).
-/

set_option autoImplicit false

namespace C4D

open Foundations Program

/-! ## The environments of an engine -/

namespace Host

variable {h : Host}

/-- The environments of the processes that were spawned. -/
def environments (h : Host) : List (Option Env) := h.processes.map Process.envVars

theorem environments_finish (h : Host) (process : Nat) (status : ExitStatus) :
    (h.finish process status).environments = h.environments := by
  refine List.ext_getElem? fun j => ?_
  rw [environments, environments, List.getElem?_map, List.getElem?_map, getElem?_finish]
  cases h.processes[j]? with
  | none => rfl
  | some p =>
      by_cases here : process = j
      · rw [Option.map_some, if_pos here]
        rfl
      · rw [Option.map_some, if_neg here]

theorem environments_finishAll (h : Host) (ends : List (Nat × ExitStatus)) :
    (h.finishAll ends).environments = h.environments := by
  induction ends generalizing h with
  | nil => rfl
  | cons e rest ih => exact (ih _).trans (environments_finish h e.1 e.2)

theorem environments_stopScript (h : Host) (os : StopOutcome) :
    (h.stopScript os).2.environments = h.environments := by
  have killed (h : Host) (process : Nat) (exits : Option ExitStatus) :
      (h.killProcessTree process exits).environments = h.environments := by
    cases exits with
    | none => rfl
    | some status => exact environments_finish h process status
  unfold stopScript
  split
  · split
    · dsimp only
      split <;> exact killed (h.setProcess none) _ _
    · rfl
  · rfl

theorem environments_getStatus (h : Host) (os : StatusOutcome) :
    (h.getStatus os).2.environments = h.environments := by
  unfold getStatus
  split
  · split <;> rfl
  · rfl

/-- A start spawns at most one process, with the environment it is given. -/
theorem environments_startScript (h : Host) (params : ScriptParams) (os : StartOutcome) :
    (h.startScript params os).2.environments = h.environments ∨
      (h.startScript params os).2.environments = h.environments ++ [params.envVars] := by
  have spawned (h : Host) : (h.spawnScript params os).2.environments = h.environments ∨
      (h.spawnScript params os).2.environments = h.environments ++ [params.envVars] := by
    unfold spawnScript
    split
    · exact .inl rfl
    · refine .inr ?_
      dsimp only
      split <;> exact List.map_append
  unfold startScript
  split
  · split
    · exact spawned _
    · exact .inl rfl
    · exact spawned _
  · exact spawned h

theorem environments_call_stop (h : Host) (os : CallChoice) :
    (h.call os .stop).2.environments = h.environments := by
  have served := (environments_stopScript (h.finishAll os.ends) os.stop).trans
    (environments_finishAll h os.ends)
  rw [call]
  cases os.transport with
  | delivered => exact served
  | lost cause => exact environments_finishAll h os.ends
  | cut cause => exact served

theorem environments_call_status (h : Host) (os : CallChoice) :
    (h.call os .status).2.environments = h.environments := by
  have served := (environments_getStatus (h.finishAll os.ends) os.status).trans
    (environments_finishAll h os.ends)
  rw [call]
  cases os.transport with
  | delivered => exact served
  | lost cause => exact environments_finishAll h os.ends
  | cut cause => exact served

theorem environments_call_start (h : Host) (os : CallChoice) (envVars : Option Env) :
    (h.call os (.start envVars)).2.environments = h.environments ∨
      (h.call os (.start envVars)).2.environments = h.environments ++ [envVars] := by
  have served := environments_startScript (h.finishAll os.ends) ⟨envVars, none⟩ os.start
  rw [environments_finishAll] at served
  rw [call]
  cases os.transport with
  | delivered => exact served
  | lost cause => exact .inl (environments_finishAll h os.ends)
  | cut cause => exact served

end Host

/-! ## The server with all its sites -/

/-- The server and the sites behind its nodes. -/
structure Fleet where
  world : World
  sites : Sites

/-- The request makes a monitor start the engine. -/
def MonitorTask.launches : MonitorTask → Bool
  | .command none => false
  | .command (some cmd) => cmd.command = "start" || cmd.command = "restart"
  | .restart _ => true
  | _ => false

inductive FleetAction where
  | server (a : Action)
  /-- A command that was sent is served. -/
  | deliver (c : Command) (choices : Nat → CallChoice)
  /-- A monitor serves another task. -/
  | task (url : String) (task : MonitorTask) (choices : Nat → CallChoice)
  /-- A process ends. -/
  | exit (url : String) (process : Nat) (status : ExitStatus)

namespace Fleet

/-- A site changes. -/
def visit (f : Fleet) (url : String) (site : Monitor × Host) : Fleet :=
  { f with sites := Function.update f.sites url site }

@[simp] theorem sites_visit_self (f : Fleet) (url : String) (site : Monitor × Host) :
    (f.visit url site).sites url = site := Function.update_self ..

@[simp] theorem sites_visit_of_ne {f : Fleet} {url other : String} (site : Monitor × Host)
    (ne : other ≠ url) : (f.visit url site).sites other = f.sites other := Function.update_of_ne ne ..

def next (setting : Setting) (getenv : String → String) (f : Fleet) : FleetAction → Option Fleet
  | .server a => (f.world.next setting a).map fun world => { f with world }
  | .deliver c choices =>
      if c ∈ f.world.data.rounds.flatten then
        some (f.visit c.nodeURL (c.serve choices (f.sites c.nodeURL)).state)
      else none
  | .task url task choices =>
      if task.launches then none
      else some (f.visit url ((task.program getenv).run Monitor.actOver choices (f.sites url)).state)
  | .exit url process status =>
      some (f.visit url ((f.sites url).1, (f.sites url).2.finish process status))

end Fleet

/-- All interleavings of the steps of a new server with those of new sites. -/
def fleet (setting : Setting) (getenv : String → String) : System Fleet FleetAction where
  init f := f.world = World.new setting ∧ ∀ url, (f.sites url).1.Fresh ∧ (f.sites url).2 = Host.new
  next := Fleet.next setting getenv

/-! ## Tasks that start nothing -/

/-- A stop or a question. -/
def AgentRequest.Harmless (request : AgentRequest) : Prop := request = .stop ∨ request = .status

namespace Monitor

theorem harmless_of_aside {α : Type} {p : MonitorProgram α} (aside : Uses MonitorOp.Aside p) :
    Uses (MonitorOp.Asks AgentRequest.Harmless) p :=
  aside.mono fun _ other request same => absurd same (other.1 request)

theorem harmless_of_stops {α : Type} {p : MonitorProgram α}
    (stops : Uses (MonitorOp.Asks (· = .stop)) p) : Uses (MonitorOp.Asks AgentRequest.Harmless) p :=
  stops.mono fun _ asks request same => .inl (asks request same)

theorem harmless_handleCommand {cmd : Option CommandRequest}
    (quiet : (MonitorTask.command cmd).launches = false) :
    Uses (MonitorOp.Asks AgentRequest.Harmless) (handleCommand cmd) := by
  cases cmd with
  | none => exact .done _
  | some cmd =>
      obtain ⟨start, restart⟩ := Bool.or_eq_false_iff.mp quiet
      rw [handleCommand, if_neg (of_decide_eq_false start), if_neg (of_decide_eq_false restart)]
      exact .ite (harmless_of_stops stops_commandStop) (.done _)

theorem uncalling_sendMetricsToServer : Uncalling sendMetricsToServer := by
  have report : Uncalling (sendReport >>= fun _ => .done ()) :=
    Uses.bind (.perform nofun fun _ => .perform nofun fun _ => .perform nofun fun _ => .done _)
      fun _ => .done _
  refine Uses.perform nofun fun current => .ite (.done _) (.perform nofun
    fun (metrics : Except AgentError AgentMetrics) => ?_)
  rcases metrics with _ | ⟨_ | ⟨cpuUsage, ramUsage⟩⟩
  · exact Uses.done ()
  · exact report
  · exact Uses.perform nofun fun _ => report

theorem harmless_sendMetrics : Uses (MonitorOp.Asks AgentRequest.Harmless) sendMetrics := by
  have report : Uses (MonitorOp.Asks AgentRequest.Harmless) sendMetricsToServer :=
    uncalling_sendMetricsToServer.mono fun _ other request same => absurd same (other request)
  rw [sendMetrics]
  simp only [getState, setState, callAgentEndpoint, callAgent, op_bind, perform_bind, pure_eq,
    done_bind]
  refine .perform (fun _ same => by cases same) fun current => .ite (.done _)
    (report.bind fun _ => .perform (fun _ same => ?_) fun reply => ?_)
  · cases same
    exact .inr rfl
  · split
    · exact .perform (fun _ same => by cases same) fun _ => .done _
    · exact .ite (.perform (fun _ same => by cases same) fun _ => .done _)
        (report.bind fun _ => .done _)

theorem harmless_handleRemove : Uses (MonitorOp.Asks AgentRequest.Harmless) handleRemove :=
  .perform nofun fun _ => .ite (.done _) ((harmless_of_stops stops_stopAgent).bind fun _ =>
    .perform nofun fun _ => .done _)

end Monitor

/-- A task that is not a start or a restart only stops the engine or asks for its status. -/
theorem harmless_program {task : MonitorTask} (quiet : task.launches = false)
    (getenv : String → String) :
    Uses (MonitorOp.Asks AgentRequest.Harmless) (task.program getenv) := by
  cases task with
  | command cmd => exact (Monitor.harmless_handleCommand quiet).bind fun _ => .done _
  | restart config => cases quiet
  | remove => exact Monitor.harmless_handleRemove.bind fun _ => .done _
  | logCCL log =>
      exact (Monitor.harmless_of_aside (Monitor.aside_handleLogCCL log)).bind fun _ => .done _
  | metrics => exact (Monitor.harmless_of_aside Monitor.aside_handleMetrics).bind fun _ => .done _
  | start =>
      refine Uses.bind ?_ fun _ => .done _
      exact (Monitor.uncalling_start getenv).mono fun _ other request same => absurd same (other request)
  | heartbeat =>
      exact (Monitor.harmless_of_aside Monitor.aside_heartbeatTurn).bind fun _ => .done _
  | sendMetrics => exact Monitor.harmless_sendMetrics.bind fun _ => .done _

/-! ## Every process was ordered by the server -/

/-- The environment is that of a command of some rounds to a URL. -/
def IssuedIn (rounds : List (List Command)) (url : String) (envVars : Option Env) : Prop :=
  ∃ commands ∈ rounds, ∃ c ∈ commands, c.nodeURL = url ∧ envVars = some c.envVars

theorem IssuedIn.mono {rounds sent : List (List Command)} {url : String} {envVars : Option Env}
    (issued : IssuedIn rounds url envVars) : IssuedIn (rounds ++ sent) url envVars := by
  obtain ⟨commands, mem, c, ordered⟩ := issued
  exact ⟨commands, List.mem_append_left _ mem, c, ordered⟩

/-- All rounds are positioned, and all environments were issued. -/
structure Fleet.Issued (f : Fleet) : Prop where
  positioned : ∀ commands ∈ f.world.data.rounds, Positioned commands
  issued : ∀ url, ∀ envVars ∈ (f.sites url).2.environments,
    IssuedIn f.world.data.rounds url envVars

namespace Fleet.Issued

variable {f : Fleet}

/-- A site changes, and its engine only has environments that were issued. -/
theorem visit (issued : f.Issued) (url : String) {site : Monitor × Host}
    (ordered : ∀ envVars ∈ site.2.environments, IssuedIn f.world.data.rounds url envVars) :
    (f.visit url site).Issued where
  positioned := issued.positioned
  issued := by
    intro other envVars mem
    by_cases here : other = url
    · subst here
      rw [Fleet.sites_visit_self] at mem
      exact ordered envVars mem
    · rw [Fleet.sites_visit_of_ne site here] at mem
      exact issued.issued other envVars mem

theorem next {setting : Setting} {getenv : String → String} {f' : Fleet} {a : FleetAction}
    (issued : f.Issued) (settled : Settled f.world) (next : f.next setting getenv a = some f') :
    f'.Issued := by
  cases a with
  | server a =>
      obtain ⟨world, steps, rfl⟩ := Option.map_eq_some_iff.mp next
      obtain ⟨sent, rounds, positioned⟩ : world.data.dispatch.Extends f.world.data.rounds :=
        extends_of_next settled steps
      have rounds : world.data.rounds = f.world.data.rounds ++ sent := rounds
      refine ⟨fun commands mem => ?_, fun url envVars mem => ?_⟩
      · rw [rounds] at mem
        exact (List.mem_append.mp mem).elim (issued.positioned commands) (positioned commands)
      · rw [rounds]
        exact (issued.issued url envVars mem).mono
  | deliver c choices =>
      simp only [Fleet.next] at next
      split at next
      · next sent =>
          cases next
          obtain ⟨commands, round, mem⟩ := List.mem_flatten.mp sent
          refine issued.visit c.nodeURL ?_
          refine Command.keeps (P := fun h => ∀ envVars ∈ h.environments,
            IssuedIn f.world.data.rounds c.nodeURL envVars) ?_ ?_ (issued.issued c.nodeURL)
          · intro h os ordered envVars mem'
            rcases Host.environments_call_start h os (some c.envVars) with same | same
            · exact ordered envVars (same ▸ mem')
            · rw [same] at mem'
              rcases List.mem_append.mp mem' with before | new
              · exact ordered envVars before
              · exact ⟨commands, round, c, mem, rfl, List.mem_singleton.mp new⟩
          · intro h os ordered envVars mem'
            exact ordered envVars (Host.environments_call_stop h os ▸ mem')
      · cases next
  | task url task choices =>
      simp only [Fleet.next] at next
      split at next
      · cases next
      · next quiet =>
          cases next
          refine issued.visit url ?_
          refine keeps_of_asks (P := fun h => ∀ envVars ∈ h.environments,
            IssuedIn f.world.data.rounds url envVars)
            (harmless_program (Bool.not_eq_true _ ▸ quiet) getenv) ?_ choices _ (issued.issued url)
          rintro request (rfl | rfl) h os ordered envVars mem
          · exact ordered envVars (Host.environments_call_stop h os ▸ mem)
          · exact ordered envVars (Host.environments_call_status h os ▸ mem)
  | exit url process status =>
      cases next
      refine issued.visit url fun envVars mem => issued.issued url envVars ?_
      exact Host.environments_finish _ process status ▸ mem

end Fleet.Issued

/-- **Every process was ordered by the server.** Along every run of the server and the sites, the process
of an engine carries the environment of a command that was sent to its URL, whose rank is its
position in a round of commands to different nodes. -/
theorem issued_of_reachable {setting : Setting} {getenv : String → String} {f : Fleet}
    (reachable : (fleet setting getenv).Reachable f) {url : String} {p : Process}
    (spawned : p ∈ (f.sites url).2.processes) :
    ∃ commands ∈ f.world.data.rounds, (commands.map Command.nodeID).Nodup ∧
      ∃ i, ∃ h : i < commands.length, (commands.get ⟨i, h⟩).rank = i ∧
        (commands.get ⟨i, h⟩).nodeURL = url ∧
        p.envVars = some (commands.get ⟨i, h⟩).envVars := by
  have holds : setting.system.Reachable f.world ∧ f.Issued := by
    apply reachable.induct
    · rintro f ⟨new, fresh⟩
      refine ⟨.start new, fun commands mem => ?_, fun url envVars mem => ?_⟩
      · rw [new] at mem
        cases mem
      · rw [(fresh url).2] at mem
        cases mem
    · rintro f a f' ⟨reached, issued⟩ _ next
      refine ⟨?_, issued.next (Setting.settled_of_reachable setting reached) next⟩
      cases a with
      | server a =>
          obtain ⟨world, steps, rfl⟩ := Option.map_eq_some_iff.mp next
          exact reached.step a trivial steps
      | deliver c choices =>
          simp only [fleet, Fleet.next] at next
          split at next
          · cases next
            exact reached
          · cases next
      | task url task choices =>
          simp only [fleet, Fleet.next] at next
          split at next
          · cases next
          · cases next
            exact reached
      | exit url process status =>
          cases next
          exact reached
  obtain ⟨commands, round, c, mem, leads, carries⟩ :=
    holds.2.issued url p.envVars (List.mem_map_of_mem spawned)
  have positioned := holds.2.positioned commands round
  obtain ⟨⟨i, h⟩, rfl⟩ := List.mem_iff_get.mp mem
  exact ⟨commands, round, positioned.nodes, i, h, positioned.ranks i h, leads, carries⟩

/-- A monitor registers, and serves a start command of the first round. -/
def deploying : List FleetAction :=
  gathering.map .server ++ [.task "http://b.ns:1" .start fun _ => .healthy,
    .deliver ⟨"b.ns.1", "http://b.ns:1", .start, 1, 3, "master", "29500"⟩ fun _ => .healthy]

theorem issued_of_reachable_start : ∃ f : Fleet, ∃ p ∈ (f.sites "http://b.ns:1").2.processes,
    p.envVars.bind (AList.lookup "RANK") = some "1" ∧
    ∃ commands ∈ f.world.data.rounds, ∃ i, ∃ h : i < commands.length,
      (commands.get ⟨i, h⟩).rank = i ∧ p.envVars = some (commands.get ⟨i, h⟩).envVars := by
  obtain ⟨f, reachable, holds⟩ := System.exists_reachable (S := fleet smallSetting fun _ => "")
    deploying (fun f => (f.sites "http://b.ns:1").2.processes.any fun p =>
      p.envVars.bind (AList.lookup "RANK") = some "1")
    (s := ⟨World.new smallSetting, fun url => (.new url url (-1) 0, .new)⟩)
    ⟨rfl, fun url => ⟨⟨url, url, -1, 0, rfl⟩, rfl⟩⟩ (by decide +kernel)
  obtain ⟨p, spawned, ranked⟩ := List.any_eq_true.mp holds
  obtain ⟨commands, round, _, i, h, rank, _, carries⟩ := issued_of_reachable reachable spawned
  exact ⟨f, p, spawned, of_decide_eq_true ranked, commands, round, i, h, rank, carries⟩

end C4D
