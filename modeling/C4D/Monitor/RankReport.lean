import C4D.Monitor.Requests

/-!
# The rank a monitor was given

A rank and a world size reach the monitor with the environment of its process,
in the environment of a start or restart command, or in the configuration of a
restart. They leave it in its metrics reports, in the answer to `GET /metrics` and
in `getEnvVars`. Only a restart by configuration sets the two fields behind these:
the environment of a command is passed on to the engine and not kept.

So the monitor shows what it was last given exactly as long as every command
that starts the engine carries what is configured already (`Agrees`), along whole
runs of requests and reports (`shows_of_run`).
-/

set_option autoImplicit false

namespace C4D

open Foundations Program

/-! ## Numbers -/

/-- The value of a nonempty list of decimal digits. -/
def digits (text : List Char) : Option Nat :=
  if text ≠ [] ∧ text.all Char.isDigit then
    some (text.foldl (fun n digit => 10 * n + (digit.toNat - '0'.toNat)) 0)
  else none

/-- `strconv.Atoi`: decimal digits after an optional sign, in 64 bits. -/
def atoi (text : String) : Option Int :=
  let value :=
    match text.toList with
    | '-' :: magnitude => (digits magnitude).map fun n => -(n : Int)
    | '+' :: magnitude => (digits magnitude).map Int.ofNat
    | magnitude => (digits magnitude).map Int.ofNat
  value.filter fun n => -2 ^ 63 ≤ n ∧ n < 2 ^ 63

/-- The rank and the world size an environment carries, read as `NewMonitor` reads its own. -/
def Env.assignment (env : Env) : Option (Int × Int) := do
  let rank ← atoi (← env.lookup "RANK")
  let worldSize ← atoi (← env.lookup "WORLD_SIZE")
  return (rank, worldSize)

/-- The number is kept by a conversion to 32 bits. -/
def FitsInt32 (n : Int) : Prop := -2 ^ 31 ≤ n ∧ n < 2 ^ 31

instance (n : Int) : Decidable (FitsInt32 n) := inferInstanceAs (Decidable (_ ∧ _))

/-! ## What only a restart by configuration changes -/

/-- The configuration is this one, and what was sent after some reports carries its rank. -/
structure Monitor.Tells (rank worldSize : Int) (before : List Report) (m : Monitor) : Prop where
  sameRank : m.rank = rank
  sameSize : m.worldSize = worldSize
  reports : ∃ sent, m.reports = before ++ sent ∧
    ∀ report ∈ sent, report.rankLatencies.rank = (Int32.ofInt rank).toInt

/-- The operation sets the configuration or sends a report. -/
def MonitorOp.Informs : MonitorOp → Prop
  | .setConfig _ _ => True
  | .sendMetrics _ => True
  | _ => False

namespace Monitor

variable {rank worldSize : Int} {before : List Report} {m : Monitor} {q : MonitorOp}

theorem Tells.start (m : Monitor) : Tells m.rank m.worldSize m.reports m :=
  ⟨rfl, rfl, [], (List.append_nil _).symm, fun _ mem => absurd mem List.not_mem_nil⟩

/-- What has the same configuration and reports tells the same. -/
theorem Tells.of_same {m' : Monitor} (tells : Tells rank worldSize before m)
    (same : m'.rank = m.rank ∧ m'.worldSize = m.worldSize ∧ m'.reports = m.reports) :
    Tells rank worldSize before m' := by
  obtain ⟨sent, reports, carry⟩ := tells.reports
  exact ⟨same.1.trans tells.sameRank, same.2.1.trans tells.sameSize, sent, same.2.2.trans reports,
    carry⟩

/-- Every other operation leaves the configuration and the reports as they are. -/
theorem tells_act (other : ¬ q.Informs) (o : Outcome) (m : Monitor)
    (tells : Tells rank worldSize before m) :
    Tells rank worldSize before (Monitor.act q o m).2 := by
  cases q with
  | setConfig _ _ => exact absurd trivial other
  | sendMetrics _ => exact absurd trivial other
  | setState newState => exact tells.of_same (kept_enter newState)
  | _ => exact tells.of_same ⟨rfl, rfl, rfl⟩

/-- The program never sets the configuration, and its reports carry the configured rank. -/
abbrev KeepsConfig {α : Type} (p : MonitorProgram α) : Prop :=
  ∀ rank worldSize before, Keeps Monitor.act (Tells rank worldSize before) p

namespace KeepsConfig

variable {α β : Type} {p : MonitorProgram α} {envVars : Option Env}

theorem done (a : α) : KeepsConfig (.done a : MonitorProgram α) := fun _ _ _ => .done a

theorem op {f : q.Answer → MonitorProgram α} (other : ¬ q.Informs)
    (later : ∀ answer, KeepsConfig (f answer)) : KeepsConfig (Program.op q >>= f) :=
  fun _ _ _ => .perform (tells_act other) fun answer => later answer _ _ _

theorem bind {f : α → MonitorProgram β} (first : KeepsConfig p)
    (second : ∀ a, KeepsConfig (f a)) : KeepsConfig (p >>= f) :=
  fun _ _ _ => .bind (first _ _ _) fun a => second a _ _ _

theorem startAttempts (left : Nat) (lastErr : Option AgentError) :
    KeepsConfig (Monitor.startAttempts envVars left lastErr) := by
  intro rank worldSize before choices m tells
  rw [(run_startAttempts envVars left lastErr choices m).1]
  exact tells

theorem startAgent : KeepsConfig (Monitor.startAgent envVars) := by
  refine .op id ?_
  intro current
  split
  · exact .done _
  · exact startAttempts 5 none

theorem callAgentEndpoint {γ : Type} (request : AgentRequest) (decode : Json → Option γ) :
    KeepsConfig (Monitor.callAgentEndpoint request decode) := .op id fun _ => .done _

theorem stopAgent : KeepsConfig Monitor.stopAgent := by
  refine .op id ?_
  intro current
  split
  · exact .done _
  · refine .bind (callAgentEndpoint .stop discard) ?_
    intro result
    split
    · exact .done _
    · exact .done _

/-- Setting a state and answering. -/
theorem settle (newState : State) (a : α) :
    KeepsConfig (do setState newState; return a) := .op id fun _ => .done a

theorem commandStart : KeepsConfig (Monitor.commandStart envVars) := by
  refine .op id ?_
  intro current
  split
  · exact .done _
  · refine .bind startAgent ?_
    intro result
    split
    · exact settle .failed _
    · exact settle .running _

theorem commandStop : KeepsConfig Monitor.commandStop := by
  refine .bind stopAgent ?_
  intro result
  split
  · exact .done _
  · exact settle .standby _

theorem commandStartAgain : KeepsConfig (Monitor.commandStartAgain envVars) := by
  refine .bind startAgent ?_
  intro result
  split
  · exact settle .failed _
  · exact settle .running _

theorem commandRestart : KeepsConfig (Monitor.commandRestart envVars) := by
  refine .op id ?_
  intro current
  split
  · exact .done _
  · refine .op id ?_
    intro _
    split
    · refine .bind stopAgent ?_
      intro result
      split
      · exact settle .failed _
      · exact commandStartAgain
    · exact commandStartAgain

theorem handleCommand (cmd : Option CommandRequest) : KeepsConfig (Monitor.handleCommand cmd) := by
  cases cmd with
  | none => exact .done _
  | some cmd =>
      unfold Monitor.handleCommand
      simp only
      split
      · exact commandStart
      split
      · exact commandStop
      split
      · exact commandRestart
      · exact .done _

theorem handleRemove : KeepsConfig Monitor.handleRemove := by
  refine .op id ?_
  intro current
  split
  · exact .done _
  · exact .bind stopAgent fun _ => settle .standby _

theorem handleLogCCL (log : Option CclLog) : KeepsConfig (Monitor.handleLogCCL log) := by
  cases log with
  | none => exact .done _
  | some log =>
      unfold Monitor.handleLogCCL
      simp only
      split
      · exact .op id fun _ => .done _
      · exact .done _

theorem handleMetrics : KeepsConfig Monitor.handleMetrics :=
  .op id fun _ => .op id fun _ => .op id fun _ => .done _

theorem registerAttempts (req : RegisterRequest) (left : Nat) (lastErr : Option String) :
    KeepsConfig (Monitor.registerAttempts req left lastErr) := by
  induction left generalizing lastErr with
  | zero => exact .done _
  | succ left ih =>
      refine .op id fun (result : Option String) => ?_
      cases result with
      | none => exact .done _
      | some err =>
          simp only
          split
          · exact ih _
          · exact .done _

theorem start (getenv : String → String) : KeepsConfig (Monitor.start getenv) := by
  refine .op id ?_
  intro current
  split
  · exact .done _
  · refine .op id fun m => .bind (registerAttempts _ _ _) fun result => ?_
    split
    · exact .done _
    · exact settle .failed _
    · exact settle .standby _

theorem heartbeatTurn : KeepsConfig Monitor.heartbeatTurn := by
  refine .op id ?_
  intro current
  split
  · exact .done _
  · refine .op id fun m => .op id fun (result : Option String) => ?_
    cases result with
    | none => exact .done _
    | some err =>
        simp only
        split
        · exact settle .failed _
        · exact .done _

/-- A report carries the configured rank. -/
theorem sendReport : KeepsConfig Monitor.sendReport := by
  intro rank worldSize before choices m tells
  obtain ⟨sent, reports, carry⟩ := tells.reports
  have next : (Monitor.sendReport.run Monitor.act choices m).state.reports =
      m.reports ++ [m.report (Monitor.act .windows (choices 0) m).1] := rfl
  rw [reports, List.append_assoc] at next
  refine ⟨tells.sameRank, tells.sameSize, _, next, ?_⟩
  intro report mem
  rcases List.mem_append.mp mem with earlier | now
  · exact carry report earlier
  · rw [List.mem_singleton.mp now, Monitor.report, tells.sameRank]

theorem sendMetricsToServer : KeepsConfig Monitor.sendMetricsToServer := by
  refine .op id ?_
  intro current
  split
  · exact .done _
  · refine .op id fun (metrics : Except AgentError AgentMetrics) => ?_
    rcases metrics with _ | ⟨_ | ⟨cpuUsage, ramUsage⟩⟩
    · exact .done _
    · exact .bind sendReport fun _ => .done _
    · exact .op id fun _ => .bind sendReport fun _ => .done _

theorem sendMetrics : KeepsConfig Monitor.sendMetrics := by
  refine .op id ?_
  intro current
  split
  · exact .done _
  · refine .bind sendMetricsToServer fun _ => .bind (callAgentEndpoint _ _) fun result => ?_
    split
    · exact settle .failed _
    · split
      · exact settle .failed _
      · exact .bind sendMetricsToServer fun _ => .done _

end KeepsConfig

end Monitor

/-- **Every task but a restart by configuration keeps the configuration.** -/
theorem MonitorTask.keepsConfig (getenv : String → String) {task : MonitorTask}
    (other : ∀ config, task ≠ .restart (some config)) :
    Monitor.KeepsConfig (task.program getenv) := by
  cases task with
  | command cmd => exact .bind (.handleCommand cmd) fun _ => .done _
  | restart config =>
      cases config with
      | none =>
          refine .bind (.op id fun current => ?_) fun _ => .done _
          split
          · exact .done _
          · exact .done _
      | some config => exact absurd rfl (other config)
  | remove => exact .bind .handleRemove fun _ => .done _
  | logCCL log => exact .bind (.handleLogCCL log) fun _ => .done _
  | metrics => exact .bind .handleMetrics fun _ => .done _
  | start => exact .bind (.start getenv) fun _ => .done _
  | heartbeat => exact .bind .heartbeatTurn fun _ => .done _
  | sendMetrics => exact .bind .sendMetrics fun _ => .done _

/-! ## What was given and what is shown -/

/-- The rank and the world size a command carries. -/
def CommandRequest.assignment (cmd : CommandRequest) : Option (Int × Int) :=
  cmd.envVars.bind Env.assignment

/-- A monitor, and the rank and the world size that the last start or restart answered 200
carried. -/
structure Assigned where
  monitor : Monitor
  given : Option (Int × Int)

/-- What is given after a task. -/
def Assigned.givenAfter (getenv : String → String) (c : Assigned) (choices : Nat → Outcome) :
    MonitorTask → Option (Int × Int)
  | .command (some cmd) =>
      if (cmd.command = "start" ∨ cmd.command = "restart") ∧
          ((Monitor.handleCommand (some cmd)).run Monitor.act choices c.monitor).value.code = 200 then
        cmd.assignment
      else c.given
  | .restart (some config) =>
      if ((Monitor.handleRestart getenv (some config)).run Monitor.act choices
          c.monitor).value.code = 200 then
        some (config.newRank, config.worldSize)
      else c.given
  | _ => c.given

/-- A monitor that does one task after the other. -/
def assignments (getenv : String → String) : System Assigned (MonitorTask × (Nat → Outcome)) where
  init c := c.monitor.Fresh ∧ c.given = none
  next c a := some {
    monitor := ((a.1.program getenv).run Monitor.act a.2 c.monitor).state
    given := c.givenAfter getenv a.2 a.1 }

/-- The rank and the world size are those configured, and reports can carry the rank. -/
def Monitor.Knows (m : Monitor) (assigned : Int × Int) : Prop :=
  m.rank = assigned.1 ∧ m.worldSize = assigned.2 ∧ FitsInt32 assigned.1

instance (m : Monitor) (assigned : Int × Int) : Decidable (m.Knows assigned) :=
  inferInstanceAs (Decidable (_ ∧ _))

/-- The task assigns nothing that the monitor does not know or keep: a command that starts the
engine carries what is configured, a restart by configuration that succeeds has a rank of 32 bits,
and one that fails carries what was given before. -/
def Agrees (c : Assigned) : MonitorTask × (Nat → Outcome) → Prop
  | (.command (some cmd), choices) =>
      c.monitor.Launches choices cmd → ∀ assigned ∈ cmd.assignment, c.monitor.Knows assigned
  | (.restart (some config), choices) =>
      c.monitor.state ≠ .failed →
        (((choices 3).agent.result AgentStatus.decode).isOk → FitsInt32 config.newRank) ∧
        (¬ ((choices 3).agent.result AgentStatus.decode).isOk →
          ∀ assigned ∈ c.given, assigned = (config.newRank, config.worldSize))
  | _ => True

instance (c : Assigned) : (a : MonitorTask × (Nat → Outcome)) → Decidable (Agrees c a)
  | (.command (some _), _) => inferInstanceAs (Decidable (_ → ∀ assigned ∈ _, _))
  | (.restart (some _), _) => inferInstanceAs (Decidable (_ → (_ → _) ∧ (_ → ∀ assigned ∈ _, _)))
  | (.command none, _) => inferInstanceAs (Decidable True)
  | (.restart none, _) => inferInstanceAs (Decidable True)
  | (.remove, _) => inferInstanceAs (Decidable True)
  | (.logCCL _, _) => inferInstanceAs (Decidable True)
  | (.metrics, _) => inferInstanceAs (Decidable True)
  | (.start, _) => inferInstanceAs (Decidable True)
  | (.heartbeat, _) => inferInstanceAs (Decidable True)
  | (.sendMetrics, _) => inferInstanceAs (Decidable True)

/-- What the monitor shows: the rank in every report of its next turn of metrics, and the rank and
the world size in the answer to `GET /metrics` and in the environment of the process. -/
structure Monitor.Shows (getenv : String → String) (rank worldSize : Int) (m : Monitor) : Prop where
  reports : ∀ choices, ∃ sent,
    (Monitor.sendMetrics.run Monitor.act choices m).state.reports = m.reports ++ sent ∧
      ∀ report ∈ sent, report.rankLatencies.rank = rank
  metrics : ∀ choices, ((Monitor.handleMetrics.run Monitor.act choices m).value.rank,
    (Monitor.handleMetrics.run Monitor.act choices m).value.worldSize) = (rank, worldSize)
  envVars : (Monitor.getEnvVars getenv m).lookup "RANK" = some (toString rank) ∧
    (Monitor.getEnvVars getenv m).lookup "WORLD_SIZE" = some (toString worldSize)

/-- What the monitor knows it shows. -/
theorem Monitor.Knows.shows {m : Monitor} {rank worldSize : Int} (getenv : String → String)
    (knows : m.Knows (rank, worldSize)) : m.Shows getenv rank worldSize := by
  obtain ⟨sameRank, sameSize, lower, upper⟩ := knows
  change m.rank = rank at sameRank
  change m.worldSize = worldSize at sameSize
  refine ⟨fun choices => ?_, fun choices => ?_, ?_⟩
  · have kept := KeepsConfig.sendMetrics _ _ _ choices m (Tells.start m)
    obtain ⟨sent, reports, carry⟩ := kept.reports
    refine ⟨sent, reports, fun report mem => ?_⟩
    rw [carry report mem, sameRank]
    exact Int32.toInt_ofInt_of_le lower upper
  · exact Prod.ext sameRank sameSize
  · rw [getEnvVars, ← sameRank, ← sameSize]
    refine ⟨AList.lookup_insert _, ?_⟩
    rw [AList.lookup_insert_ne (by decide), AList.lookup_insert]

/-- What was given is known. -/
def Informed (c : Assigned) : Prop := ∀ assigned ∈ c.given, c.monitor.Knows assigned

namespace Informed

variable {c : Assigned} {getenv : String → String} {choices : Nat → Outcome}

/-- A task that leaves the configuration alone, and gives nothing that is not known. -/
theorem of_keepsConfig {task : MonitorTask} (keeps : Monitor.KeepsConfig (task.program getenv))
    (known : ∀ assigned ∈ c.givenAfter getenv choices task, c.monitor.Knows assigned) :
    Informed ⟨((task.program getenv).run Monitor.act choices c.monitor).state,
      c.givenAfter getenv choices task⟩ := by
  intro assigned mem
  obtain ⟨rank, worldSize, fits⟩ := known assigned mem
  have kept := keeps _ _ _ choices c.monitor (Monitor.Tells.start c.monitor)
  exact ⟨kept.sameRank.trans rank, kept.sameSize.trans worldSize, fits⟩

theorem command (informed : Informed c) (cmd : CommandRequest)
    (agrees : Agrees c (.command (some cmd), choices)) :
    ∀ assigned ∈ c.givenAfter getenv choices (.command (some cmd)), c.monitor.Knows assigned := by
  intro assigned mem
  unfold Assigned.givenAfter at mem
  simp only at mem
  split at mem
  · next answered =>
      exact agrees ((Monitor.launches_iff answered.1).mp answered.2) assigned mem
  · exact informed assigned mem

/-- A restart by configuration. -/
theorem restart (informed : Informed c) (config : RestartConfig)
    (agrees : Agrees c (.restart (some config), choices)) :
    Informed ⟨(((MonitorTask.restart (some config)).program getenv).run Monitor.act choices
      c.monitor).state, c.givenAfter getenv choices (.restart (some config))⟩ := by
  have served : (((MonitorTask.restart (some config)).program getenv).run Monitor.act choices
      c.monitor).state = ((Monitor.handleRestart getenv (some config)).run Monitor.act choices
        c.monitor).state := by
    rw [MonitorTask.program, run_bind]
    rfl
  rw [served]
  by_cases failed : c.monitor.state = .failed
  · have refused : (Monitor.handleRestart getenv (some config)).run Monitor.act choices c.monitor =
        ⟨⟨503, .error "Node in failed state"⟩, c.monitor, fun n => choices (n + 1)⟩ := by
      simp only [Monitor.handleRestart, Monitor.getState, op_bind, Monitor.run_getState]
      rw [if_pos failed]
      rfl
    rw [Assigned.givenAfter, refused]
    exact informed
  obtain ⟨answered, rank, worldSize⟩ := Monitor.run_handleRestart getenv config choices failed
  have agrees := agrees failed
  intro assigned mem
  by_cases restarted : ((choices 3).agent.result AgentStatus.decode).isOk
  · rw [Assigned.givenAfter, if_pos (answered.mpr restarted)] at mem
    cases mem
    exact ⟨rank, worldSize, agrees.1 restarted⟩
  · rw [Assigned.givenAfter, if_neg fun success => restarted (answered.mp success)] at mem
    have fits := (informed assigned mem).2.2
    obtain rfl := agrees.2 restarted assigned mem
    exact ⟨rank, worldSize, fits⟩

/-- **A task that agrees with what is configured keeps the monitor informed.** -/
theorem next {c' : Assigned} {a : MonitorTask × (Nat → Outcome)} (informed : Informed c)
    (agrees : Agrees c a) (next : (assignments getenv).next c a = some c') : Informed c' := by
  obtain ⟨task, choices⟩ := a
  cases next
  by_cases restarts : ∃ config, task = .restart (some config)
  · obtain ⟨config, rfl⟩ := restarts
    exact informed.restart config agrees
  · refine of_keepsConfig (MonitorTask.keepsConfig getenv fun config same =>
      restarts ⟨config, same⟩) ?_
    cases task with
    | command cmd =>
        cases cmd with
        | none => exact informed
        | some cmd => exact informed.command cmd agrees
    | restart config =>
        cases config with
        | none => exact informed
        | some config => exact absurd ⟨config, rfl⟩ restarts
    | _ => exact informed

end Informed

/-- **The monitor reports the rank it was given**, along every run whose commands carry what is
configured. -/
theorem shows_of_run (getenv : String → String) {c : Assigned} {rank worldSize : Int}
    (run : (assignments getenv).Run Agrees c) (given : c.given = some (rank, worldSize)) :
    c.monitor.Shows getenv rank worldSize := by
  have informed : Informed c := run.induct (I := Informed) (fun c start assigned mem => ?_)
    fun c a c' informed agrees next => informed.next agrees next
  · exact (informed _ given).shows getenv
  · have fresh : c.given = none := start.2
    rw [fresh] at mem
    cases mem

/-- The monitor is registered and started for rank 3 of a world of four. -/
def startedAsThree : List (MonitorTask × (Nat → Outcome)) :=
  [(.start, fun _ => {}),
   (.command (some ⟨"start", some ((AList.insert "RANK" "3" (∅ : Env)).insert "WORLD_SIZE" "4")⟩),
    fun _ => engineRunning)]

/-- A monitor that is configured for rank 3 of four shows it after such a start. -/
theorem shows_started : ∃ c, (assignments fun _ => "").Run Agrees c ∧ c.given = some (3, 4) ∧
    c.monitor.Shows (fun _ => "") 3 4 := by
  obtain ⟨c, run, given⟩ := System.exists_run (S := assignments fun _ => "") (C := Agrees)
    (fun c a => Agrees c a) startedAsThree (fun c => c.given = some (3, 4))
    (s := ⟨Monitor.new "a.ns.1" "http://a.ns:1" 3 4, none⟩)
    (fun _ _ _ agrees => of_decide_eq_true agrees) ⟨⟨_, _, _, _, rfl⟩, rfl⟩ (by decide +kernel)
  have given := of_decide_eq_true given
  exact ⟨c, run, given, shows_of_run _ run given⟩

/-- The ranks of the reports sent so far. -/
def Monitor.reportedRanks (m : Monitor) : List Int := m.reports.map (·.rankLatencies.rank)

/-- A monitor configured for rank 0 is started for rank 3, and reports rank 0. -/
theorem rank_misreported : ∃ c, (assignments fun _ => "").Reachable c ∧ c.given = some (3, 4) ∧
    ¬ c.monitor.Shows (fun _ => "") 3 4 := by
  obtain ⟨c, reachable, holds⟩ := System.exists_reachable (S := assignments fun _ => "")
    (s := ⟨Monitor.new "a.ns.1" "http://a.ns:1" 0 0, none⟩) startedAsThree
    (fun c => c.given = some (3, 4) ∧ c.monitor.reportedRanks = [] ∧
      (Monitor.sendMetrics.run Monitor.act (fun _ => engineRunning)
        c.monitor).state.reportedRanks = [0, 0])
    ⟨⟨_, _, _, _, rfl⟩, rfl⟩ (by decide +kernel)
  obtain ⟨given, silent, misreported⟩ := of_decide_eq_true holds
  refine ⟨c, reachable, given, fun shows => ?_⟩
  obtain ⟨sent, reports, carry⟩ := shows.reports fun _ => engineRunning
  rw [Monitor.reportedRanks, reports, List.map_append] at misreported
  rw [Monitor.reportedRanks] at silent
  rw [silent, List.nil_append] at misreported
  obtain ⟨report, mem, rank⟩ := List.mem_map.mp (misreported ▸ List.mem_cons_self :
    (0 : Int) ∈ sent.map (·.rankLatencies.rank))
  exact absurd ((carry report mem).symm.trans rank) (by decide)

end C4D
