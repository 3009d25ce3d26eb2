import C4D.Foundations.Histories
import C4D.Server.System

/-!
# What the latency matrix holds

A request without metrics from an active node ends the server. Every other one is answered,
and an error leaves the matrix alone (`sendMetrics_answers_iff`). Metrics are the only thing
that writes the matrix, and only into the row of the reported rank, so every cell holds the
latency of the latest recorded report for it (`lastWriterWins_of_history`).
-/

set_option autoImplicit false

namespace C4D

open Foundations Guarded

variable {setting : Setting} {s : Server} {locks : Lock → RWMutex}

/-! ## Requests without metrics -/

/-- `SendMetrics` gives an answer, and an error leaves the matrix alone. -/
def World.Answers (w : World) (req : MetricsRequest) (order : Shuffle Int) : Prop :=
  ∃ answer w', (sendMetrics req order).run w = .ok answer w' ∧
    ∀ refusal, answer = .error refusal → w'.data.latencyMatrix = w.data.latencyMatrix

theorem Settled.sendMetrics_ends (settled : Settled ⟨s, locks⟩) (req : MetricsRequest)
    (order : Shuffle Int) :
    SendMetricsEnds req s locks ((sendMetrics req order).run ⟨s, locks⟩) :=
  C4D.sendMetrics_ends req order settled.stateFree settled.metricsFree settled.matrixFree settled.square

theorem Settled.not_answers (settled : Settled ⟨s, locks⟩) {req : MetricsRequest}
    (order : Shuffle Int) (crashes : req.crashes s) : ¬ World.Answers ⟨s, locks⟩ req order := by
  rintro ⟨answer, w, returns, _⟩
  obtain ⟨_, panics⟩ := sendMetrics_run_crashes order settled.stateFree settled.metricsFree crashes
  cases returns.symm.trans panics

/-- **A metrics request is answered** exactly if it has metrics, or the server is not in `Running`, or
the sender is not registered as active. -/
theorem sendMetrics_answers_iff {w : World} (reachable : setting.system.Reachable w)
    (req : MetricsRequest) (order : Shuffle Int) : w.Answers req order ↔
      (req.metrics ≠ none ∨ w.data.current ≠ .running ∨
        w.data.nodes.statusOf req.nodeId ≠ some .active) := by
  obtain ⟨s, locks⟩ := w
  have settled := setting.settled_of_reachable reachable
  have sound : (req.metrics ≠ none ∨ s.current ≠ .running ∨
      s.nodes.statusOf req.nodeId ≠ some .active) ↔ ¬ req.crashes s := by
    rw [MetricsRequest.crashes, not_and_or, not_and_or, or_comm, or_assoc]
  refine Iff.trans ?_ sound.symm
  constructor
  · intro answers crashes
    exact settled.not_answers order crashes answers
  · intro sound
    have ends := settled.sendMetrics_ends req order
    rw [World.Answers]
    generalize (sendMetrics req order).run ⟨s, locks⟩ = outcome at ends ⊢
    cases ends with
    | refused refusal closed => exact ⟨_, _, rfl, fun _ _ => rfl⟩
    | idle nothing => exact ⟨_, _, rfl, fun _ _ => rfl⟩
    | recorded carries written =>
        refine ⟨_, _, rfl, ?_⟩
        intro refusal answered
        cases answered
    | crashed w crashes => exact absurd crashes sound

/-- The metrics of a rank with one latency. -/
def measured (rank remoteRank : Int) (latency : ℚ) : Metrics where
  rankLatencies := some ⟨rank, (∅ : Table Int ℚ).insert remoteRank latency⟩

/-- A started cluster with `a.ns.1` active. -/
theorem exists_running : ∃ w, smallSetting.system.Reachable w ∧ w.data.current = .running ∧
    w.data.nodes.statusOf "a.ns.1" = some .active := by
  obtain ⟨w, run, running, _, _, active⟩ := gathered (C := fun _ _ => True) fun _ _ _ => trivial
  exact ⟨w, run, running, active⟩

/-- An active node reports a rank that is too large, for a negative one. -/
theorem sendMetrics_answers_outside : ∃ w : World, w.data.current = .running ∧
    w.data.nodes.statusOf "a.ns.1" = some .active ∧
    w.Answers ⟨"a.ns.1", some (measured 2147483647 (-1) 5)⟩ .inOrder := by
  obtain ⟨w, reachable, running, active⟩ := exists_running
  refine ⟨w, running, active, (sendMetrics_answers_iff reachable _ _).mpr (.inl ?_)⟩
  exact Option.some_ne_none _

/-- An active node that reports no metrics ends the server. -/
theorem sendMetrics_crashes : ∃ w, smallSetting.system.Reachable w ∧
    ¬ w.Answers ⟨"a.ns.1", none⟩ .inOrder := by
  obtain ⟨w, reachable, running, active⟩ := exists_running
  exact ⟨w, reachable,
    (smallSetting.settled_of_reachable reachable).not_answers _ ⟨running, active, rfl⟩⟩

/-! ## Who writes the matrix -/

/-- The step is not a metrics request. -/
def Action.Unmetered : Action → Prop
  | .sendMetrics _ _ => False
  | _ => True

section Steps

variable (settled : Settled ⟨s, locks⟩)

include settled

theorem latencyMatrix_register (req : RegisterRequest) (now : Int) (round : Round) :
    (Action.run setting ⟨s, locks⟩ (.register req now round)).2.data.latencyMatrix =
      s.latencyMatrix := by
  have captured : (s.captureMaster req).latencyMatrix = s.latencyMatrix := by
    unfold Server.captureMaster
    split <;> rfl
  have enrolled {status : Status} {rank : Int} {counted : Server}
      (enrolls : Enrolls setting s locks req status rank counted) :
      (counted.enrolled req now status rank).latencyMatrix = s.latencyMatrix :=
    congrArg Lifecycle.latencyMatrix
      (Server.lifecycle_enrolled req now (Server.counted_of_admits enrolls.admitted))
  rw [Action.run, World.run]
  have ends := register_ends setting settled req now round
  generalize (register setting req now round).run ⟨s, locks⟩ = outcome at ends ⊢
  cases ends with
  | refused refusal closed => rfl
  | reconnected response accepting registryFree found registered => exact captured
  | waiting accepting held found => exact captured
  | full refusal accepting new refuses => exact captured
  | @counted status rank counted accepting fresh held admitted =>
      obtain ⟨_, _, same⟩ := Server.sessionRegistered_eq counted req now status rank
      have counts := Server.counted_of_admits admitted
      exact (congrArg Server.latencyMatrix same).trans
        (congrArg Lifecycle.latencyMatrix counts.lifecycle)
  | enrolled response enrolls incomplete => exact enrolled enrolls
  | completing enrolls complete held => exact enrolled enrolls
  | short response enrolls complete clusterFree few => exact enrolled enrolls
  | started response enrolls complete clusterFree enough => exact enrolled enrolls
  | startFailed enrolls complete clusterFree enough silent => exact enrolled enrolls

theorem latencyMatrix_notifyFailure (req : FailureNotificationRequest) :
    (Action.run setting ⟨s, locks⟩ (.notifyFailure req)).2.data.latencyMatrix = s.latencyMatrix := by
  rw [Action.run]
  rcases settled.registry with registryFree | ⟨held, _⟩
  · by_cases ignored : s.nodes.statusOf req.nodeId = none ∨
        s.nodes.statusOf req.nodeId = some .failed
    · obtain ⟨_, run⟩ := notifyFailure_run_ignored registryFree ignored
      rw [World.run_of_ok run]
    · obtain ⟨unknown, failed⟩ := not_or.mp ignored
      obtain ⟨status, known⟩ := Option.ne_none_iff_exists'.mp unknown
      have working : status ≠ .failed := fun same => failed (same ▸ known)
      by_cases accepted : s.current.reconfigurable
      · obtain ⟨_, run⟩ := notifyFailure_run registryFree settled.stateFree known working accepted
        rw [World.run_of_ok run]
        exact congrArg Lifecycle.latencyMatrix (Server.lifecycle_failedOver s req.nodeId status)
      · rw [World.run_of_blocked (notifyFailure_run_refused registryFree settled.stateFree known
          working accepted)]
  · rw [World.run_of_blocked (notifyFailure_run_waiting held)]

variable {ending : Ending} {w : World} (ends : ending = .returned ∨ ending = .blocked)

include ends

theorem latencyMatrix_removeNode (nodeID : String) (rounds : Nat → Round)
    (run : Action.run setting ⟨s, locks⟩ (.removeNode nodeID rounds) = (ending, w)) :
    w.data.latencyMatrix = s.latencyMatrix := by
  have removed (status : Status) : (s.removed nodeID status).latencyMatrix = s.latencyMatrix := by
    unfold Server.removed
    cases status <;> rfl
  rw [Action.run, World.run] at run
  have outcome := removeNode_ends setting settled rounds nodeID
  generalize (removeNode setting nodeID rounds).run ⟨s, locks⟩ = result at outcome run
  cases outcome with
  | waiting held =>
      cases run
      rfl
  | unknown refusal absent =>
      cases run
      rfl
  | refused refusal refused =>
      cases run
      rfl
  | inactive clusterFree known accepted inactive =>
      cases run
      exact removed _
  | returned clusterFree known accepted returns =>
      cases run
      exact (congrArg Elsewhere.latencyMatrix (Server.returned_of_reconfigure returns).elsewhere).trans
        (removed _)
  | exited locks' clusterFree known accepted exits =>
      cases run
      rcases ends with ends | ends <;> cases ends
  | stuck clusterFree known accepted sticks =>
      cases run
      exact (congrArg Elsewhere.latencyMatrix (Server.underway_of_stuck sticks).2.elsewhere).trans
        (removed _)

theorem latencyMatrix_reconfigure (rounds : Nat → Round)
    (run : Action.run setting ⟨s, locks⟩ (.reconfigure rounds) = (ending, w)) :
    w.data.latencyMatrix = s.latencyMatrix := by
  rw [Action.run, World.run] at run
  have outcome := spawnedReconfigure_ends setting settled rounds
  generalize (spawnedReconfigure setting rounds).run ⟨s, locks⟩ = result at outcome run
  cases outcome with
  | refused locks' refused =>
      cases run
      rcases ends with ends | ends <;> cases ends
  | returned accepted returns =>
      cases run
      exact congrArg Elsewhere.latencyMatrix (Server.returned_of_reconfigure returns).elsewhere
  | exited locks' accepted exits =>
      cases run
      rcases ends with ends | ends <;> cases ends
  | stuck accepted sticks =>
      cases run
      exact congrArg Elsewhere.latencyMatrix (Server.underway_of_stuck sticks).2.elsewhere

/-- **Only metrics write the matrix.** -/
theorem latencyMatrix_of_run {a : Action} (unmetered : a.Unmetered)
    (run : a.run setting ⟨s, locks⟩ = (ending, w)) : w.data.latencyMatrix = s.latencyMatrix := by
  have same (kept : (a.run setting ⟨s, locks⟩).2.data.latencyMatrix = s.latencyMatrix) :
      w.data.latencyMatrix = s.latencyMatrix := by
    rwa [run] at kept
  cases a with
  | register req now round => exact same (latencyMatrix_register settled req now round)
  | sendHeartbeat req now =>
      apply same
      rw [Action.run]
      by_cases registryFree : locks .registryMu = .free
      · obtain ⟨_, beats⟩ := sendHeartbeat_run s req now registryFree
        rw [World.run_of_ok beats]
        rfl
      · have waits : (sendHeartbeat req now).run ⟨s, locks⟩ =
            .error (.blocked .registryMu) ⟨s, locks⟩ := by
          simp only [sendHeartbeat, EStateM.run_bind, critical_run_blocked registryFree]
        rw [World.run_of_blocked waits]
  | notifyFailure req => exact same (latencyMatrix_notifyFailure settled req)
  | sendMetrics req order => exact unmetered.elim
  | healthTick now order =>
      apply same
      rw [Action.run]
      rcases settled.registry with registryFree | ⟨held, _⟩
      · rw [World.run_of_ok (checkNodesHealth_run registryFree settled.sessionFree)]
        exact congrArg Lifecycle.latencyMatrix (Server.expired_timedOut setting now order).lifecycle
      · rw [World.run_of_blocked (checkNodesHealth_run_blocked held)]
  | cleanupTick now order =>
      apply same
      rw [Action.run]
      by_cases registryFree : locks .registryMu = .free
      · rw [World.run_of_ok (cleanupDeadConnections_run registryFree settled.sessionFree)]
        exact congrArg Lifecycle.latencyMatrix (Server.departed_cleanedUp setting now order).2
      · rw [cleanupDeadConnections, World.run_of_blocked (withLock_run_blocked registryFree _)]
  | removeNode nodeID rounds => exact latencyMatrix_removeNode settled ends nodeID rounds run
  | reconfigure rounds => exact latencyMatrix_reconfigure settled ends rounds run

end Steps

/-! ## The order of a report -/

namespace LatencyMatrix

/-- Square matrices of one size with the same cells are the same. -/
theorem Square.eq_of_cell {lm lm' : LatencyMatrix} (square : lm.Square) (square' : lm'.Square)
    (size : lm'.size = lm.size)
    (cells : ∀ i j, 0 ≤ i → i < lm.size → 0 ≤ j → j < lm.size → lm'.cell i j = lm.cell i j) :
    lm' = lm := by
  have rows : lm'.data = lm.data := by
    apply List.ext_getElem
    · rw [square.rows, square'.rows, size]
    intro i bound' bound
    have width := square.columns _ (List.getElem_mem bound)
    have width' := square'.columns _ (List.getElem_mem bound')
    apply List.ext_getElem
    · rw [width, width', size]
    intro j left' left
    have rowBound := square.rows ▸ bound
    have columnBound := width ▸ left
    have same := cells i j (by omega) (by omega) (by omega) (by omega)
    simpa [cell, bound, bound', left, left'] using same
  obtain ⟨data, n⟩ := lm
  obtain ⟨data', n'⟩ := lm'
  cases rows
  cases size
  rfl

theorem Written.unique {rank : Int} {ranks : List Int} {value : Int → ℚ} {lm one other : LatencyMatrix}
    (first : Written rank ranks value lm one) (second : Written rank ranks value lm other) :
    one = other := by
  apply second.square.eq_of_cell first.square (first.size.trans second.size.symm)
  intro i j lower upper left right
  rw [second.size] at upper right
  rw [first.cell i j lower upper left right, second.cell i j lower upper left right]

end LatencyMatrix

/-- The order in which the latencies are visited does not matter. -/
theorem Settled.sendMetrics_order (settled : Settled ⟨s, locks⟩) (req : MetricsRequest)
    (order order' : Shuffle Int) :
    (sendMetrics req order).run ⟨s, locks⟩ = (sendMetrics req order').run ⟨s, locks⟩ := by
  have processed : (processMetrics req.metrics order).run ⟨s, locks⟩ =
      (processMetrics req.metrics order').run ⟨s, locks⟩ := by
    cases req.metrics with
    | none => rfl
    | some metrics =>
        cases carried : metrics.rankLatencies with
        | none =>
            rw [processMetrics_run_empty settled.metricsFree order carried,
              processMetrics_run_empty settled.metricsFree order' carried]
        | some latencies =>
            obtain ⟨lm, written, runs⟩ := processMetrics_run settled.matrixFree settled.square
              settled.metricsFree order carried
            obtain ⟨lm', written', runs'⟩ := processMetrics_run settled.matrixFree settled.square
              settled.metricsFree order' carried
            rw [runs, runs', written.unique written']
  simp only [sendMetrics, EStateM.run_bind, current_run settled.stateFree]
  split
  · rfl
  · simp only [EStateM.run_bind, read_run]
    split
    · rfl
    · split
      · simp only [EStateM.run_bind, processed]
      · rfl

/-! ## The latest report -/

/-- The latency that a step reports for a cell: that of an accepted request of rank `i` with an
entry for `j`. -/
def reportedFor (i j : Int) : World × Action → Option ℚ
  | (w, .sendMetrics req _) => (req.recorded w.data).bind fun latencies =>
      if latencies.rank = i then latencies.avgLatencies.lookup j else none
  | _ => none

/-- The ranks a matrix of a size has cells for. -/
def InRange (size i : Int) : Prop := 0 ≤ i ∧ i < size

/-- A step keeps the size of the matrix, and overwrites a cell by what it reports for it. -/
theorem latencyMatrix_of_next {w w' : World} {a : Action} (settled : Settled w)
    (next : w.next setting a = some w') :
    w'.data.latencyMatrix.size = w.data.latencyMatrix.size ∧
      ∀ i j, InRange w.data.latencyMatrix.size i → InRange w.data.latencyMatrix.size j →
        w'.data.latencyMatrix.cell i j =
          (reportedFor i j (w, a)).getD (w.data.latencyMatrix.cell i j) := by
  obtain ⟨ending, ends, _, run⟩ := World.runs_of_next next
  obtain ⟨s, locks⟩ := w
  have kept (same : w'.data.latencyMatrix = s.latencyMatrix)
      (nothing : ∀ i j, reportedFor i j (⟨s, locks⟩, a) = none) :
      w'.data.latencyMatrix.size = s.latencyMatrix.size ∧
        ∀ i j, InRange s.latencyMatrix.size i → InRange s.latencyMatrix.size j →
          w'.data.latencyMatrix.cell i j =
            (reportedFor i j (⟨s, locks⟩, a)).getD (s.latencyMatrix.cell i j) := by
    refine ⟨congrArg LatencyMatrix.size same, fun i j _ _ => ?_⟩
    rw [nothing, Option.getD_none, same]
  by_cases unmetered : a.Unmetered
  · refine kept (latencyMatrix_of_run settled ends unmetered run) fun i j => ?_
    cases a with
    | sendMetrics req order => exact unmetered.elim
    | _ => rfl
  cases a with
  | sendMetrics req order =>
      have reads (i j : Int) : reportedFor i j (⟨s, locks⟩, .sendMetrics req order) =
        (req.recorded s).bind fun latencies =>
          if latencies.rank = i then latencies.avgLatencies.lookup j else none := rfl
      have outcome := settled.sendMetrics_ends req order
      rw [Action.run, World.run] at run
      generalize (sendMetrics req order).run ⟨s, locks⟩ = result at outcome run
      cases outcome with
      | refused refusal closed =>
          cases run
          apply kept rfl
          intro i j
          rw [reads, MetricsRequest.recorded, if_neg, Option.bind_none]
          rintro ⟨running, active⟩
          rcases closed with stopped | unknown
          · exact stopped running
          · cases unknown.symm.trans active
      | idle nothing =>
          cases run
          apply kept rfl
          intro i j
          rw [reads, nothing, Option.bind_none]
      | @recorded latencies lm carries written =>
          cases run
          refine ⟨written.size, fun i j row column => ?_⟩
          rw [reads, carries, Option.bind_some]
          apply (written.cell i j row.1 row.2 column.1 column.2).trans
          by_cases same : latencies.rank = i
          · cases found : latencies.avgLatencies.lookup j with
            | none =>
                have absent : j ∉ latencies.avgLatencies.keys :=
                  mt AList.mem_keys.mpr (AList.lookup_eq_none.mp found)
                rw [if_neg fun here => absent here.2, if_pos same, Option.getD_none]
            | some latency =>
                have present : j ∈ latencies.avgLatencies.keys :=
                  AList.mem_keys.mp (Table.mem_iff_exists_lookup.mpr ⟨latency, found⟩)
                rw [if_pos ⟨same.symm, present⟩, if_pos same, RankLatencies.value, found]
                rfl
          · rw [if_neg fun here => same here.1.symm, if_neg same, Option.getD_none]
      | crashed w crashes =>
          cases run
          rcases ends with ends | ends <;> cases ends
  | _ => exact absurd trivial unmetered

/-- The matrix is a square of the configured size whose cells hold the latest latencies reported for
them; reports for ranks outside change nothing, and the order of a report does not matter. -/
structure LastWriterWins (setting : Setting) (history : List (World × Action)) (w : World) :
    Prop where
  size : w.data.latencyMatrix.size = setting.config.activeNodes
  square : w.data.latencyMatrix.Square
  cell : ∀ i j, InRange setting.config.activeNodes i → InRange setting.config.activeNodes j →
    w.data.latencyMatrix.cell i j = latest (reportedFor i j) 0 history
  outside : ∀ req order metrics latencies, req.metrics = some metrics →
    metrics.rankLatencies = some latencies →
    (∀ j ∈ latencies.avgLatencies.keys, InRange setting.config.activeNodes latencies.rank →
      ¬ InRange setting.config.activeNodes j) →
    ∃ answer, (sendMetrics req order).run w = .ok answer w
  anyOrder : ∀ req order order', (sendMetrics req order).run w = (sendMetrics req order').run w

theorem size_of_reachable {w : World} (reachable : setting.system.Reachable w) :
    w.data.latencyMatrix.size = setting.config.activeNodes := by
  refine reachable.inductOver (J := Settled)
    (I := fun w => w.data.latencyMatrix.size = setting.config.activeNodes)
    (fun _ => setting.settled_of_reachable) ?_ ?_
  · intro w start
    rw [show w = World.new setting from start]
    rfl
  · intro w a w' settled same _ next
    exact (latencyMatrix_of_next settled next).1.trans same

theorem cell_newLatencyMatrix (size i j : Int) : (newLatencyMatrix size).cell i j = 0 := by
  rw [LatencyMatrix.cell, newLatencyMatrix, List.getElem?_replicate]
  split
  · rw [Option.getD_some, List.getElem?_replicate]
    split <;> rfl
  · rfl

/-- **The latency matrix is last-writer-wins.** -/
theorem lastWriterWins_of_history {history : List (World × Action)} {w : World}
    (past : setting.system.History history w) : LastWriterWins setting history w := by
  have settled := setting.settled_of_reachable past.reachable
  have size := size_of_reachable past.reachable
  refine ⟨size, settled.square, ?_, ?_, ?_⟩
  · intro i j row column
    refine past.holds_latest (f := fun w => w.data.latencyMatrix.cell i j) ?_ ?_
    · intro w start
      rw [show w = World.new setting from start]
      exact cell_newLatencyMatrix setting.config.activeNodes i j
    · intro w a w' reachable next
      have settled := setting.settled_of_reachable reachable
      rw [← size_of_reachable reachable] at row column
      exact (latencyMatrix_of_next settled next).2 i j row column
  · intro req order metrics latencies present carried outside
    obtain ⟨s, locks⟩ := w
    have carries {latencies' : RankLatencies} (recorded : req.recorded s = some latencies') :
        latencies' = latencies := by
      rw [MetricsRequest.recorded, present, Option.bind_some, carried] at recorded
      split at recorded
      · exact (Option.some.inj recorded).symm
      · cases recorded
    have ends := settled.sendMetrics_ends req order
    generalize (sendMetrics req order).run ⟨s, locks⟩ = outcome at ends ⊢
    cases ends with
    | refused refusal closed => exact ⟨_, rfl⟩
    | idle nothing => exact ⟨_, rfl⟩
    | @recorded latencies' lm recorded written =>
        obtain rfl := carries recorded
        have unchanged : lm = s.latencyMatrix := by
          apply settled.square.eq_of_cell written.square written.size
          intro i j lower upper left right
          rw [size] at upper right
          rw [written.cell i j lower (size ▸ upper) left (size ▸ right), if_neg]
          rintro ⟨rfl, entry⟩
          exact outside j entry ⟨lower, upper⟩ ⟨left, right⟩
        exact ⟨_, by rw [unchanged]⟩
    | crashed w crashes => cases present.symm.trans crashes.2.2
  · intro req order order'
    exact settled.sendMetrics_order req order order'

/-- Two nodes report rank 0 with a latency to rank 1, and the later report stays. -/
theorem lastWriterWins_twice : ∃ history w, smallSetting.system.History history w ∧
    latest (reportedFor 0 1) 0 history = 7 := by
  obtain ⟨w, reachable, holds⟩ := System.exists_reachable (S := smallSetting.system)
    (gathering ++ [.sendMetrics ⟨"a.ns.1", some (measured 0 1 5)⟩ .inOrder,
      .sendMetrics ⟨"b.ns.1", some (measured 0 1 7)⟩ .inOrder,
      .sendMetrics ⟨"a.ns.1", some (measured 1 0 9)⟩ .inOrder])
    (fun w => w.data.latencyMatrix.cell 0 1 = 7) rfl (by decide +kernel)
  obtain ⟨history, past⟩ := System.History.exists_of_reachable reachable
  have cell := (lastWriterWins_of_history past).cell 0 1 ⟨by decide, by decide⟩ ⟨by decide, by decide⟩
  exact ⟨history, w, past, cell.symm.trans (of_decide_eq_true holds)⟩

end C4D
