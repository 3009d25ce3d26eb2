import C4D.Monitor.Handlers
import Mathlib.Data.List.DropRight

/-!
# The windows of latencies

A finished send or receive message adds its latency to the window of its remote rank, which
holds `WindowSize` latencies at most. Nothing else changes a window, but for a change to
`Restarting`, which empties all of them. So a window holds the last latencies that were
logged since (`slides_after`).
-/

set_option autoImplicit false

namespace C4D

open Foundations Program

namespace Monitor

/-! ## One window -/

/-- The window of a remote rank. -/
def window (m : Monitor) (remoteRank : Int) : List ℚ := (m.latencyWindow.lookup remoteRank).getD []

/-- The latencies a sequence of log messages carries for a rank. -/
def carried (remoteRank : Int) (logs : List (Option CclLog × (Nat → Outcome))) : List ℚ :=
  logs.filterMap fun log => log.1.bind fun log =>
    if log.finished ∧ (log.opType = "send" ∨ log.opType = "recv") ∧ log.remoteRank = remoteRank
    then some (CclLog.latency log) else none

/-- A window that has grown by one entry gives the first one up when it is too long. -/
theorem slide {α : Type} (entries : List α) (n : Nat) :
    (if n < (entries.rtake (n + 1)).length then (entries.rtake (n + 1)).tail
      else entries.rtake (n + 1)) = entries.rtake n := by
  simp only [List.rtake, List.length_drop]
  split
  · next long =>
      rw [List.tail_drop]
      congr 1
      omega
  · next short =>
      congr 1
      omega

theorem window_addLatency (remoteRank : Int) (latency : ℚ) (m : Monitor) (j : Int) {old : List ℚ}
    (here : m.window j = old.rtake windowSize) :
    (m.addLatency remoteRank latency).2.window j =
      (old ++ if remoteRank = j then [latency] else []).rtake windowSize := by
  by_cases same : remoteRank = j
  · subst same
    have grown := slide (old ++ [latency]) windowSize
    rw [List.rtake_concat_succ, ← here] at grown
    rw [if_pos rfl, ← grown, window, addLatency, AList.lookup_insert]
    rfl
  · rw [if_neg same, List.append_nil, ← here, window, addLatency,
      AList.lookup_insert_ne (Ne.symm same)]
    rfl

/-- A log message adds what it carries. -/
theorem window_handleLogCCL (log : Option CclLog × (Nat → Outcome)) (m : Monitor) (j : Int)
    {old : List ℚ} (here : m.window j = old.rtake windowSize) :
    ((handleLogCCL log.1).run Monitor.act log.2 m).state.window j =
      (old ++ carried j [log]).rtake windowSize := by
  obtain ⟨_ | log, choices⟩ := log
  · exact here.trans (by rw [carried]; simp)
  · by_cases counts : log.finished ∧ (log.opType = "send" ∨ log.opType = "recv")
    · have added := window_addLatency log.remoteRank (CclLog.latency log) m j here
      have carries : carried j [(some log, choices)] =
          if log.remoteRank = j then [CclLog.latency log] else [] := by
        by_cases same : log.remoteRank = j <;> simp [carried, counts, same]
      rw [carries, ← added, handleLogCCL]
      simp only [counts, and_self, if_true]
      rfl
    · have carries : carried j [(some log, choices)] = [] := by
        simp only [carried, List.filterMap_cons, Option.bind_some, List.filterMap_nil]
        rw [if_neg fun all => counts ⟨all.1, all.2.1⟩]
      rw [carries, List.append_nil, ← here, handleLogCCL]
      simp only [if_neg counts]
      rfl

/-- The average of a window to which a latency was just added. -/
theorem average_addLatency (remoteRank : Int) (latency : ℚ) (m : Monitor) :
    (m.addLatency remoteRank latency).2.window remoteRank ≠ [] ∧
      (m.addLatency remoteRank latency).1 =
        average ((m.addLatency remoteRank latency).2.window remoteRank) := by
  have grown : (m.addLatency remoteRank latency).2.window remoteRank =
      if windowSize < (m.window remoteRank ++ [latency]).length then
        (m.window remoteRank ++ [latency]).tail else m.window remoteRank ++ [latency] := by
    rw [window, addLatency, AList.lookup_insert]
    rfl
  refine ⟨?_, by rw [grown]; rfl⟩
  rw [grown]
  split
  · next long =>
      intro empty
      have short := congrArg List.length empty
      rw [List.length_tail] at short
      exact absurd (Nat.lt_of_lt_of_le long (Nat.sub_eq_zero_iff_le.mp short)) (by decide)
  · simp

end Monitor

/-! ## Messages and other operations -/

/-- What happens to a monitor: it serves a log message, or a program performs an operation other than
the one a log message performs. -/
inductive MonitorInput where
  | logCCL (log : Option CclLog) (choices : Nat → Outcome)
  | operation (q : MonitorOp) (o : Outcome)
      (other : ∀ remoteRank latency, q ≠ .updateLatencyWindow remoteRank latency)

namespace MonitorInput

/-- The state changes to `Restarting`. -/
def restarts : MonitorInput → Bool
  | .operation (.setState .restarting) _ _ => true
  | _ => false

/-- The latency of a finished send or receive message with the remote rank. -/
def carries (remoteRank : Int) : MonitorInput → List ℚ
  | .logCCL log choices => Monitor.carried remoteRank [(log, choices)]
  | .operation _ _ _ => []

end MonitorInput

namespace Monitor

/-- The monitor after one input. -/
def take (m : Monitor) : MonitorInput → Monitor
  | .logCCL log choices => ((handleLogCCL log).run Monitor.act choices m).state
  | .operation q o _ => (Monitor.act q o m).2

/-- The monitor after a sequence of inputs. -/
def after (m : Monitor) (inputs : List MonitorInput) : Monitor := inputs.foldl take m

/-- The latencies logged for a remote rank since the last change to `Restarting`. -/
def latenciesSince (remoteRank : Int) (inputs : List MonitorInput) : List ℚ :=
  (inputs.rtakeWhile fun input => !input.restarts).flatMap (·.carries remoteRank)

theorem latenciesSince_concat (remoteRank : Int) (inputs : List MonitorInput)
    (input : MonitorInput) : latenciesSince remoteRank (inputs ++ [input]) =
      if input.restarts then [] else latenciesSince remoteRank inputs ++ input.carries remoteRank := by
  rw [latenciesSince, List.rtakeWhile_concat]
  by_cases restarts : input.restarts
  · simp [restarts]
  · simp [restarts, latenciesSince]

theorem window_startHeartbeat {m : Monitor} (remoteRank : Int) :
    m.startHeartbeat.window remoteRank = m.window remoteRank := by
  unfold startHeartbeat
  cases m.heartbeat <;> rfl

/-- A change of state empties the windows if it is one to `Restarting`, and leaves them alone if not. -/
theorem window_enter (m : Monitor) (newState : State) (remoteRank : Int) :
    (m.enter newState).window remoteRank =
      if newState = .restarting then [] else m.window remoteRank := by
  cases newState with
  | restarting =>
      rw [if_pos rfl]
      exact window_startHeartbeat remoteRank
  | running => exact window_startHeartbeat remoteRank
  | standby =>
      apply (window_startHeartbeat remoteRank).trans
      split <;> rfl
  | initializing => rfl
  | stopped => rfl
  | failed => rfl

/-- An operation other than that of a log message empties the windows or leaves them alone. -/
theorem window_operation (m : Monitor) (q : MonitorOp) (o : Outcome)
    (other : ∀ remoteRank latency, q ≠ .updateLatencyWindow remoteRank latency) (remoteRank : Int) :
    (Monitor.act q o m).2.window remoteRank =
      if (MonitorInput.operation q o other).restarts then [] else m.window remoteRank := by
  cases q with
  | setState newState =>
      rw [Monitor.act, window_enter]
      cases newState <;> rfl
  | updateLatencyWindow remoteRank latency => exact absurd rfl (other remoteRank latency)
  | _ => rfl

/-- **A window holds the last latencies logged since the last change to `Restarting`.** -/
theorem window_after (m : Monitor) (inputs : List MonitorInput) (remoteRank : Int)
    (empty : m.window remoteRank = []) :
    (m.after inputs).window remoteRank = (latenciesSince remoteRank inputs).rtake windowSize := by
  induction inputs using List.reverseRecOn with
  | nil => exact empty
  | append_singleton inputs input ih =>
      have next : m.after (inputs ++ [input]) = (m.after inputs).take input := by
        rw [after, List.foldl_append]
        rfl
      rw [next, latenciesSince_concat]
      cases input with
      | logCCL log choices => exact window_handleLogCCL (log, choices) _ remoteRank ih
      | operation q o other =>
          apply (window_operation _ q o other remoteRank).trans
          split
          · rfl
          · rw [ih, MonitorInput.carries, List.append_nil]

/-- Every window holds the last latencies that were logged since the last change to `Restarting`, and
adding a latency gives the mean of a window that is not empty. -/
structure Slides (inputs : List MonitorInput) (m : Monitor) : Prop where
  window : ∀ remoteRank,
    m.window remoteRank = (latenciesSince remoteRank inputs).rtake windowSize
  mean : ∀ remoteRank latency choices,
    let ended := (updateLatencyWindow remoteRank latency).run Monitor.act choices m
    ended.state.window remoteRank ≠ [] ∧
      ended.value = (ended.state.window remoteRank).sum / (ended.state.window remoteRank).length

/-- **The sliding latency window.** -/
theorem slides_after (nodeID nodeURL : String) (rank worldSize : Int) (inputs : List MonitorInput) :
    Slides inputs ((new nodeID nodeURL rank worldSize).after inputs) where
  window remoteRank := window_after _ inputs remoteRank rfl
  mean remoteRank latency _ := average_addLatency remoteRank latency _

/-- A window that is full gives up its first latency. -/
example : ((new "a.ns.1" "http://a.ns:1" 0 4).after
    ((List.range 101).map fun n =>
      .logCCL (some ⟨"send", 1, 0, n * 1000000, true⟩) fun _ => {})).window 1 =
        (List.range' 1 100).map Nat.cast := by
  decide +kernel

end Monitor

end C4D
