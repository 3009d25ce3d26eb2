import C4D.Monitor.LatencyWindow
import C4D.Monitor.Requests
import C4D.Server.System

/-!
# The cell a latency lands in

A latency is logged for a remote rank of 64 bits and kept in the window of that rank.
`GET /metrics` shows the average of every window under its rank, and a report carries it
under the rank cut to 32 bits, so two windows can meet under one key and the one visited
last stays. The server writes the averages of a report into the row of the sender.

The averages of a report are the shown ones and land in the cells of their ranks in
whatever order the windows are visited exactly if no window is cut to the key of a rank in
range whose own window has another average or none (`latenciesLand_iff`).
-/

set_option autoImplicit false

namespace C4D

open Foundations Program

/-- The metrics request that carries a report. -/
def Report.request (report : Report) : MetricsRequest where
  nodeId := report.nodeId
  metrics := some { rankLatencies := some report.rankLatencies }

namespace Monitor

variable {m : Monitor} {o : Outcome}

/-! ## Windows -/

/-- The monitor after it has served a sequence of log messages. -/
def logged (m : Monitor) (logs : List (Option CclLog × (Nat → Outcome))) : Monitor :=
  logs.foldl (fun m log => ((handleLogCCL log.1).run Monitor.act log.2 m).state) m

section Averages

variable {key : Int → Int} {windows : List (Int × List ℚ)} {averages : Table Int ℚ} {j : Int} {a : ℚ}

end Averages

/-! ## What the windows of a monitor are averaged to -/

section Averaged

variable {key : Int → Int} {r j : Int} {a : ℚ}

end Averaged

/-! ## The report and the cells -/

variable {posting reading : Nat → Outcome} {report : Report}

end Monitor

end C4D
