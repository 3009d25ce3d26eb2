import C4D.Concurrent.Agreement
import C4D.Concurrent.Duplicates
import C4D.Concurrent.HealthCheck
import C4D.Concurrent.StartOnce
import C4D.Concurrent.Uninterrupted
import C4D.Deployment.Silence
import C4D.Deployment.Provenance
import C4D.Engine.ExecutionRecord
import C4D.Engine.Freeze
import C4D.Engine.SingleProcess
import C4D.Failure.Answers
import C4D.Failure.Framing
import C4D.Monitor.Detection
import C4D.Monitor.FailedFinal
import C4D.Monitor.HeartbeatLoop
import C4D.Monitor.LatencyCells
import C4D.Monitor.LaunchReplies
import C4D.Monitor.LeftRunning
import C4D.Monitor.RankReport
import C4D.Monitor.RestartRoutes
import C4D.Monitor.StandbyIdle
import C4D.Monitor.StartVerdict
import C4D.Server.Accounting
import C4D.Server.Capacity
import C4D.Server.Complement
import C4D.Server.CounterDrift
import C4D.Server.HealthTick
import C4D.Server.LatencyHistory
import C4D.Server.LockDiscipline
import C4D.Server.MonitoredMutex
import C4D.Server.Notification
import C4D.Server.RankOrder
import C4D.Server.RecordSync
import C4D.Server.Recovery
import C4D.Server.Refusal
import C4D.Server.Removal
import C4D.Server.Rendezvous
import C4D.Server.RunningRanks
import C4D.Server.SessionRelease
import C4D.Server.StartRetry
import C4D.Server.Stranding
import C4D.Server.Together
import C4D.Server.Usability
import C4D.Tasks.Endpoints
import C4D.Tasks.NodeChoice
import C4D.Versions.ReadBack
