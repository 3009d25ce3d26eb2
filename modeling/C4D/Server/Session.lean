import C4D.Server.State

/-!
# Sessions and registration of a node

The critical sections of the session manager and of `RegisterNode`, as actions
on the server's data.
-/

set_option autoImplicit false

namespace C4D

open Foundations Guarded

namespace Server

/-- `SessionManager.RegisterSession`: the session of the node, updated or new. -/
def registerSession (nodeID nodeURL : String) (status : Status) (rank now : Int) (s : Server) :
    SessionState × Server :=
  match s.sessions.lookup nodeID with
  | some session =>
      let session := { session with
        nodeURL
        lastSeen := now
        isConnected := true
        reconnectCount := session.reconnectCount + 1
        status
        rank := if 0 ≤ rank then rank else session.rank }
      (session, { s with sessions := s.sessions.insert nodeID session })
  | none =>
      let session : SessionState :=
        { nodeID, nodeURL, status, rank, lastSeen := now, reconnectCount := 0, isConnected := true }
      (session, { s with sessions := s.sessions.insert nodeID session })

/-- `SessionManager.UpdateSession`: whether the node has a session to update. -/
def updateSession (nodeID : String) (updateFn : SessionState → SessionState) (s : Server) :
    Bool × Server :=
  ((s.sessions.lookup nodeID).isSome,
    { s with sessions := Table.modify nodeID updateFn s.sessions })

/-- `SessionManager.DisconnectSession` -/
def disconnectSession (nodeID : String) (now : Int) (s : Server) : Unit × Server :=
  let disconnect (session : SessionState) : SessionState :=
    { session with isConnected := false, lastSeen := now }
  ((), { s with sessions := Table.modify nodeID disconnect s.sessions })

/-- One turn of the loop of `CleanupSessions`. -/
def dropExpired (cutoff : Int) (sessions : Table String SessionState) (nodeID : String) :
    Table String SessionState :=
  match sessions.lookup nodeID with
  | some session =>
      if !session.isConnected ∧ session.lastSeen < cutoff then sessions.erase nodeID else sessions
  | none => sessions

/-- `SessionManager.CleanupSessions`: disconnected sessions last seen before the cutoff go. -/
def cleanupSessions (timeout now : Int) (s : Server) : Unit × Server :=
  ((), { s with sessions := s.sessions.keys.foldl (dropExpired (now - timeout)) s.sessions })

variable {s : Server}

theorem lookup_dropExpired (cutoff : Int) (sessions : Table String SessionState) (id j : String) :
    (dropExpired cutoff sessions id).lookup j = (sessions.lookup j).filter fun session =>
      j ≠ id ∨ session.isConnected ∨ cutoff ≤ session.lastSeen := by
  unfold dropExpired
  by_cases here : j = id
  · subst here
    cases found : sessions.lookup j with
    | none => simp [found]
    | some session =>
        simp only
        split
        · next expired =>
            have late : ¬ cutoff ≤ session.lastSeen := not_le.mpr expired.2
            have silent : session.isConnected = false := by simpa using expired.1
            simp [Option.filter_some, late, silent]
        · next stays =>
            have stays : session.isConnected = true ∨ cutoff ≤ session.lastSeen := by
              simpa [or_iff_not_imp_left] using stays
            simp [Option.filter_some, found, stays]
  · have all : (sessions.lookup j).filter (fun session =>
        j ≠ id ∨ session.isConnected ∨ cutoff ≤ session.lastSeen) = sessions.lookup j := by
      cases sessions.lookup j <;> simp [Option.filter_some, here]
    rw [all]
    cases sessions.lookup id with
    | none => rfl
    | some other =>
        simp only
        split
        · exact AList.lookup_erase_ne here
        · rfl

theorem lookup_dropped (cutoff : Int) (nodeIDs : List String)
    (sessions : Table String SessionState) (j : String) :
    (nodeIDs.foldl (dropExpired cutoff) sessions).lookup j =
      (sessions.lookup j).filter fun session =>
        j ∉ nodeIDs ∨ session.isConnected ∨ cutoff ≤ session.lastSeen := by
  induction nodeIDs generalizing sessions with
  | nil => cases found : sessions.lookup j <;> simp [Option.filter_some, found]
  | cons id rest ih =>
      rw [List.foldl_cons, ih, lookup_dropExpired]
      cases sessions.lookup j with
      | none => rfl
      | some session =>
          by_cases here : j = id <;> by_cases later : j ∈ rest <;>
            by_cases stays : session.isConnected = true ∨ cutoff ≤ session.lastSeen <;>
            simp [Option.filter_some, here, later, stays]

/-- A session stays if it is connected or was seen since the cutoff. -/
theorem lookup_cleanupSessions (timeout now : Int) (j : String) :
    (s.cleanupSessions timeout now).2.sessions.lookup j = (s.sessions.lookup j).filter fun session =>
      session.isConnected ∨ now - timeout ≤ session.lastSeen := by
  rw [cleanupSessions, lookup_dropped]
  cases found : s.sessions.lookup j with
  | none => rfl
  | some session =>
      have listed : j ∈ s.sessions.keys :=
        AList.mem_keys.mp (Table.mem_iff_exists_lookup.mpr ⟨session, found⟩)
      simp only [listed, not_true_eq_false, false_or]

/-- `NodeRegistry.RegisterNode` -/
def registerNode (nodeID nodeURL : String) (status : Status) (rank now : Int) (s : Server) :
    Unit × Server :=
  ((), { s with
    nodes := AList.insert nodeID { nodeURL, status, rank } s.nodes
    health := s.health.insert nodeID { lastHeartbeat := now, status } })

end Server

/-- `SessionManager.GetSession` -/
def getSession (nodeID : String) : Op (Option SessionState) := do
  let s ← withRLock .sessionMu read
  return s.sessions.lookup nodeID

theorem getSession_run {s : Server} {locks : Lock → RWMutex} (free : locks .sessionMu = .free)
    (nodeID : String) :
    (getSession nodeID).run ⟨s, locks⟩ = .ok (s.sessions.lookup nodeID) ⟨s, locks⟩ := by
  simp only [getSession, EStateM.run_bind, readLocked_run free, EStateM.run_pure]

end C4D
