import C4D.Foundations.Ledger
import C4D.Server.Attendance

/-!
# Which node is a counter changed for?

The three counters of nodes add up contributions of single nodes. Every change of
a counter is charged to the node it is about (`Action.charges`).

What the charges of a step add to a node beyond what its status asks for is its
`surplus`. A status that is written without the counters, or a counter that is not
adjusted with it, leaves a surplus. `Moves` says that this happens to a node
exactly when it is set to failed, piece by piece and for a reconfiguration as a
whole (`Charged`).
-/

set_option autoImplicit false

namespace C4D

open Foundations Charge

/-! ## Charges -/

/-- The changes of all counters in a step that is about one node. -/
def Server.ownCharges (nodeID : String) (before after : Server) : List (Charge String Status) :=
  [.active, .standby, .failed].map fun status =>
    ⟨nodeID, status, after.counter status - before.counter status⟩

/-- What a reconfiguration charges for an assignment to a status: a promotion moves a node from
one counter to another, and so does the failure of an active node. -/
def StatusWrite.charges : StatusWrite → List (Charge String Status)
  | ⟨nodeID, _, .active⟩ => [⟨nodeID, .active, 1⟩, ⟨nodeID, .standby, -1⟩]
  | ⟨nodeID, .active, .failed⟩ => [⟨nodeID, .active, -1⟩, ⟨nodeID, .failed, 1⟩]
  | ⟨_, .standby, .failed⟩ => []
  | ⟨_, .failed, .failed⟩ => []
  | ⟨_, _, .standby⟩ => []

/-- What is charged for the time-out of a node. -/
def StatusWrite.timeoutCharge (write : StatusWrite) : Charge String Status :=
  ⟨write.nodeID, .failed, 1⟩

/-- What is charged for the departure of a node. -/
def departure (nodeID : String) : Option Status → List (Charge String Status)
  | some .active => [⟨nodeID, .active, -1⟩]
  | some .standby => [⟨nodeID, .standby, -1⟩]
  | some .failed => []
  | none => []

/-- The charges for the listed nodes that are gone after a step. -/
def Server.departures (nodeIDs : List String) (before after : Server) :
    List (Charge String Status) :=
  nodeIDs.flatMap fun nodeID =>
    if nodeID ∈ after.nodes then [] else departure nodeID (before.nodes.statusOf nodeID)

/-- The charges of a step. -/
def Action.charges (setting : Setting) (before after : Server) :
    Action → List (Charge String Status)
  | .register req _ _ => before.ownCharges req.nodeId after
  | .notifyFailure req => before.ownCharges req.nodeId after
  | .healthTick _ _ =>
      (after.statusWrites.drop before.statusWrites.length).map StatusWrite.timeoutCharge
  | .cleanupTick now order =>
      before.departures (before.deadConnections setting now order) after
  | .removeNode nodeID _ => before.departures [nodeID] after ++
        (after.statusWrites.drop before.statusWrites.length).flatMap StatusWrite.charges
  | .reconfigure _ =>
      (after.statusWrites.drop before.statusWrites.length).flatMap StatusWrite.charges
  | .sendHeartbeat _ _ => []
  | .sendMetrics _ _ => []

section OwnCharges

variable {before after : Server} {nodeID : String}

@[simp] theorem total_ownCharges (status : Status) :
    total (Server.ownCharges nodeID before after) status =
      after.counter status - before.counter status := by
  cases status <;> simp [Server.ownCharges]

theorem tally_ownCharges (id : String) (status : Status) :
    tally (Server.ownCharges nodeID before after) id status =
      if nodeID = id then after.counter status - before.counter status else 0 := by
  by_cases same : nodeID = id <;> cases status <;> simp [Server.ownCharges, same]

end OwnCharges

/-! ## What a node is charged for -/

/-- What a status asks for: one in the counter of active or of standby nodes. -/
def Status.due (status : Option Status) (counter : Status) : Int :=
  if status = some counter ∧ counter ≠ .failed then 1 else 0

/-- What the charges of a step add to a node beyond what its status asks for. -/
def surplus (before after : Server) (charges : List (Charge String Status)) (id : String)
    (counter : Status) : Int :=
  tally charges id counter -
    (Status.due (after.nodes.statusOf id) counter - Status.due (before.nodes.statusOf id) counter)

/-- The node is set to failed. -/
def FailedIn (writes : List StatusWrite) (id : String) : Prop :=
  ∃ write ∈ writes, write.nodeID = id ∧ write.new = .failed

theorem FailedIn.append {writes more : List StatusWrite} {id : String} :
    FailedIn (writes ++ more) id ↔ FailedIn writes id ∨ FailedIn more id := by
  constructor
  · rintro ⟨write, mem, fails⟩
    exact (List.mem_append.mp mem).imp (⟨write, ·, fails⟩) (⟨write, ·, fails⟩)
  · rintro (⟨write, mem, fails⟩ | ⟨write, mem, fails⟩)
    · exact ⟨write, List.mem_append_left _ mem, fails⟩
    · exact ⟨write, List.mem_append_right _ mem, fails⟩

instance (writes : List StatusWrite) (id : String) : Decidable (FailedIn writes id) :=
  inferInstanceAs (Decidable (∃ write ∈ writes, _ ∧ _))

theorem not_failedIn_nil (id : String) : ¬ FailedIn [] id := by
  rintro ⟨_, mem, _⟩
  cases mem

theorem failedIn_singleton {write : StatusWrite} {id : String} :
    FailedIn [write] id ↔ write.nodeID = id ∧ write.new = .failed := by
  constructor
  · rintro ⟨_, mem, fails⟩
    rwa [List.mem_singleton.mp mem] at fails
  · exact fun fails => ⟨write, List.mem_cons_self, fails⟩

/-- What a piece of a step does to the statuses and the charges of nodes: a node gets a surplus
exactly when it is set to failed. -/
structure Moves (before after : Server) (writes : List StatusWrite)
    (charges : List (Charge String Status)) : Prop where
  history : after.statusWrites = before.statusWrites ++ writes
  grows : ∀ id counter, 0 ≤ surplus before after charges id counter
  cause : ∀ id counter, 0 < surplus before after charges id counter → FailedIn writes id
  harm : ∀ id, FailedIn writes id → before.nodes.statusOf id = some .failed ∨
    ∃ counter, 0 < surplus before after charges id counter
  failed : ∀ id, after.nodes.statusOf id = some .failed →
    before.nodes.statusOf id = some .failed ∨ FailedIn writes id

namespace Moves

variable {before middle after : Server} {writes more : List StatusWrite}
  {charges further : List (Charge String Status)}

theorem surplus_append (id : String) (counter : Status) :
    surplus before after (charges ++ further) id counter =
      surplus before middle charges id counter + surplus middle after further id counter := by
  rw [surplus, surplus, surplus, tally_append]
  omega

/-- One piece after the other. -/
theorem trans (first : Moves before middle writes charges)
    (second : Moves middle after more further) :
    Moves before after (writes ++ more) (charges ++ further) := by
  have additive (id : String) (counter : Status) :
      surplus before after (charges ++ further) id counter =
        surplus before middle charges id counter + surplus middle after further id counter :=
    surplus_append id counter
  refine ⟨?_, fun id counter => ?_, fun id counter positive => ?_, fun id fails => ?_,
    fun id failed => ?_⟩
  · rw [second.history, first.history, List.append_assoc]
  · have := first.grows id counter
    have := second.grows id counter
    rw [additive]
    omega
  · rw [additive] at positive
    have nonneg := first.grows id counter
    rw [FailedIn.append]
    by_cases early : 0 < surplus before middle charges id counter
    · exact .inl (first.cause id counter early)
    · exact .inr (second.cause id counter (by omega))
  · have harmed (earlier : before.nodes.statusOf id = some .failed ∨
        ∃ counter, 0 < surplus before middle charges id counter) :
        before.nodes.statusOf id = some .failed ∨
          ∃ counter, 0 < surplus before after (charges ++ further) id counter := by
      rcases earlier with failed | ⟨counter, positive⟩
      · exact .inl failed
      · refine .inr ⟨counter, ?_⟩
        have := second.grows id counter
        rw [additive]
        omega
    rcases FailedIn.append.mp fails with early | late
    · exact harmed (first.harm id early)
    · rcases second.harm id late with failed | ⟨counter, positive⟩
      · exact harmed ((first.failed id failed).elim .inl (first.harm id))
      · refine .inr ⟨counter, ?_⟩
        have := first.grows id counter
        rw [additive]
        omega
  · rcases second.failed id failed with failed | fails
    · exact (first.failed id failed).imp_right fun fails => FailedIn.append.mpr (.inl fails)
    · exact .inr (FailedIn.append.mpr (.inr fails))

/-- Only the nodes and the history matter. -/
theorem recount {after' : Server} (moves : Moves before after writes charges)
    (nodes : after'.nodes = after.nodes) (history : after'.statusWrites = after.statusWrites) :
    Moves before after' writes charges := by
  have same : surplus before after' charges = surplus before after charges := by
    funext id counter
    rw [surplus, nodes, surplus]
  refine ⟨history.trans moves.history, ?_, ?_, ?_, ?_⟩
  · rw [same]
    exact moves.grows
  · rw [same]
    exact moves.cause
  · rw [same]
    exact moves.harm
  · rw [nodes]
    exact moves.failed

/-- A piece that sets no node to failed and leaves no surplus. -/
theorem quiet (history : after.statusWrites = before.statusWrites ++ writes)
    (working : ∀ id, ¬ FailedIn writes id)
    (even : ∀ id counter, surplus before after charges id counter = 0)
    (failed : ∀ id, after.nodes.statusOf id = some .failed →
      before.nodes.statusOf id = some .failed) : Moves before after writes charges where
  history := history
  grows id counter := (even id counter).ge
  cause id counter positive := absurd positive (even id counter).not_gt
  harm id fails := absurd fails (working id)
  failed id failing := .inl (failed id failing)

/-- The surplus of a node whose status stays and that is not charged. -/
theorem surplus_of_same {id : String} (same : after.nodes.statusOf id = before.nodes.statusOf id)
    (uncharged : ∀ counter, tally charges id counter = 0) (counter : Status) :
    surplus before after charges id counter = 0 := by
  rw [surplus, same, uncharged, sub_self, sub_self]

/-- A piece that changes no status and charges no node. -/
theorem unchanged (statuses : ∀ id, after.nodes.statusOf id = before.nodes.statusOf id)
    (history : after.statusWrites = before.statusWrites)
    (uncharged : ∀ id counter, tally charges id counter = 0) : Moves before after [] charges := by
  refine .quiet (history.trans (List.append_nil _).symm) not_failedIn_nil
    (fun id => surplus_of_same (statuses id) (uncharged id)) fun id failed => ?_
  rwa [statuses] at failed

theorem refl (s : Server) : Moves s s [] [] := .unchanged (fun _ => rfl) rfl fun _ _ => rfl

variable {id : String} {old : Status}

/-- **A node is set to failed.** Unless it was failed already, it gets a surplus. -/
theorem fails (known : before.nodes.statusOf id = some old)
    (statuses : ∀ j, after.nodes.statusOf j =
      if j = id then some .failed else before.nodes.statusOf j)
    (history : after.statusWrites = before.statusWrites ++ [{ nodeID := id, old, new := .failed }])
    (charged : ∀ charge ∈ charges, charge.account = id)
    (enough : ∀ counter, 0 ≤ tally charges id counter + Status.due (some old) counter)
    (more : old ≠ .failed →
      ∃ counter, 0 < tally charges id counter + Status.due (some old) counter) :
    Moves before after [{ nodeID := id, old, new := .failed }] charges := by
  have here (counter : Status) : surplus before after charges id counter =
      tally charges id counter + Status.due (some old) counter := by
    have none : Status.due (some .failed) counter = 0 := by cases counter <;> decide
    rw [surplus, statuses, if_pos rfl, known, none]
    omega
  have elsewhere {j : String} (ne : j ≠ id) (counter : Status) :
      surplus before after charges j counter = 0 := by
    refine surplus_of_same (by rw [statuses, if_neg ne]) (fun _ => tally_eq_zero ?_) counter
    exact fun charge mem same => ne (same.symm.trans (charged charge mem))
  have written : FailedIn [{ nodeID := id, old, new := .failed }] id :=
    failedIn_singleton.mpr ⟨rfl, rfl⟩
  refine ⟨history, fun j counter => ?_, fun j counter positive => ?_, fun j fails => ?_,
    fun j failed => ?_⟩
  · by_cases same : j = id
    · rw [same, here]
      exact enough counter
    · exact (elsewhere same counter).ge
  · by_cases same : j = id
    · exact same ▸ written
    · exact absurd positive (elsewhere same counter).not_gt
  · obtain ⟨rfl, _⟩ := failedIn_singleton.mp fails
    by_cases working : old = .failed
    · exact .inl (working ▸ known)
    · obtain ⟨counter, positive⟩ := more working
      exact .inr ⟨counter, by rw [here]; exact positive⟩
  · by_cases same : j = id
    · exact .inr (same ▸ written)
    · rw [statuses, if_neg same] at failed
      exact .inl failed

end Moves

/-! ## Assignments to statuses -/

section Assignments

variable {s : Server} {id : String}

theorem statusOf_fail {old : Status} (known : s.nodes.statusOf id = some old) (j : String) :
    (s.nodes.setStatus id .failed).statusOf j =
      if j = id then some .failed else s.nodes.statusOf j := by
  rw [Registry.statusOf_setStatus]
  by_cases same : j = id
  · rw [if_pos same, if_pos same, same, known, Option.map_some]
  · rw [if_neg same, if_neg same]

/-- The promotion of a standby node. -/
theorem moves_promote (standby : s.nodes.statusOf id = some .standby) (rank : Int) :
    Moves s (s.promote id rank) [{ nodeID := id, old := .standby, new := .active }]
      [⟨id, .active, 1⟩, ⟨id, .standby, -1⟩] := by
  have statuses (j : String) : (s.promote id rank).nodes.statusOf j =
      if j = id then some .active else s.nodes.statusOf j := by
    rw [Server.statusOf_promote]
    by_cases same : j = id
    · rw [if_pos same, if_pos same, same, standby, Option.map_some]
    · rw [if_neg same, if_neg same]
  refine .quiet (history_setStatus standby .active) (fun j fails => ?_) (fun j counter => ?_)
    fun j failed => ?_
  · cases (failedIn_singleton.mp fails).2
  · rw [surplus, statuses]
    by_cases same : j = id
    · rw [if_pos same, same, standby]
      cases counter <;> simp [Status.due]
    · rw [if_neg same]
      simp [Ne.symm same]
  · rw [statuses] at failed
    split at failed
    · cases failed
    · exact failed

/-- The marking of a node that did not answer. -/
theorem moves_markFailed {old : Status} (known : s.nodes.statusOf id = some old) :
    Moves s (s.markFailed id) [{ nodeID := id, old, new := .failed }]
      (StatusWrite.charges { nodeID := id, old, new := .failed }) := by
  have nodes : (s.markFailed id).nodes = s.nodes.setStatus id .failed := by
    rw [Server.markFailed, known]
    cases old <;> rfl
  have history : (s.markFailed id).statusWrites =
      s.statusWrites ++ [{ nodeID := id, old, new := .failed }] := by
    rw [← history_setStatus known .failed, Server.markFailed, known]
    cases old <;> rfl
  refine .fails known (fun j => by rw [nodes, statusOf_fail known]) history ?_ ?_ ?_
  · cases old <;> simp [StatusWrite.charges]
  · intro counter
    cases old <;> cases counter <;> simp [StatusWrite.charges, Status.due]
  · intro working
    cases old with
    | active => exact ⟨.failed, by simp [StatusWrite.charges, Status.due]⟩
    | standby => exact ⟨.standby, by simp [StatusWrite.charges, Status.due]⟩
    | failed => exact absurd rfl working

/-- The time-out of a node. -/
theorem moves_handleNodeTimeout {old : Status} (known : s.nodes.statusOf id = some old) :
    Moves s (s.handleNodeTimeout id) [{ nodeID := id, old, new := .failed }]
      [⟨id, .failed, 1⟩] := by
  have timedOut : s.handleNodeTimeout id =
      { s.setStatus id .failed with failedNodes := s.failedNodes + 1 } := by
    rw [Server.handleNodeTimeout_eq, if_pos (Registry.mem_iff_statusOf.mpr ⟨old, known⟩)]
  rw [timedOut]
  refine .fails known (statusOf_fail known) (history_setStatus known .failed) ?_ ?_ ?_
  · simp
  · intro counter
    cases old <;> cases counter <;> simp [Status.due]
  · exact fun _ => ⟨.failed, by simp [Status.due]⟩

end Assignments

/-! ## Reconfigurations -/

/-- The statuses and the counters change as charged for the assignments to statuses. -/
def Charged (before after : Server) : Prop :=
  ∃ writes : List StatusWrite, Moves before after writes (writes.flatMap StatusWrite.charges) ∧
    ∀ counter, after.counter counter =
      before.counter counter + total (writes.flatMap StatusWrite.charges) counter

namespace Charged

variable {setting : Setting} {round : Round} {before s after : Server}

/-- Nothing about statuses and counters changes. -/
theorem of_same (statuses : ∀ id, after.nodes.statusOf id = before.nodes.statusOf id)
    (history : after.statusWrites = before.statusWrites)
    (counters : ∀ counter, after.counter counter = before.counter counter) :
    Charged before after :=
  ⟨[], .unchanged statuses history fun _ _ => rfl,
    fun counter => (counters counter).trans (add_zero _).symm⟩

theorem refl (s : Server) : Charged s s := of_same (fun _ => rfl) rfl fun _ => rfl

theorem trans (first : Charged before s) (second : Charged s after) : Charged before after := by
  obtain ⟨writes, moves, counters⟩ := first
  obtain ⟨more, further, recounted⟩ := second
  refine ⟨writes ++ more, ?_, fun counter => ?_⟩
  · rw [List.flatMap_append]
    exact moves.trans further
  · rw [recounted, counters, List.flatMap_append, total_append, add_assoc]

/-- The assignment a promotion makes. -/
def promotion (id : String) : StatusWrite := { nodeID := id, old := .standby, new := .active }

theorem moves_promoteFrom (len i : Nat) {promoted : List String} (nodup : promoted.Nodup)
    (standby : ∀ id ∈ promoted, s.nodes.statusOf id = some .standby) :
    Moves s (s.promoteFrom len i promoted) (promoted.map promotion)
      ((promoted.map promotion).flatMap StatusWrite.charges) := by
  induction promoted generalizing len i s with
  | nil => exact .refl s
  | cons id rest ih =>
      rw [List.nodup_cons] at nodup
      have here := moves_promote (standby id List.mem_cons_self) (len + i)
      refine here.trans (ih (len + 1) (i + 1) nodup.2 fun j mem => ?_)
      have ne : j ≠ id := fun same => nodup.1 (same ▸ mem)
      rw [Server.statusOf_promote, if_neg ne]
      exact standby j (List.mem_cons_of_mem _ mem)

theorem total_promotions (promoted : List String) (counter : Status) :
    total ((promoted.map promotion).flatMap StatusWrite.charges) counter =
      (if .active = counter then (promoted.length : Int) else 0)
        - (if .standby = counter then (promoted.length : Int) else 0) := by
  induction promoted with
  | nil => simp
  | cons id rest ih =>
      rw [List.map_cons, List.flatMap_cons, total_append, ih, List.length_cons]
      cases counter <;> simp [promotion, StatusWrite.charges]
      omega

/-- The promotions of an attempt. -/
theorem prepared (s : Server) : Charged s (s.prepared setting round) := by
  refine ⟨(s.promotions setting round).map promotion, ?_, fun counter => ?_⟩
  · have promoted : Moves s (s.promoteFrom (s.activeList round).length 0
        (s.promotions setting round)) _ _ :=
      moves_promoteFrom _ 0 Server.nodup_promotions fun _ => Server.statusOf_of_mem_promotions
    exact promoted.recount rfl rfl
  · have kept := Server.counter_promoteFrom s (s.activeList round).length 0
      (s.promotions setting round) counter
    rw [total_promotions]
    cases counter <;> simp only [Server.counter] at kept ⊢ <;>
      simp only [Server.prepared, Server.countPromoted, kept, reduceCtorEq, if_true, if_false] <;>
      omega

theorem notified (s : Server) : Charged s (s.notified setting round) :=
  (prepared s).trans (of_same (fun id => Server.statusOf_notified id) rfl fun counter => by
    cases counter <;> rfl)

theorem markFailed (s : Server) (nodeURL : String) : Charged s (s.markFailed nodeURL) := by
  cases known : s.nodes.statusOf nodeURL with
  | none =>
      have same : s.markFailed nodeURL = s := by rw [Server.markFailed, known]
      rw [same]
      exact refl s
  | some old =>
      refine ⟨[{ nodeID := nodeURL, old, new := .failed }], ?_, fun counter => ?_⟩
      · rw [List.flatMap_singleton]
        exact moves_markFailed known
      · rw [List.flatMap_singleton, Server.markFailed, known]
        cases old <;> cases counter <;>
          simp [StatusWrite.charges, Server.counter, Server.setStatus]
        all_goals omega

theorem foldl_markFailed (urls : List String) (s : Server) :
    Charged s (urls.foldl Server.markFailed s) := by
  induction urls generalizing s with
  | nil => exact refl s
  | cons url rest ih => exact (markFailed s url).trans (ih _)

theorem marked (s : Server) : Charged s (s.marked setting round) :=
  (notified s).trans (foldl_markFailed _ _)

/-- **A call of `reconfigureCluster`** changes the counters as charged for its assignments. -/
theorem ends_reconfigure (setting : Setting) (rounds : Nat → Round) (clusterFree : Bool)
    (s : Server) :
    (s.reconfigure setting rounds clusterFree).Ends setting rounds clusterFree (Charged s) :=
  Server.reconfigureFrom_ends setting rounds clusterFree
    (fun _ _ charged _ _ => charged.trans (marked _)) maxAttempts 0
    (of_same (fun _ => rfl) rfl fun counter => by cases counter <;> rfl)

variable {rounds : Nat → Round} {clusterFree : Bool} {s' : Server}

theorem returned (returns : s.reconfigure setting rounds clusterFree = .returned s') :
    Charged s s' := by
  have ends := ends_reconfigure setting rounds clusterFree s
  rw [returns] at ends
  obtain ⟨last, attempt, charged, _, _, rfl⟩ := ends
  have told : Charged s (last.notified setting (rounds attempt)) := charged.trans (notified last)
  apply told.trans
  unfold Server.resumed
  split
  · exact of_same (fun _ => rfl) rfl fun counter => by cases counter <;> rfl
  · exact refl _

theorem stuck (sticks : s.reconfigure setting rounds clusterFree = .stuck s') : Charged s s' := by
  have ends := ends_reconfigure setting rounds clusterFree s
  rw [sticks] at ends
  obtain ⟨_, last, attempt, charged, rfl⟩ := ends
  exact charged.trans (notified last)

end Charged

/-! ## Other pieces of a step -/

section Pieces

variable {setting : Setting} {s : Server}

theorem account_departure {id : String} {status : Option Status} {charge : Charge String Status}
    (mem : charge ∈ departure id status) : charge.account = id := by
  rcases status with _ | _ | _ | _ <;> simp [departure] at mem <;> rw [mem]

/-- The departure of a node, with its charges. -/
theorem moves_leave {after : Server} {id : String}
    (statuses : ∀ j, after.nodes.statusOf j = if j = id then none else s.nodes.statusOf j)
    (history : after.statusWrites = s.statusWrites) :
    Moves s after [] (departure id (s.nodes.statusOf id)) := by
  refine .quiet (history.trans (List.append_nil _).symm) not_failedIn_nil (fun j counter => ?_)
    fun j failed => ?_
  · rw [surplus, statuses]
    by_cases same : j = id
    · rw [if_pos same, same]
      rcases s.nodes.statusOf id with _ | _ | _ | _ <;> cases counter <;>
        simp [departure, Status.due]
    · have uncharged : tally (departure id (s.nodes.statusOf id)) j counter = 0 := by
        exact tally_eq_zero fun charge mem account =>
          same (account.symm.trans (account_departure mem))
      rw [if_neg same, uncharged, sub_self, sub_self]
  · rw [statuses] at failed
    split at failed
    · cases failed
    · exact failed

theorem counter_departure (id : String) (counter : Status) :
    (s.removeDead id).counter counter =
      s.counter counter + total (departure id (s.nodes.statusOf id)) counter := by
  unfold Server.removeDead
  rcases s.nodes.statusOf id with _ | _ | _ | _ <;> cases counter <;>
    simp [departure, Server.counter, Server.countRemoved, Server.deleteNode]
  all_goals omega

/-- The departures of a cleanup. -/
theorem moves_foldl_removeDead {nodeIDs : List String} (nodup : nodeIDs.Nodup) (s : Server) :
    Moves s (nodeIDs.foldl Server.removeDead s) []
        (nodeIDs.flatMap fun id => departure id (s.nodes.statusOf id)) ∧
      ∀ counter, (nodeIDs.foldl Server.removeDead s).counter counter = s.counter counter +
        total (nodeIDs.flatMap fun id => departure id (s.nodes.statusOf id)) counter := by
  induction nodeIDs generalizing s with
  | nil =>
      exact ⟨.refl s, fun counter => (add_zero _).symm⟩
  | cons id rest ih =>
      rw [List.nodup_cons] at nodup
      have status (j : String) : (s.removeDead id).nodes.statusOf j =
          if j = id then none else s.nodes.statusOf j := by
        simpa using (Server.departed_removeDead (s := s) id).status j
      have history : (s.removeDead id).statusWrites = s.statusWrites := by
        unfold Server.removeDead
        rcases s.nodes.statusOf id with _ | _ | _ | _ <;> rfl
      have later : (rest.flatMap fun id' => departure id' ((s.removeDead id).nodes.statusOf id')) =
          rest.flatMap fun id' => departure id' (s.nodes.statusOf id') := by
        apply List.flatMap_congr
        intro j mem
        have ne : j ≠ id := fun same => nodup.1 (same ▸ mem)
        rw [status, if_neg ne]
      obtain ⟨moves, counters⟩ := ih nodup.2 (s.removeDead id)
      rw [later] at moves counters
      refine ⟨(moves_leave status history).trans moves, fun counter => ?_⟩
      rw [List.foldl_cons, counters, counter_departure, List.flatMap_cons, total_append, add_assoc]

/-- A cleanup sets no status. -/
theorem history_cleanedUp (setting : Setting) (now : Int) (order : Shuffle String) (s : Server) :
    (s.cleanedUp now setting order).statusWrites = s.statusWrites := by
  have nodup : (s.deadConnections setting now order).Nodup :=
    (order.nodup_apply s.health.keys_nodup).filter _
  obtain ⟨sessions, same, _⟩ :=
    Server.disconnected_foldl now (s.deadConnections setting now order) s
  rw [Server.cleanedUp, same]
  exact (moves_foldl_removeDead nodup { s with sessions }).1.history.trans (List.append_nil _)

/-- The time-outs of a health tick. -/
theorem moves_foldl_handleNodeTimeout (nodeIDs : List String) (s : Server) :
    ∃ writes : List StatusWrite,
      Moves s (nodeIDs.foldl (fun s nodeID => s.handleNodeTimeout nodeID) s) writes
          (writes.map StatusWrite.timeoutCharge) ∧
        ∀ counter, (nodeIDs.foldl (fun s nodeID => s.handleNodeTimeout nodeID) s).counter counter =
          s.counter counter + total (writes.map StatusWrite.timeoutCharge) counter := by
  induction nodeIDs generalizing s with
  | nil =>
      exact ⟨[], .refl s, fun counter => (add_zero _).symm⟩
  | cons id rest ih =>
      obtain ⟨writes, moves, counters⟩ := ih (s.handleNodeTimeout id)
      cases known : s.nodes.statusOf id with
      | none =>
          have unchanged : s.handleNodeTimeout id = s := by
            rw [Server.handleNodeTimeout_eq, if_neg]
            rw [Registry.mem_iff_statusOf, known]
            rintro ⟨_, found⟩
            cases found
          rw [List.foldl_cons, unchanged]
          rw [unchanged] at moves counters
          exact ⟨writes, moves, counters⟩
      | some old =>
          refine ⟨{ nodeID := id, old, new := .failed } :: writes,
            (moves_handleNodeTimeout known).trans moves, fun counter => ?_⟩
          rw [List.foldl_cons, counters, Server.handleNodeTimeout_eq,
            if_pos (Registry.mem_iff_statusOf.mpr ⟨old, known⟩), List.map_cons, total_cons]
          cases counter <;> simp [Server.counter, Server.setStatus, StatusWrite.timeoutCharge]
          omega

end Pieces

end C4D
