import C4D.Server.Charges

/-!
# Does a registration yield a usable node?

In every reachable state the charges of all steps add up to the counters
(`balanced`). While the registry is not blocked, a node has been charged for more
than its status asks for exactly if it was set to failed before: a failure stays
charged after the node has left and come back (`Sound`).

So a successful registration gives a usable node exactly if the node was never set
to failed before, by whatever path (`usable_iff`).
-/

set_option autoImplicit false

namespace C4D

open Foundations Charge

/-! ## What a step charges -/

section Step

variable {setting : Setting} {s s' : Server}

theorem written_drop {before after : Server} {writes : List StatusWrite}
    (history : after.statusWrites = before.statusWrites ++ writes) :
    after.statusWrites.drop before.statusWrites.length = writes := by
  rw [history, List.drop_left]

/-- A registry entry that stays is not charged for a departure. -/
theorem departures_of_same {nodeIDs : List String}
    (statuses : ∀ id, s'.nodes.statusOf id = s.nodes.statusOf id) :
    s.departures nodeIDs s' = [] := by
  apply List.flatMap_eq_nil_iff.mpr
  intro id _
  by_cases registered : id ∈ s'.nodes
  · rw [if_pos registered]
  · have unknown : s.nodes.statusOf id = none := by
      rw [← statuses, Registry.statusOf_eq_none, AList.lookup_eq_none]
      exact registered
    rw [if_neg registered, unknown]
    rfl

theorem departures_of_gone {nodeIDs : List String}
    (gone : ∀ id ∈ nodeIDs, s'.nodes.statusOf id = none) :
    s.departures nodeIDs s' = nodeIDs.flatMap fun id => departure id (s.nodes.statusOf id) := by
  refine List.flatMap_congr fun id mem => if_neg ?_
  rw [← AList.lookup_eq_none, ← Registry.statusOf_eq_none]
  exact gone id mem

theorem Kept.counter (kept : Kept s s') (status : Status) :
    s'.counter status = s.counter status := by
  cases status with
  | active => exact congrArg Membership.activeNodes kept.membership
  | standby => exact congrArg Membership.standbyNodes kept.membership
  | failed => exact congrArg Membership.failedNodes kept.membership

/-- A step that keeps the members charges nothing. -/
theorem charges_of_kept (setting : Setting) (kept : Kept s s') (a : Action) (id : String)
    (counter : Status) :
    total (a.charges setting s s') counter = 0 ∧ tally (a.charges setting s s') id counter = 0 := by
  have counters : s'.counter counter - s.counter counter = 0 :=
    sub_eq_zero.mpr (kept.counter counter)
  have own (nodeID : String) : total (s.ownCharges nodeID s') counter = 0 ∧
      tally (s.ownCharges nodeID s') id counter = 0 := by
    rw [total_ownCharges, tally_ownCharges, counters, ite_self]
    exact ⟨rfl, rfl⟩
  have silent : s'.statusWrites.drop s.statusWrites.length = [] := by
    rw [kept.history, List.drop_length]
  have gone (nodeIDs : List String) : s.departures nodeIDs s' = [] :=
    departures_of_same fun id => by rw [kept.nodes]
  cases a with
  | register req now round => exact own req.nodeId
  | notifyFailure req => exact own req.nodeId
  | sendHeartbeat req now => exact ⟨rfl, rfl⟩
  | sendMetrics req order => exact ⟨rfl, rfl⟩
  | healthTick now order =>
      rw [Action.charges, silent]
      exact ⟨rfl, rfl⟩
  | cleanupTick now order =>
      rw [Action.charges, gone]
      exact ⟨rfl, rfl⟩
  | removeNode nodeID rounds =>
      rw [Action.charges, silent, gone]
      exact ⟨rfl, rfl⟩
  | reconfigure rounds =>
      rw [Action.charges, silent]
      exact ⟨rfl, rfl⟩

/-- The charges of a step are its changes of the counters, and unless the registry is blocked
afterwards they move the nodes. -/
structure Accounts (setting : Setting) (w : World) (a : Action) (w' : World) : Prop where
  balanced : ∀ counter, w'.data.counter counter =
    w.data.counter counter + total (a.charges setting w.data w'.data) counter
  moves : w'.locks .registryMu = .free →
    ∃ writes, Moves w.data w'.data writes (a.charges setting w.data w'.data)

theorem Accounts.of_moves {a : Action} {writes : List StatusWrite}
    {charges : List (Charge String Status)} {locks locks' : Lock → RWMutex}
    (same : a.charges setting s s' = charges)
    (balanced : ∀ counter, s'.counter counter = s.counter counter + total charges counter)
    (moves : Moves s s' writes charges) : Accounts setting ⟨s, locks⟩ a ⟨s', locks'⟩ := by
  subst same
  exact ⟨balanced, fun _ => ⟨writes, moves⟩⟩

/-- A node is admitted and registered. -/
theorem moves_admitted {id : String} {status : Status}
    (statuses : ∀ j, s'.nodes.statusOf j = if j = id then some status else s.nodes.statusOf j)
    (unregistered : s.nodes.statusOf id = none) (working : status ≠ .failed)
    (history : s'.statusWrites = s.statusWrites)
    (counters : ∀ counter, s'.counter counter =
      s.counter counter + if status = counter then 1 else 0) :
    Moves s s' [] (s.ownCharges id s') := by
  refine .quiet (history.trans (List.append_nil _).symm) not_failedIn_nil (fun j counter => ?_)
    fun j failed => ?_
  · rw [surplus, statuses, tally_ownCharges, counters]
    by_cases same : j = id
    · rw [if_pos same.symm, if_pos same, same, unregistered]
      cases status <;> cases counter <;> simp [Status.due] at working ⊢
    · rw [if_neg same, if_neg (Ne.symm same), sub_self, sub_self]
  · rw [statuses] at failed
    split at failed
    · exact absurd (Option.some.inj failed) working
    · exact failed

/-- A failure that is reported. -/
theorem moves_failedOver {id : String} {status : Status} (known : s.nodes.statusOf id = some status)
    (working : status ≠ .failed) (nodes : s'.nodes = (s.failedOver id status).nodes)
    (history : s'.statusWrites = (s.failedOver id status).statusWrites)
    (counters : ∀ counter, s'.counter counter = (s.failedOver id status).counter counter) :
    Moves s s' [{ nodeID := id, old := status, new := .failed }] (s.ownCharges id s') := by
  have here (counter : Status) : tally (s.ownCharges id s') id counter =
      (s.failedOver id status).counter counter - s.counter counter := by
    rw [tally_ownCharges, if_pos rfl, counters]
  refine .fails known (fun j => ?_) (history.trans ?_) (fun charge mem => ?_) (fun counter => ?_)
    fun _ => ⟨.failed, ?_⟩
  · rw [nodes, Server.statusOf_failedOver]
    by_cases same : j = id
    · rw [if_pos same, if_pos same, same, known, Option.map_some]
    · rw [if_neg same, if_neg same]
  · rw [← history_setStatus known .failed]
    cases status <;> rfl
  · obtain ⟨_, _, rfl⟩ := List.mem_map.mp mem
    rfl
  · rw [here]
    cases status <;> cases counter <;>
      simp [Server.failedOver, Server.failNode, Server.counter, Server.setStatus, Status.due]
  · rw [here]
    cases status <;>
      simp [Server.failedOver, Server.failNode, Server.counter, Server.setStatus, Status.due]
        at working ⊢

variable {req : RegisterRequest} {now : Int} {status : Status} {rank : Int} {counted : Server}

theorem history_of_admits
    (admits : (s.captureMaster req).admitNode setting = (.ok (status, rank), counted)) :
    counted.statusWrites = s.statusWrites := by
  have captured : (s.captureMaster req).statusWrites = s.statusWrites :=
    (kept_captureMaster req).history
  rcases Server.admitted_of_admits admits with _ | _ <;> exact captured

theorem history_enrolled :
    (counted.enrolled req now status rank).statusWrites = counted.statusWrites := by
  obtain ⟨_, _, same⟩ := Server.enrolled_eq counted req now status rank
  rw [same]

theorem counter_enrolled (counter : Status) :
    (counted.enrolled req now status rank).counter counter = counted.counter counter := by
  obtain ⟨_, _, same⟩ := Server.enrolled_eq counted req now status rank
  rw [same]
  cases counter <;> rfl

/-- The registration of a node, whatever is started with it. -/
theorem moves_enrolled {locks : Lock → RWMutex}
    (enrolls : Enrolls setting s locks req status rank counted) (attended : Attended s)
    (nodes : ∀ j, s'.nodes.statusOf j =
      (counted.enrolled req now status rank).nodes.statusOf j)
    (history : s'.statusWrites = (counted.enrolled req now status rank).statusWrites)
    (counters : ∀ counter, s'.counter counter =
      (counted.enrolled req now status rank).counter counter) :
    Moves s s' [] (s.ownCharges req.nodeId s') := by
  have counts := Server.counted_of_admits enrolls.admitted
  refine moves_admitted (fun j => (nodes j).trans (Server.statusOf_enrolled req now counts j))
    (enrolls.unregistered attended) counts.working ?_ fun counter => ?_
  · rw [history, history_enrolled, history_of_admits enrolls.admitted]
  · rw [counters, counter_enrolled, counts.counter]

/-- The removal of a node and the reconfiguration after it. -/
theorem accounts_removed {nodeID : String} {status : Status} {rounds : Nat → Round}
    {locks locks' : Lock → RWMutex} (known : s.nodes.statusOf nodeID = some status)
    (charged : Charged (s.removed nodeID status) s')
    (ids : AList.keys s'.nodes = AList.keys (s.removed nodeID status).nodes) :
    Accounts setting ⟨s, locks⟩ (.removeNode nodeID rounds) ⟨s', locks'⟩ := by
  have statuses (j : String) : (s.removed nodeID status).nodes.statusOf j =
      if j = nodeID then none else s.nodes.statusOf j := by
    rw [Server.removed, Server.statusOf_deleteNode, Server.nodes_countRemoved]
  have leaves : Moves s (s.removed nodeID status) [] (departure nodeID (s.nodes.statusOf nodeID)) :=
    moves_leave statuses (by cases status <;> rfl)
  have counters (counter : Status) : (s.removed nodeID status).counter counter =
      s.counter counter + total (departure nodeID (s.nodes.statusOf nodeID)) counter := by
    have same := counter_departure (s := { s with current := .reconfiguring }) nodeID counter
    unfold Server.removeDead at same
    simp only [known] at same
    rw [known]
    apply same.trans
    cases counter <;> rfl
  obtain ⟨writes, moves, recounted⟩ := charged
  have all := leaves.trans moves
  have gone : s'.nodes.statusOf nodeID = none := by
    by_contra registered
    rw [← ne_eq, Registry.statusOf_ne_none, ids, ← Registry.statusOf_ne_none, statuses,
      if_pos rfl] at registered
    exact registered rfl
  have left : s.departures [nodeID] s' = departure nodeID (s.nodes.statusOf nodeID) := by
    rw [departures_of_gone fun id mem => by rw [List.mem_singleton.mp mem]; exact gone,
      List.flatMap_singleton]
  have same : (Action.removeNode nodeID rounds).charges setting s s' =
      departure nodeID (s.nodes.statusOf nodeID) ++ writes.flatMap StatusWrite.charges := by
    rw [Action.charges, left, written_drop all.history]
    rfl
  refine .of_moves same (fun counter => ?_) all
  rw [total_append, recounted, counters, add_assoc]

/-- A reconfiguration. -/
theorem accounts_reconfigured {rounds : Nat → Round} {locks locks' : Lock → RWMutex}
    (charged : Charged s s') : Accounts setting ⟨s, locks⟩ (.reconfigure rounds) ⟨s', locks'⟩ := by
  obtain ⟨writes, moves, counters⟩ := charged
  refine .of_moves ?_ counters moves
  rw [Action.charges, written_drop moves.history]

theorem Charged.of_scheduled : Charged s s.scheduled :=
  .of_same (fun _ => rfl) rfl fun counter => by cases counter <;> rfl

/-- A cleanup. -/
theorem accounts_cleanedUp {locks : Lock → RWMutex} (now : Int) (order : Shuffle String) :
    Accounts setting ⟨s, locks⟩ (.cleanupTick now order)
      ⟨s.cleanedUp now setting order, locks⟩ := by
  have nodup : (s.deadConnections setting now order).Nodup :=
    (order.nodup_apply s.health.keys_nodup).filter _
  obtain ⟨departed, _⟩ := Server.departed_cleanedUp (s := s) setting now order
  obtain ⟨sessions, same, _⟩ :=
    Server.disconnected_foldl now (s.deadConnections setting now order) s
  obtain ⟨moves, counters⟩ := moves_foldl_removeDead nodup { s with sessions }
  have cleaned : s.cleanedUp now setting order =
      (s.deadConnections setting now order).foldl Server.removeDead { s with sessions } := by
    rw [Server.cleanedUp, same]
  rw [← cleaned] at moves counters
  have absent : ∀ id ∈ s.deadConnections setting now order,
      (s.cleanedUp now setting order).nodes.statusOf id = none := by
    intro id mem
    rw [departed.status, if_pos mem]
  have gone := departures_of_gone (s := s) absent
  refine .of_moves gone (fun counter => ?_) ⟨moves.history, moves.grows, moves.cause, moves.harm,
    moves.failed⟩
  rw [counters]
  cases counter <;> rfl

/-- What is charged for a request to the node it is about balances. -/
theorem balanced_ownCharges (nodeID : String) (counter : Status) :
    s'.counter counter = s.counter counter + total (s.ownCharges nodeID s') counter := by
  rw [total_ownCharges]
  omega

/-- **Every step accounts for what it does.** -/
theorem Accounts.effect {w w' : World} {a : Action} {ending : Ending} (attended : Attended w.data)
    (ends : ending = .returned ∨ ending = .blocked) (effect : Effect setting w a ending w') :
    Accounts setting w a w' := by
  have unmoved {s s' : Server} {locks : Lock → RWMutex} (a : Action) (kept : Kept s s') :
      Accounts setting ⟨s, locks⟩ a ⟨s', locks⟩ := by
    have none := charges_of_kept setting kept a
    refine .of_moves rfl (fun counter => ?_)
      (.unchanged (fun id => by rw [kept.nodes]) kept.history fun id counter => (none id counter).2)
    rw [(none "" counter).1, add_zero, kept.counter]
  cases effect with
  | kept a kept => exact unmoved a kept
  | waiting a l held kept => exact unmoved a kept
  | exited a reconfigures => rcases ends with ends | ends <;> cases ends
  | panicked req order crashes => rcases ends with ends | ends <;> cases ends
  | counted req now round status rank held accepting fresh admitted =>
      exact ⟨balanced_ownCharges _, fun free => absurd free held⟩
  | enrolled req now round status rank enrolls ending ends =>
      exact ⟨balanced_ownCharges _, fun _ => ⟨_, moves_enrolled enrolls attended (fun _ => rfl) rfl
        fun _ => rfl⟩⟩
  | startFailed req now round status rank enrolls complete =>
      exact ⟨balanced_ownCharges _, fun _ => ⟨_, moves_enrolled enrolls attended
        (Server.statusOf_started _ round) rfl fun counter => by cases counter <;> rfl⟩⟩
  | started req now round status rank enrolls complete enough =>
      exact ⟨balanced_ownCharges _, fun _ => ⟨_, moves_enrolled enrolls attended
        (Server.statusOf_started _ round) rfl fun counter => by cases counter <;> rfl⟩⟩
  | leaked req status registryFree known working refused =>
      refine ⟨balanced_ownCharges _, fun free => ?_⟩
      exact absurd free (by simp [RWMutex.written_ne_free])
  | failedOver req status registryFree known working accepted =>
      exact ⟨balanced_ownCharges _, fun _ => ⟨_, moves_failedOver known working rfl rfl
        fun counter => by cases counter <;> rfl⟩⟩
  | @timedOut s _ now order registryFree =>
      obtain ⟨writes, moves, counters⟩ :=
        moves_foldl_handleNodeTimeout (s.timeouts now setting order) s
      refine .of_moves ?_ (fun counter => ?_) (moves.recount rfl rfl)
      · exact congrArg (List.map _) (written_drop moves.history)
      · rw [← counters]
        cases counter <;> rfl
  | @cleanedUp s _ now order registryFree =>
      exact accounts_cleanedUp now order
  | removedInactive nodeID rounds status clusterFree known accepted inactive =>
      exact accounts_removed known (.refl _) rfl
  | removedActive nodeID rounds clusterFree known accepted returns =>
      exact accounts_removed known (.returned returns) (Server.returned_of_reconfigure returns).ids
  | removedStuck nodeID rounds clusterFree known accepted sticks =>
      exact accounts_removed known (.stuck sticks) (Server.underway_of_stuck sticks).2.ids
  | reconfigured rounds spawned accepted returns =>
      have scheduled := Charged.of_scheduled.trans (.returned returns)
      exact accounts_reconfigured (scheduled.trans
        (.of_same (fun _ => rfl) rfl fun counter => by cases counter <;> rfl))
  | reconfigureStuck rounds spawned accepted sticks =>
      exact accounts_reconfigured (Charged.of_scheduled.trans (.stuck sticks))

end Step

/-! ## Audits -/

/-- A world with the charges of all steps that led to it. -/
structure Audit where
  world : World
  ledger : List (Charge String Status)

/-- The charges of a step are added to the ledger. -/
def Audit.next (setting : Setting) (c : Audit) (a : Action) : Option Audit :=
  (c.world.next setting a).map fun w =>
    ⟨w, c.ledger ++ a.charges setting c.world.data w.data⟩

/-- The server started under a setting, with its ledger. -/
def Setting.audit (setting : Setting) : System Audit Action where
  init c := c = ⟨World.new setting, []⟩
  next := Audit.next setting

variable {setting : Setting}

theorem Audit.next_eq_some {c c' : Audit} {a : Action} :
    c.next setting a = some c' ↔ c.world.next setting a = some c'.world ∧
      c'.ledger = c.ledger ++ a.charges setting c.world.data c'.world.data := by
  rw [Audit.next, Option.map_eq_some_iff]
  constructor
  · rintro ⟨w, next, rfl⟩
    exact ⟨next, rfl⟩
  · rintro ⟨next, same⟩
    exact ⟨c'.world, next, by rw [← same]⟩

/-- An audit watches a run of the server. -/
theorem Audit.reachable {c : Audit} (run : setting.audit.Reachable c) :
    setting.system.Reachable c.world := by
  induction run with
  | start initial => exact .start (congrArg Audit.world initial)
  | step a _ _ next ih => exact .step a ih trivial (Audit.next_eq_some.mp next).1

/-- Every run of the server has its audit. -/
theorem exists_audit {w : World} (reachable : setting.system.Reachable w) :
    ∃ ledger, setting.audit.Reachable ⟨w, ledger⟩ := by
  induction reachable with
  | start initial => exact ⟨[], .start (congrArg (Audit.mk · []) initial)⟩
  | @step w w' a _ _ next ih =>
      obtain ⟨ledger, run⟩ := ih
      have audits : (Audit.mk w ledger).next setting a =
          some ⟨w', ledger ++ a.charges setting w.data w'.data⟩ :=
        Audit.next_eq_some.mpr ⟨next, rfl⟩
      exact ⟨_, .step a run trivial audits⟩

namespace Audit

/-- What a node is charged for beyond what its status asks for. -/
def excess (c : Audit) (id : String) (counter : Status) : Int :=
  tally c.ledger id counter - Status.due (c.world.data.nodes.statusOf id) counter

/-- A node is charged for more than its status asks for exactly if it was set to failed. -/
structure Explained (c : Audit) : Prop where
  grows : ∀ id counter, 0 ≤ c.excess id counter
  harmed : ∀ id, FailedIn c.world.data.statusWrites id ↔ ∃ counter, 0 < c.excess id counter
  failed : ∀ id, c.world.data.nodes.statusOf id = some .failed →
    FailedIn c.world.data.statusWrites id

/-- The ledger gives the counters, and while the registry is not blocked it gives the failures. -/
structure Sound (c : Audit) : Prop where
  balanced : ∀ counter, c.world.data.counter counter = total c.ledger counter
  explained : c.world.locks .registryMu = .free → c.Explained

theorem sound_new (setting : Setting) : Sound ⟨World.new setting, []⟩ where
  balanced counter := by cases counter <;> rfl
  explained _ := by
    have none (id : String) (counter : Status) : excess ⟨World.new setting, []⟩ id counter = 0 := by
      cases counter <;> rfl
    have unwritten : ∀ id, ¬ FailedIn (World.new setting).data.statusWrites id :=
      not_failedIn_nil
    refine ⟨fun id counter => (none id counter).ge, fun id => ⟨fun fails => ?_, ?_⟩,
      fun id failed => ?_⟩
    · exact absurd fails (unwritten id)
    · rintro ⟨counter, positive⟩
      exact absurd positive (none id counter).not_gt
    · cases failed

variable {c c' : Audit} {a : Action}

/-- A step adds its surplus to the excess of every node. -/
theorem excess_step {charges : List (Charge String Status)}
    (ledger : c'.ledger = c.ledger ++ charges) (id : String) (counter : Status) :
    c'.excess id counter =
      c.excess id counter + surplus c.world.data c'.world.data charges id counter := by
  rw [excess, excess, surplus, ledger, tally_append]
  omega

theorem Explained.step (explained : c.Explained) {writes : List StatusWrite}
    (moves : Moves c.world.data c'.world.data writes
      (a.charges setting c.world.data c'.world.data))
    (ledger : c'.ledger = c.ledger ++ a.charges setting c.world.data c'.world.data) :
    c'.Explained := by
  have adds := excess_step ledger
  refine ⟨fun id counter => ?_, fun id => ⟨fun fails => ?_, ?_⟩, fun id failed => ?_⟩
  · have := explained.grows id counter
    have := moves.grows id counter
    rw [adds]
    omega
  · have earlier (past : FailedIn c.world.data.statusWrites id) :
        ∃ counter, 0 < c'.excess id counter := by
      obtain ⟨counter, positive⟩ := (explained.harmed id).mp past
      have := moves.grows id counter
      refine ⟨counter, ?_⟩
      rw [adds]
      omega
    rw [moves.history, FailedIn.append] at fails
    rcases fails with past | now
    · exact earlier past
    · rcases moves.harm id now with failed | ⟨counter, positive⟩
      · exact earlier (explained.failed id failed)
      · have := explained.grows id counter
        refine ⟨counter, ?_⟩
        rw [adds]
        omega
  · rintro ⟨counter, positive⟩
    rw [adds] at positive
    rw [moves.history, FailedIn.append]
    by_cases past : 0 < c.excess id counter
    · exact .inl ((explained.harmed id).mpr ⟨counter, past⟩)
    · have := explained.grows id counter
      exact .inr (moves.cause id counter (by omega))
  · rw [moves.history, FailedIn.append]
    exact (moves.failed id failed).imp_left (explained.failed id)

/-- The registry lock is never released once it is left held. -/
theorem registryFree_of_effect {w w' : World} {ending : Ending}
    (effect : Effect setting w a ending w') (ends : ending = .returned ∨ ending = .blocked)
    (free : w'.locks .registryMu = .free) :
    w.locks .registryMu = .free := by
  cases effect with
  | exited a reconfigures => rcases ends with ends | ends <;> cases ends
  | panicked req order crashes => rcases ends with ends | ends <;> cases ends
  | leaked req status registryFree known working refused => exact registryFree
  | removedStuck nodeID rounds clusterFree known accepted sticks => exact free
  | _ => exact free

/-- **In every reachable state the ledger is sound.** -/
theorem sound_of_reachable (run : setting.audit.Reachable c) : c.Sound := by
  refine run.inductOver (I := Sound) (J := fun c => setting.system.Reachable c.world)
    (fun c run => Audit.reachable run) (fun c initial => ?_) fun c a c' reachable sound _ next => ?_
  · rw [show c = ⟨World.new setting, []⟩ from initial]
    exact sound_new setting
  · obtain ⟨next, ledger⟩ := next_eq_some.mp next
    obtain ⟨ending, ends, effect⟩ :=
      World.effect_of_next (setting.settled_of_reachable reachable) next
    have accounts := Accounts.effect (setting.attended_of_reachable reachable) ends effect
    refine ⟨fun counter => ?_, fun free => ?_⟩
    · rw [accounts.balanced, ledger, total_append, sound.balanced]
    · obtain ⟨writes, moves⟩ := accounts.moves free
      exact (sound.explained (registryFree_of_effect effect ends free)).step moves ledger

end Audit

/-! ## A successful registration -/

/-- A registered node has a status and a fresh health entry with this status. -/
structure Served (before : Server) (nodeID : String) (now : Int) (after : Server) : Prop where
  registered : ∃ status, after.nodes.statusOf nodeID = some status ∧
    after.health.lookup nodeID = some { lastHeartbeat := now, status }
  history : after.statusWrites = before.statusWrites

section Success

variable {s counted : Server} {locks : Lock → RWMutex} {req : RegisterRequest} {now : Int}
  {status : Status} {rank : Int} (round : Round)

theorem served_enrolled
    (admitted : (s.captureMaster req).admitNode setting = (.ok (status, rank), counted)) :
    Served s req.nodeId now (counted.enrolled req now status rank) where
  registered := by
    obtain ⟨_, _, same⟩ := Server.enrolled_eq counted req now status rank
    refine ⟨status, ?_, ?_⟩
    · rw [Server.statusOf_enrolled req now (Server.counted_of_admits admitted), if_pos rfl]
    · rw [same]
      exact AList.lookup_insert _
  history := history_enrolled.trans (history_of_admits admitted)

theorem Served.started {after : Server} (served : Served s req.nodeId now after) :
    Served s req.nodeId now (after.started round) where
  registered := by
    obtain ⟨status, registered, fresh⟩ := served.registered
    exact ⟨status, (Server.statusOf_started after round req.nodeId).trans registered, fresh⟩
  history := served.history

theorem served_reconnected {node : NodeState} (registered : s.nodes.lookup req.nodeId = some node) :
    Served s req.nodeId now ((s.captureMaster req).reconnected req now node) where
  registered := by
    refine ⟨node.status, ?_, AList.lookup_insert _⟩
    rw [(kept_reconnected req now node).nodes]
    exact Registry.statusOf_of_lookup registered
  history := (kept_reconnected req now node).history

/-- **A successful registration** leaves a registered node with a fresh health entry. -/
theorem served_of_register (settled : Settled ⟨s, locks⟩) {response : RegisterResponse} {w : World}
    (run : (register setting req now round).run ⟨s, locks⟩ = .ok (.ok response) w) :
    w.locks .registryMu = .free ∧ Served s req.nodeId now w.data := by
  have ends := register_ends setting settled req now round
  rw [run] at ends
  cases ends with
  | reconnected response accepting registryFree found registered =>
      exact ⟨registryFree, served_reconnected registered⟩
  | enrolled response enrolls incomplete =>
      exact ⟨enrolls.registryFree, served_enrolled enrolls.admitted⟩
  | short response enrolls complete clusterFree few =>
      exact ⟨enrolls.registryFree, served_enrolled enrolls.admitted⟩
  | @started status rank counted response enrolls complete clusterFree enough =>
      have served : Served s req.nodeId now (counted.enrolled req now status rank) :=
        served_enrolled enrolls.admitted
      exact ⟨enrolls.registryFree, (served.started round).registered,
        (served.started round).history⟩

end Success

/-! ## Usable nodes -/

/-- The node is active or standby, its health entry is fresh and not failed, and it is counted
once, in the counter of its status. -/
def Audit.Usable (c : Audit) (nodeID : String) (now : Int) : Prop :=
  ∃ status, (status = .active ∨ status = .standby) ∧
    c.world.data.nodes.statusOf nodeID = some status ∧
    (∃ health, c.world.data.health.lookup nodeID = some health ∧ health.lastHeartbeat = now ∧
      health.status ≠ .failed) ∧
    ∀ counter, tally c.ledger nodeID counter = if counter = status then 1 else 0

theorem Status.due_of_working {status : Status} (working : status ≠ .failed) (counter : Status) :
    Status.due (some status) counter = if counter = status then 1 else 0 := by
  cases status <;> cases counter <;> simp [Status.due] at working ⊢

/-- A node with a fresh health entry is usable exactly if it was never set to failed. -/
theorem Audit.Explained.usable {c : Audit} (explained : c.Explained) {before : Server}
    {nodeID : String} {now : Int} (served : Served before nodeID now c.world.data) :
    c.Usable nodeID now ↔ ¬ FailedIn before.statusWrites nodeID := by
  rw [← served.history, explained.harmed]
  constructor
  · rintro ⟨status, works, registered, _, counted⟩ ⟨counter, positive⟩
    have working : status ≠ .failed := by rcases works with rfl | rfl <;> decide
    rw [excess, registered, counted, Status.due_of_working working] at positive
    omega
  · intro even
    obtain ⟨status, registered, fresh⟩ := served.registered
    have working : status ≠ .failed := fun failed =>
      even ((explained.harmed nodeID).mp (explained.failed nodeID (failed ▸ registered)))
    refine ⟨status, ?_, registered, ⟨_, fresh, rfl, working⟩, fun counter => ?_⟩
    · cases status with
      | active => exact .inl rfl
      | standby => exact .inr rfl
      | failed => exact absurd rfl working
    · have nonneg := explained.grows nodeID counter
      have none : ¬ 0 < c.excess nodeID counter := fun positive => even ⟨counter, positive⟩
      rw [excess, registered, Status.due_of_working working] at nonneg none
      omega

/-- **A registration yields a usable node exactly if the node was never set to failed before.**
In every reachable state, after `Register` returned success the charges of all steps add up to the
counters, and the node is usable if and only if no step before set it to failed. -/
theorem usable_iff {c : Audit} (reachable : setting.audit.Reachable c) (req : RegisterRequest)
    (now : Int) (round : Round) {response : RegisterResponse} {w : World}
    (success : (register setting req now round).run c.world = .ok (.ok response) w) :
    ∃ c', c.next setting (.register req now round) = some c' ∧ c'.world = w ∧
      (∀ counter, w.data.counter counter = total c'.ledger counter) ∧
      (c'.Usable req.nodeId now ↔ ¬ FailedIn c.world.data.statusWrites req.nodeId) := by
  have steps : c.world.next setting (.register req now round) = some w := by
    have enabled : Action.enabled c.world.data (.register req now round) := trivial
    rw [World.next, if_pos enabled, Action.run, World.run_of_ok success]
  let c' : Audit :=
    ⟨w, c.ledger ++ Action.charges setting c.world.data w.data (.register req now round)⟩
  have next : c.next setting (.register req now round) = some c' :=
    Audit.next_eq_some.mpr ⟨steps, rfl⟩
  have sound : c'.Sound := Audit.sound_of_reachable (.step _ reachable trivial next)
  obtain ⟨registryFree, served⟩ := served_of_register round
    (setting.settled_of_reachable (Audit.reachable reachable)) success
  exact ⟨c', next, rfl, sound.balanced, (sound.explained registryFree).usable served⟩

/-- The first node that registers. -/
theorem usable_iff_first : ∃ c',
    (Audit.mk (World.new smallSetting) []).next smallSetting (enlist "a.ns.1" "http://a.ns:1") =
      some c' ∧ c'.Usable "a.ns.1" 0 := by
  have free (l : Lock) : (World.new smallSetting).locks l = .free := rfl
  have start : smallSetting.audit.Reachable ⟨World.new smallSetting, []⟩ := .start rfl
  have admitted : ((Server.new smallSetting).captureMaster
      ⟨"a.ns.1", "http://a.ns:1", "master", "29500"⟩).admitNode smallSetting =
        (.ok (.active, 0), _) := rfl
  obtain ⟨response, run⟩ := registerNew_run_enrolled smallSetting
    ⟨"a.ns.1", "http://a.ns:1", "master", "29500"⟩ 0 (.except []) (free _) admitted (free _)
    (free _) (free _) (by decide)
  obtain ⟨c', next, _, _, usable⟩ := usable_iff start
    ⟨"a.ns.1", "http://a.ns:1", "master", "29500"⟩ 0 (.except [])
    ((register_run_fresh smallSetting _ 0 (.except []) (free _) (free _) (.inl rfl) rfl).trans run)
  exact ⟨c', next, usable.mpr (not_failedIn_nil _)⟩

/-- A node that misses its heartbeats is failed, registers again with success, and stays failed. -/
theorem register_failed_node : ∃ c, smallSetting.audit.Reachable c ∧
    c.world.data.current = .running ∧
    ∃ response w, (register smallSetting ⟨"a.ns.1", "http://a.ns:1", "master", "29500"⟩ 10
        (.except [])).run c.world = .ok (.ok response) w ∧
      w.data.nodes.statusOf "a.ns.1" = some .failed ∧
      ∀ c' : Audit, c'.world = w → ¬ c'.Usable "a.ns.1" 10 := by
  let late : Action := .healthTick 10 .inOrder
  obtain ⟨c, reachable, holds⟩ := System.exists_reachable (S := smallSetting.audit)
    (gathering ++ [late]) (fun c => c.world.data.current = .running ∧
      c.world.data.nodes.statusOf "a.ns.1" = some .failed ∧
      "a.ns.1" ∈ c.world.data.sessions ∧ c.world.locks .registryMu = .free) rfl (by decide +kernel)
  obtain ⟨running, failed, session, registryFree⟩ := of_decide_eq_true holds
  have settled := smallSetting.settled_of_reachable (Audit.reachable reachable)
  obtain ⟨session, connected⟩ := Table.mem_iff_exists_lookup.mp session
  obtain ⟨node, registered, _⟩ := Registry.statusOf_eq_some.mp failed
  obtain ⟨response, run⟩ := register_run_reconnected smallSetting
    ⟨"a.ns.1", "http://a.ns:1", "master", "29500"⟩ 10 (.except []) settled.stateFree
    settled.sessionFree (.inr running) connected registryFree registered
  have kept := kept_reconnected (s := c.world.data)
    ⟨"a.ns.1", "http://a.ns:1", "master", "29500"⟩ 10 node
  have stays := failed
  rw [← kept.nodes] at stays
  refine ⟨c, reachable, running, response, _, run, stays, fun c' same usable => ?_⟩
  obtain ⟨status, works, known, _⟩ := usable
  rw [same] at known
  cases stays.symm.trans known
  rcases works with works | works <;> cases works

end C4D
