import C4D.Server.Attempt

/-!
# The accounting of a reconfiguration

A call of `reconfigureCluster` that runs alone keeps the nodes, their URLs, the
health entries and the sessions, and moves the counters as it moves the nodes
(`Accounted`). Its assignments to node statuses form a chain of promotions and
failures (`StatusRun`).

A node that did not answer is looked up under its URL. When no id is the URL of
another node the lookup can only find that node itself, which is active, so a
marking is the failure of an active node and every drift is kept
(`Accounted.marked`).
-/

set_option autoImplicit false

namespace C4D

open Foundations

/-- No node has the URL of another node as its id. -/
def Registry.Unaliased (nodes : Registry) : Prop :=
  ∀ id j, id ∈ nodes → j ∈ nodes → nodes.urlOf j = id → j = id

instance (nodes : Registry) : Decidable nodes.Unaliased :=
  decidable_of_iff (∀ id ∈ AList.keys nodes, ∀ j ∈ AList.keys nodes, nodes.urlOf j = id → j = id)
    ⟨fun all id j memId memJ => all id (AList.mem_keys.mpr memId) j (AList.mem_keys.mpr memJ),
      fun all id memId j memJ => all id j (AList.mem_keys.mp memId) (AList.mem_keys.mp memJ)⟩

/-! ## Chains of status assignments -/

/-- The assignment promotes a standby node or fails an active one. -/
def StatusWrite.Permitted (write : StatusWrite) : Prop :=
  (write.old = .standby ∧ write.new = .active) ∨ (write.old = .active ∧ write.new = .failed)

/-- Permitted assignments lead from one distribution of statuses to another. -/
inductive StatusRun (before : String → Option Status) :
    List StatusWrite → (String → Option Status) → Prop where
  | refl : StatusRun before [] before
  | write {writes : List StatusWrite} {now : String → Option Status} (run : StatusRun before writes now)
      (write : StatusWrite) (old : now write.nodeID = some write.old) (permitted : write.Permitted) :
      StatusRun before (writes ++ [write]) (Function.update now write.nodeID (some write.new))

/-- **A failed node stays failed.** -/
theorem StatusRun.failed_stays {before now : String → Option Status} {writes : List StatusWrite}
    (run : StatusRun before writes now) {id : String} (failed : before id = some .failed) :
    now id = some .failed := by
  induction run with
  | refl => exact failed
  | @write _ now _ write old permitted ih =>
      have ne : id ≠ write.nodeID := by
        intro same
        rw [same, old] at ih
        rcases permitted with ⟨standby, _⟩ | ⟨active, _⟩
        · rw [standby] at ih
          cases ih
        · rw [active] at ih
          cases ih
      rwa [Function.update_of_ne ne]

/-! ## Accounting -/

/-- What a reconfiguration keeps and how it changes the statuses and the counters. -/
structure Accounted (before after : Server) : Prop where
  ids : AList.keys after.nodes = AList.keys before.nodes
  urls : ∀ id, after.nodes.urlOf id = before.nodes.urlOf id
  health : after.health = before.health
  sessions : after.sessions = before.sessions
  /-- The assignments to statuses are promotions of standby nodes and failures of active ones. -/
  statuses : ∃ writes, after.statusWrites = before.statusWrites ++ writes ∧
    StatusRun before.nodes.statusOf writes after.nodes.statusOf
  failedStays : ∀ id, before.nodes.statusOf id = some .failed →
    after.nodes.statusOf id = some .failed
  counters : ∀ status, after.counter status - before.counter status =
    after.nodes.count status - before.nodes.count status

namespace Server

variable {before s : Server}

/-- The status history of a server continues that of an earlier one. -/
def Continues (before s : Server) : Prop :=
  ∃ writes, s.statusWrites = before.statusWrites ++ writes ∧
    StatusRun before.nodes.statusOf writes s.nodes.statusOf

theorem Continues.refl : Continues s s := ⟨[], (List.append_nil _).symm, .refl⟩

/-- A permitted assignment continues the history. -/
theorem Continues.setStatus (continues : Continues before s) {id : String} {old new : Status}
    (found : s.nodes.statusOf id = some old)
    (permitted : StatusWrite.Permitted { nodeID := id, old, new }) :
    Continues before (s.setStatus id new) := by
  obtain ⟨writes, same, run⟩ := continues
  refine ⟨writes ++ [{ nodeID := id, old, new }], ?_, ?_⟩
  · rw [history_setStatus found, same, List.append_assoc]
  · have after : (s.setStatus id new).nodes.statusOf =
        Function.update s.nodes.statusOf id (some new) := by
      funext j
      rw [Server.setStatus, Registry.statusOf_setStatus]
      by_cases same : j = id
      · rw [if_pos same, same, found, Function.update_self, Option.map_some]
      · rw [if_neg same, Function.update_of_ne same]
    rw [after]
    exact run.write { nodeID := id, old, new } found permitted

/-- What has the same statuses and history continues the same servers. -/
theorem Continues.congr (continues : Continues before s) {s' : Server}
    (writes : s'.statusWrites = s.statusWrites)
    (statuses : ∀ j, s'.nodes.statusOf j = s.nodes.statusOf j) : Continues before s' := by
  have same : s'.nodes.statusOf = s.nodes.statusOf := funext statuses
  rw [Continues, writes, same]
  exact continues

theorem Continues.promoteFrom (continues : Continues before s) (len i : Nat)
    {promoted : List String} (nodup : promoted.Nodup)
    (standby : ∀ id ∈ promoted, s.nodes.statusOf id = some .standby) :
    Continues before (s.promoteFrom len i promoted) := by
  induction promoted generalizing len i s with
  | nil => exact continues
  | cons id rest ih =>
      refine ih ?_ (len + 1) (i + 1) (List.nodup_cons.mp nodup).2 (standby_promote s nodup standby _)
      exact (continues.setStatus (standby id List.mem_cons_self) (.inl ⟨rfl, rfl⟩)).congr rfl
        fun j => Registry.statusOf_setRank j _

theorem Continues.markFailed (continues : Continues before s) {url : String}
    (active : ∀ status, s.nodes.statusOf url = some status → status = .active) :
    Continues before (s.markFailed url) := by
  unfold Server.markFailed
  cases found : s.nodes.statusOf url with
  | none => exact continues
  | some old =>
      obtain rfl := active old found
      exact (continues.setStatus found (.inr ⟨rfl, rfl⟩)).congr rfl fun _ => rfl

/-- Markings of active nodes continue the history. -/
theorem Continues.foldl_markFailed (continues : Continues before s) {urls : List String}
    (nodup : urls.Nodup)
    (active : ∀ url ∈ urls, ∀ status, s.nodes.statusOf url = some status → status = .active) :
    Continues before (urls.foldl Server.markFailed s) := by
  induction urls generalizing s with
  | nil => exact continues
  | cons url rest ih =>
      rw [List.nodup_cons] at nodup
      apply ih (continues.markFailed (active url List.mem_cons_self)) nodup.2
      intro j mem status found
      have ne : j ≠ url := fun same => nodup.1 (same ▸ mem)
      rw [statusOf_markFailed, if_neg ne] at found
      exact active j (List.mem_cons_of_mem _ mem) status found

/-! ## One attempt -/

variable {setting : Setting} {round : Round}

theorem Continues.prepared (continues : Continues before s) :
    Continues before (s.prepared setting round) :=
  (continues.promoteFrom (s.activeList round).length 0 nodup_promotions
    fun _ => statusOf_of_mem_promotions).congr rfl fun _ => rfl

theorem Continues.notified (continues : Continues before s) :
    Continues before (s.notified setting round) := by
  have prepared : Continues before (s.prepared setting round) := continues.prepared
  exact prepared.congr rfl fun j => statusOf_notified j

/-- **Without aliases a marking finds active nodes only.** -/
theorem active_of_unreached (unaliased : s.nodes.Unaliased) {url : String}
    (mem : url ∈ s.unreached setting round) (status : Status)
    (found : (s.notified setting round).nodes.statusOf url = some status) : status = .active := by
  obtain ⟨id, target, _, rfl⟩ := mem_unreached.mp mem
  have activeId := mem_targets_iff.mp target
  have registered : ∀ j, (∃ status, (s.notified setting round).nodes.statusOf j = some status) →
      j ∈ s.nodes := by
    intro j statusJ
    have same : AList.keys (s.notified setting round).nodes = AList.keys s.nodes := keys_notified
    rw [AList.mem_keys, ← same, ← AList.mem_keys]
    exact Registry.mem_iff_statusOf.mpr statusJ
  have self : id = s.nodes.urlOf id :=
    unaliased _ id (registered _ ⟨_, found⟩) (registered _ ⟨_, activeId⟩) rfl
  rw [← self, activeId] at found
  exact (Option.some.inj found).symm

end Server

/-! ## All attempts -/

/-- What every attempt of a call starts from, and ends in. -/
structure InProgress (setting : Setting) (before s : Server) : Prop
    extends Server.Underway setting before s where
  continues : Server.Continues before s
  drift : ∀ status, s.drift status = before.drift status

namespace InProgress

variable {setting : Setting} {round : Round} {before s : Server}

theorem unaliased (progress : InProgress setting before s) (unaliased : before.nodes.Unaliased) :
    s.nodes.Unaliased := by
  intro id j memId memJ same
  rw [AList.mem_keys, progress.ids, ← AList.mem_keys] at memId memJ
  exact unaliased id j memId memJ ((progress.urls j).symm.trans same)

/-- The promotions of an attempt keep the accounting. -/
theorem prepared (progress : InProgress setting before s) :
    InProgress setting before (s.prepared setting round) where
  toUnderway := progress.toUnderway.prepared
  continues := progress.continues.prepared
  drift status := (Server.drift_prepared status).trans (progress.drift status)

theorem notified (progress : InProgress setting before s) :
    InProgress setting before (s.notified setting round) where
  toUnderway := progress.toUnderway.notified
  continues := progress.continues.notified
  drift status := (Server.drift_notified status).trans (progress.drift status)

/-- **The marking after an attempt keeps the accounting.** -/
theorem marked (progress : InProgress setting before s) (unaliased : before.nodes.Unaliased) :
    InProgress setting before (s.marked setting round) := by
  have told : InProgress setting before (s.notified setting round) := progress.notified
  have active : ∀ url ∈ s.unreached setting round, ∀ status,
      (s.notified setting round).nodes.statusOf url = some status → status = .active :=
    fun _ => Server.active_of_unreached (progress.unaliased unaliased)
  refine ⟨progress.toUnderway.marked, told.continues.foldl_markFailed (List.nodup_dedup _) active,
    fun status => (Server.drift_foldl_markFailed ?_ status).trans (told.drift status)⟩
  intro url mem standby
  cases active url mem _ standby

/-- What is in progress is accounted for, whatever lifecycle state the call ends in. -/
theorem accounted (progress : InProgress setting before s) (current : State) :
    Accounted before { s with current } where
  ids := progress.ids
  urls := progress.urls
  health := congrArg Elsewhere.health progress.elsewhere
  sessions := congrArg Elsewhere.sessions progress.elsewhere
  statuses := progress.continues
  failedStays id failed := by
    obtain ⟨_, _, run⟩ := progress.continues
    exact run.failed_stays failed
  counters status := by
    have drift := progress.drift status
    rw [Server.drift, Server.drift] at drift
    change s.counter status - before.counter status =
      s.nodes.count status - before.nodes.count status
    omega

end InProgress

theorem Accounted.refl (s : Server) : Accounted s s where
  ids := rfl
  urls _ := rfl
  health := rfl
  sessions := rfl
  statuses := Server.Continues.refl
  failedStays _ failed := failed
  counters _ := by rw [sub_self, sub_self]

/-- **Membership accounting of `reconfigureCluster`.** A call that runs alone with at most the
required number of active nodes is accounted for, and it returns nil with exactly that number and
back in `Running`, or is refused and changes nothing, or ends the process through `Failed`. -/
theorem reconfigureCluster_accounting (setting : Setting) (rounds : Nat → Round) {s : Server}
    {locks : Lock → RWMutex} (free : ∀ l, locks l = .free)
    (bounded : s.nodes.count .active ≤ setting.config.activeNodes)
    (unaliased : s.nodes.Unaliased) :
    ∃ s', Accounted s s' ∧
      (((reconfigureCluster setting rounds).run ⟨s, locks⟩ = .ok (.ok ()) ⟨s', locks⟩ ∧
          s'.nodes.count .active = setting.config.activeNodes ∧ s'.current = .running) ∨
        ((∃ refusal, (reconfigureCluster setting rounds).run ⟨s, locks⟩ =
            .ok (.error refusal) ⟨s', locks⟩) ∧
          State.reconfiguring ∉ validTransitions s.current ∧ s' = s) ∨
        ((∃ locks', (reconfigureCluster setting rounds).run ⟨s, locks⟩ =
            .error .exited ⟨s', locks'⟩) ∧ s'.current = .failed)) := by
  by_cases accepted : s.current.reconfigurable
  · have run := reconfigureCluster_run setting rounds (free _) (free _) (free _) accepted
    have ends := Server.reconfigureFrom_ends setting rounds (decide (locks .clusterMu = .free))
      (I := InProgress setting s)
      (fun _ _ progress _ _ => progress.marked unaliased) maxAttempts 0
      (s := { s with current := .reconfiguring })
      ⟨.start s, Server.Continues.refl.congr rfl fun _ => rfl, fun _ => rfl⟩
    rw [← Server.reconfigure] at ends
    cases outcome : s.reconfigure setting rounds (decide (locks .clusterMu = .free)) with
    | returned s' =>
        rw [outcome] at run ends
        obtain ⟨last, attempt, progress, enough, _, rfl⟩ := ends
        have told : InProgress setting s (last.notified setting (rounds attempt)) :=
          progress.notified
        have back : (last.notified setting (rounds attempt)).current = .reconfiguring :=
          congrArg Elsewhere.current told.elsewhere
        rw [Server.resumed, if_pos back] at run
        refine ⟨_, told.accounted .running, .inl ⟨run, ?_, rfl⟩⟩
        apply le_antisymm (told.bounded bounded)
        rw [Server.length_chosen, ← Server.count_notified] at enough
        exact enough
    | exited s' =>
        rw [outcome] at run ends
        refine ⟨s', ?_, .inr (.inr ⟨⟨_, run⟩, ?_⟩)⟩
        · rcases ends with ⟨last, progress, rfl⟩ | ⟨last, attempt, progress, rfl⟩
          · exact progress.accounted .failed
          · exact progress.prepared.accounted .failed
        · rcases ends with ⟨_, _, rfl⟩ | ⟨_, _, _, rfl⟩ <;> rfl
    | stuck s' =>
        rw [outcome] at ends
        exact absurd (free .clusterMu) (of_decide_eq_false ends.1)
  · exact ⟨s, .refl s, .inr (.inl ⟨⟨_, reconfigureCluster_run_refused setting rounds (free _)
      accepted⟩, State.reconfigurable_iff.not.mp accepted, rfl⟩)⟩

/-- Two active nodes and a standby node, all under the URLs that monitors send. -/
def standbyServer : Server :=
  { Server.new smallSetting with
    current := .running
    nodes := AList.insert "a.ns.1" ⟨"http://a.ns:1", .active, 0⟩
      (AList.insert "b.ns.1" ⟨"http://b.ns:1", .active, 1⟩
        (AList.insert "c.ns.1" ⟨"http://c.ns:1", .standby, -1⟩ ∅))
    activeNodes := 2
    standbyNodes := 1 }

/-- A node does not answer in the first attempt, and answers in the second. -/
def secondAnswered (attempt : Nat) : Round := .except (if attempt = 0 then ["b.ns.1"] else [])

/-- The standby node is promoted, and the second attempt brings the server back to `Running`. -/
theorem reconfigureCluster_accounting_standby :
    ∃ s', (reconfigureCluster smallSetting secondAnswered).run ⟨standbyServer, fun _ => .free⟩ =
        .ok (.ok ()) ⟨s', fun _ => .free⟩ ∧ s'.current = .running ∧
      s'.nodes.count .active = 3 ∧ s'.nodes.statusOf "c.ns.1" = some .active ∧
      Accounted standbyServer s' := by
  have free : ∀ l : Lock, (fun _ => .free : Lock → RWMutex) l = .free := fun _ => rfl
  obtain ⟨w, returns, promoted⟩ := exists_of_returnsNil
    (fun s => s.nodes.statusOf "c.ns.1" = some .active)
    ((reconfigureCluster smallSetting secondAnswered).run ⟨standbyServer, fun _ => .free⟩)
    (by decide +kernel)
  obtain ⟨s', accounted, ⟨run, full, running⟩ | ⟨_, refused, _⟩ | ⟨⟨locks', run⟩, _⟩⟩ :=
    reconfigureCluster_accounting smallSetting secondAnswered (s := standbyServer) free (by decide)
      (by decide)
  · cases returns.symm.trans run
    exact ⟨s', run, running, full, of_decide_eq_true promoted, accounted⟩
  · exact absurd refused (by decide)
  · cases returns.symm.trans run

end C4D
