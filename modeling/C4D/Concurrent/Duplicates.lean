import C4D.Concurrent.StartOnce
import C4D.Server.Attendance

/-!
# Registrations of one node that run at once

A client that runs into its time-out registers again while the first call may still be
on its way. The look at the session, the admission by the counters and the entry in
the registry are separate steps, and the admission does not look again. Two calls that
both found no session are both admitted, and the registry holds one of them.

What the counters hold in excess is the number of admitted calls, less the one in
the registry (`Accounted`). So the node is counted once exactly if at most one call was
admitted (`countedOnce_iff`), as in every run in which no call is admitted after another
one was (`countedOnce_of_run`).

The steps ignore a registry lock that was left held. With it, fewer calls return.
-/

set_option autoImplicit false

namespace C4D

open Foundations Guarded

/-- The counters are the numbers of active and of standby nodes. -/
structure Server.Exact (s : Server) : Prop where
  active : s.activeNodes = s.nodes.count .active
  standby : s.standbyNodes = s.nodes.count .standby

/-- The counters are exact, and the other nodes leave at most one place to the node. -/
structure CountedOnce (nodeID : String) (s : Server) : Prop where
  exact : s.Exact
  place : s.activeNodes + s.standbyNodes ≤
    Registry.count (AList.erase nodeID s.nodes) .active +
      Registry.count (AList.erase nodeID s.nodes) .standby + 1

theorem Server.Exact.countedOnce {s : Server} (exact : s.Exact) (nodeID : String) :
    CountedOnce nodeID s := by
  refine ⟨exact, ?_⟩
  rw [exact.active, exact.standby, Registry.count_erase, Registry.count_erase]
  cases s.nodes.statusOf nodeID with
  | none => simp
  | some status => cases status <;> simp <;> omega

namespace Registration

/-- Calls of `Register` for one node. -/
structure Duplicates (ι : Type) where
  nodeID : String
  request : ι → RegisterRequest
  sameNode : ∀ i, (request i).nodeId = nodeID

/-- A reachable state that accepts registrations, with exact counters. -/
structure Opening (setting : Setting) (s : Server) : Prop where
  reachable : ∃ w, setting.system.Reachable w ∧ w.data = s
  accepting : s.current.accepting
  exact : s.Exact

variable {ι : Type}

/-- The interleavings of the calls from any such state. -/
def duplicates [DecidableEq ι] (setting : Setting) (calls : Duplicates ι) :
    System (Threads ι Point Server) (ι × Tick) :=
  Threads.interleaving (Opening setting) .checkState fun i => step setting (calls.request i)

namespace Point

/-- The call is about to be admitted, or to enter its node in the registry. -/
def Applying : Point → Prop
  | .admitNode => True
  | .registerSession _ => True
  | .registerNode _ _ => True
  | _ => False

/-- The call is about to be admitted. -/
def AtAdmission : Point → Prop
  | .admitNode => True
  | _ => False

instance : DecidablePred AtAdmission := fun p => by
  induction p using Point.casesOn <;> first | exact .isTrue trivial | exact .isFalse not_false

end Point

/-! ## What a step can do -/

/-- What a step of a call does to the counters, the registry and its own progress. -/
inductive Turn (setting : Setting) (req : RegisterRequest) :
    Point → Server → Point → Server → Prop where
  | moved {p p' : Point} {s s' : Server} (counter : s'.counter = s.counter)
      (statusOf : s'.nodes.statusOf = s.nodes.statusOf)
      (sessions : s.sessions.lookup req.nodeId ≠ none → s'.sessions.lookup req.nodeId ≠ none)
      (admission : p'.progress.admission = p.progress.admission)
      (entry : p'.progress.entry = p.progress.entry)
      (applying : p'.Applying → p.Applying ∨ s.nodes.statusOf req.nodeId = none ∨
        s.sessions.lookup req.nodeId = none) :
      Turn setting req p s p' s'
  | admitted {s counted : Server} {status : Status} {rank : Int}
      (admits : s.Admitted setting status rank counted) :
      Turn setting req .admitNode s (.registerSession ⟨status, rank⟩) counted
  | enrolled {s : Server} (admission : Admission) (session : Int) (now : Int) :
      Turn setting req (.registerNode admission session) s (.loadActive admission session)
        (s.registerNode req.nodeId req.nodeUrl admission.status admission.rank now).2

variable {setting : Setting} {req : RegisterRequest} {tick : Tick} {p p' : Point} {s s' : Server}

/-- A step that only moves the call. -/
theorem Turn.still (admission : p'.progress.admission = p.progress.admission)
    (entry : p'.progress.entry = p.progress.entry)
    (applying : p'.Applying → p.Applying ∨ s.nodes.statusOf req.nodeId = none ∨
      s.sessions.lookup req.nodeId = none) : Turn setting req p s p' s :=
  .moved rfl rfl id admission entry applying

theorem turn_of_step (steps : step setting req tick p s = some (p', s')) :
    Turn setting req p s p' s' := by
  cases p with
  | checkState =>
      simp only [step] at steps
      split_ifs at steps <;> cases steps <;> exact .still rfl rfl False.elim
  | checkMaster =>
      simp only [step] at steps
      split_ifs at steps <;> cases steps <;> exact .still rfl rfl False.elim
  | writeMasterAddr =>
      cases steps
      exact .moved (funext fun st => by cases st <;> rfl) rfl id rfl rfl False.elim
  | writeMasterPort =>
      cases steps
      exact .moved (funext fun st => by cases st <;> rfl) rfl id rfl rfl False.elim
  | getSession =>
      simp only [step] at steps
      cases known : s.sessions.lookup req.nodeId with
      | none =>
          rw [known] at steps
          cases steps
          exact .still rfl rfl fun _ => .inr (.inr known)
      | some session =>
          rw [known] at steps
          cases steps
          exact .still rfl rfl False.elim
  | reconnect existingSession =>
      simp only [step] at steps
      cases registered : s.nodes.lookup req.nodeId with
      | none =>
          rw [registered] at steps
          cases steps
          exact .still rfl rfl fun _ => .inr (.inl (Registry.statusOf_eq_none.mpr registered))
      | some node =>
          rw [registered] at steps
          cases steps
          refine .moved (funext fun st => by cases st <;> rfl) rfl (fun known => ?_) rfl rfl
            False.elim
          exact fun none => known (by
            rwa [Server.reconnected, Server.refreshHealth, Server.updateSession,
              Table.lookup_modify_self, Option.map_eq_none_iff] at none)
  | admitNode =>
      rcases admitNode_of_step steps with ⟨status, rank, admits, rfl⟩ | ⟨refusal, rfl, rfl⟩
      · exact .admitted admits
      · exact .still rfl rfl False.elim
  | registerSession admission =>
      obtain ⟨session, _, registered⟩ := Server.sessionRegistered_eq s req tick.now
        admission.status admission.rank
      cases steps
      change Turn setting req _ s _
        (s.sessionRegistered req tick.now admission.status admission.rank)
      rw [registered]
      refine .moved (funext fun st => by cases st <;> rfl) rfl (fun _ => ?_) rfl rfl
        fun _ => .inl trivial
      rw [AList.lookup_insert]
      exact Option.some_ne_none _
  | registerNode admission session =>
      cases steps
      exact .enrolled admission session tick.now
  | loadActive admission session =>
      cases steps
      exact .still rfl rfl False.elim
  | loadStandby admission session activeNodes =>
      cases steps
      exact .still rfl rfl False.elim
  | checkStart admission session totalNodes =>
      simp only [step] at steps
      split_ifs at steps <;> cases steps <;> exact .still rfl rfl False.elim
  | checkAndStart admission session =>
      obtain ⟨result, started, returns, unchanged⟩ := checkAndStartProgram_returns setting
        tick.round (s := s) (unlocked_eq .clusterMu) (unlocked_eq .stateMu)
      simp only [step, returns] at steps
      cases steps
      rcases unchanged with rfl | ⟨current, rfl⟩
      · exact .still rfl rfl False.elim
      · exact .moved (funext fun st => by cases st <;> rfl)
          (funext fun j => Server.statusOf_started s tick.round j) id rfl rfl False.elim
  | returned admission result => cases steps

namespace Turn

variable (turn : Turn setting req p s p' s')

include turn

/-- A counter counts one more call when that call is admitted. -/
theorem counter (st : Status) : s'.counter st = s.counter st
    + (if p'.AdmittedAs st then 1 else 0) - (if p.AdmittedAs st then 1 else 0) := by
  cases turn with
  | moved counter statusOf sessions admission entry applying =>
      simp only [Point.AdmittedAs, admission, counter]
      exact (add_sub_cancel_right _ _).symm
  | admitted admits =>
      cases admits <;> cases st <;> simp [Point.AdmittedAs, Point.progress, Progress.admission,
        Server.counter]
  | enrolled admission session now =>
      refine Eq.trans ?_ (add_sub_cancel_right _ _).symm
      cases st <;> rfl

/-- A call leaves the registry alone, or it enters its node there. -/
theorem entry :
    (s'.nodes.statusOf = s.nodes.statusOf ∧ p'.progress.entry = p.progress.entry) ∨
      ∃ node : NodeState, p.Applying ∧ p'.EnrolledAs node.status ∧
        s'.nodes = AList.insert req.nodeId node s.nodes := by
  cases turn with
  | moved counter statusOf sessions admission entry applying => exact .inl ⟨statusOf, entry⟩
  | admitted admits => cases admits <;> exact .inl ⟨rfl, rfl⟩
  | enrolled admission session now =>
      exact .inr ⟨⟨req.nodeUrl, admission.status, admission.rank⟩, trivial, rfl, rfl⟩

/-- A call goes on to enter a node that was not registered, or had no session. -/
theorem applying (applies : p'.Applying) : p.Applying ∨ s.nodes.statusOf req.nodeId = none ∨
    s.sessions.lookup req.nodeId = none := by
  cases turn with
  | moved counter statusOf sessions admission entry applying => exact applying applies
  | admitted admits => exact .inl trivial
  | enrolled admission session now => exact applies.elim

theorem sessions (known : s.sessions.lookup req.nodeId ≠ none) :
    s'.sessions.lookup req.nodeId ≠ none := by
  cases turn with
  | moved counter statusOf sessions admission entry applying => exact sessions known
  | admitted admits => cases admits <;> exact known
  | enrolled admission session now => exact known

/-- A call is admitted as active or as standby. -/
theorem working (before : ¬ p.AdmittedAs .failed) : ¬ p'.AdmittedAs .failed := by
  cases turn with
  | moved counter statusOf sessions admission entry applying =>
      rwa [Point.AdmittedAs, admission]
  | admitted admits =>
      intro failed
      cases admits <;> cases failed
  | enrolled admission session now => exact before

/-- A call is admitted while there is room. -/
theorem room (admitted : p'.Admitted) : p.Admitted ∨ (p.AtAdmission ∧
    (s.activeNodes < setting.config.activeNodes ∨
      s.standbyNodes < setting.config.standbyNodes)) := by
  cases turn with
  | moved counter statusOf sessions admission entry applying =>
      rw [Point.Admitted, admission] at admitted
      exact .inl admitted
  | admitted admits =>
      cases admits with
      | active room => exact .inr ⟨trivial, .inl room⟩
      | standby full room => exact .inr ⟨trivial, .inr room⟩
  | enrolled admission session now => exact .inl rfl

end Turn

/-! ## What the counters hold in excess -/

section Runs

variable [Fintype ι] {c : Threads ι Point Server} {nodeID : String}

/-- What a counter exceeds the registry by, less the calls admitted with that status. -/
def surplus (c : Threads ι Point Server) (status : Status) : Int :=
  c.data.drift status - (c.threadsAt (Point.AdmittedAs status)).card

/-- The counters hold in excess the admitted calls, less the one in the registry. Until a call
has entered the node there, a call applies for it only if it is not registered. -/
inductive Accounted (nodeID : String) (c : Threads ι Point Server) : Prop where
  | waiting (outside : ∀ i, (c.point i).progress.entry = none)
      (surplus : ∀ st, st ≠ .failed → surplus c st = 0)
      (absent : ∀ i, (c.point i).Applying → c.data.nodes.statusOf nodeID = none)
      (attended : c.data.nodes.statusOf nodeID ≠ none → c.data.sessions.lookup nodeID ≠ none)
  | entered (i : ι) (status : Status) (enrolled : (c.point i).EnrolledAs status)
      (known : c.data.nodes.statusOf nodeID = some status)
      (surplus : ∀ st, st ≠ .failed → surplus c st = - if status = st then 1 else 0)

section Step

variable [DecidableEq ι] {i : ι} (turn : Turn setting req (c.point i) c.data p s)

include turn

/-- Only an entry in the registry changes a surplus. -/
theorem Turn.surplus (st : Status) :
    surplus (c.advance i p s) st = surplus c st + c.data.nodes.count st - s.nodes.count st := by
  have card := Threads.card_threadsAt_advance (P := Point.AdmittedAs st) (c := c) i p s
  have counter := turn.counter st
  rw [Registration.surplus, Registration.surplus, card, Server.drift, Server.drift,
    Threads.data_advance, counter]
  omega

theorem Accounted.step (same : req.nodeId = nodeID) (accounted : Accounted nodeID c) :
    Accounted nodeID (c.advance i p s) := by
  subst same
  rcases turn.entry with ⟨statusOf, entry⟩ | ⟨node, applies, enrolled, nodes⟩
  · have surplus (st : Status) : surplus (c.advance i p s) st = Registration.surplus c st := by
      rw [turn.surplus, Registry.count_congr (fun j => congrFun statusOf j) st]
      exact add_sub_cancel_right _ _
    cases accounted with
    | waiting outside balanced absent attended =>
        refine .waiting (fun j => ?_) (fun st working => (surplus st).trans (balanced st working))
          (fun j applies => ?_) fun known => ?_
        · by_cases here : j = i
          · rw [here, Threads.point_advance_self, entry, outside]
          · rw [Threads.point_advance_of_ne here, outside]
        · rw [Threads.data_advance, statusOf]
          by_cases here : j = i
          · rw [here, Threads.point_advance_self] at applies
            rcases turn.applying applies with applied | unregistered | fresh
            · exact absent i applied
            · exact unregistered
            · exact not_not.mp fun known => attended known fresh
          · rw [Threads.point_advance_of_ne here] at applies
            exact absent j applies
        · rw [Threads.data_advance, statusOf] at known
          exact turn.sessions (attended known)
    | entered j status enrolled known balanced =>
        refine .entered j status ?_ ((congrFun statusOf _).trans known)
          fun st working => (surplus st).trans (balanced st working)
        by_cases here : j = i
        · rw [here, Threads.point_advance_self, Point.EnrolledAs, entry]
          exact here ▸ enrolled
        · rwa [Threads.point_advance_of_ne here]
  · refine .entered i node.status (by rwa [Threads.point_advance_self]) ?_ fun st working => ?_
    · rw [Threads.data_advance, nodes, Registry.statusOf_insert, if_pos rfl]
    rw [turn.surplus, nodes, Registry.count_insert]
    cases accounted with
    | waiting outside balanced absent attended =>
        rw [balanced st working, absent i applies, if_neg (Option.some_ne_none st).symm]
        omega
    | entered j status enrolled known balanced =>
        rw [balanced st working, known]
        simp only [Option.some.injEq]
        omega

end Step

/-! ## When every call has returned -/

/-- At most one call was admitted. -/
def Lone (c : Threads ι Point Server) : Prop :=
  ∀ i j, (c.point i).Admitted → (c.point j).Admitted → i = j

theorem Server.exact_iff {s : Server} : s.Exact ↔ ∀ st, st ≠ .failed → s.drift st = 0 := by
  constructor
  · rintro ⟨active, standby⟩ st working
    cases st with
    | active => exact sub_eq_zero.mpr active
    | standby => exact sub_eq_zero.mpr standby
    | failed => exact absurd rfl working
  · intro balanced
    exact ⟨sub_eq_zero.mp (balanced .active nofun), sub_eq_zero.mp (balanced .standby nofun)⟩

theorem Point.admitted_iff {p : Point} : p.Admitted ↔ ∃ st, p.AdmittedAs st := by
  simp only [Point.Admitted, Point.AdmittedAs, Option.isSome_iff_exists, Option.map_eq_some_iff]
  constructor
  · rintro ⟨admission, found⟩
    exact ⟨admission.status, admission, found, rfl⟩
  · rintro ⟨_, admission, found, _⟩
    exact ⟨admission, found⟩

/-- Beside an admitted call, the calls admitted with each status tell whether it is the only one. -/
theorem lone_iff (working : ∀ i, ¬ (c.point i).AdmittedAs .failed) {k : ι} {status : Status}
    (admitted : (c.point k).AdmittedAs status) : Lone c ↔ ∀ st, st ≠ .failed →
      ((c.threadsAt (Point.AdmittedAs st)).card : Int) = if status = st then 1 else 0 := by
  have someK := Point.admitted_iff.mpr ⟨status, admitted⟩
  constructor
  · intro lone st _
    have only : c.threadsAt (Point.AdmittedAs st) = if status = st then {k} else ∅ := by
      ext i
      rw [Threads.mem_threadsAt]
      split
      · next same =>
          rw [Finset.mem_singleton]
          refine ⟨fun other => lone i k (Point.admitted_iff.mpr ⟨st, other⟩) someK, ?_⟩
          rintro rfl
          exact same ▸ admitted
      · next differ =>
          refine iff_of_false (fun other => differ ?_) (Finset.notMem_empty i)
          rw [lone i k (Point.admitted_iff.mpr ⟨st, other⟩) someK] at other
          exact Option.some.inj (admitted.symm.trans other)
    rw [only]
    split
    · rw [Finset.card_singleton, Nat.cast_one]
    · rw [Finset.card_empty, Nat.cast_zero]
  · intro cards
    have here {i : ι} (other : (c.point i).Admitted) : i ∈ c.threadsAt (Point.AdmittedAs status) := by
      obtain ⟨st, other⟩ := Point.admitted_iff.mp other
      have positive := Finset.card_pos.mpr ⟨i, Threads.mem_threadsAt.mpr other⟩
      have card := cards st fun failed => working i (failed ▸ other)
      split at card
      · next same => exact Threads.mem_threadsAt.mpr (same ▸ other)
      · omega
    have card := cards status fun failed => working k (failed ▸ admitted)
    rw [if_pos rfl] at card
    intro i j first second
    exact Finset.card_le_one.mp (by omega) i (here first) j (here second)

/-- **The node is counted once exactly if at most one call was admitted.** -/
theorem countedOnce_iff (accounted : Accounted nodeID c)
    (working : ∀ i, ¬ (c.point i).AdmittedAs .failed) (returned : ∀ i, (c.point i).Returned) :
    CountedOnce nodeID c.data ↔ Lone c := by
  have once_iff : CountedOnce nodeID c.data ↔ c.data.Exact :=
    ⟨CountedOnce.exact, fun exact => exact.countedOnce nodeID⟩
  have exact_iff : c.data.Exact ↔ ∀ st, st ≠ .failed →
      surplus c st = - ((c.threadsAt (Point.AdmittedAs st)).card : Int) := by
    simp only [Server.exact_iff, surplus]
    apply forall₂_congr
    intro st _
    omega
  rw [once_iff, exact_iff]
  cases accounted with
  | waiting outside balanced absent attended =>
      have nobody (i : ι) : ¬ (c.point i).Admitted := by
        rw [Point.Admitted, ← Point.entry_of_settled fun _ => returned i, outside]
        exact Bool.false_ne_true
      refine iff_of_true (fun st st_working => ?_) fun i j admitted => absurd admitted (nobody i)
      rw [balanced st st_working, eq_comm, neg_eq_zero, Int.natCast_eq_zero, Finset.card_eq_zero]
      exact Finset.filter_eq_empty_iff.mpr fun i _ admitted =>
        nobody i (Point.admitted_iff.mpr ⟨st, admitted⟩)
  | entered k status enrolled known balanced =>
      rw [lone_iff working enrolled.admittedAs]
      apply forall₂_congr
      intro st st_working
      rw [balanced st st_working, neg_inj, eq_comm]

/-! ## Runs -/

variable [DecidableEq ι] {calls : Duplicates ι}

theorem Accounted.start (initial : (duplicates setting calls).init c) :
    Accounted calls.nodeID c := by
  obtain ⟨⟨⟨w, reachable, same⟩, accepting, exact⟩, start⟩ := initial
  have attended := setting.attended_of_reachable reachable
  rw [same] at attended
  refine .waiting (fun i => ?_) (fun st working => ?_) (fun i applies => ?_) fun known => ?_
  · rw [start]
    rfl
  · have nobody : c.threadsAt (Point.AdmittedAs st) = ∅ :=
      Finset.filter_eq_empty_iff.mpr fun i _ => start i ▸ nofun
    rw [surplus, Server.exact_iff.mp exact st working, nobody]
    rfl
  · rw [start] at applies
    exact applies.elim
  · obtain ⟨session, found, _⟩ := attended calls.nodeID known
    rw [found]
    exact Option.some_ne_none _

/-- What the counters hold in excess, after any interleaving. -/
theorem accounted_of_run (run : (duplicates setting calls).Reachable c) :
    Accounted calls.nodeID c ∧ ∀ i, ¬ (c.point i).AdmittedAs .failed := by
  refine run.induct (I := fun c => Accounted calls.nodeID c ∧ ∀ i, ¬ (c.point i).AdmittedAs .failed)
    (fun c initial => ⟨.start initial, fun i => initial.2 i ▸ nofun⟩) ?_
  rintro c ⟨i, tick⟩ c' ⟨accounted, working⟩ _ next
  obtain ⟨p, s, steps, rfl⟩ := Threads.advance_of_next next
  have turn := turn_of_step steps
  refine ⟨accounted.step turn (calls.sameNode i), fun j => ?_⟩
  by_cases here : j = i
  · rw [here, Threads.point_advance_self]
    exact turn.working (working i)
  · rw [Threads.point_advance_of_ne here]
    exact working j

/-- The call is about to be admitted, there is room, and another call was admitted. -/
def Readmits (setting : Setting) (c : Threads ι Point Server) (i : ι) : Prop :=
  (c.point i).AtAdmission ∧ (c.data.activeNodes < setting.config.activeNodes ∨
    c.data.standbyNodes < setting.config.standbyNodes) ∧ ∃ j, (c.point j).Admitted

instance (setting : Setting) (c : Threads ι Point Server) (i : ι) :
    Decidable (Readmits setting c i) := inferInstanceAs (Decidable (_ ∧ _))

omit [Fintype ι] in
theorem lone_of_run (run : (duplicates setting calls).Run (fun c a => ¬ Readmits setting c a.1) c) :
    Lone c := by
  refine run.induct (I := Lone) (fun c initial i j admitted => ?_) ?_
  · rw [initial.2 i] at admitted
    cases admitted
  rintro c ⟨i, tick⟩ c' lone first next
  obtain ⟨p, s, steps, rfl⟩ := Threads.advance_of_next next
  have turn := turn_of_step steps
  -- The call that moves was admitted before, or nobody was.
  have alone (admitted : p.Admitted) {j : ι} (ne : j ≠ i) : ¬ (c.point j).Admitted := by
    intro other
    rcases turn.room admitted with before | ⟨at_admission, room⟩
    · exact ne (lone j i other before)
    · exact first ⟨at_admission, room, j, other⟩
  intro j k admittedJ admittedK
  by_cases hereJ : j = i <;> by_cases hereK : k = i
  · rw [hereJ, hereK]
  · rw [hereJ, Threads.point_advance_self] at admittedJ
    rw [Threads.point_advance_of_ne hereK] at admittedK
    exact absurd admittedK (alone admittedJ hereK)
  · rw [hereK, Threads.point_advance_self] at admittedK
    rw [Threads.point_advance_of_ne hereJ] at admittedJ
    exact absurd admittedJ (alone admittedK hereJ)
  · rw [Threads.point_advance_of_ne hereJ] at admittedJ
    rw [Threads.point_advance_of_ne hereK] at admittedK
    exact lone j k admittedJ admittedK

/-- **Duplicate registrations are counted once** in every run in which no call is admitted after
another one was. -/
theorem countedOnce_of_run (setting : Setting) (calls : Duplicates ι)
    (run : (duplicates setting calls).Run (fun c a => ¬ Readmits setting c a.1) c)
    (returned : ∀ i, (c.point i).Returned) : CountedOnce calls.nodeID c.data := by
  obtain ⟨accounted, working⟩ := accounted_of_run run.reachable
  exact (countedOnce_iff accounted working returned).mpr (lone_of_run run)

end Runs

/-- A node that registers twice. -/
def retried : Duplicates (Fin 2) where
  nodeID := "a.ns.1"
  request _ := ⟨"a.ns.1", "http://a.ns:1", "master", "29500"⟩
  sameNode _ := rfl

/-- Steps of the two calls. -/
def stepsOf (l : List (Fin 2)) : List (Fin 2 × Tick) := l.map fun i => (i, ⟨0, .except []⟩)

theorem opening_new : Opening smallSetting (Server.new smallSetting) where
  reachable := ⟨World.new smallSetting, .start rfl, rfl⟩
  accepting := .inl rfl
  exact := ⟨rfl, rfl⟩

/-- The second call comes after the first one, and reconnects the node. -/
theorem countedOnce_retried :
    ∃ c, (duplicates smallSetting retried).Run (fun c a => ¬ Readmits smallSetting c a.1) c ∧
      CountedOnce "a.ns.1" c.data := by
  obtain ⟨c, run, returned⟩ := System.exists_run (S := duplicates smallSetting retried)
    (C := fun c a => ¬ Readmits smallSetting c a.1)
    (s := ⟨Server.new smallSetting, fun _ => .checkState⟩)
    (fun c a => ¬ Readmits smallSetting c a.1)
    (stepsOf (List.replicate 11 0 ++ List.replicate 4 1))
    (fun c => ∀ i, (c.point i).Returned) (fun _ _ _ => of_decide_eq_true)
    ⟨opening_new, fun _ => rfl⟩ (by decide +kernel)
  exact ⟨c, run, countedOnce_of_run smallSetting retried run (of_decide_eq_true returned)⟩

/-- Both calls find no session, and both are admitted: two places are counted for one node. -/
theorem countedTwice :
    ∃ c, (duplicates smallSetting retried).Reachable c ∧ (∀ i, (c.point i).Returned) ∧
      c.data.activeNodes = 2 ∧ c.data.nodes.count .active = 1 ∧ ¬ CountedOnce "a.ns.1" c.data := by
  obtain ⟨c, reachable, holds⟩ := System.exists_reachable (S := duplicates smallSetting retried)
    (s := ⟨Server.new smallSetting, fun _ => .checkState⟩)
    (stepsOf ((List.replicate 11 [0, 1]).flatten))
    (fun c => (∀ i, (c.point i).Returned) ∧ c.data.activeNodes = 2 ∧ c.data.nodes.count .active = 1)
    ⟨opening_new, fun _ => rfl⟩ (by decide +kernel)
  obtain ⟨returned, two, one⟩ := of_decide_eq_true holds
  refine ⟨c, reachable, returned, two, one, fun once => ?_⟩
  have counted := once.exact.active
  rw [two, one] at counted
  exact absurd counted (by decide)

end Registration

end C4D
