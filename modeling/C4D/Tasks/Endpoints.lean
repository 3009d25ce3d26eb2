import C4D.Tasks.NodeChoice

/-!
# The endpoints of the distributor with its lock

The sections of a request with the lock they take: a section waits while the lock is taken, and the
choice of a node waits for the lock of its own request. So a request for a new task is never
answered once it has a number. No task comes to have a node and no node becomes busy, in any
run (`untouched_of_reachable`). The first choice is the last section of all: from then on
the dictionaries stay as they are, and a request is answered only if it is refused before it
takes the lock (`frozen_of_choice`).
-/

set_option autoImplicit false

namespace C4D

open Foundations RatedDistributor

/-! ## Sections with the lock -/

/-- Where a request stands. -/
inductive ServedPoint where
  | endpoint (p : Endpoint)
  /-- It waits for the lock it has taken itself. -/
  | blocked

/-- What a thread of the server does next. -/
inductive ServedMove where
  | receive (request : TaskRequest)
  | call
  /-- The thread that updates the failure probabilities takes no lock. -/
  | updateFailureProbabilities (rates : Table String ℚ)

namespace ServedPoint

/-- The next section of a request, with the lock free. -/
def section_ (w : Locked RatedDistributor) :
    Endpoint → Option (ServedPoint × Locked RatedDistributor)
  | .getNodeForTask taskId =>
      match (getNodeForTask taskId).run w with
      | .ok (some nodeId) w =>
          if nodeId = "" then some (.endpoint (.returned (.unassigned taskId)), w)
          else some (.endpoint (.assignTaskToNode taskId nodeId), w)
      | .ok none w => some (.endpoint (.returned (.unassigned taskId)), w)
      | .error .blocked w => some (.blocked, w)
      | .error (.raised _) w => some (.endpoint (.returned .raised), w)
  | p => (p.call 0 w.data.toTaskDistributor).map fun r =>
      (.endpoint r.1, { w with data := { w.data with toTaskDistributor := r.2 } })

/-- A step of a thread. -/
def step (move : ServedMove) (p : ServedPoint) (w : Locked RatedDistributor) :
    Option (ServedPoint × Locked RatedDistributor) :=
  match move, p with
  | .receive request, .endpoint p =>
      (p.step (.receive request) w.data.toTaskDistributor).map fun r => (.endpoint r.1, w)
  | .call, .endpoint p => if w.held then none else section_ w p
  | .updateFailureProbabilities rates, p =>
      some (p, { w with data := { w.data with nodeFailureRates := rates } })
  | .receive _, .blocked => none
  | .call, .blocked => none

end ServedPoint

abbrev ServedThreads := Threads Nat ServedPoint (Locked RatedDistributor)

/-- All interleavings of requests to a new distributor. -/
def servedDistributor : System ServedThreads (Nat × ServedMove) :=
  Threads.interleaving (fun w => w = .unlocked .new) (.endpoint .idle) fun _ => ServedPoint.step

/-! ## No task comes to have a node -/

/-- No task has ever been given to a node. -/
structure TaskDistributor.Untouched (d : TaskDistributor) : Prop where
  tasks : ∀ taskId task, d.tasks.lookup taskId = some task →
    task.status = .pending ∧ task.nodeId = none
  nodeAssignments : ∀ nodeId task, d.nodeAssignments.lookup nodeId = some task → task = none
  nodeStatus : ∀ nodeId status, d.nodeStatus.lookup nodeId = some status → status = .available

/-- What is found after an insertion is new or was there. -/
theorem lookup_insert_cases {κ V : Type} [DecidableEq κ] {t : Table κ V} {j k : κ} {v w : V}
    (found : (t.insert k v).lookup j = some w) : w = v ∨ t.lookup j = some w := by
  by_cases same : j = k
  · subst same
    rw [AList.lookup_insert] at found
    exact .inl (Option.some.inj found).symm
  · rw [AList.lookup_insert_ne same] at found
    exact .inr found

theorem lookup_of_erase {κ V : Type} [DecidableEq κ] {t : Table κ V} {j k : κ} {w : V}
    (found : (t.erase k).lookup j = some w) : t.lookup j = some w := by
  by_cases same : j = k
  · subst same
    rw [AList.lookup_erase] at found
    cases found
  · rwa [AList.lookup_erase_ne same] at found

namespace TaskDistributor.Untouched

variable {d : TaskDistributor}

theorem new : TaskDistributor.new.Untouched where
  tasks := fun _ _ found => by cases found
  nodeAssignments := fun _ _ found => by cases found
  nodeStatus := fun _ _ found => by cases found

theorem getNextTaskId (untouched : d.Untouched) : d.getNextTaskId.2.Untouched :=
  ⟨untouched.1, untouched.2, untouched.3⟩

theorem registerNode (untouched : d.Untouched) (nodeId nodeUrl : String) :
    (d.registerNode nodeId nodeUrl).Untouched where
  tasks := untouched.tasks
  nodeAssignments := by
    intro other task found
    rcases lookup_insert_cases found with rfl | found
    · rfl
    · exact untouched.nodeAssignments other task found
  nodeStatus := by
    intro other status found
    rcases lookup_insert_cases found with rfl | found
    · rfl
    · exact untouched.nodeStatus other status found

theorem createTask (untouched : d.Untouched) (taskId : Nat) (taskData : Json) :
    (d.createTask taskId taskData).Untouched where
  tasks := by
    intro other task found
    rcases lookup_insert_cases found with rfl | found
    · exact ⟨rfl, rfl⟩
    · exact untouched.tasks other task found
  nodeAssignments := untouched.nodeAssignments
  nodeStatus := untouched.nodeStatus

/-- A node that is unregistered has no task, so nothing is looked up for it. -/
theorem unregisterNode (untouched : d.Untouched) (nodeId : String) :
    ∃ d', d.unregisterNode nodeId = some d' ∧ d'.Untouched ∧ d'.tasks = d.tasks := by
  cases registered : d.nodeAssignments.lookup nodeId with
  | none =>
      refine ⟨{ d with nodeStatus := d.nodeStatus.erase nodeId }, ?_, ?_, rfl⟩
      · simp only [TaskDistributor.unregisterNode, registered]
        rfl
      · refine ⟨untouched.tasks, untouched.nodeAssignments, fun other status found => ?_⟩
        exact untouched.nodeStatus other status (lookup_of_erase found)
  | some assignment =>
      obtain rfl := untouched.nodeAssignments nodeId assignment registered
      refine ⟨{ d with nodeAssignments := d.nodeAssignments.erase nodeId
                       nodeStatus := d.nodeStatus.erase nodeId }, ?_, ?_, rfl⟩
      · simp only [TaskDistributor.unregisterNode, registered]
        rfl
      · refine ⟨untouched.tasks, fun other task found => ?_, fun other status found => ?_⟩
        · exact untouched.nodeAssignments other task (lookup_of_erase found)
        · exact untouched.nodeStatus other status (lookup_of_erase found)

/-- The choice of a node for a task without one waits for itself. -/
theorem not_settled {d : RatedDistributor} (untouched : d.toTaskDistributor.Untouched) {taskId : Nat}
    (known : taskId ∈ d.tasks) : ¬ d.Settled taskId := by
  rintro (absent | ⟨nodeId, named, _⟩)
  · exact absent known
  · obtain ⟨task, entry, named⟩ := TaskDistributor.nodeOf_eq_some.mp named
    rw [(untouched.tasks taskId task entry).2] at named
    cases named

end TaskDistributor.Untouched

/-! ## Requests -/

/-- A request that creates a task is never answered, and no request fails. -/
def ServedPoint.Allowed (d : TaskDistributor) : ServedPoint → Prop
  | .endpoint (.getNodeForTask taskId) => taskId ∈ d.tasks
  | .endpoint (.assignTaskToNode _ _) => False
  | .endpoint (.updateTaskStatus _ _) => False
  | .endpoint (.returned (.assigned _ _)) => False
  | .endpoint (.returned (.unassigned _)) => False
  | .endpoint (.returned .raised) => False
  | .endpoint (.returned (.status taskId status)) => taskId ∈ d.tasks ∧ status = .pending
  | _ => True

/-- Tasks are never removed. -/
theorem ServedPoint.Allowed.mono {d d' : TaskDistributor} {p : ServedPoint} (allowed : p.Allowed d)
    (kept : ∀ taskId, taskId ∈ d.tasks → taskId ∈ d'.tasks) : p.Allowed d' := by
  unfold ServedPoint.Allowed at allowed ⊢
  split <;> simp_all

/-- **The state of the server.** The dictionaries are untouched, every request is at an allowed point,
and the lock is taken exactly if a request waits for itself. -/
structure ServedUntouched (c : ServedThreads) : Prop where
  untouched : c.data.data.toTaskDistributor.Untouched
  allowed : ∀ i, (c.point i).Allowed c.data.data.toTaskDistributor
  taken : c.data.held = true ↔ ∃ i, c.point i = .blocked
  single : ∀ i j, c.point i = .blocked → c.point j = .blocked → i = j

/-- What a section does to an untouched distributor whose lock is free. -/
structure SectionEnds (d : RatedDistributor) (p : Endpoint) (r : ServedPoint × Locked RatedDistributor) :
    Prop where
  untouched : r.2.data.toTaskDistributor.Untouched
  allowed : r.1.Allowed r.2.data.toTaskDistributor
  kept : ∀ taskId, taskId ∈ d.tasks → taskId ∈ r.2.data.tasks
  held : r.2.held = true ↔ r.1 = .blocked
  waits : r.1 = .blocked ↔ ∃ taskId, p = .getNodeForTask taskId
  unchanged : r.1 = .blocked → r.2.data.toTaskDistributor = d.toTaskDistributor

/-- A section that returns a reply leaves the lock free. -/
theorem SectionEnds.of_answered {d d' : RatedDistributor} {p q : Endpoint}
    (untouched : d'.toTaskDistributor.Untouched)
    (allowed : (ServedPoint.endpoint q).Allowed d'.toTaskDistributor)
    (kept : ∀ taskId, taskId ∈ d.tasks → taskId ∈ d'.tasks)
    (other : ∀ taskId, p ≠ .getNodeForTask taskId) :
    SectionEnds d p (.endpoint q, .unlocked d') where
  untouched := untouched
  allowed := allowed
  kept := kept
  held := iff_of_false Bool.false_ne_true ServedPoint.noConfusion
  waits := iff_of_false ServedPoint.noConfusion fun ⟨taskId, same⟩ => other taskId same
  unchanged waits := ServedPoint.noConfusion waits

theorem sectionEnds {d : RatedDistributor} (untouched : d.toTaskDistributor.Untouched) {p : Endpoint}
    (allowed : (ServedPoint.endpoint p).Allowed d.toTaskDistributor)
    {r : ServedPoint × Locked RatedDistributor}
    (calls : ServedPoint.section_ (.unlocked d) p = some r) : SectionEnds d p r := by
  cases p with
  | idle => cases calls
  | registerNode nodeId nodeUrl =>
      cases calls
      exact .of_answered (untouched.registerNode nodeId nodeUrl) trivial (fun _ known => known)
        (by simp)
  | unregisterNode nodeId =>
      obtain ⟨d', returns, after, same⟩ := untouched.unregisterNode nodeId
      simp only [ServedPoint.section_, Endpoint.call, Locked.unlocked, returns] at calls
      cases calls
      exact .of_answered after trivial (fun _ known => same ▸ known) (by simp)
  | getNextTaskId taskData =>
      cases calls
      exact .of_answered untouched.getNextTaskId trivial (fun _ known => known) (by simp)
  | createTask taskId taskData =>
      cases calls
      exact .of_answered (untouched.createTask taskId taskData) ((AList.mem_insert _).mpr (.inl rfl))
        (fun _ known => (AList.mem_insert _).mpr (.inr known)) (by simp)
  | getNodeForTask taskId =>
      have ends := getNodeForTask_ends d taskId
      have unsettled := untouched.not_settled allowed
      simp only [ServedPoint.section_] at calls
      generalize (getNodeForTask taskId).run (.unlocked d) = outcome at ends calls
      cases ends with
      | unknown absent => exact absurd (.inl absent) unsettled
      | recorded named nonempty available =>
          exact absurd (.inr ⟨_, named, nonempty, available⟩) unsettled
      | waits =>
          cases calls
          exact ⟨untouched, trivial, fun _ known => known, iff_of_true rfl rfl,
            iff_of_true rfl ⟨taskId, rfl⟩, fun _ => rfl⟩
  | assignTaskToNode taskId nodeId => exact absurd allowed id
  | updateTaskStatus taskId nodeId => exact absurd allowed id
  | getTaskStatus taskId =>
      simp only [ServedPoint.section_, Endpoint.call, Locked.unlocked, TaskDistributor.getTaskStatus] at calls
      cases entry : d.tasks.lookup taskId with
      | none =>
          simp only [entry, Option.map_none] at calls
          cases calls
          exact .of_answered untouched trivial (fun _ known => known) (by simp)
      | some task =>
          simp only [entry, Option.map_some] at calls
          cases calls
          have known : taskId ∈ d.tasks := Table.mem_iff_exists_lookup.mpr ⟨task, entry⟩
          exact .of_answered untouched ⟨known, (untouched.tasks taskId task entry).1⟩
            (fun _ known => known) (by simp)
  | returned reply => cases calls

/-- A step of a thread in a state of the server. -/
inductive ServedStep (c : ServedThreads) (i : Nat) : ServedMove → ServedThreads → Prop where
  | receive {p q : Endpoint} (request : TaskRequest) (stands : c.point i = .endpoint p)
      (ready : p = .idle ∨ ∃ reply, p = .returned reply) (opening : q.Opening) :
      ServedStep c i (.receive request) (c.advance i (.endpoint q) c.data)
  | call {p : Endpoint} {r : ServedPoint × Locked RatedDistributor} (stands : c.point i = .endpoint p)
      (free : c.data.held = false) (ends : SectionEnds c.data.data p r) :
      ServedStep c i .call (c.advance i r.1 r.2)
  | update (rates : Table String ℚ) :
      ServedStep c i (.updateFailureProbabilities rates) (c.advance i (c.point i)
        { c.data with data := { c.data.data with nodeFailureRates := rates } })

theorem servedStep_of_next {c c' : ServedThreads} {i : Nat} {move : ServedMove} (served : ServedUntouched c)
    (next : servedDistributor.next c (i, move) = some c') : ServedStep c i move c' := by
  obtain ⟨p, w, steps, rfl⟩ := Threads.advance_of_next next
  cases stands : c.point i with
  | blocked =>
      rw [stands] at steps
      cases move with
      | receive request => cases steps
      | call => cases steps
      | updateFailureProbabilities rates =>
          cases steps
          rw [← stands]
          exact .update rates
  | endpoint e =>
      rw [stands] at steps
      cases move with
      | receive request =>
          obtain ⟨⟨q, d⟩, receives, same⟩ := Option.map_eq_some_iff.mp steps
          cases same
          cases e with
          | idle =>
              obtain ⟨q, enters, same⟩ := Option.map_eq_some_iff.mp receives
              cases same
              exact .receive request stands (.inl rfl) (TaskRequest.opening_of_entry enters)
          | returned reply =>
              obtain ⟨q, enters, same⟩ := Option.map_eq_some_iff.mp receives
              cases same
              exact .receive request stands (.inr ⟨_, rfl⟩) (TaskRequest.opening_of_entry enters)
          | _ => cases receives
      | call =>
          simp only [ServedPoint.step] at steps
          split at steps
          · cases steps
          · next free =>
              rw [Bool.not_eq_true] at free
              obtain ⟨⟨d, held⟩, point⟩ := c
              cases free
              have allowed := served.allowed i
              rw [stands] at allowed
              exact .call stands rfl (sectionEnds served.untouched allowed steps)
      | updateFailureProbabilities rates =>
          cases steps
          rw [← stands]
          exact .update rates

/-- Where the threads wait for themselves after a step. -/
theorem blocked_advance {c : ServedThreads} {i : Nat} {p : ServedPoint} {w : Locked RatedDistributor}
    (same : p = .blocked ↔ c.point i = .blocked) (j : Nat) :
    (c.advance i p w).point j = .blocked ↔ c.point j = .blocked := by
  by_cases here : j = i
  · subst here
    rw [Threads.point_advance_self, same]
  · rw [Threads.point_advance_of_ne here]

/-- **Every step keeps the state of the server.** -/
theorem ServedUntouched.next {c c' : ServedThreads} {i : Nat} {move : ServedMove} (served : ServedUntouched c)
    (step : ServedStep c i move c') : ServedUntouched c' := by
  cases step with
  | @receive p q request stands ready opening =>
      have same := blocked_advance (w := c.data) (p := .endpoint q)
        (iff_of_false nofun (fun waits => by rw [stands] at waits; cases waits) :
          ServedPoint.endpoint q = .blocked ↔ c.point i = .blocked)
      refine ⟨served.untouched, fun j => ?_, ?_, ?_⟩
      · by_cases here : j = i
        · subst here
          rw [Threads.point_advance_self]
          cases opening <;> trivial
        · rw [Threads.point_advance_of_ne here]
          exact served.allowed j
      · exact served.taken.trans (exists_congr fun j => (same j).symm)
      · exact fun j k first second => served.single j k ((same j).mp first) ((same k).mp second)
  | @call p r stands free ends =>
      have unblocked : ∀ j, c.point j ≠ .blocked := fun j waits =>
        Bool.false_ne_true (free.symm.trans (served.taken.mpr ⟨j, waits⟩))
      have only : ∀ j, (c.advance i r.1 r.2).point j = .blocked → j = i := by
        intro j waits
        by_contra here
        rw [Threads.point_advance_of_ne here] at waits
        exact unblocked j waits
      refine ⟨ends.untouched, fun j => ?_, ?_, fun j k first second => ?_⟩
      · by_cases here : j = i
        · subst here
          rw [Threads.point_advance_self]
          exact ends.allowed
        · rw [Threads.point_advance_of_ne here]
          exact (served.allowed j).mono ends.kept
      · rw [Threads.data_advance, ends.held]
        constructor
        · intro waits
          exact ⟨i, by rw [Threads.point_advance_self, waits]⟩
        · rintro ⟨j, waits⟩
          obtain rfl := only j waits
          rwa [Threads.point_advance_self] at waits
      · rw [only j first, only k second]
  | update rates =>
      have same := fun j => blocked_advance (c := c) (i := i) (w := { c.data with
        data := { c.data.data with nodeFailureRates := rates } }) Iff.rfl j
      refine ⟨served.untouched, fun j => ?_, ?_, ?_⟩
      · by_cases here : j = i
        · subst here
          rw [Threads.point_advance_self]
          exact served.allowed j
        · rw [Threads.point_advance_of_ne here]
          exact served.allowed j
      · exact served.taken.trans (exists_congr fun j => (same j).symm)
      · exact fun j k first second => served.single j k ((same j).mp first) ((same k).mp second)

theorem served_of_reachable {c : ServedThreads} (reachable : servedDistributor.Reachable c) :
    ServedUntouched c := by
  apply reachable.induct
  · rintro c ⟨start, idle⟩
    refine ⟨?_, fun i => ?_, ?_, fun i j first _ => ?_⟩
    · rw [start]
      exact .new
    · rw [idle i]
      trivial
    · rw [start]
      refine iff_of_false Bool.false_ne_true ?_
      rintro ⟨i, waits⟩
      rw [idle i] at waits
      cases waits
    · rw [idle i] at first
      cases first
  · rintro c ⟨i, move⟩ c' served _ next
    exact served.next (servedStep_of_next served next)

/-- **No task is ever given to a node.** Along every run the tasks are pending without a node, the nodes
have no task and are available, and nothing is answered to a request for a new task that was not
refused for its body. -/
theorem untouched_of_reachable {c : ServedThreads} (reachable : servedDistributor.Reachable c) :
    (∀ taskId task, c.data.data.tasks.lookup taskId = some task →
      task.status = .pending ∧ task.nodeId = none) ∧
    (∀ nodeId task, c.data.data.nodeAssignments.lookup nodeId = some task → task = none) ∧
    (∀ nodeId status, c.data.data.nodeStatus.lookup nodeId = some status → status = .available) ∧
    ∀ i reply, c.point i = .endpoint (.returned reply) →
      (∃ rejection, reply = .refused rejection) ∨
        (∃ nodeId, reply = .registered nodeId) ∨ (∃ nodeId, reply = .unregistered nodeId) ∨
        (∃ taskId, reply = .status taskId .pending) ∨ reply = .notFound := by
  have served := served_of_reachable reachable
  refine ⟨served.untouched.tasks, served.untouched.nodeAssignments, served.untouched.nodeStatus, ?_⟩
  intro i reply stands
  have allowed := served.allowed i
  rw [stands] at allowed
  cases reply with
  | refused rejection => exact .inl ⟨rejection, rfl⟩
  | registered nodeId => exact .inr (.inl ⟨nodeId, rfl⟩)
  | unregistered nodeId => exact .inr (.inr (.inl ⟨nodeId, rfl⟩))
  | assigned taskId nodeId => exact absurd allowed id
  | unassigned taskId => exact absurd allowed id
  | status taskId status => exact .inr (.inr (.inr (.inl ⟨taskId, by rw [allowed.2]⟩)))
  | notFound => exact .inr (.inr (.inr (.inr rfl)))
  | raised => exact absurd allowed id

/-- A node is registered and available, and the request for the first task waits for itself. -/
theorem untouched_of_reachable_first : ∃ c : ServedThreads, c.point 1 = .blocked ∧
    c.data.data.nodeStatus.lookup "worker-1" = some .available ∧
    c.data.data.tasks.keys = [1] ∧
    ∀ taskId task, c.data.data.tasks.lookup taskId = some task →
      task.status = .pending ∧ task.nodeId = none := by
  have h0 : servedDistributor.Reachable ⟨.unlocked .new, fun _ => .endpoint .idle⟩ :=
    .start ⟨rfl, fun _ => rfl⟩
  have h1 := h0.step (0, .receive (.registration "worker-1" "http://worker-1:8090")) trivial rfl
  have h2 := h1.step (0, .call) trivial rfl
  have h3 := h2.step (1, .receive (.createTask (.json (.obj [])))) trivial rfl
  have h4 := h3.step (1, .call) trivial rfl
  have h5 := h4.step (1, .call) trivial rfl
  have h6 := h5.step (1, .call) trivial rfl
  exact ⟨_, rfl, rfl, rfl, (untouched_of_reachable h6).1⟩

/-! ## The first choice is the last section -/

/-- The lock is taken, and since some state nothing was entered in the dictionaries, and answered only
what is refused. -/
structure Frozen (before : ServedThreads) (i : Nat) (c : ServedThreads) : Prop where
  served : ServedUntouched c
  waits : c.point i = .blocked
  same : c.data.data.toTaskDistributor = before.data.data.toTaskDistributor
  answered : ∀ j reply, c.point j = .endpoint (.returned reply) →
    before.point j = .endpoint (.returned reply) ∨ ∃ rejection, reply = .refused rejection

theorem Frozen.next {before c c' : ServedThreads} {i j : Nat} {move : ServedMove}
    (frozen : Frozen before i c) (next : servedDistributor.next c (j, move) = some c') :
    Frozen before i c' := by
  have step := servedStep_of_next frozen.served next
  have served := frozen.served.next step
  have taken := frozen.served.taken.mpr ⟨i, frozen.waits⟩
  cases step with
  | receive request stands ready opening =>
      refine ⟨served, ?_, frozen.same, fun k reply answered => ?_⟩
      · rw [Threads.point_advance_of_ne]
        · exact frozen.waits
        · rintro rfl
          cases frozen.waits.symm.trans stands
      · by_cases here : k = j
        · subst here
          rw [Threads.point_advance_self] at answered
          cases opening <;> cases answered
          exact .inr ⟨_, rfl⟩
        · rw [Threads.point_advance_of_ne here] at answered
          exact frozen.answered k reply answered
  | call stands free ends => exact absurd (free.symm.trans taken) Bool.false_ne_true
  | update rates =>
      have points : ∀ k, (c.advance j (c.point j) { c.data with
          data := { c.data.data with nodeFailureRates := rates } }).point k = c.point k := by
        intro k
        by_cases here : k = j
        · subst here
          rw [Threads.point_advance_self]
        · rw [Threads.point_advance_of_ne here]
      refine ⟨served, (points i).trans frozen.waits, frozen.same, fun k reply answered => ?_⟩
      exact frozen.answered k reply ((points k).symm.trans answered)

/-- **The first request for a new task stops the distributor.** Once its node is being chosen, the
request waits for itself, no request is answered any more unless it is refused before it takes the
lock, and the dictionaries stay as they are. -/
theorem frozen_of_choice {c c' c'' : ServedThreads} {i taskId : Nat}
    (reachable : servedDistributor.Reachable c)
    (choosing : c.point i = .endpoint (.getNodeForTask taskId))
    (next : servedDistributor.next c (i, .call) = some c')
    (later : (servedDistributor.startingAt c').Reachable c'') :
    c''.point i = .blocked ∧
      c''.data.data.toTaskDistributor = c.data.data.toTaskDistributor ∧
      ∀ j reply, c''.point j = .endpoint (.returned reply) →
        c.point j = .endpoint (.returned reply) ∨ ∃ rejection, reply = .refused rejection := by
  have served := served_of_reachable reachable
  have step := servedStep_of_next served next
  have start : Frozen c i c' := by
    have after := served.next step
    cases step with
    | @call p r stands free ends =>
        obtain rfl : p = .getNodeForTask taskId := by
          rw [stands] at choosing
          exact ServedPoint.endpoint.inj choosing
        have waits := ends.waits.mpr ⟨taskId, rfl⟩
        refine ⟨after, ?_, ends.unchanged waits, fun j reply answered => ?_⟩
        · rw [Threads.point_advance_self, waits]
        · by_cases here : j = i
          · subst here
            rw [Threads.point_advance_self, waits] at answered
            cases answered
          · rw [Threads.point_advance_of_ne here] at answered
            exact .inl answered
  have frozen : Frozen c i c'' := by
    apply later.induct
    · intro s same
      rw [show s = c' from same]
      exact start
    · rintro s ⟨j, move⟩ s' frozen _ next
      exact frozen.next next
  exact ⟨frozen.waits, frozen.same, frozen.answered⟩

/-- A node is available and a client asks for a task. The registration of another node is not answered,
and a status request without a task number is refused. -/
theorem frozen_of_choice_second : ∃ c : ServedThreads, servedDistributor.Reachable c ∧
    c.point 1 = .blocked ∧ c.data.data.nodeStatus.lookup "worker-1" = some .available ∧
    c.point 2 = .endpoint (.registerNode "worker-2" "http://worker-2:8090") ∧
    c.point 3 = .endpoint (.returned (.refused .internalServerError)) := by
  have h0 : servedDistributor.Reachable ⟨.unlocked .new, fun _ => .endpoint .idle⟩ :=
    .start ⟨rfl, fun _ => rfl⟩
  have h1 := h0.step (0, .receive (.registration "worker-1" "http://worker-1:8090")) trivial rfl
  have h2 := h1.step (0, .call) trivial rfl
  have h3 := h2.step (1, .receive (.createTask (.json (.obj [])))) trivial rfl
  have h4 := h3.step (1, .call) trivial rfl
  have h5 := h4.step (1, .call) trivial rfl
  have h6 := h5.step (1, .call) trivial rfl
  have h7 := h6.step (2, .receive (.registration "worker-2" "http://worker-2:8090")) trivial rfl
  have h8 := h7.step (3, .receive (.getTaskStatus none)) trivial rfl
  refine ⟨_, h8, (frozen_of_choice h5 rfl rfl ?_).1, rfl, rfl, rfl⟩
  exact .step (3, .receive (.getTaskStatus none)) (.step
    (2, .receive (.registration "worker-2" "http://worker-2:8090")) (.start rfl) trivial rfl) trivial rfl

end C4D
