import C4D.Foundations.Matching
import C4D.Tasks.Distributor

/-!
# Which node has which task

A task names its node and a node names its task, in two dictionaries that are meant to
describe one relation; the third dictionary says which nodes have a task. A node is chosen
for a task in one section and assigned in a later one, and neither a registration nor an
assignment looks at the task the node may have.

Along every run in which no node that has a task is registered or assigned again, and a
task is marked as running only while it has its node, the dictionaries agree
(`consistent_of_run`). Any other step breaks this at once (`not_consistent_of_displaces`).
-/

set_option autoImplicit false

namespace C4D

open Foundations

namespace TaskDistributor

/-! ## The relation -/

/-- The node a task names. -/
def nodeOf (d : TaskDistributor) (taskId : Nat) : Option String :=
  (d.tasks.lookup taskId).bind Task.nodeId

/-- The task a node names. -/
def taskOf (d : TaskDistributor) (nodeId : String) : Option Nat :=
  (d.nodeAssignments.lookup nodeId).join

/-- The dictionaries describe one relation of tasks and registered nodes: the running tasks are in it,
and a node that is unregistered takes its task with it. -/
structure Consistent (d : TaskDistributor) : Prop where
  sameKeys : ∀ nodeId, nodeId ∈ d.nodeAssignments ↔ nodeId ∈ d.nodeStatus
  busy : ∀ nodeId, d.nodeStatus.lookup nodeId = some .busy ↔
    ∃ taskId, d.nodeAssignments.lookup nodeId = some (some taskId)
  related : ∀ taskId nodeId, (∃ task, d.tasks.lookup taskId = some task ∧ task.nodeId = some nodeId) ↔
    d.nodeAssignments.lookup nodeId = some (some taskId)
  running : ∀ taskId task, d.tasks.lookup taskId = some task → task.status = .running →
    ∃ nodeId, d.nodeAssignments.lookup nodeId = some (some taskId)
  unregistered : ∀ nodeId taskId, d.nodeAssignments.lookup nodeId = some (some taskId) →
    ∃ d', d.unregisterNode nodeId = some d' ∧ d'.getTaskStatus taskId = some .failed

theorem Consistent.matches {d : TaskDistributor} (consistent : d.Consistent) :
    Matches d.nodeOf d.taskOf := by
  intro taskId nodeId
  rw [nodeOf, Option.bind_eq_some_iff, taskOf, Option.join_eq_some_iff]
  exact consistent.related taskId nodeId

/-- The status that belongs to an assignment. -/
def statusFor : Option Nat → NodeAvailability
  | none => .available
  | some _ => .busy

/-- The same, as each method keeps it. The ids of tasks are the numbers up to the counter. -/
structure Sound (d : TaskDistributor) : Prop where
  status : ∀ nodeId, d.nodeStatus.lookup nodeId = (d.nodeAssignments.lookup nodeId).map statusFor
  related : Matches d.nodeOf d.taskOf
  running : ∀ taskId, d.getTaskStatus taskId = some .running → d.nodeOf taskId ≠ none
  numbered : ∀ taskId ∈ d.tasks, 0 < taskId ∧ taskId ≤ d.taskCounter

section Views

variable {d : TaskDistributor} {taskId : Nat} {nodeId : String}

theorem nodeOf_eq_some : d.nodeOf taskId = some nodeId ↔
    ∃ task, d.tasks.lookup taskId = some task ∧ task.nodeId = some nodeId :=
  Option.bind_eq_some_iff

theorem taskOf_eq_some : d.taskOf nodeId = some taskId ↔
    d.nodeAssignments.lookup nodeId = some (some taskId) := Option.join_eq_some_iff

theorem nodeOf_of_notMem (absent : taskId ∉ d.tasks) : d.nodeOf taskId = none := by
  rw [nodeOf, AList.lookup_eq_none.mpr absent, Option.bind_none]

theorem mem_of_nodeOf {nodeId : String} (found : d.nodeOf taskId = some nodeId) : taskId ∈ d.tasks := by
  obtain ⟨task, entry, _⟩ := nodeOf_eq_some.mp found
  exact Table.mem_iff_exists_lookup.mpr ⟨task, entry⟩

/-- A change of the node of a task. -/
theorem nodeOf_modify (known : taskId ∈ d.tasks) (f : Task → Task) {node : Option String}
    (sets : ∀ task, (f task).nodeId = node) :
    (fun t => ((Table.modify taskId f d.tasks).lookup t).bind Task.nodeId) =
      Function.update d.nodeOf taskId node := by
  funext t
  by_cases here : t = taskId
  · subst here
    obtain ⟨task, entry⟩ := Table.mem_iff_exists_lookup.mp known
    rw [Table.lookup_modify_self, entry, Function.update_self]
    exact sets task
  · rw [Table.lookup_modify_of_ne here, Function.update_of_ne here]
    rfl

theorem nodeOf_updateTaskStatus (taskId : Nat) (status : TaskStatus) :
    (d.updateTaskStatus taskId status).nodeOf = d.nodeOf := by
  funext t
  rw [nodeOf, updateTaskStatus, Table.lookup_modify, Option.bind_map]
  congr 1
  funext task
  simp only [Function.comp_apply]
  split <;> rfl

theorem join_lookup_insert (assignment : Option Nat) :
    (fun n => ((d.nodeAssignments.insert nodeId assignment).lookup n).join) =
      Function.update d.taskOf nodeId assignment := by
  funext n
  by_cases here : n = nodeId
  · subst here
    rw [AList.lookup_insert, Function.update_self]
    rfl
  · rw [AList.lookup_insert_ne here, Function.update_of_ne here]
    rfl

end Views

/-! ## What the methods do to it -/

section Methods

variable {d d' : TaskDistributor} {taskId : Nat} {nodeId : String}

theorem sound_new : Sound new where
  status _ := rfl
  related := Matches.empty
  running _ running := by cases running
  numbered t mem := absurd mem (AList.notMem_empty t)

/-- What is left of a node after it was unregistered. -/
structure Unregistered (nodeId : String) (d d' : TaskDistributor) : Prop where
  status : ∀ n, d'.nodeStatus.lookup n = if n = nodeId then none else d.nodeStatus.lookup n
  assignments : ∀ n, d'.nodeAssignments.lookup n =
    if n = nodeId then none else d.nodeAssignments.lookup n
  tasks : d'.tasks = (d.taskOf nodeId).elim d.tasks fun taskId =>
    Table.modify taskId (fun task => { task with status := .failed, nodeId := none }) d.tasks
  taskCounter : d'.taskCounter = d.taskCounter

theorem lookup_erase_eq {V : Type} (t : Table String V) (n : String) :
    (t.erase nodeId).lookup n = if n = nodeId then none else t.lookup n := by
  split
  · next here => rw [here, AList.lookup_erase]
  · next other => exact AList.lookup_erase_ne other

namespace Sound

variable (sound : d.Sound)

include sound

theorem numbered_taskOf (found : d.taskOf nodeId = some taskId) :
    taskId ∈ d.tasks ∧ 0 < taskId := by
  have known := mem_of_nodeOf ((sound.related taskId nodeId).mpr found)
  exact ⟨known, (sound.numbered taskId known).1⟩

/-- **Unregistering a node** does not raise, and takes its task with it. -/
theorem unregisters (nodeId : String) :
    ∃ d', d.unregisterNode nodeId = some d' ∧ Unregistered nodeId d d' := by
  cases entry : d.nodeAssignments.lookup nodeId with
  | none =>
      have free : d.taskOf nodeId = none := by rw [taskOf, entry, Option.join_none]
      refine ⟨{ d with nodeStatus := d.nodeStatus.erase nodeId }, ?_, lookup_erase_eq _, ?_, ?_, rfl⟩
      · simp [TaskDistributor.unregisterNode, entry]
      · intro n
        split
        · next here => rw [here, entry]
        · rfl
      · rw [free, Option.elim_none]
  | some assignment =>
      have assigned : d.taskOf nodeId = assignment := by rw [taskOf, entry, Option.join_some]
      cases assignment with
      | none =>
          refine ⟨{ d with
            nodeAssignments := d.nodeAssignments.erase nodeId
            nodeStatus := d.nodeStatus.erase nodeId }, ?_, lookup_erase_eq _, lookup_erase_eq _, ?_, rfl⟩
          · simp [TaskDistributor.unregisterNode, entry, failTask]
          · rw [assigned, Option.elim_none]
      | some taskId =>
          obtain ⟨known, positive⟩ := sound.numbered_taskOf assigned
          refine ⟨{ d with
            tasks := Table.modify taskId
              (fun task => { task with status := .failed, nodeId := none }) d.tasks
            nodeAssignments := d.nodeAssignments.erase nodeId
            nodeStatus := d.nodeStatus.erase nodeId }, ?_, lookup_erase_eq _, lookup_erase_eq _, ?_, rfl⟩
          · simp [TaskDistributor.unregisterNode, entry, failTask, positive.ne', known]
          · rw [assigned, Option.elim_some]

/-- **The dictionaries describe one relation.** -/
theorem consistent : d.Consistent where
  sameKeys nodeId := by
    rw [Table.mem_iff_exists_lookup, Table.mem_iff_exists_lookup, sound.status]
    cases d.nodeAssignments.lookup nodeId <;> simp
  busy nodeId := by
    rw [sound.status]
    rcases d.nodeAssignments.lookup nodeId with _ | _ | taskId <;> simp [statusFor]
  related taskId nodeId := by
    rw [← nodeOf_eq_some, ← taskOf_eq_some]
    exact sound.related taskId nodeId
  running taskId task entry running := by
    have works := sound.running taskId (by rw [getTaskStatus, entry, Option.map_some, running])
    obtain ⟨nodeId, named⟩ := Option.ne_none_iff_exists'.mp works
    exact ⟨nodeId, taskOf_eq_some.mp ((sound.related taskId nodeId).mp named)⟩
  unregistered nodeId taskId assigned := by
    have found := taskOf_eq_some.mpr assigned
    obtain ⟨task, entry⟩ := Table.mem_iff_exists_lookup.mp (sound.numbered_taskOf found).1
    obtain ⟨d', unregisters, unregistered⟩ := sound.unregisters nodeId
    refine ⟨d', unregisters, ?_⟩
    rw [getTaskStatus, unregistered.tasks, found, Option.elim_some, Table.lookup_modify_self, entry]
    rfl

theorem getNextTaskId : d.getNextTaskId.2.Sound where
  status := sound.status
  related := sound.related
  running := sound.running
  numbered t known := ⟨(sound.numbered t known).1, Nat.le_succ_of_le (sound.numbered t known).2⟩

/-- A node without a task is registered. -/
theorem registerNode (free : d.taskOf nodeId = none) (nodeUrl : String) :
    (d.registerNode nodeId nodeUrl).Sound where
  status n := by
    simp only [TaskDistributor.registerNode]
    by_cases here : n = nodeId
    · subst here
      rw [AList.lookup_insert, AList.lookup_insert]
      rfl
    · rw [AList.lookup_insert_ne here, AList.lookup_insert_ne here, sound.status]
  related := by
    have same : (d.registerNode nodeId nodeUrl).taskOf = d.taskOf :=
      (join_lookup_insert none).trans (by rw [← free, Function.update_eq_self])
    rw [same]
    exact sound.related
  running := sound.running
  numbered := sound.numbered

theorem unregisterNode (unregistered : Unregistered nodeId d d') : d'.Sound := by
  have taskOf : d'.taskOf = Function.update d.taskOf nodeId none := by
    funext n
    rw [TaskDistributor.taskOf, unregistered.assignments]
    by_cases here : n = nodeId
    · rw [if_pos here, here, Function.update_self, Option.join_none]
    · rw [if_neg here, Function.update_of_ne here]
      rfl
  have status : ∀ n, d'.nodeStatus.lookup n = (d'.nodeAssignments.lookup n).map statusFor := by
    intro n
    rw [unregistered.status, unregistered.assignments]
    split
    · rfl
    · exact sound.status n
  have tasks := unregistered.tasks
  cases assigned : d.taskOf nodeId with
  | none =>
      rw [assigned, Option.elim_none] at tasks
      have nodeOf : d'.nodeOf = d.nodeOf := by
        funext t
        rw [TaskDistributor.nodeOf, tasks, TaskDistributor.nodeOf]
      refine ⟨status, ?_, ?_, ?_⟩
      · rw [nodeOf, taskOf, ← assigned, Function.update_eq_self]
        exact sound.related
      · intro t running
        rw [getTaskStatus, tasks] at running
        rw [nodeOf]
        exact sound.running t running
      · rw [tasks, unregistered.taskCounter]
        exact sound.numbered
  | some taskId =>
      rw [assigned, Option.elim_some] at tasks
      obtain ⟨known, _⟩ := sound.numbered_taskOf assigned
      have nodeOf := nodeOf_modify known
        (fun task => { task with status := .failed, nodeId := none }) fun _ => rfl
      rw [← tasks] at nodeOf
      change d'.nodeOf = Function.update d.nodeOf taskId none at nodeOf
      refine ⟨status, ?_, ?_, ?_⟩
      · rw [nodeOf, taskOf]
        exact sound.related.cut assigned
      · intro t running
        by_cases here : t = taskId
        · subst here
          obtain ⟨task, entry⟩ := Table.mem_iff_exists_lookup.mp known
          rw [getTaskStatus, tasks, Table.lookup_modify_self, entry] at running
          cases running
        · rw [getTaskStatus, tasks, Table.lookup_modify_of_ne here] at running
          rw [nodeOf, Function.update_of_ne here]
          exact sound.running t running
      · rw [tasks, unregistered.taskCounter]
        intro t mem
        exact sound.numbered t (Table.mem_modify.mp mem)

/-- A task is entered under a new number. -/
theorem createTask (fresh : taskId ∉ d.tasks) (positive : 0 < taskId)
    (counted : taskId ≤ d.taskCounter) (taskData : Json) : (d.createTask taskId taskData).Sound := by
  have nodeOf : (d.createTask taskId taskData).nodeOf = d.nodeOf := by
    funext t
    by_cases here : t = taskId
    · subst here
      rw [nodeOf_of_notMem fresh, TaskDistributor.nodeOf, TaskDistributor.createTask,
        AList.lookup_insert]
      rfl
    · rw [TaskDistributor.nodeOf, TaskDistributor.createTask, AList.lookup_insert_ne here]
      rfl
  refine ⟨sound.status, ?_, ?_, ?_⟩
  · rw [nodeOf]
    exact sound.related
  · intro t running
    by_cases here : t = taskId
    · subst here
      rw [getTaskStatus, TaskDistributor.createTask, AList.lookup_insert] at running
      cases running
    · rw [getTaskStatus, TaskDistributor.createTask, AList.lookup_insert_ne here] at running
      rw [nodeOf]
      exact sound.running t running
  · intro t mem
    rcases (AList.mem_insert _).mp mem with rfl | mem
    · exact ⟨positive, counted⟩
    · exact sound.numbered t mem

/-- A task without a node is assigned to a node without a task. -/
theorem assignTaskToNode (known : taskId ∈ d.tasks) (waiting : d.nodeOf taskId = none)
    (free : d.taskOf nodeId = none) :
    ∃ d', d.assignTaskToNode taskId nodeId = some d' ∧ d'.Sound := by
  refine ⟨_, if_pos known, ?_, ?_, ?_, ?_⟩
  · intro n
    by_cases here : n = nodeId
    · subst here
      rw [AList.lookup_insert, AList.lookup_insert]
      rfl
    · rw [AList.lookup_insert_ne here, AList.lookup_insert_ne here, sound.status]
  · have linked := sound.related.link waiting free
    rw [← nodeOf_modify known (fun task => { task with nodeId := some nodeId }) fun _ => rfl,
      ← join_lookup_insert] at linked
    exact linked
  · intro t running
    have same := Table.map_lookup_modify Task.status
      (fun task => { task with nodeId := some nodeId }) (fun _ => rfl) t taskId d.tasks
    have works := sound.running t (same.symm.trans running)
    have other : t ≠ taskId := by
      rintro rfl
      exact works waiting
    change (Option.bind _ Task.nodeId) ≠ none
    rwa [Table.lookup_modify_of_ne other]
  · exact fun t mem => sound.numbered t (Table.mem_modify.mp mem)

/-- A task is marked as running while it has a node. -/
theorem updateTaskStatus (works : taskId ∈ d.tasks → d.nodeOf taskId ≠ none) :
    (d.updateTaskStatus taskId .running).Sound := by
  have nodeOf := nodeOf_updateTaskStatus (d := d) taskId .running
  refine ⟨sound.status, ?_, ?_, ?_⟩
  · rw [nodeOf]
    exact sound.related
  · intro t running
    rw [nodeOf]
    by_cases here : t = taskId
    · subst here
      obtain ⟨task, entry, _⟩ := Option.map_eq_some_iff.mp running
      exact works (Table.mem_modify.mp (Table.mem_iff_exists_lookup.mpr ⟨task, entry⟩))
    · rw [getTaskStatus, TaskDistributor.updateTaskStatus, Table.lookup_modify_of_ne here] at running
      exact sound.running t running
  · exact fun t mem => sound.numbered t (Table.mem_modify.mp mem)

end Sound

end Methods

end TaskDistributor

/-! ## Requests -/

namespace Endpoint

/-- The task a request has not yet assigned. -/
def owns : Endpoint → Option Nat
  | .createTask taskId _ => some taskId
  | .getNodeForTask taskId => some taskId
  | .assignTaskToNode taskId _ => some taskId
  | _ => none

/-- The task of the request is entered. -/
def Entered : Endpoint → Prop
  | .createTask _ _ => False
  | _ => True

/-- The task of a request has a number, and no node. -/
structure Waiting (d : TaskDistributor) (p : Endpoint) (taskId : Nat) : Prop where
  positive : 0 < taskId
  counted : taskId ≤ d.taskCounter
  entered : taskId ∈ d.tasks ↔ p.Entered
  unassigned : d.nodeOf taskId = none

/-- The section registers or assigns a node that has a task, or marks a task as running that has
lost its node. -/
def Displaces (d : TaskDistributor) : Endpoint → Prop
  | .registerNode nodeId _ => d.taskOf nodeId ≠ none
  | .assignTaskToNode _ nodeId => d.taskOf nodeId ≠ none
  | .updateTaskStatus taskId _ => taskId ∈ d.tasks ∧ d.nodeOf taskId = none
  | _ => False

instance (d : TaskDistributor) (p : Endpoint) : Decidable (p.Displaces d) := by
  cases p <;> unfold Displaces <;> infer_instance

/-- What a section leaves alone of the tasks of the other requests. -/
structure Frame (owner : Option Nat) (d d' : TaskDistributor) : Prop where
  taskCounter : d.taskCounter ≤ d'.taskCounter
  tasks : ∀ t, owner ≠ some t → (t ∈ d'.tasks ↔ t ∈ d.tasks)
  unassigned : ∀ t, owner ≠ some t → d.nodeOf t = none → d'.nodeOf t = none

theorem Frame.refl (owner : Option Nat) (d : TaskDistributor) : Frame owner d d :=
  ⟨le_rfl, fun _ _ => Iff.rfl, fun _ _ unassigned => unassigned⟩

theorem Waiting.frame {owner : Option Nat} {d d' : TaskDistributor} {p : Endpoint} {t : Nat}
    (waiting : p.Waiting d t) (frame : Frame owner d d') (other : owner ≠ some t) :
    p.Waiting d' t where
  positive := waiting.positive
  counted := waiting.counted.trans frame.taskCounter
  entered := (frame.tasks t other).trans waiting.entered
  unassigned := frame.unassigned t other waiting.unassigned

/-- What a section of a request leads to. -/
structure Kept (p : Endpoint) (d : TaskDistributor) (p' : Endpoint) (d' : TaskDistributor) :
    Prop where
  sound : d'.Sound
  frame : Frame p.owns d d'
  waiting : ∀ t, p'.owns = some t → p'.Waiting d' t
  owner : ∀ t, p'.owns = some t → p.owns = some t ∨ d.taskCounter < t

variable {d d' : TaskDistributor} {p p' : Endpoint}

/-- A section that has no task afterwards. -/
theorem Kept.of_free (sound : d'.Sound) (frame : Frame p.owns d d') (free : p'.owns = none) :
    Kept p d p' d' := by
  refine ⟨sound, frame, ?_, ?_⟩
  · intro t owned
    cases free.symm.trans owned
  · intro t owned
    cases free.symm.trans owned

theorem frame_unregistered (sound : d.Sound) {nodeId : String}
    (unregistered : TaskDistributor.Unregistered nodeId d d') (owner : Option Nat) :
    Frame owner d d' := by
  have tasks := unregistered.tasks
  refine ⟨unregistered.taskCounter.ge, ?_, ?_⟩
  · intro t _
    rw [tasks]
    cases d.taskOf nodeId with
    | none => exact Iff.rfl
    | some taskId =>
        rw [Option.elim_some]
        exact Table.mem_modify
  · intro t _ unassigned
    rw [TaskDistributor.nodeOf, tasks]
    cases assigned : d.taskOf nodeId with
    | none => exact unassigned
    | some taskId =>
        have other : t ≠ taskId := by
          rintro rfl
          exact sound.related.ne_some_of_free unassigned nodeId assigned
        rw [Option.elim_some, Table.lookup_modify_of_ne other]
        exact unassigned

/-- **Every section** that displaces nothing keeps the relation, and the tasks of the other
requests. -/
theorem kept_of_call {pick : Nat} (sound : d.Sound) (waiting : ∀ t, p.owns = some t → p.Waiting d t)
    (keeps : ¬ p.Displaces d) (calls : p.call pick d = some (p', d')) : Kept p d p' d' := by
  cases p with
  | idle => cases calls
  | registerNode nodeId nodeUrl =>
      cases calls
      exact .of_free (sound.registerNode (not_not.mp keeps) nodeUrl)
        ⟨le_rfl, fun _ _ => Iff.rfl, fun _ _ unassigned => unassigned⟩ rfl
  | unregisterNode nodeId =>
      obtain ⟨after, unregisters, unregistered⟩ := sound.unregisters nodeId
      rw [call, unregisters] at calls
      cases calls
      exact .of_free (sound.unregisterNode unregistered)
        (frame_unregistered sound unregistered none) rfl
  | getNextTaskId taskData =>
      cases calls
      refine ⟨sound.getNextTaskId, ⟨Nat.le_succ _, fun _ _ => Iff.rfl, fun _ _ free => free⟩, ?_, ?_⟩
      · intro t owned
        cases owned
        have fresh : d.taskCounter + 1 ∉ d.tasks := fun mem =>
          absurd (sound.numbered _ mem).2 (Nat.not_succ_le_self _)
        exact ⟨Nat.succ_pos _, le_rfl, iff_of_false fresh id,
          TaskDistributor.nodeOf_of_notMem fresh⟩
      · intro t owned
        cases owned
        exact .inr (Nat.lt_succ_self _)
  | createTask taskId taskData =>
      have mine := waiting taskId rfl
      have fresh : taskId ∉ d.tasks := mine.entered.mp
      cases calls
      have frame : Frame (some taskId) d (d.createTask taskId taskData) := by
        refine ⟨le_rfl, ?_, ?_⟩
        · intro t other
          rw [TaskDistributor.createTask, AList.mem_insert]
          exact or_iff_right fun same => other (congrArg some same.symm)
        · intro t other unassigned
          rw [TaskDistributor.nodeOf, TaskDistributor.createTask,
            AList.lookup_insert_ne fun same => other (congrArg some same.symm)]
          exact unassigned
      refine ⟨sound.createTask fresh mine.positive mine.counted taskData, frame, ?_, ?_⟩
      · intro t owned
        cases owned
        refine ⟨mine.positive, mine.counted, iff_of_true ?_ trivial, ?_⟩
        · exact (AList.mem_insert _).mpr (.inl rfl)
        · rw [TaskDistributor.nodeOf, TaskDistributor.createTask, AList.lookup_insert]
          rfl
      · exact fun t owned => .inl owned
  | getNodeForTask taskId =>
      have mine := waiting taskId rfl
      rw [call] at calls
      split at calls
      · next nodeId found =>
          split at calls <;> cases calls
          · exact .of_free sound (.refl _ d) rfl
          · refine ⟨sound, .refl _ d, ?_, fun t owned => .inl owned⟩
            intro t owned
            cases owned
            exact ⟨mine.positive, mine.counted, mine.entered, mine.unassigned⟩
      · cases calls
        exact .of_free sound (.refl _ d) rfl
  | assignTaskToNode taskId nodeId =>
      have mine := waiting taskId rfl
      have known : taskId ∈ d.tasks := mine.entered.mpr trivial
      obtain ⟨after, assigns, later⟩ := sound.assignTaskToNode known mine.unassigned (not_not.mp keeps)
      rw [call, assigns] at calls
      rw [TaskDistributor.assignTaskToNode, if_pos known] at assigns
      cases assigns
      cases calls
      refine .of_free later ⟨le_rfl, fun _ _ => Table.mem_modify, ?_⟩ rfl
      intro t other unassigned
      rw [TaskDistributor.nodeOf, Table.lookup_modify_of_ne fun same => other (congrArg some same.symm)]
      exact unassigned
  | updateTaskStatus taskId nodeId =>
      cases calls
      refine .of_free (sound.updateTaskStatus (not_and.mp keeps)) ⟨le_rfl, fun _ _ => Table.mem_modify, ?_⟩ rfl
      intro t _ unassigned
      rwa [TaskDistributor.nodeOf_updateTaskStatus]
  | getTaskStatus taskId =>
      rw [call] at calls
      split at calls <;> cases calls
      · exact .of_free sound (.refl _ d) rfl
      · exact .of_free sound (.refl _ d) rfl
  | returned reply => cases calls

end Endpoint

/-! ## Runs -/

namespace Assignment

/-- The step displaces a task. -/
def Displaces (c : DistributorThreads) : Nat × EndpointMove → Prop
  | (i, .call _) => (c.point i).Displaces c.data
  | (_, .receive _) => False

instance (c : DistributorThreads) (a : Nat × EndpointMove) : Decidable (Displaces c a) := by
  rcases a with ⟨i, _ | pick⟩ <;> unfold Displaces <;> infer_instance

/-- The relation holds, and every request has a task of its own. -/
structure Orderly (c : DistributorThreads) : Prop where
  sound : c.data.Sound
  waiting : ∀ i t, (c.point i).owns = some t → (c.point i).Waiting c.data t
  own : ∀ i j t, (c.point i).owns = some t → (c.point j).owns = some t → i = j

namespace Orderly

variable {c : DistributorThreads} {i : Nat}

theorem receive (orderly : Orderly c) {p : Endpoint} (opening : p.Opening) :
    Orderly (c.advance i p c.data) := by
  have free : p.owns = none := by cases opening <;> rfl
  have owned : ∀ j t, ((c.advance i p c.data).point j).owns = some t →
      (c.advance i p c.data).point j = c.point j := by
    intro j t owns
    by_cases here : j = i
    · rw [here, Threads.point_advance_self, free] at owns
      cases owns
    · exact Threads.point_advance_of_ne here
  refine ⟨orderly.sound, ?_, ?_⟩
  · intro j t owns
    have same := owned j t owns
    rw [same] at owns ⊢
    exact orderly.waiting j t owns
  · intro j k t first second
    rw [owned j t first] at first
    rw [owned k t second] at second
    exact orderly.own j k t first second

theorem call (orderly : Orderly c) {p : Endpoint} {d : TaskDistributor}
    (kept : (c.point i).Kept c.data p d) : Orderly (c.advance i p d) := by
  have others : ∀ j t, j ≠ i → (c.point j).owns = some t → (c.point i).owns ≠ some t :=
    fun j t other owns same => other (orderly.own j i t owns same)
  have apart : ∀ j t, j ≠ i → (c.point j).owns = some t → p.owns ≠ some t := by
    intro j t other owns same
    rcases kept.owner t same with mine | new
    · exact others j t other owns mine
    · exact absurd (orderly.waiting j t owns).counted (not_le.mpr new)
  refine ⟨kept.sound, ?_, ?_⟩
  · intro j t owns
    by_cases here : j = i
    · subst here
      rw [Threads.point_advance_self] at owns ⊢
      exact kept.waiting t owns
    · rw [Threads.point_advance_of_ne here] at owns ⊢
      exact (orderly.waiting j t owns).frame kept.frame (others j t here owns)
  · intro j k t first second
    by_cases hereJ : j = i
    · by_cases hereK : k = i
      · rw [hereJ, hereK]
      · rw [hereJ, Threads.point_advance_self] at first
        rw [Threads.point_advance_of_ne hereK] at second
        exact absurd first (apart k t hereK second)
    · rw [Threads.point_advance_of_ne hereJ] at first
      by_cases hereK : k = i
      · rw [hereK, Threads.point_advance_self] at second
        exact absurd second (apart j t hereJ first)
      · rw [Threads.point_advance_of_ne hereK] at second
        exact orderly.own j k t first second

end Orderly

theorem orderly_of_run {c : DistributorThreads}
    (run : distributor.Run (fun c a => ¬ Displaces c a) c) : Orderly c := by
  apply run.induct
  · intro c ⟨fresh, start⟩
    refine ⟨fresh ▸ TaskDistributor.sound_new, ?_, ?_⟩
    · intro i t owns
      rw [start i] at owns
      cases owns
    · intro i j t owns _
      rw [start i] at owns
      cases owns
  · rintro c ⟨i, move⟩ c' orderly keeps next
    obtain ⟨p, d, steps, rfl⟩ := Threads.advance_of_next next
    cases move with
    | receive request =>
        cases here : c.point i with
        | idle =>
            rw [here] at steps
            obtain ⟨p, enters, same⟩ := Option.map_eq_some_iff.mp steps
            cases same
            exact orderly.receive (TaskRequest.opening_of_entry enters)
        | returned reply =>
            rw [here] at steps
            obtain ⟨p, enters, same⟩ := Option.map_eq_some_iff.mp steps
            cases same
            exact orderly.receive (TaskRequest.opening_of_entry enters)
        | _ =>
            rw [here] at steps
            cases steps
    | call pick =>
        exact orderly.call (Endpoint.kept_of_call orderly.sound (orderly.waiting i) keeps steps)

/-- **The dictionaries agree** along every run in which no step displaces a task. -/
theorem consistent_of_run {c : DistributorThreads}
    (run : distributor.Run (fun c a => ¬ Displaces c a) c) : c.data.Consistent :=
  (orderly_of_run run).sound.consistent

/-- A step that displaces a task breaks this at once. -/
theorem not_consistent_of_displaces {c c' : DistributorThreads} {a : Nat × EndpointMove}
    (run : distributor.Run (fun c a => ¬ Displaces c a) c) (displaces : Displaces c a)
    (next : distributor.next c a = some c') : ¬ c'.data.Consistent := by
  have orderly := orderly_of_run run
  have sound := orderly.sound
  rcases a with ⟨i, _ | pick⟩
  · exact displaces.elim
  obtain ⟨p, d, calls, rfl⟩ := Threads.advance_of_next next
  intro consistent
  have related := consistent.matches
  change (c.point i).Displaces c.data at displaces
  change Matches d.nodeOf d.taskOf at related
  change Endpoint.call pick c.data (c.point i) = some (p, d) at calls
  have waiting := orderly.waiting i
  cases here : c.point i with
  | registerNode nodeId nodeUrl =>
      rw [here] at displaces calls
      cases calls
      obtain ⟨taskId, assigned⟩ := Option.ne_none_iff_exists'.mp displaces
      apply sound.related.not_drop assigned
      rw [← TaskDistributor.join_lookup_insert]
      exact related
  | assignTaskToNode taskId nodeId =>
      rw [here] at displaces calls waiting
      obtain ⟨other, assigned⟩ := Option.ne_none_iff_exists'.mp displaces
      have mine := waiting taskId rfl
      have known : taskId ∈ c.data.tasks := mine.entered.mpr trivial
      rw [Endpoint.call, TaskDistributor.assignTaskToNode, if_pos known] at calls
      cases calls
      apply sound.related.not_relink assigned mine.unassigned
      rw [← TaskDistributor.join_lookup_insert, ← TaskDistributor.nodeOf_modify known
        (fun task => { task with nodeId := some nodeId }) fun _ => rfl]
      exact related
  | updateTaskStatus taskId nodeId =>
      rw [here] at displaces calls
      obtain ⟨known, lost⟩ := displaces
      cases calls
      obtain ⟨task, entry⟩ := Table.mem_iff_exists_lookup.mp known
      obtain ⟨n, assigned⟩ := consistent.running taskId { task with status := .running }
        (by
          change (Table.modify taskId _ c.data.tasks).lookup taskId = _
          rw [Table.lookup_modify_self, entry]
          rfl) rfl
      have named := (related taskId n).mpr (TaskDistributor.taskOf_eq_some.mpr assigned)
      rw [TaskDistributor.nodeOf_updateTaskStatus, lost] at named
      cases named
  | _ =>
      rw [here] at displaces
      exact displaces

/-! ## Two runs -/

/-- Thread `i` receives a request and calls all its sections. -/
def serving (i : Nat) (request : TaskRequest) (sections : Nat) : List (Nat × EndpointMove) :=
  (i, .receive request) :: List.replicate sections (i, .call 0)

/-- A node is registered and gets a task. -/
def working : List (Nat × EndpointMove) :=
  serving 0 (.registration "node-1" "http://node-1:5000") 1 ++
    serving 1 (.createTask (.json .null)) 5

theorem initial_distributor : distributor.init ⟨.new, fun _ => .idle⟩ := ⟨rfl, fun _ => rfl⟩

/-- A running task on one node, and another node without a task. -/
theorem consistent_working : ∃ c : DistributorThreads,
    c.data.getTaskStatus 1 = some .running ∧ c.data.nodeOf 1 = some "node-1" ∧
      c.data.Consistent := by
  obtain ⟨c, run, holds⟩ := System.exists_run (S := distributor)
    (C := fun c a => ¬ Displaces c a) (fun c a => decide (¬ Displaces c a))
    (working ++ serving 2 (.registration "node-2" "http://node-2:5000") 1)
    (fun c => decide (c.data.getTaskStatus 1 = some .running ∧ c.data.nodeOf 1 = some "node-1"))
    (fun _ _ _ allowed => of_decide_eq_true allowed) initial_distributor (by decide +kernel)
  obtain ⟨running, named⟩ := of_decide_eq_true holds
  exact ⟨c, running, named, consistent_of_run run⟩

/-- A node that runs a task registers again. Its task stays `running` and names the node, which has no
task and is available; when the node is unregistered, the task does not fail. -/
theorem inconsistent_reregistered : ∃ c, distributor.Reachable c ∧
    c.data.getTaskStatus 1 = some .running ∧ c.data.nodeOf 1 = some "node-1" ∧
      c.data.nodeAssignments.lookup "node-1" = some none ∧
      (c.data.unregisterNode "node-1").bind (TaskDistributor.getTaskStatus 1) = some .running ∧
      ¬ c.data.Consistent := by
  obtain ⟨c, reachable, holds⟩ := System.exists_reachable (S := distributor)
    (working ++ serving 2 (.registration "node-1" "http://node-1:5000") 1)
    (fun c => decide (c.data.getTaskStatus 1 = some .running ∧ c.data.nodeOf 1 = some "node-1" ∧
      c.data.nodeAssignments.lookup "node-1" = some none ∧
      (c.data.unregisterNode "node-1").bind (TaskDistributor.getTaskStatus 1) = some .running))
    initial_distributor (by decide +kernel)
  obtain ⟨running, named, dropped, lasts⟩ := of_decide_eq_true holds
  refine ⟨c, reachable, running, named, dropped, lasts, ?_⟩
  intro consistent
  have assigned := (consistent.related 1 "node-1").mp (TaskDistributor.nodeOf_eq_some.mp named)
  rw [dropped] at assigned
  cases assigned

end Assignment

end C4D
