import C4D.Foundations.Methods
import C4D.Tasks.Assignment
import Mathlib.Algebra.Field.Rat

/-!
# The choice of a node

`get_node_for_task` holds the lock of the distributor while it calls
`get_available_node`, which takes it again. The lock cannot be taken twice, so the call
waits for itself. It answers exactly when it does not come that far: the task is unknown,
or the node recorded for it is available (`getNodeForTask_answers_iff`). A task starts
without a node, so its first choice never ends. From then on no other method that takes
the lock is answered (`blocked_of_held`).

Called by itself, `get_available_node` raises an error if there is anything to choose:
the module `random` is not imported (`getAvailableNode_run`).

Failure rates are rational numbers. They decide which function of `random` is
called, and no answer depends on them.
-/

set_option autoImplicit false

namespace C4D

open Foundations Method

/-- The distributor with the failure rates of the nodes. -/
structure RatedDistributor extends TaskDistributor where
  nodeFailureRates : Table String ℚ

namespace RatedDistributor

/-! ## The choice -/

/-- `NameError` -/
def nameError (name : String) : String := "name '" ++ name ++ "' is not defined"

/-- `random.choices(population, weights=weights, k=1)[0]` -/
def randomChoices (_population : List String) (_weights : List ℚ) :
    Method RatedDistributor String :=
  raise (nameError "random")

/-- `random.choice(population)` -/
def randomChoice (_population : List String) : Method RatedDistributor String :=
  raise (nameError "random")

/-- `available_nodes` -/
def availableNodes (d : RatedDistributor) : List String :=
  d.nodeStatus.keys.filter fun nodeId => d.nodeStatus.lookup nodeId = some .available

/-- `get_available_node` -/
def getAvailableNode : Method RatedDistributor (Option String) := withLock do
  let d ← read
  let availableNodes := d.availableNodes
  if availableNodes = [] then
    return none
  else if availableNodes.all fun nodeId => nodeId ∈ d.nodeFailureRates then
    let weights := availableNodes.map fun nodeId =>
      1 - (d.nodeFailureRates.lookup nodeId).getD 0
    let totalWeight := weights.sum
    if totalWeight > 0 then
      let chosenNode ← randomChoices availableNodes (weights.map fun w => w / totalWeight)
      return some chosenNode
    else
      let chosenNode ← randomChoice availableNodes
      return some chosenNode
  else
    let chosenNode ← randomChoice availableNodes
    return some chosenNode

/-- What `get_node_for_task` does while it holds the lock. -/
def nodeForTask (taskId : Nat) (d : RatedDistributor) : Method RatedDistributor (Option String) :=
  match d.tasks.lookup taskId with
  | none => return none
  | some task =>
      match task.nodeId with
      | some previousNodeId =>
          if previousNodeId ≠ "" ∧ d.nodeStatus.lookup previousNodeId = some .available then
            return some previousNodeId
          else getAvailableNode
      | none => getAvailableNode

/-- `get_node_for_task` -/
def getNodeForTask (taskId : Nat) : Method RatedDistributor (Option String) :=
  withLock (read >>= nodeForTask taskId)

/-! ## What it is meant to answer -/

/-- The node has the status "available". -/
def Available (d : RatedDistributor) (nodeId : String) : Prop :=
  d.nodeStatus.lookup nodeId = some .available

/-- The node to choose for a task: the recorded one if it is available, or else another one
that is. -/
inductive Chosen (d : RatedDistributor) (taskId : Nat) : Option String → Prop where
  | unknown (absent : taskId ∉ d.tasks) : Chosen d taskId none
  | recorded {task : Task} {nodeId : String} (entry : d.tasks.lookup taskId = some task)
      (named : task.nodeId = some nodeId) (available : d.Available nodeId) :
      Chosen d taskId (some nodeId)
  | other {task : Task} {nodeId : String} (entry : d.tasks.lookup taskId = some task)
      (taken : ∀ previous, task.nodeId = some previous → ¬ d.Available previous)
      (available : d.Available nodeId) : Chosen d taskId (some nodeId)
  | noneLeft {task : Task} (entry : d.tasks.lookup taskId = some task)
      (taken : ∀ nodeId, ¬ d.Available nodeId) : Chosen d taskId none

/-- A call with the lock free returns the right node, and the lock is free again. -/
def Answers (d : RatedDistributor) (taskId : Nat) : Prop :=
  ∃ node after, (getNodeForTask taskId).run (.unlocked d) = .ok node after ∧
    after.held = false ∧ d.Chosen taskId node

/-- There is no new node to find: the task is unknown, or it has a node that is available. -/
def Settled (d : RatedDistributor) (taskId : Nat) : Prop :=
  taskId ∉ d.tasks ∨ ∃ nodeId, d.nodeOf taskId = some nodeId ∧ nodeId ≠ "" ∧ d.Available nodeId

/-! ## How the calls end -/

section Ends

variable {d : RatedDistributor} {taskId : Nat}

/-- **A new node is never chosen.** The call returns without one if none is available, and
raises an error otherwise. The lock is given back. -/
theorem getAvailableNode_run (d : RatedDistributor) :
    getAvailableNode.run (.unlocked d) =
      if d.availableNodes = [] then .ok none (.unlocked d)
      else .error (.raised (nameError "random")) (.unlocked d) := by
  apply withLock_run.trans
  rw [EStateM.run_bind, read_run]
  dsimp only
  split
  · rfl
  · split
    · split <;> rfl
    · rfl

/-- How a call ends: it returns the recorded node, or waits for itself. -/
inductive ChoiceEnds (d : RatedDistributor) (taskId : Nat) :
    EStateM.Result Stop (Locked RatedDistributor) (Option String) → Prop where
  | unknown (absent : taskId ∉ d.tasks) : ChoiceEnds d taskId (.ok none (.unlocked d))
  | recorded {nodeId : String} (named : d.nodeOf taskId = some nodeId) (nonempty : nodeId ≠ "")
      (available : d.Available nodeId) : ChoiceEnds d taskId (.ok (some nodeId) (.unlocked d))
  | waits (unsettled : ¬ d.Settled taskId) : ChoiceEnds d taskId (.error .blocked ⟨d, true⟩)

/-- The call for a new node waits for the lock its caller holds. -/
theorem getNodeForTask_waits (enters : nodeForTask taskId d = getAvailableNode) :
    (getNodeForTask taskId).run (.unlocked d) = .error .blocked ⟨d, true⟩ :=
  withLock_nested (nodeForTask taskId) read_run enters

theorem getNodeForTask_ends (d : RatedDistributor) (taskId : Nat) :
    ChoiceEnds d taskId ((getNodeForTask taskId).run (.unlocked d)) := by
  cases entry : d.tasks.lookup taskId with
  | none =>
      have returns : (getNodeForTask taskId).run (.unlocked d) = .ok none (.unlocked d) := by
        apply withLock_run.trans
        rw [EStateM.run_bind, read_run]
        simp only [nodeForTask, entry]
        rfl
      rw [returns]
      exact .unknown (AList.lookup_eq_none.mp entry)
  | some task =>
      have known : taskId ∈ d.tasks := Table.mem_iff_exists_lookup.mpr ⟨task, entry⟩
      have nodeOf : d.nodeOf taskId = task.nodeId := by
        rw [TaskDistributor.nodeOf, entry, Option.bind_some]
      by_cases settled : ∃ nodeId, task.nodeId = some nodeId ∧ nodeId ≠ "" ∧ d.Available nodeId
      · obtain ⟨nodeId, named, nonempty, available⟩ := settled
        have returns : (getNodeForTask taskId).run (.unlocked d) =
            .ok (some nodeId) (.unlocked d) := by
          apply withLock_run.trans
          rw [EStateM.run_bind, read_run]
          simp only [nodeForTask, entry, named]
          rw [if_pos ⟨nonempty, available⟩]
          rfl
        rw [returns]
        exact .recorded (nodeOf.trans named) nonempty available
      · have enters : nodeForTask taskId d = getAvailableNode := by
          simp only [nodeForTask, entry]
          split
          · next previous named => exact if_neg fun here => settled ⟨previous, named, here⟩
          · rfl
        rw [getNodeForTask_waits enters]
        apply ChoiceEnds.waits
        rintro (absent | ⟨nodeId, named, here⟩)
        · exact absent known
        · exact settled ⟨nodeId, nodeOf.symm.trans named, here⟩

/-- **A choice is answered** exactly when there is no new node to find. -/
theorem getNodeForTask_answers_iff (d : RatedDistributor) (taskId : Nat) :
    d.Answers taskId ↔ d.Settled taskId := by
  have ends := getNodeForTask_ends d taskId
  unfold Answers
  generalize (getNodeForTask taskId).run (.unlocked d) = outcome at ends ⊢
  cases ends with
  | unknown absent => exact iff_of_true ⟨_, _, rfl, rfl, .unknown absent⟩ (.inl absent)
  | @recorded nodeId named nonempty available =>
      obtain ⟨task, entry, recorded⟩ := TaskDistributor.nodeOf_eq_some.mp named
      exact iff_of_true ⟨_, _, rfl, rfl, .recorded entry recorded available⟩
        (.inr ⟨nodeId, named, nonempty, available⟩)
  | waits unsettled =>
      refine iff_of_false ?_ unsettled
      rintro ⟨_, _, returns, _⟩
      cases returns

/-- The call keeps the lock exactly if it looks for a new node. -/
theorem held_getNodeForTask (d : RatedDistributor) (taskId : Nat) :
    (final ((getNodeForTask taskId).run (.unlocked d))).held = true ↔ ¬ d.Settled taskId := by
  have ends := getNodeForTask_ends d taskId
  generalize (getNodeForTask taskId).run (.unlocked d) = outcome at ends ⊢
  cases ends with
  | unknown absent => exact iff_of_false Bool.false_ne_true fun not => not (.inl absent)
  | @recorded nodeId named nonempty available =>
      exact iff_of_false Bool.false_ne_true fun not =>
        not (.inr ⟨nodeId, named, nonempty, available⟩)
  | waits unsettled => exact iff_of_true rfl unsettled

/-- A choice that is answered is one of the distributor that chooses. -/
theorem getNodeForTask_refines {node : Option String} {after : Locked RatedDistributor}
    (returns : (getNodeForTask taskId).run (.unlocked d) = .ok node after) (pick : Nat) :
    d.toTaskDistributor.getNodeForTask pick taskId = node := by
  have ends := getNodeForTask_ends d taskId
  rw [returns] at ends
  cases ends with
  | unknown absent =>
      simp only [TaskDistributor.getNodeForTask, AList.lookup_eq_none.mpr absent]
  | @recorded nodeId named nonempty available =>
      obtain ⟨task, entry, recorded⟩ := TaskDistributor.nodeOf_eq_some.mp named
      simp only [TaskDistributor.getNodeForTask, entry, recorded]
      exact if_pos ⟨nonempty, available⟩

end Ends

/-! ## Calls of the methods -/

section Sections

variable (f : TaskDistributor → TaskDistributor) (g : TaskDistributor → Option TaskDistributor)

/-- A section that changes the dictionaries. -/
def change : Method RatedDistributor Unit :=
  withLock (act fun d => ((), { d with toTaskDistributor := f d.toTaskDistributor }))

/-- A section that looks up a key first. -/
def lookupAndChange : Method RatedDistributor Unit := withLock do
  let d ← read
  match g d.toTaskDistributor with
  | none => raise "KeyError"
  | some d' => act fun d => ((), { d with toTaskDistributor := d' })

end Sections

end RatedDistributor

open RatedDistributor

/-- A call of a method. `create_task` takes the lock twice, and is two. -/
inductive MethodCall where
  | getNextTaskId
  | updateFailureProbabilities (rates : Table String ℚ)
  | registerNode (nodeId nodeUrl : String)
  | unregisterNode (nodeId : String)
  | getAvailableNode
  | assignTaskToNode (taskId : Nat) (nodeId : String)
  | createTask (taskId : Nat) (taskData : Json)
  | getTaskStatus (taskId : Nat)
  | updateTaskStatus (taskId : Nat) (status : TaskStatus)
  | getNodeForTask (taskId : Nat)

namespace MethodCall

def perform : MethodCall → Method RatedDistributor Unit
  | .getNextTaskId => change fun d => d.getNextTaskId.2
  | .updateFailureProbabilities rates => act fun d => ((), { d with nodeFailureRates := rates })
  | .registerNode nodeId nodeUrl => change (·.registerNode nodeId nodeUrl)
  | .unregisterNode nodeId => lookupAndChange (·.unregisterNode nodeId)
  | .getAvailableNode => ignore RatedDistributor.getAvailableNode
  | .assignTaskToNode taskId nodeId => lookupAndChange (·.assignTaskToNode taskId nodeId)
  | .createTask taskId taskData => change (·.createTask taskId taskData)
  | .getTaskStatus _ => withLock (ignore read)
  | .updateTaskStatus taskId status => change (·.updateTaskStatus taskId status)
  | .getNodeForTask taskId => ignore (RatedDistributor.getNodeForTask taskId)

/-- The call takes the lock. Only the refresh of the failure rates does without it. -/
def TakesLock (call : MethodCall) : Prop := ∀ rates, call ≠ .updateFailureProbabilities rates

/-- If the call chooses a node, there is no new one to find. -/
def Settles (w : Locked RatedDistributor) : MethodCall → Prop
  | .getNodeForTask taskId => w.data.Settled taskId
  | _ => True

/-- **While the lock is taken** every method that takes it waits. -/
theorem blocked_of_held {call : MethodCall} (takes : call.TakesLock) (d : RatedDistributor) :
    call.perform.run ⟨d, true⟩ = .error .blocked ⟨d, true⟩ := by
  cases call with
  | updateFailureProbabilities rates => exact absurd rfl (takes rates)
  | _ => rfl

theorem held_perform (call : MethodCall) (d : RatedDistributor) :
    (final (call.perform.run ⟨d, true⟩)).held = true := by
  cases call with
  | updateFailureProbabilities rates => rfl
  | _ => rfl

/-- A call gives the lock back, unless it looks for a new node. -/
theorem free_perform {call : MethodCall} {d : RatedDistributor}
    (settles : call.Settles (.unlocked d)) :
    (final (call.perform.run (.unlocked d))).held = false := by
  have looksUp (g : TaskDistributor → Option TaskDistributor) :
      (final ((lookupAndChange g).run (.unlocked d))).held = false := by
    apply (congrArg (fun r => (final r).held) withLock_run).trans
    rw [EStateM.run_bind, read_run]
    dsimp only
    cases g d.toTaskDistributor <;> rfl
  cases call with
  | unregisterNode nodeId => exact looksUp _
  | assignTaskToNode taskId nodeId => exact looksUp _
  | getAvailableNode =>
      rw [perform, final_ignore, getAvailableNode_run]
      split <;> rfl
  | getNodeForTask taskId =>
      rw [perform, final_ignore, Bool.eq_false_iff]
      intro held
      exact (held_getNodeForTask d taskId).mp held settles
  | _ => rfl

end MethodCall

/-- `__init__` -/
def RatedDistributor.new : RatedDistributor := { TaskDistributor.new with nodeFailureRates := ∅ }

/-- All calls of the methods of a new distributor, by any number of threads. -/
def ratedDistributor : System (Locked RatedDistributor) MethodCall :=
  Method.calls (fun d => d = .new) MethodCall.perform

/-- Along a run in which no call looks for a new node, the lock is free between the calls. -/
theorem ratedDistributor_free {w : Locked RatedDistributor}
    (run : ratedDistributor.Run (fun w call => call.Settles w) w) : w.held = false :=
  Method.free_of_run (fun _ _ => MethodCall.free_perform) run

/-- **A search for a new node is the last call that is answered.** -/
theorem blocked_of_unsettled {d : RatedDistributor} {taskId : Nat} (unsettled : ¬ d.Settled taskId)
    {w : Locked RatedDistributor} {call : MethodCall} (takes : call.TakesLock)
    (run : (ratedDistributor.startingAt
      (final ((getNodeForTask taskId).run (.unlocked d)))).Reachable w) :
    call.perform.run w = .error .blocked w := by
  have taken := (held_getNodeForTask d taskId).mpr unsettled
  have held := Method.held_of_run (fun d call => MethodCall.held_perform call d) taken run
  obtain ⟨d', _⟩ := w
  cases held
  exact MethodCall.blocked_of_held takes d'

/-- The first task waits for itself, although a node is available for it. -/
theorem getNodeForTask_waits_first : ∃ w : Locked RatedDistributor, ratedDistributor.Reachable w ∧
    w.held = false ∧ w.data.Available "worker-1" ∧ ¬ w.data.Answers 1 := by
  obtain ⟨w, reachable, holds⟩ := System.exists_reachable (S := ratedDistributor)
    [.registerNode "worker-1" "http://worker-1:8090", .getNextTaskId, .createTask 1 (.obj [])]
    (fun w => !w.held && w.data.nodeStatus.lookup "worker-1" = some .available &&
      1 ∈ w.data.tasks && w.data.nodeOf 1 = none) (s := .unlocked .new) ⟨rfl, rfl⟩ (by decide)
  simp only [Bool.and_eq_true, Bool.not_eq_true', decide_eq_true_eq] at holds
  obtain ⟨⟨⟨free, available⟩, known⟩, nowhere⟩ := holds
  refine ⟨w, reachable, free, available, ?_⟩
  rintro ⟨node, after, returns, _⟩
  have ends := getNodeForTask_ends w.data 1
  rw [returns] at ends
  cases ends with
  | unknown absent => exact absent known
  | recorded named => cases nowhere.symm.trans named

end C4D
