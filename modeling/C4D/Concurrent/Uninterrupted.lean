import C4D.Concurrent.Promotion
import Mathlib.Logic.Relation

/-!
# A call that is left alone

While no event comes, the steps of a call follow its loops to their ends (`Goes`).

So an event that does not spare the listed nodes does harm once the call goes on
(`not_respected_of_unspared`), and a call that is never interrupted is
`reconfigureCluster` (`ends_reconfigure`, `reachable_of_run`).
-/

set_option autoImplicit false

namespace C4D

open Foundations

namespace Interrupted

/-! ## Loops -/

/-- The steps of a call while no event comes. -/
abbrev Goes (setting : Setting) (rounds : Nat → Round) : Point × Heap → Point × Heap → Prop :=
  Relation.ReflTransGen fun a b => ∃ next, step setting rounds next a.1 a.2 = some b

theorem Goes.reachable {setting : Setting} {rounds : Nat → Round} {before : Server}
    {a b : Point × Heap} (goes : Goes setting rounds a b)
    (start : (interrupted setting rounds before).Reachable ⟨a.1, a.2⟩) :
    (interrupted setting rounds before).Reachable ⟨b.1, b.2⟩ := by
  induction goes with
  | refl => exact start
  | tail _ last ih =>
      obtain ⟨next, steps⟩ := last
      exact .step (.call next) ih trivial (Option.map_eq_some_iff.mpr ⟨_, steps, rfl⟩)

namespace Heap

/-- The data after the promotion loop, from a list of `len` active nodes and turn `i` on. -/
def promoteFrom : Nat → Nat → List String → Heap → Heap
  | _, _, [], h => h
  | len, i, id :: rest, h => promoteFrom (len + 1) (i + 1) rest (h.promote id (len + i))

/-- `node.Rank = i` along a list of nodes. -/
def assignRanks : List String → Nat → Heap → Heap
  | [], _, h => h
  | id :: rest, i, h => assignRanks rest (i + 1) (h.setRank id i)

variable {h : Heap} {id : String}

theorem current_assign {here : Server → Server} {gone : Registry → Registry}
    (same : (here h.server).current = h.server.current) :
    (h.assign id here gone).server.current = h.server.current := by
  unfold assign
  split
  · exact same
  · rfl

theorem current_promote (rank : Int) : (h.promote id rank).server.current = h.server.current :=
  current_assign rfl

theorem current_setRank (rank : Int) : (h.setRank id rank).server.current = h.server.current :=
  current_assign rfl

theorem current_promoteFrom (len i : Nat) (left : List String) (h : Heap) :
    (h.promoteFrom len i left).server.current = h.server.current := by
  induction left generalizing len i h with
  | nil => rfl
  | cons id rest ih => exact (ih ..).trans (current_promote _)

theorem current_assignRanks (nodes : List String) (i : Nat) (h : Heap) :
    (h.assignRanks nodes i).server.current = h.server.current := by
  induction nodes generalizing i h with
  | nil => rfl
  | cons id rest ih => exact (ih ..).trans (current_setRank _)

end Heap

section Loops

variable {setting : Setting} {rounds : Nat → Round} {h : Heap} {held : Held}
  (alive : h.server.current ≠ .failed)

include alive

/-- The promotion loop. -/
theorem goes_promote (i : Nat) (left : List String) :
    Goes setting rounds (.promote held i left, h)
      (.promote { held with activeNodes := held.activeNodes ++ left } (i + left.length) [],
        h.promoteFrom held.activeNodes.length i left) := by
  induction left generalizing held i h with
  | nil =>
      rw [List.append_nil]
      exact .refl
  | cons id rest ih =>
      have here : step setting rounds "" (.promote held i (id :: rest)) h =
          some (.promote (held.add id) (i + 1) rest,
            h.promote id (held.activeNodes.length + i)) := by
        rw [step, if_neg alive]
      have still : (h.promote id (held.activeNodes.length + i)).server.current ≠ .failed :=
        (Heap.current_promote _).trans_ne alive
      have on := @ih _ (held.add id) still (i + 1)
      rw [Held.add, List.append_assoc, List.singleton_append, List.length_append,
        List.length_singleton, Nat.add_assoc, Nat.add_comm 1] at on
      exact .head ⟨"", here⟩ on

/-- The assignment of ranks. -/
theorem goes_assign (i : Nat) :
    Goes setting rounds (.assign held i, h)
      (.notify held held.activeNodes [] [], h.assignRanks (held.activeNodes.drop i) i) := by
  generalize rest : held.activeNodes.drop i = nodes
  induction nodes generalizing i h with
  | nil =>
      have last : held.activeNodes[i]? = none := by
        rw [← List.head?_drop, rest, List.head?_nil]
      refine .single ⟨"", ?_⟩
      simp only [step, if_neg alive, last, Heap.assignRanks]
  | cons id nodes ih =>
      have found : held.activeNodes[i]? = some id := by
        rw [← List.head?_drop, rest, List.head?_cons]
      have after : held.activeNodes.drop (i + 1) = nodes := by
        rw [← List.tail_drop, rest, List.tail_cons]
      have here : step setting rounds "" (.assign held i) h =
          some (.assign held (i + 1), h.setRank id i) := by
        simp only [step, if_neg alive, found]
      exact .head ⟨"", here⟩ (ih ((Heap.current_setRank _).trans_ne alive) (i + 1) after)

/-- The URLs on record after some more nodes were notified. -/
def collect (answers : String → Bool) (urlOf : String → String) (nodes failedNodes : List String) :
    List String :=
  nodes.foldl (fun failedNodes id =>
    if answers id then failedNodes else failedNodes.insert (urlOf id)) failedNodes

variable (setting rounds held) in
/-- The notifications, in the order of the list. -/
theorem goes_notify (left failedNodes : List String) (sent : List Command) :
    Goes setting rounds (.notify held left failedNodes sent, h)
      (.notify held [] (collect (rounds held.attempt).answers h.urlOf left failedNodes)
        (sent ++ left.map (h.restartCommand setting)), h) := by
  induction left generalizing failedNodes sent with
  | nil =>
      rw [List.map_nil, List.append_nil]
      exact .refl
  | cons id rest ih =>
      have here : step setting rounds id (.notify held (id :: rest) failedNodes sent) h =
          some (.notify held rest (if (rounds held.attempt).answers id = true then failedNodes
              else failedNodes.insert (h.urlOf id)) (sent ++ [h.restartCommand setting id]), h) := by
        simp only [step, if_neg alive, if_pos List.mem_cons_self, List.erase_cons_head]
      have on := ih (if (rounds held.attempt).answers id = true then failedNodes
        else failedNodes.insert (h.urlOf id)) (sent ++ [h.restartCommand setting id])
      rw [List.append_assoc, List.singleton_append] at on
      exact .head ⟨id, here⟩ on

/-- The marking of nodes under a set of URLs, in any order. -/
theorem goes_mark (attempt : Nat) {urls left : List String} (perm : urls.Perm left) :
    Goes setting rounds (.mark attempt left, h)
      (.mark attempt [], h.update fun s => urls.foldl Server.markFailed s) := by
  induction urls generalizing left h with
  | nil =>
      rw [perm.symm.eq_nil]
      exact .refl
  | cons url rest ih =>
      have mem : url ∈ left := perm.subset List.mem_cons_self
      have here : step setting rounds url (.mark attempt left) h =
          some (.mark attempt (left.erase url), h.update fun s => s.markFailed url) := by
        simp only [step, if_neg alive, if_pos mem]
      have current : (h.server.markFailed url).current = h.server.current :=
        congrArg Elsewhere.current (Server.elsewhere_markFailed h.server url)
      have rest_perm : rest.Perm (left.erase url) := by
        have erased := perm.erase url
        rwa [List.erase_cons_head] at erased
      exact .head ⟨url, here⟩ (ih (h := h.update fun s => s.markFailed url)
        (current.trans_ne alive) rest_perm)

end Loops

/-! ## Events that do not spare the listed nodes -/

section Harm

variable {setting : Setting} {rounds : Nat → Round} {p q : Point} {h k : Heap} {held : Held}
  {left nodes : List String}

namespace Heap

theorem activations_promoteFrom (len i : Nat) (left : List String) (h : Heap) :
    ∃ more, (h.promoteFrom len i left).activations = h.activations ++ more := by
  induction left generalizing len i h with
  | nil => exact ⟨[], (List.append_nil _).symm⟩
  | cons id rest ih =>
      obtain ⟨more, grows⟩ := ih (len + 1) (i + 1) (h.promote id (len + i))
      refine ⟨⟨id, h.server.nodes.statusOf id⟩ :: more, grows.trans ?_⟩
      rw [promote, List.append_assoc, List.singleton_append]

theorem statusOf_promote_of_ne {id j : String} (ne : j ≠ id) (rank : Int) :
    (h.promote id rank).server.nodes.statusOf j = h.server.nodes.statusOf j := by
  by_cases registered : id ∈ h.server.nodes
  · change (h.assign id _ _).server.nodes.statusOf j = _
    rw [server_assign_of_mem registered, Server.statusOf_promote, if_neg ne]
  · change (h.assign id _ _).server.nodes.statusOf j = _
    rw [assign, if_neg registered]

/-- Every listed node is promoted, whatever has become of it. -/
theorem found_promoteFrom (len i : Nat) {id : String} (mem : id ∈ left) :
    ∃ a ∈ (h.promoteFrom len i left).activations, a.found = h.server.nodes.statusOf id := by
  induction left generalizing len i h with
  | nil => cases mem
  | cons j rest ih =>
      by_cases same : id = j
      · obtain ⟨more, grows⟩ :=
          activations_promoteFrom (len + 1) (i + 1) rest (h.promote j (len + i))
        refine ⟨⟨j, h.server.nodes.statusOf j⟩, ?_, by rw [same]⟩
        rw [promoteFrom, grows]
        exact List.mem_append_left _ (List.mem_append_right _ List.mem_cons_self)
      · obtain ⟨a, promoted, found⟩ := ih (h := h.promote j (len + i)) (len + 1) (i + 1)
          (List.mem_of_ne_of_mem same mem)
        exact ⟨a, promoted, found.trans (statusOf_promote_of_ne same _)⟩

theorem history_promote (id : String) (rank : Int) (h : Heap) :
    ∃ more, (h.promote id rank).server.statusWrites = h.server.statusWrites ++ more := by
  by_cases registered : id ∈ h.server.nodes
  · have server : (h.promote id rank).server = h.server.promote id rank :=
      server_assign_of_mem registered
    exact ⟨_, congrArg Server.statusWrites server⟩
  · refine ⟨[], ?_⟩
    change (h.assign id _ _).server.statusWrites = _
    rw [assign, if_neg registered, List.append_nil]

theorem history_promoteFrom (len i : Nat) (left : List String) (h : Heap) :
    ∃ more, (h.promoteFrom len i left).server.statusWrites = h.server.statusWrites ++ more := by
  induction left generalizing len i h with
  | nil => exact ⟨[], (List.append_nil _).symm⟩
  | cons id rest ih =>
      obtain ⟨more, grows⟩ := history_promote id (len + i) h
      obtain ⟨further, on⟩ := ih (len + 1) (i + 1) (h.promote id (len + i))
      exact ⟨more ++ further, by rw [promoteFrom, on, grows, List.append_assoc]⟩

theorem history_assignRanks (nodes : List String) (i : Nat) (h : Heap) :
    (h.assignRanks nodes i).server.statusWrites = h.server.statusWrites := by
  induction nodes generalizing i h with
  | nil => rfl
  | cons id rest ih => exact (ih ..).trans history_setRank

end Heap

/-- The call goes on to declare success with some nodes, and the failures since a point of the
history are among those since it read the lists. -/
def Declares (setting : Setting) (rounds : Nat → Round) (p : Point) (h : Heap) (since : Nat)
    (nodes : List String) : Prop :=
  ∃ q k, Goes setting rounds (p, h) (q, k) ∧ ∃ d ∈ k.declarations, nodes ⊆ d.activeNodes ∧
    ∀ id, FailedIn (h.server.statusWrites.drop since) id → FailedIn d.writes id

theorem Declares.before {since : Nat} (declares : Declares setting rounds q k since nodes)
    (goes : Goes setting rounds (p, h) (q, k))
    (grows : ∃ more, k.server.statusWrites = h.server.statusWrites ++ more) :
    Declares setting rounds p h since nodes := by
  obtain ⟨q', k', on, d, mem, listed, failures⟩ := declares
  refine ⟨q', k', goes.trans on, d, mem, listed, fun id fails => failures id ?_⟩
  obtain ⟨more, grows⟩ := grows
  rw [grows, List.drop_append, FailedIn.append]
  exact .inl fails

theorem Declares.harms {since : Nat} {id : String}
    (declares : Declares setting rounds p h since nodes) (mem : id ∈ nodes)
    (fails : FailedIn (h.server.statusWrites.drop since) id) :
    ∃ q k, Goes setting rounds (p, h) (q, k) ∧ ¬ k.Respected := by
  obtain ⟨q, k, goes, d, declared, listed, failures⟩ := declares
  exact ⟨q, k, goes, fun respected =>
    respected.counted d declared id (listed mem) (failures id fails)⟩

variable (alive : h.server.current ≠ .failed)

theorem collect_of_answered {answers : String → Bool} {urlOf : String → String}
    (answered : ∀ id ∈ nodes, answers id = true) : collect answers urlOf nodes [] = [] := by
  induction nodes with
  | nil => rfl
  | cons id rest ih =>
      rw [collect, List.foldl_cons, if_pos (answered id List.mem_cons_self)]
      exact ih fun j mem => answered j (List.mem_cons_of_mem _ mem)

include alive

/-- An attempt whose nodes all answer declares success. -/
theorem declares_of_notify {failedNodes : List String} {sent : List Command}
    (notifies : held.Notifies setting rounds left failedNodes)
    (answered : ∀ id ∈ held.activeNodes, (rounds held.attempt).answers id = true) :
    Declares setting rounds (.notify held left failedNodes sent) h held.since held.activeNodes := by
  have goes := goes_notify setting rounds held alive left failedNodes sent
  have none := notifies.reached answered
  subst none
  rw [collect_of_answered fun id mem => answered id (notifies.listed mem)] at goes
  refine .before ?_ goes ⟨[], (List.append_nil _).symm⟩
  let k := h.update fun s =>
    { s with rounds := s.rounds ++ [sent ++ left.map (h.restartCommand setting)] }
  refine ⟨.checkRunning, k.declare held.activeNodes held.since, .single ⟨"", ?_⟩,
    ⟨held.activeNodes, h.server.statusWrites.drop held.since⟩, ?_, List.Subset.refl _,
    fun id fails => fails⟩
  · simp only [step, if_neg alive, List.not_mem_nil, if_false, if_true]
    rfl
  · exact List.mem_append_right _ List.mem_cons_self

theorem declares_of_assign (enough : setting.config.activeNodes ≤ held.activeNodes.length)
    (answered : ∀ id ∈ held.activeNodes, (rounds held.attempt).answers id = true) (i : Nat) :
    Declares setting rounds (.assign held i) h held.since held.activeNodes := by
  have still : (h.assignRanks (held.activeNodes.drop i) i).server.current ≠ .failed :=
    (Heap.current_assignRanks ..).trans_ne alive
  have notifies : held.Notifies setting rounds held.activeNodes [] :=
    ⟨enough, List.Subset.refl _, fun _ id mem out => absurd mem out, fun _ => rfl⟩
  refine (declares_of_notify still notifies answered).before (goes_assign alive i) ⟨[], ?_⟩
  rw [Heap.history_assignRanks, List.append_nil]

theorem declares_of_sort (succeeds : held.Succeeds setting rounds []) :
    Declares setting rounds (.sort held) h held.since held.activeNodes := by
  rw [Held.Succeeds, List.append_nil] at succeeds
  obtain ⟨enough, answered⟩ := succeeds
  have perm := sortBy_perm (rounds held.attempt).ties h.rankOf held.activeNodes
  let sorted : Held :=
    { held with activeNodes := sortBy (rounds held.attempt).ties h.rankOf held.activeNodes }
  have sorts : step setting rounds "" (.sort held) h = some (.assign sorted 0, h) := by
    simp only [step, if_neg alive, if_neg (not_lt.mpr enough)]
    rfl
  have assigns : Declares setting rounds (.assign sorted 0) h held.since sorted.activeNodes := by
    refine declares_of_assign alive ?_ (fun id mem => ?_) 0
    · rw [perm.length_eq]
      exact enough
    · exact answered id (perm.mem_iff.mp mem)
  obtain ⟨q, k, goes, d, mem, listed, failures⟩ :=
    assigns.before (.single ⟨"", sorts⟩) ⟨[], (List.append_nil _).symm⟩
  exact ⟨q, k, goes, d, mem, fun id mem => listed (perm.mem_iff.mpr mem), failures⟩

theorem declares_of_count (succeeds : held.Succeeds setting rounds []) (promoted : Nat) :
    Declares setting rounds (.count held promoted) h held.since held.activeNodes := by
  have counts : step setting rounds "" (.count held promoted) h =
      some (.sort held, h.update fun s => s.countPromoted promoted) := by
    simp only [step, if_neg alive]
  have sorts : Declares setting rounds (.sort held) (h.update fun s => s.countPromoted promoted)
      held.since held.activeNodes := declares_of_sort alive succeeds
  exact sorts.before (.single ⟨"", counts⟩) ⟨[], (List.append_nil _).symm⟩

theorem declares_of_promote (succeeds : held.Succeeds setting rounds left) (i : Nat) :
    Declares setting rounds (.promote held i left) h held.since (held.activeNodes ++ left) := by
  let all : Held := { held with activeNodes := held.activeNodes ++ left }
  let k := h.promoteFrom held.activeNodes.length i left
  have still : k.server.current ≠ .failed := (Heap.current_promoteFrom ..).trans_ne alive
  have ends : step setting rounds "" (.promote all (i + left.length) []) k =
      some (.count all (i + left.length), k) := by
    simp only [step, if_neg still]
  have enough : all.Succeeds setting rounds [] := by
    rw [Held.Succeeds, List.append_nil]
    exact succeeds
  have counts : Declares setting rounds (.count all (i + left.length)) k all.since
      all.activeNodes := declares_of_count still enough _
  exact (counts.before (.single ⟨"", ends⟩) ⟨[], (List.append_nil _).symm⟩).before
    (goes_promote alive i left) (Heap.history_promoteFrom ..)

/-- **An attempt that can succeed declares success when it is left alone.** -/
theorem declares_of_succeeds (lists : p.lists = some (held, left)) (ready : p.Ready setting rounds)
    (succeeds : held.Succeeds setting rounds left) :
    Declares setting rounds p h held.since (held.activeNodes ++ left) := by
  cases p with
  | promote =>
      cases lists
      exact declares_of_promote alive succeeds _
  | count =>
      cases lists
      rw [List.append_nil]
      exact declares_of_count alive succeeds _
  | sort =>
      cases lists
      rw [List.append_nil]
      exact declares_of_sort alive succeeds
  | assign =>
      cases lists
      rw [Held.Succeeds, List.append_nil] at succeeds
      rw [List.append_nil]
      exact declares_of_assign alive ready succeeds.2 _
  | notify =>
      cases lists
      rw [Held.Succeeds, List.append_nil] at succeeds
      rw [List.append_nil]
      exact declares_of_notify alive ready succeeds.2
  | _ => cases lists

omit alive in
/-- The points before a promotion. -/
theorem Point.promote_of_lists {id : String} (lists : p.lists = some (held, left))
    (mem : id ∈ left) : ∃ promoted, p = .promote held promoted left := by
  cases p with
  | promote held promoted left =>
      cases lists
      exact ⟨promoted, rfl⟩
  | count => cases lists; cases mem
  | sort => cases lists; cases mem
  | assign => cases lists; cases mem
  | notify => cases lists; cases mem
  | _ => cases lists

/-- **A listed node that has failed or left is promoted all the same.** -/
theorem revives_of_listed {id : String} (lists : p.lists = some (held, left)) (mem : id ∈ left)
    (gone : h.server.nodes.statusOf id = none ∨ h.server.nodes.statusOf id = some .failed) :
    ∃ q k, Goes setting rounds (p, h) (q, k) ∧ ¬ k.Respected := by
  obtain ⟨promoted, rfl⟩ := Point.promote_of_lists lists mem
  obtain ⟨a, activated, found⟩ :=
    Heap.found_promoteFrom (h := h) held.activeNodes.length promoted mem
  refine ⟨_, _, goes_promote alive promoted left, fun respected => ?_⟩
  have finds := respected.promoted a activated
  rw [found] at finds
  rcases gone with gone | gone
  · exact finds.1 gone
  · exact finds.2 gone

end Harm

section Unspared

variable {setting : Setting} {rounds : Nat → Round} {h : Heap}

/-- An event keeps the process alive. -/
theorem Event.keepsAlive (e : Event) (alive : h.server.current ≠ .failed) :
    (e.run setting h).server.current ≠ .failed := by
  cases e with
  | handleNodeFailure nodeID =>
      change (reportFailure nodeID h.server).current ≠ _
      unfold reportFailure
      split
      · split
        · rw [show (Server.failedOver _ _ _).current = .reconfiguring from
            congrArg Lifecycle.current (Server.lifecycle_failedOver ..)]
          decide
        · exact alive
      · exact alive
  | recordFailure req => exact alive
  | handleNodeTimeout nodeID =>
      have same := (Server.expired_handleNodeTimeout (s := h.server) nodeID).lifecycle
      exact (congrArg Lifecycle.current same).trans_ne alive
  | cleanupSessions now => exact alive
  | cleanupDeadConnections now order =>
      have same := (Server.departed_cleanedUp (s := h.server) setting now order).2
      exact (congrArg Lifecycle.current same).trans_ne alive

/-- **An event that does not spare the listed nodes does harm** when the call goes on alone: after
every run of events that spare them, the call promotes a node that is failed or no longer
registered, or declares success with a node that failed after its lists were read. -/
theorem not_respected_of_unspared {before : Server} {c : Scene} {e : Event}
    (run : (interrupted setting rounds before).Run (Spares setting rounds) c)
    (alive : c.heap.server.current ≠ .failed) (harms : ¬ Spares setting rounds c (.event e)) :
    ∃ c', (interrupted setting rounds before).Reachable c' ∧ ¬ c'.heap.Respected := by
  have sound := sound_of_run run
  have reachable : (interrupted setting rounds before).Reachable
      ⟨c.point, e.run setting c.heap⟩ := .step (.event e) run.reachable trivial (if_neg alive)
  suffices harmed : ∃ q k, Goes setting rounds (c.point, e.run setting c.heap) (q, k) ∧
      ¬ k.Respected by
    obtain ⟨q, k, goes, harmed⟩ := harmed
    exact ⟨⟨q, k⟩, goes.reachable reachable, harmed⟩
  simp only [Spares, not_forall] at harms
  obtain ⟨held, left, lists, harms⟩ := harms
  have current := sound.lists held left lists
  rcases not_and_or.mp harms with harms | harms
  · simp only [not_forall] at harms
    obtain ⟨id, mem, harms⟩ := harms
    apply revives_of_listed (e.keepsAlive alive) lists mem
    rcases not_and_or.mp harms with fails | removes
    · exact .inr (Event.statusOf_failed (not_not.mp fails))
    · exact .inl (Event.statusOf_removed (not_not.mp removes))
  · simp only [Classical.not_imp, not_forall, not_not] at harms
    obtain ⟨succeeds, id, mem, fails⟩ := harms
    obtain ⟨writes, history, failures⟩ := e.history setting c.heap
    refine (declares_of_succeeds (e.keepsAlive alive) lists sound.ready succeeds).harms
      (List.mem_append_left _ mem) ?_
    rw [history, List.drop_append_of_le_length current.bounded, FailedIn.append]
    exact .inr ((failures id).mpr fails)

end Unspared

/-! ## A call that is never interrupted -/

section Sequential

variable {setting : Setting} {rounds : Nat → Round} {h : Heap}

namespace Heap

/-- While no node has left, pointers lead into the registry. -/
theorem rankOf_of_whole (whole : h.departed = ∅) : h.rankOf = h.server.nodes.rankOf := by
  funext id
  rw [rankOf, whole]
  split
  · rfl
  · next unregistered =>
      rw [Registry.rankOf, Registry.rankOf, AList.lookup_eq_none.mpr unregistered,
        AList.lookup_empty]

theorem urlOf_of_whole (whole : h.departed = ∅) : h.urlOf = h.server.nodes.urlOf := by
  funext id
  rw [urlOf, whole]
  split
  · rfl
  · next unregistered =>
      rw [Registry.urlOf, Registry.urlOf, AList.lookup_eq_none.mpr unregistered,
        AList.lookup_empty]

theorem restartCommand_of_whole (whole : h.departed = ∅) :
    h.restartCommand setting = h.server.restartCommand setting := by
  funext id
  rw [restartCommand, rankOf_of_whole whole, urlOf_of_whole whole]
  rfl

theorem promoteFrom_of_registered (len i : Nat) {left : List String}
    (registered : ∀ id ∈ left, id ∈ h.server.nodes) :
    (h.promoteFrom len i left).server = h.server.promoteFrom len i left ∧
      (h.promoteFrom len i left).departed = h.departed := by
  induction left generalizing len i h with
  | nil => exact ⟨rfl, rfl⟩
  | cons id rest ih =>
      have here := registered id List.mem_cons_self
      have server : (h.promote id (len + i)).server = h.server.promote id (len + i) :=
        server_assign_of_mem here
      have departed : (h.promote id (len + i)).departed = h.departed := by
        change (h.assign id _ _).departed = _
        rw [assign, if_pos here]
        rfl
      have on := ih (h := h.promote id (len + i)) (len + 1) (i + 1) fun j mem => by
        rw [server, Server.promote, Registry.mem_setRank, Server.setStatus, Registry.mem_setStatus]
        exact registered j (List.mem_cons_of_mem _ mem)
      rw [promoteFrom, Server.promoteFrom, on.1, on.2, server, departed]
      exact ⟨rfl, rfl⟩

theorem assignRanks_of_registered (i : Nat) {nodes : List String}
    (registered : ∀ id ∈ nodes, id ∈ h.server.nodes) :
    (h.assignRanks nodes i).server =
        { h.server with nodes := h.server.nodes.assignRanks nodes i } ∧
      (h.assignRanks nodes i).departed = h.departed := by
  induction nodes generalizing i h with
  | nil => exact ⟨rfl, rfl⟩
  | cons id rest ih =>
      have here := registered id List.mem_cons_self
      have server : (h.setRank id i).server =
          { h.server with nodes := h.server.nodes.setRank id i } := server_assign_of_mem here
      have departed : (h.setRank id i).departed = h.departed := by
        rw [setRank, assign, if_pos here]
        rfl
      have on := ih (h := h.setRank id i) (i + 1) fun j mem => by
        rw [server, Registry.mem_setRank]
        exact registered j (List.mem_cons_of_mem _ mem)
      rw [assignRanks, Registry.assignRanks, on.1, on.2, server, departed]
      exact ⟨rfl, rfl⟩

end Heap

/-! The URLs on record are those that did not answer. -/

section Collect

variable {answers : String → Bool} {urlOf : String → String} {nodes failedNodes : List String}

theorem mem_collect {url : String} : url ∈ collect answers urlOf nodes failedNodes ↔
    url ∈ failedNodes ∨ ∃ id ∈ nodes, answers id = false ∧ urlOf id = url := by
  induction nodes generalizing failedNodes with
  | nil => simp [collect]
  | cons id rest ih =>
      rw [collect, List.foldl_cons]
      apply ih.trans
      by_cases answered : answers id = true
      · simp [answered]
      · rw [Bool.not_eq_true] at answered
        simp only [answered, Bool.false_eq_true, if_false, List.mem_insert_iff, List.mem_cons,
          exists_eq_or_imp, true_and]
        rw [eq_comm, or_comm (a := urlOf id = url), or_assoc]

theorem nodup_collect (nodup : failedNodes.Nodup) :
    (collect answers urlOf nodes failedNodes).Nodup := by
  induction nodes generalizing failedNodes with
  | nil => exact nodup
  | cons id rest ih =>
      rw [collect, List.foldl_cons]
      split
      · exact ih nodup
      · exact ih nodup.insert

/-- In whatever order the answers come, the record is the same set. -/
theorem collect_perm :
    (((nodes.filter fun id => !answers id).map urlOf).dedup).Perm
      (collect answers urlOf nodes []) := by
  refine (List.perm_ext_iff_of_nodup (List.nodup_dedup _) (nodup_collect List.nodup_nil)).mpr
    fun url => ?_
  simp only [List.mem_dedup, List.mem_map, List.mem_filter, mem_collect, List.not_mem_nil, false_or,
    Bool.not_eq_true', and_assoc]

end Collect

/-! Attempts, and the call as a whole. -/

theorem startPromotion_eq (setting : Setting) (held : Held) (standbyNodes : List String) :
    let promoted := standbyNodes.take (setting.config.activeNodes - held.activeNodes.length).toNat
    startPromotion setting held standbyNodes = .promote held 0 promoted ∨
      (startPromotion setting held standbyNodes = .sort held ∧ promoted = []) := by
  by_cases needed : 0 < setting.config.activeNodes - held.activeNodes.length ∧
      0 < standbyNodes.length
  · refine .inl ((if_pos needed).trans (congrArg (Point.promote held 0) ?_))
    exact List.take_eq_take_iff.mpr (by omega)
  · refine .inr ⟨if_neg needed, List.take_eq_nil_iff.mpr ?_⟩
    rcases not_and_or.mp needed with enough | empty
    · exact .inl (by omega)
    · exact .inr (List.length_eq_zero_iff.mp (by omega))

/-- Where the steps of the call lead while no event comes. -/
def Ends (setting : Setting) (rounds : Nat → Round) (p : Point) (h : Heap) : Reconfigured → Prop
  | .returned s' => ∃ k, Goes setting rounds (p, h) (.returned, k) ∧ k.server = s'
  | .exited s' => ∃ q k, Goes setting rounds (p, h) (q, k) ∧ k.server = s'
  | .stuck _ => False

theorem Ends.before {p q : Point} {k : Heap} {outcome : Reconfigured}
    (ends : Ends setting rounds q k outcome) (goes : Goes setting rounds (p, h) (q, k)) :
    Ends setting rounds p h outcome := by
  cases outcome with
  | returned s' =>
      obtain ⟨k', on, server⟩ := ends
      exact ⟨k', goes.trans on, server⟩
  | exited s' =>
      obtain ⟨q', k', on, server⟩ := ends
      exact ⟨q', k', goes.trans on, server⟩
  | stuck s' => exact ends

section Current

variable (setting : Setting) (round : Round) (s : Server)

theorem current_prepared : (s.prepared setting round).current = s.current :=
  congrArg Elsewhere.current (Server.elsewhere_promoteFrom ..)

theorem current_notified : (s.notified setting round).current = s.current :=
  congrArg Elsewhere.current (Server.elsewhere_notified ..)

theorem current_marked : (s.marked setting round).current = s.current :=
  congrArg Elsewhere.current (Server.elsewhere_marked ..)

end Current

variable (whole : h.departed = ∅) (alive : h.server.current ≠ .failed) (attempt : Nat)

include whole alive

variable (setting rounds) in
/-- The promotions of an attempt. -/
theorem goes_prepare : ∃ k since, k.departed = ∅ ∧
    k.server = h.server.prepared setting (rounds attempt) ∧
    Goes setting rounds (.readLists attempt, h)
      (.sort ⟨attempt, since, h.server.chosen setting (rounds attempt)⟩, k) := by
  let since := h.server.statusWrites.length
  let promoted := h.server.promotions setting (rounds attempt)
  let active : Held := ⟨attempt, since, h.server.activeList (rounds attempt)⟩
  let all : Held := ⟨attempt, since, h.server.chosen setting (rounds attempt)⟩
  have reads : step setting rounds "" (.readLists attempt) h = some (startPromotion setting active
      (h.server.nodes.listWith (rounds attempt).order .standby), h) := by
    simp only [step, if_neg alive]
    rfl
  rcases startPromotion_eq setting active
    (h.server.nodes.listWith (rounds attempt).order .standby) with promotes | ⟨sorts, none⟩
  · rw [promotes] at reads
    let k := h.promoteFrom active.activeNodes.length 0 promoted
    obtain ⟨server, departed⟩ := Heap.promoteFrom_of_registered (h := h) active.activeNodes.length 0
      fun id (mem : id ∈ promoted) => Server.registered_of_mem_promotions mem
    have still : k.server.current ≠ .failed := (Heap.current_promoteFrom ..).trans_ne alive
    have ends : step setting rounds "" (.promote all (0 + promoted.length) []) k =
        some (.count all (0 + promoted.length), k) := by
      simp only [step, if_neg still]
    have counts : step setting rounds "" (.count all (0 + promoted.length)) k =
        some (.sort all, k.update fun s => s.countPromoted ↑(0 + promoted.length)) := by
      simp only [step, if_neg still]
    have goes : Goes setting rounds (.readLists attempt, h) (.promote all (0 + promoted.length) [], k) :=
      .head ⟨"", reads⟩ (goes_promote alive 0 promoted)
    refine ⟨k.update fun s => s.countPromoted ↑(0 + promoted.length), since, departed.trans whole,
      ?_, (goes.tail ⟨"", ends⟩).tail ⟨"", counts⟩⟩
    rw [Heap.update, server, Nat.zero_add]
    rfl
  · rw [sorts] at reads
    have unpromoted : h.server.promotions setting (rounds attempt) = [] := none
    have chosen : h.server.chosen setting (rounds attempt) = active.activeNodes := by
      rw [Server.chosen, unpromoted, List.append_nil]
    refine ⟨h, since, whole, ?_, ?_⟩
    · simp only [Server.prepared, unpromoted, Server.promoteFrom, Server.countPromoted,
        List.length_nil, Nat.cast_zero, add_zero, sub_zero]
    · rw [chosen]
      exact .single ⟨"", reads⟩

/-- An attempt with enough nodes notifies them, and has those on record that did not answer. -/
theorem goes_notified (enough : setting.config.activeNodes ≤
    ((h.server.chosen setting (rounds attempt)).length : Int)) :
    ∃ held failedNodes sent k, held.attempt = attempt ∧ k.departed = ∅ ∧
      (k.update fun s => { s with rounds := s.rounds ++ [sent] }).server =
        h.server.notified setting (rounds attempt) ∧
      (h.server.unreached setting (rounds attempt)).Perm failedNodes ∧
      Goes setting rounds (.readLists attempt, h) (.notify held [] failedNodes sent, k) := by
  obtain ⟨k, since, departed, server, goes⟩ := goes_prepare setting rounds whole alive attempt
  let targets := h.server.targets setting (rounds attempt)
  let held : Held := ⟨attempt, since, targets⟩
  have still : k.server.current ≠ .failed := by
    rw [server, current_prepared]
    exact alive
  have sorts : step setting rounds ""
      (.sort ⟨attempt, since, h.server.chosen setting (rounds attempt)⟩) k =
        some (.assign held 0, k) := by
    simp only [step, if_neg still, if_neg (not_lt.mpr enough), Heap.rankOf_of_whole departed]
    rw [server]
    rfl
  have registered : ∀ id ∈ targets, id ∈ k.server.nodes := by
    intro id mem
    rw [server]
    exact Registry.mem_iff_statusOf.mpr ⟨_, Server.mem_chosen.mp (Server.mem_targets.mp mem)⟩
  obtain ⟨renumbered, stays⟩ := Heap.assignRanks_of_registered (h := k) 0 registered
  have whole : (k.assignRanks targets 0).departed = ∅ := stays.trans departed
  have current : (k.assignRanks targets 0).server.current ≠ .failed :=
    (Heap.current_assignRanks ..).trans_ne still
  rw [server] at renumbered
  have notifies := goes_notify setting rounds held current targets [] []
  refine ⟨held, _, _, k.assignRanks targets 0, rfl, whole, ?_, ?_,
    ((goes.tail ⟨"", sorts⟩).trans (goes_assign still 0)).trans notifies⟩
  · rw [Heap.restartCommand_of_whole whole, Heap.update, renumbered]
    rfl
  · rw [Heap.urlOf_of_whole whole, renumbered]
    exact collect_perm

omit whole in
/-- The state is checked again before the call returns. -/
theorem ends_of_declared : Ends setting rounds .checkRunning h (.returned h.server.resumed) := by
  by_cases reconfiguring : h.server.current = .reconfiguring
  · have checks : step setting rounds "" .checkRunning h = some (.resume, h) := by
      simp only [step, if_neg alive, if_pos reconfiguring]
    have resumes : step setting rounds "" .resume h =
        some (.returned, h.update fun s => { s with current := .running }) := by
      have valid : State.running ∈ validTransitions h.server.current := by
        rw [reconfiguring]
        decide
      simp only [step, if_neg alive, if_pos valid]
    refine ⟨_, .tail (.single ⟨"", checks⟩) ⟨"", resumes⟩, ?_⟩
    rw [Server.resumed, if_pos reconfiguring]
    rfl
  · have checks : step setting rounds "" .checkRunning h = some (.returned, h) := by
      simp only [step, if_neg alive, if_neg reconfiguring]
    refine ⟨h, .single ⟨"", checks⟩, ?_⟩
    rw [Server.resumed, if_neg reconfiguring]

/-- An attempt without enough nodes ends the process. -/
theorem ends_of_few (few : ((h.server.chosen setting (rounds attempt)).length : Int) <
    setting.config.activeNodes) : Ends setting rounds (.readLists attempt) h
      (.exited (h.server.prepared setting (rounds attempt)).terminated) := by
  obtain ⟨k, since, _, server, goes⟩ := goes_prepare setting rounds whole alive attempt
  have still : k.server.current ≠ .failed := by
    rw [server, current_prepared]
    exact alive
  have fails : step setting rounds ""
      (.sort ⟨attempt, since, h.server.chosen setting (rounds attempt)⟩) k =
        some (.insufficient, k) := by
    simp only [step, if_neg still, if_pos few]
  have exits : step setting rounds "" .insufficient k =
      some (.insufficient, k.update Server.terminated) := by
    simp only [step, if_neg still]
  refine ⟨_, _, (goes.tail ⟨"", fails⟩).tail ⟨"", exits⟩, ?_⟩
  rw [Heap.update, server]

section Enough

variable (enough : setting.config.activeNodes ≤
  ((h.server.chosen setting (rounds attempt)).length : Int))

include enough

/-- An attempt whose nodes all answer is the last one. -/
theorem ends_of_answered (answered : h.server.unreached setting (rounds attempt) = []) :
    Ends setting rounds (.readLists attempt) h
      (.returned (h.server.notified setting (rounds attempt)).resumed) := by
  obtain ⟨held, failedNodes, sent, k, _, _, server, perm, goes⟩ :=
    goes_notified whole alive attempt enough
  let after := k.update fun s => { s with rounds := s.rounds ++ [sent] }
  have current : after.server.current ≠ .failed := by
    rw [server, current_notified]
    exact alive
  rw [answered] at perm
  have none : failedNodes = [] := perm.symm.eq_nil
  have declares : step setting rounds "" (.notify held [] failedNodes sent) k =
      some (.checkRunning, after.declare held.activeNodes held.since) := by
    have still : k.server.current ≠ .failed := current
    simp only [step, if_neg still, List.not_mem_nil, if_false, if_true, none]
    rfl
  have ends : Ends setting rounds .checkRunning (after.declare held.activeNodes held.since)
      (.returned after.server.resumed) := ends_of_declared current
  rw [server] at ends
  exact ends.before (goes.tail ⟨"", declares⟩)

/-- After an attempt that some node did not answer, the next one follows. -/
theorem goes_marked (silent : h.server.unreached setting (rounds attempt) ≠ []) :
    ∃ k, k.departed = ∅ ∧ k.server = h.server.marked setting (rounds attempt) ∧
      Goes setting rounds (.readLists attempt, h) (retry (attempt + 1), k) := by
  obtain ⟨held, failedNodes, sent, k, number, departed, server, perm, goes⟩ :=
    goes_notified whole alive attempt enough
  let after := k.update fun s => { s with rounds := s.rounds ++ [sent] }
  have current : after.server.current ≠ .failed := by
    rw [server, current_notified]
    exact alive
  have some_failed : failedNodes ≠ [] := fun none => silent (none ▸ perm).eq_nil
  have turns : step setting rounds "" (.notify held [] failedNodes sent) k =
      some (.mark attempt failedNodes, after) := by
    have still : k.server.current ≠ .failed := current
    simp only [step, if_neg still, List.not_mem_nil, if_false, if_true, if_neg some_failed, number]
    rfl
  have marks : Goes setting rounds (.mark attempt failedNodes, after) (.mark attempt [],
      after.update fun s => (h.server.unreached setting (rounds attempt)).foldl
        Server.markFailed s) := goes_mark current attempt perm
  let marked := after.update fun s =>
    (h.server.unreached setting (rounds attempt)).foldl Server.markFailed s
  have same : marked.server = h.server.marked setting (rounds attempt) := by
    rw [Server.marked, ← server]
    rfl
  have still : marked.server.current ≠ .failed := by
    rw [same, current_marked]
    exact alive
  have retries : step setting rounds "" (.mark attempt []) marked =
      some (retry (attempt + 1), marked) := by
    simp only [step, if_neg still, List.not_mem_nil, if_false, if_true]
  exact ⟨marked, departed, same, ((goes.tail ⟨"", turns⟩).trans marks).tail ⟨"", retries⟩⟩

end Enough

/-- **The attempts that are left alone compute `reconfigureFrom`.** -/
theorem ends_reconfigureFrom (left : Nat) (total : attempt + left = maxAttempts) :
    Ends setting rounds (retry attempt) h
      (h.server.reconfigureFrom setting rounds true left attempt) := by
  induction left generalizing attempt h with
  | zero =>
      have used : retry attempt = .exhausted := if_neg (by omega)
      have exits : step setting rounds "" .exhausted h =
          some (.exhausted, h.update Server.terminated) := by
        simp only [step, if_neg alive]
      rw [used]
      exact ⟨_, _, .single ⟨"", exits⟩, rfl⟩
  | succ left ih =>
      have again : retry attempt = .readLists attempt := if_pos (by omega)
      rw [again, Server.reconfigureFrom]
      by_cases few : ((h.server.chosen setting (rounds attempt)).length : Int) <
          setting.config.activeNodes
      · rw [if_pos few]
        exact ends_of_few whole alive attempt few
      · rw [if_neg few]
        by_cases answered : h.server.unreached setting (rounds attempt) = []
        · rw [if_pos answered]
          exact ends_of_answered whole alive attempt (not_lt.mp few) answered
        · rw [if_neg answered, if_pos rfl]
          obtain ⟨k, departed, server, goes⟩ :=
            goes_marked whole alive attempt (not_lt.mp few) answered
          have still : k.server.current ≠ .failed := by
            rw [server, current_marked]
            exact alive
          rw [← server]
          exact (ih departed still (attempt + 1) (by omega)).before goes

omit whole alive in
/-- **A call that is never interrupted is `reconfigureCluster`.** -/
theorem ends_reconfigure (setting : Setting) (rounds : Nat → Round) {s : Server}
    (accepted : s.current.reconfigurable) :
    Ends setting rounds .checkState (.new s) (s.reconfigure setting rounds true) := by
  have alive : (Heap.new s).server.current ≠ .failed := by
    change s.current ≠ .failed
    rcases accepted with same | same <;> rw [same] <;> decide
  let entered : Heap := .new { s with current := .reconfiguring }
  have attempts : Ends setting rounds (.readLists 0) entered (s.reconfigure setting rounds true) :=
    ends_reconfigureFrom (h := entered) rfl (fun failed => by cases failed) 0 maxAttempts rfl
  by_cases already : (Heap.new s).server.current = .reconfiguring
  · have same : { s with current := .reconfiguring } = s := by rw [← already]; rfl
    have checks : step setting rounds "" .checkState (.new s) = some (.readLists 0, .new s) := by
      simp only [step, if_neg alive, if_neg (not_not.mpr already)]
    rw [show entered = .new s from congrArg Heap.new same] at attempts
    exact attempts.before (.single ⟨"", checks⟩)
  · have checks : step setting rounds "" .checkState (.new s) = some (.enter, .new s) := by
      simp only [step, if_neg alive, if_pos already]
    have enters : step setting rounds "" .enter (.new s) = some (.readLists 0, entered) := by
      have valid : State.reconfiguring ∈ validTransitions (Heap.new s).server.current :=
        State.reconfigurable_iff.mp accepted
      simp only [step, if_neg alive, if_pos valid]
      rfl
    exact attempts.before (.tail (.single ⟨"", checks⟩) ⟨"", enters⟩)

omit whole alive in
/-- Every run of `reconfigureCluster` that returns nil is an interleaving without events. -/
theorem reachable_of_run (setting : Setting) (rounds : Nat → Round) {s s' : Server}
    {locks locks' : Lock → RWMutex} (free : ∀ l, locks l = .free)
    (returns : (reconfigureCluster setting rounds).run ⟨s, locks⟩ = .ok (.ok ()) ⟨s', locks'⟩) :
    ∃ k, (interrupted setting rounds s).Reachable ⟨.returned, k⟩ ∧ k.server = s' := by
  obtain ⟨accepted, computes⟩ := returned_of_run free returns
  have ends := ends_reconfigure setting rounds accepted
  rw [computes] at ends
  obtain ⟨k, goes, server⟩ := ends
  exact ⟨k, goes.reachable (.start rfl), server⟩

end Sequential

end Interrupted

end C4D
