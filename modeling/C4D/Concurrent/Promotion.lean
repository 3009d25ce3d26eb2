import C4D.Concurrent.Interrupted

/-!
# Is a failed node promoted?

A call never looks again at the nodes it has listed. So it promotes a listed standby
node that has failed or left the registry since, and it declares success with listed
nodes that have failed since.

It does neither along a run whose events spare the listed nodes (`Spares`): none of
those still to be promoted fails or leaves, and while the attempt is one that will
succeed, none of its active nodes fails (`respected_of_run`).
-/

set_option autoImplicit false

namespace C4D

open Foundations

namespace Interrupted

/-! ## Events that spare the listed nodes -/

/-- The lists at a point: what the attempt holds, and the nodes it is still to promote. -/
def Point.lists : Point → Option (Held × List String)
  | .promote held _ left => some (held, left)
  | .count held _ => some (held, [])
  | .sort held => some (held, [])
  | .assign held _ => some (held, [])
  | .notify held _ _ _ => some (held, [])
  | .checkState => none
  | .enter => none
  | .refused => none
  | .readLists _ => none
  | .insufficient => none
  | .mark _ _ => none
  | .exhausted => none
  | .checkRunning => none
  | .resume => none
  | .returned => none

/-- The attempt has enough nodes, and all of them answer. -/
def Held.Succeeds (setting : Setting) (rounds : Nat → Round) (held : Held) (left : List String) :
    Prop :=
  setting.config.activeNodes ≤ ((held.activeNodes ++ left).length : Int) ∧
    ∀ id ∈ held.activeNodes ++ left, (rounds held.attempt).answers id = true

/-- The event sets a node to failed. -/
def Event.Fails (s : Server) (id : String) : Event → Prop
  | .handleNodeFailure nodeID => nodeID = id ∧ id ∈ s.nodes ∧ s.current.reconfigurable
  | .handleNodeTimeout nodeID => nodeID = id ∧ id ∈ s.nodes
  | .recordFailure _ => False
  | .cleanupSessions _ => False
  | .cleanupDeadConnections _ _ => False

/-- The event deletes the registry entry of a node. -/
def Event.Removes (setting : Setting) (s : Server) (id : String) : Event → Prop
  | .cleanupDeadConnections now order => id ∈ s.deadConnections setting now order
  | .handleNodeFailure _ => False
  | .handleNodeTimeout _ => False
  | .recordFailure _ => False
  | .cleanupSessions _ => False

/-- No event fails or removes a node that is still to be promoted, and none fails a node of an
attempt that will succeed. -/
def Spares (setting : Setting) (rounds : Nat → Round) (c : Scene) : Turn → Prop
  | .call _ => True
  | .event e => ∀ held left, c.point.lists = some (held, left) →
      (∀ id ∈ left, ¬ e.Fails c.heap.server id ∧ ¬ e.Removes setting c.heap.server id) ∧
        (held.Succeeds setting rounds left →
          ∀ id ∈ held.activeNodes, ¬ e.Fails c.heap.server id)

/-- The call never set a node to active that was failed or no longer registered, and no node it
declared success with was set to failed after the lists were read. -/
structure Heap.Respected (h : Heap) : Prop where
  promoted : ∀ a ∈ h.activations, a.found ≠ none ∧ a.found ≠ some .failed
  counted : ∀ d ∈ h.declarations, ∀ id ∈ d.activeNodes, ¬ FailedIn d.writes id

/-! ## What events do -/

section Events

variable {setting : Setting} {s : Server} {h : Heap} {id : String} {e : Event}

theorem statusOf_reportFailure {nodeID : String}
    (spared : ¬ (Event.handleNodeFailure nodeID).Fails s id) :
    (reportFailure nodeID s).nodes.statusOf id = s.nodes.statusOf id := by
  unfold reportFailure
  split
  · next old known =>
      split
      · next accepted =>
          rw [Server.statusOf_failedOver, if_neg]
          rintro rfl
          exact spared ⟨rfl, Registry.mem_iff_statusOf.mpr ⟨old, known⟩, accepted⟩
      · rfl
  · rfl

theorem history_failedOver {nodeID : String} {old : Status}
    (known : s.nodes.statusOf nodeID = some old) : (s.failedOver nodeID old).statusWrites =
      s.statusWrites ++ [{ nodeID, old, new := .failed }] := by
  rw [← history_setStatus known .failed]
  cases old <;> rfl

/-- Nothing is set to failed. -/
theorem history_of_same {s' : Server} {P : String → Prop}
    (same : s'.statusWrites = s.statusWrites) (none : ∀ id, ¬ P id) :
    ∃ writes, s'.statusWrites = s.statusWrites ++ writes ∧ ∀ id, FailedIn writes id ↔ P id := by
  refine ⟨[], same.trans (List.append_nil _).symm, fun id => ?_⟩
  exact iff_of_false (not_failedIn_nil id) (none id)

theorem history_reportFailure (nodeID : String) (s : Server) :
    ∃ writes, (reportFailure nodeID s).statusWrites = s.statusWrites ++ writes ∧
      ∀ id, FailedIn writes id ↔ (Event.handleNodeFailure nodeID).Fails s id := by
  unfold reportFailure
  split
  · next old known =>
      split
      · next accepted =>
          refine ⟨_, history_failedOver known, fun id => failedIn_singleton.trans ⟨?_, ?_⟩⟩
          · rintro ⟨same, _⟩
            exact ⟨same, same ▸ Registry.mem_iff_statusOf.mpr ⟨old, known⟩, accepted⟩
          · exact fun fails => ⟨fails.1, rfl⟩
      · next refused => exact history_of_same rfl fun id fails => refused fails.2.2
  · next unknown =>
      apply history_of_same rfl
      intro id fails
      obtain ⟨rfl, registered, _⟩ := fails
      exact AList.lookup_eq_none.mp (Registry.statusOf_eq_none.mp unknown) registered

theorem history_handleNodeTimeout (nodeID : String) (s : Server) :
    ∃ writes, (s.handleNodeTimeout nodeID).statusWrites = s.statusWrites ++ writes ∧
      ∀ id, FailedIn writes id ↔ (Event.handleNodeTimeout nodeID).Fails s id := by
  rw [Server.handleNodeTimeout_eq]
  split
  · next registered =>
      obtain ⟨old, known⟩ := Registry.mem_iff_statusOf.mp registered
      refine ⟨_, history_setStatus known .failed, fun id => failedIn_singleton.trans ⟨?_, ?_⟩⟩
      · rintro ⟨same, _⟩
        exact ⟨same, same ▸ registered⟩
      · exact fun fails => ⟨fails.1, rfl⟩
  · next unregistered =>
      apply history_of_same rfl
      intro id fails
      obtain ⟨rfl, registered⟩ := fails
      exact unregistered registered

/-- An event leaves the record of the call alone. -/
theorem Event.record (setting : Setting) (e : Event) (h : Heap) :
    (e.run setting h).activations = h.activations ∧
      (e.run setting h).declarations = h.declarations := by
  cases e <;> exact ⟨rfl, rfl⟩

/-- A node that an event neither fails nor removes keeps its status. -/
theorem Event.statusOf (unfailed : ¬ e.Fails h.server id)
    (stays : ¬ e.Removes setting h.server id) :
    (e.run setting h).server.nodes.statusOf id = h.server.nodes.statusOf id := by
  cases e with
  | handleNodeFailure nodeID => exact statusOf_reportFailure unfailed
  | recordFailure req => rfl
  | handleNodeTimeout nodeID =>
      apply (Server.statusOf_handleNodeTimeout nodeID id).trans
      split
      · next same =>
          have unknown : h.server.nodes.statusOf id = none := by
            rw [Registry.statusOf_eq_none, AList.lookup_eq_none]
            exact fun registered => unfailed ⟨same.symm, registered⟩
          rw [unknown, Option.map_none]
      · rfl
  | cleanupSessions now => rfl
  | cleanupDeadConnections now order =>
      obtain ⟨departed, _⟩ := Server.departed_cleanedUp (s := h.server) setting now order
      exact (departed.status id).trans (if_neg stays)

/-- The nodes that an event fails are the ones it sets to failed. -/
theorem Event.history (setting : Setting) (e : Event) (h : Heap) :
    ∃ writes, (e.run setting h).server.statusWrites = h.server.statusWrites ++ writes ∧
      ∀ id, FailedIn writes id ↔ e.Fails h.server id := by
  cases e with
  | handleNodeFailure nodeID => exact history_reportFailure nodeID h.server
  | recordFailure req => exact history_of_same rfl fun _ fails => fails
  | handleNodeTimeout nodeID => exact history_handleNodeTimeout nodeID h.server
  | cleanupSessions now => exact history_of_same rfl fun _ fails => fails
  | cleanupDeadConnections now order =>
      exact history_of_same (history_cleanedUp setting now order h.server) fun _ fails => fails

/-- A node that an event fails is failed. -/
theorem Event.statusOf_failed (fails : e.Fails h.server id) :
    (e.run setting h).server.nodes.statusOf id = some .failed := by
  cases e with
  | handleNodeFailure nodeID =>
      obtain ⟨rfl, registered, accepted⟩ := fails
      obtain ⟨old, known⟩ := Registry.mem_iff_statusOf.mp registered
      change (reportFailure nodeID h.server).nodes.statusOf nodeID = _
      rw [reportFailure, known]
      dsimp only
      rw [if_pos accepted, Server.statusOf_failedOver, if_pos rfl, known, Option.map_some]
  | handleNodeTimeout nodeID =>
      obtain ⟨rfl, registered⟩ := fails
      obtain ⟨old, known⟩ := Registry.mem_iff_statusOf.mp registered
      apply (Server.statusOf_handleNodeTimeout nodeID nodeID).trans
      rw [if_pos rfl, known, Option.map_some]
  | _ => cases fails

/-- A node that an event removes is no longer registered. -/
theorem Event.statusOf_removed (removes : e.Removes setting h.server id) :
    (e.run setting h).server.nodes.statusOf id = none := by
  cases e with
  | cleanupDeadConnections now order =>
      obtain ⟨departed, _⟩ := Server.departed_cleanedUp (s := h.server) setting now order
      exact (departed.status id).trans (if_pos removes)
  | _ => cases removes

end Events

/-! ## What the call does -/

section Steps

variable {setting : Setting} {rounds : Nat → Round} {p p' : Point} {h h' : Heap} {next : String}

/-- What a step of the call does to its lists and to the nodes. -/
inductive Effect (setting : Setting) (rounds : Nat → Round) (p : Point) (h : Heap) :
    Point → Heap → Prop where
  | outside {p' : Point} {h' : Heap} (lists : p'.lists = none)
      (activations : h'.activations = h.activations)
      (declarations : h'.declarations = h.declarations) : Effect setting rounds p h p' h'
  | read {p' : Point} (attempt : Nat) (activeNodes left : List String) (nodup : left.Nodup)
      (standby : ∀ id ∈ left, h.server.nodes.statusOf id = some .standby)
      (lists : p'.lists = some (⟨attempt, h.server.statusWrites.length, activeNodes⟩, left)) :
      Effect setting rounds p h p' h
  | promoted {p' : Point} (held : Held) (id : String) (rest : List String) (rank : Int)
      (before : p.lists = some (held, id :: rest)) (after : p'.lists = some (held.add id, rest)) :
      Effect setting rounds p h p' (h.promote id rank)
  | kept {p' : Point} {h' : Heap} (held : Held) (activeNodes : List String)
      (before : p.lists = some (held, []))
      (after : p'.lists = some ({ held with activeNodes }, []))
      (perm : activeNodes.Perm held.activeNodes)
      (activations : h'.activations = h.activations)
      (declarations : h'.declarations = h.declarations)
      (history : h'.server.statusWrites = h.server.statusWrites) : Effect setting rounds p h p' h'
  | declared {p' : Point} {h' : Heap} (held : Held) (before : p.lists = some (held, []))
      (after : p'.lists = none) (succeeds : held.Succeeds setting rounds [])
      (activations : h'.activations = h.activations)
      (declarations : h'.declarations =
        h.declarations ++ [⟨held.activeNodes, h.server.statusWrites.drop held.since⟩]) :
      Effect setting rounds p h p' h'

/-- The attempt has enough nodes and notifies them. A node that did not answer is on record. -/
structure Held.Notifies (setting : Setting) (rounds : Nat → Round) (held : Held)
    (left failedNodes : List String) : Prop where
  enough : setting.config.activeNodes ≤ held.activeNodes.length
  listed : left ⊆ held.activeNodes
  answered : failedNodes = [] → ∀ id ∈ held.activeNodes, id ∉ left →
    (rounds held.attempt).answers id = true
  reached : (∀ id ∈ held.activeNodes, (rounds held.attempt).answers id = true) → failedNodes = []

/-- After the sort the attempt has enough nodes. -/
def Point.Ready (setting : Setting) (rounds : Nat → Round) : Point → Prop
  | .assign held _ => setting.config.activeNodes ≤ held.activeNodes.length
  | .notify held left failedNodes _ => held.Notifies setting rounds left failedNodes
  | _ => True

/-- The notification of one more node. -/
theorem Held.Notifies.step {held : Held} {left failedNodes : List String}
    (notifies : held.Notifies setting rounds left failedNodes) (here : next ∈ left) :
    held.Notifies setting rounds (left.erase next)
      (if (rounds held.attempt).answers next = true then failedNodes
        else failedNodes.insert (h.urlOf next)) where
  enough := notifies.enough
  listed := fun id mem => notifies.listed (List.mem_of_mem_erase mem)
  answered none id mem out := by
    split at none
    · next answers =>
        by_cases same : id = next
        · exact same ▸ answers
        · exact notifies.answered none id mem fun left =>
            out ((List.mem_erase_of_ne same).mpr left)
    · have mem : h.urlOf next ∈ failedNodes.insert (h.urlOf next) := List.mem_insert_self ..
      rw [none] at mem
      cases mem
  reached all := by
    rw [if_pos (all next (notifies.listed here))]
    exact notifies.reached all

theorem lists_retry (attempt : Nat) : (retry attempt).lists = none := by
  unfold retry
  split <;> rfl

theorem ready_retry (attempt : Nat) : (retry attempt).Ready setting rounds := by
  unfold retry
  split <;> trivial

/-- **What a step of the call does.** -/
theorem effect_of_step (ready : p.Ready setting rounds)
    (steps : step setting rounds next p h = some (p', h')) :
    Effect setting rounds p h p' h' ∧ p'.Ready setting rounds := by
  unfold step at steps
  split at steps
  · cases steps
  cases p with
  | checkState =>
      dsimp only at steps
      split at steps <;> cases steps <;> exact ⟨.outside rfl rfl rfl, trivial⟩
  | enter =>
      dsimp only at steps
      split at steps <;> cases steps <;> exact ⟨.outside rfl rfl rfl, trivial⟩
  | refused => cases steps
  | readLists attempt =>
      dsimp only [startPromotion] at steps
      cases steps
      split
      · refine ⟨.read attempt _ _ ?_ (fun id mem => ?_) rfl, trivial⟩
        · exact (Registry.nodup_listWith _ _).sublist (List.take_sublist _ _)
        · exact Registry.mem_listWith.mp (List.mem_of_mem_take mem)
      · exact ⟨.read attempt _ [] List.nodup_nil (fun id mem => by cases mem) rfl, trivial⟩
  | promote held promoted left =>
      cases left with
      | nil =>
          cases steps
          exact ⟨.kept held _ rfl rfl (.refl _) rfl rfl rfl, trivial⟩
      | cons id rest =>
          cases steps
          exact ⟨.promoted held id rest _ rfl rfl, trivial⟩
  | count held promoted =>
      cases steps
      exact ⟨.kept held _ rfl rfl (.refl _) rfl rfl rfl, trivial⟩
  | sort held =>
      dsimp only at steps
      split at steps
      · cases steps
        exact ⟨.outside rfl rfl rfl, trivial⟩
      · next enough =>
          cases steps
          have perm := sortBy_perm (rounds held.attempt).ties h.rankOf held.activeNodes
          refine ⟨.kept held _ rfl rfl perm rfl rfl rfl, ?_⟩
          change setting.config.activeNodes ≤ (List.length _ : Int)
          rw [perm.length_eq]
          exact not_lt.mp enough
  | insufficient =>
      cases steps
      exact ⟨.outside rfl rfl rfl, trivial⟩
  | assign held i =>
      dsimp only at steps
      split at steps
      · next id found =>
          cases steps
          exact ⟨.kept held _ rfl rfl (.refl _) Heap.record_assign.1 Heap.record_assign.2
            Heap.history_setRank, ready⟩
      · cases steps
        exact ⟨.kept held _ rfl rfl (.refl _) rfl rfl rfl, ready, List.Subset.refl _,
          fun _ id mem out => absurd mem out, fun _ => rfl⟩
  | notify held left failedNodes sent =>
      dsimp only at steps
      split at steps
      · next here =>
          cases steps
          exact ⟨.kept held _ rfl rfl (.refl _) rfl rfl rfl, ready.step here⟩
      · split at steps
        · next left =>
            split at steps
            · next answered =>
                cases steps
                refine ⟨.declared held rfl rfl ⟨?_, fun id mem => ?_⟩ rfl rfl, trivial⟩
                · rw [List.append_nil]
                  exact ready.enough
                · rw [List.append_nil] at mem
                  exact ready.answered answered id mem (by rw [left]; exact List.not_mem_nil)
            · cases steps
              exact ⟨.outside rfl rfl rfl, trivial⟩
        · cases steps
  | mark attempt left =>
      dsimp only at steps
      split at steps
      · cases steps
        exact ⟨.outside rfl rfl rfl, trivial⟩
      · split at steps
        · cases steps
          exact ⟨.outside (lists_retry _) rfl rfl, ready_retry _⟩
        · cases steps
  | exhausted =>
      cases steps
      exact ⟨.outside rfl rfl rfl, trivial⟩
  | checkRunning =>
      dsimp only at steps
      split at steps <;> cases steps <;> exact ⟨.outside rfl rfl rfl, trivial⟩
  | resume =>
      dsimp only at steps
      split at steps <;> cases steps <;> exact ⟨.outside rfl rfl rfl, trivial⟩
  | returned => cases steps

end Steps

/-! ## The invariant -/

section Invariant

variable {setting : Setting} {rounds : Nat → Round} {h h' : Heap} {held : Held} {left : List String}

/-- The nodes that are still to be promoted are standby nodes, and no listed node of an attempt
that will succeed was set to failed since the lists were read. -/
structure Current (setting : Setting) (rounds : Nat → Round) (h : Heap) (held : Held)
    (left : List String) : Prop where
  nodup : left.Nodup
  standby : ∀ id ∈ left, h.server.nodes.statusOf id = some .standby
  bounded : held.since ≤ h.server.statusWrites.length
  unfailed : held.Succeeds setting rounds left → ∀ id ∈ held.activeNodes ++ left,
    ¬ FailedIn (h.server.statusWrites.drop held.since) id

namespace Current

/-- Later assignments are checked one by one. -/
theorem later (current : Current setting rounds h held left) {writes : List StatusWrite}
    (history : h'.server.statusWrites = h.server.statusWrites ++ writes)
    (spared : held.Succeeds setting rounds left → ∀ id ∈ held.activeNodes ++ left,
      ¬ FailedIn writes id)
    (standby : ∀ id ∈ left, h'.server.nodes.statusOf id = some .standby) :
    Current setting rounds h' held left where
  nodup := current.nodup
  standby := standby
  bounded := by
    rw [history, List.length_append]
    exact current.bounded.trans (Nat.le_add_right ..)
  unfailed succeeds id mem := by
    rw [history, List.drop_append_of_le_length current.bounded, FailedIn.append]
    rintro (past | now)
    · exact current.unfailed succeeds id mem past
    · exact spared succeeds id mem now

/-- The promotion of the next node. -/
theorem promote {id : String} {rest : List String}
    (current : Current setting rounds h held (id :: rest)) (rank : Int) :
    Current setting rounds (h.promote id rank) (held.add id) rest := by
  have standby := current.standby id List.mem_cons_self
  have nodup := List.nodup_cons.mp current.nodup
  have server : (h.promote id rank).server = h.server.promote id rank :=
    Heap.server_assign_of_mem (Registry.mem_iff_statusOf.mpr ⟨_, standby⟩)
  have history : (h.promote id rank).server.statusWrites =
      h.server.statusWrites ++ [{ nodeID := id, old := .standby, new := .active }] := by
    rw [server]
    exact history_setStatus standby .active
  have moved : (held.add id).activeNodes ++ rest = held.activeNodes ++ id :: rest := by
    rw [Held.add, List.append_assoc, List.singleton_append]
  have promotes (j : String) :
      ¬ FailedIn [{ nodeID := id, old := .standby, new := .active }] j := by
    intro fails
    cases (failedIn_singleton.mp fails).2
  refine ⟨nodup.2, fun j mem => ?_, ?_, fun succeeds j mem => ?_⟩
  · have ne : j ≠ id := fun same => nodup.1 (same ▸ mem)
    rw [server, Server.statusOf_promote, if_neg ne]
    exact current.standby j (List.mem_cons_of_mem _ mem)
  · rw [history, List.length_append]
    exact current.bounded.trans (Nat.le_add_right ..)
  · rw [Held.Succeeds, moved] at succeeds
    rw [moved] at mem
    rw [history]
    change ¬ FailedIn (List.drop held.since _) _
    rw [List.drop_append_of_le_length current.bounded, FailedIn.append]
    rintro (past | now)
    · exact current.unfailed succeeds j mem past
    · exact promotes j now

/-- The order of the active nodes does not matter. -/
theorem reorder (current : Current setting rounds h held []) {activeNodes : List String}
    (perm : activeNodes.Perm held.activeNodes)
    (history : h'.server.statusWrites = h.server.statusWrites) :
    Current setting rounds h' { held with activeNodes } [] where
  nodup := List.nodup_nil
  standby id mem := by cases mem
  bounded := by
    rw [history]
    exact current.bounded
  unfailed succeeds id mem := by
    rw [List.append_nil] at mem
    rw [history]
    refine current.unfailed ⟨?_, fun j listed => ?_⟩ id ?_
    · rw [List.append_nil, ← perm.length_eq]
      exact (List.append_nil activeNodes) ▸ succeeds.1
    · rw [List.append_nil] at listed
      exact succeeds.2 j (List.mem_append_left _ (perm.mem_iff.mpr listed))
    · exact List.mem_append_left _ (perm.mem_iff.mp mem)

/-- The lists that an attempt reads. -/
theorem read {attempt : Nat} {activeNodes : List String} (nodup : left.Nodup)
    (standby : ∀ id ∈ left, h.server.nodes.statusOf id = some .standby) :
    Current setting rounds h ⟨attempt, h.server.statusWrites.length, activeNodes⟩ left where
  nodup := nodup
  standby := standby
  bounded := le_rfl
  unfailed _ id _ := by
    rw [List.drop_length]
    exact not_failedIn_nil id

end Current

/-- What holds along every run whose events spare the listed nodes. -/
structure Sound (setting : Setting) (rounds : Nat → Round) (c : Scene) : Prop where
  ready : c.point.Ready setting rounds
  respected : c.heap.Respected
  lists : ∀ held left, c.point.lists = some (held, left) →
    Current setting rounds c.heap held left

variable {c : Scene}

/-- A step of the call. -/
theorem Sound.call (sound : Sound setting rounds c) {next : String} {p' : Point}
    (steps : step setting rounds next c.point c.heap = some (p', h')) :
    Sound setting rounds ⟨p', h'⟩ := by
  obtain ⟨effect, ready⟩ := effect_of_step sound.ready steps
  refine ⟨ready, ?_, fun held left lists => ?_⟩
  · cases effect with
    | outside lists activations declarations =>
        exact ⟨activations ▸ sound.respected.promoted, declarations ▸ sound.respected.counted⟩
    | read attempt activeNodes left nodup standby lists => exact sound.respected
    | promoted held id rest rank before after =>
        refine ⟨fun a mem => ?_, ?_⟩
        · rcases List.mem_append.mp mem with mem | mem
          · exact sound.respected.promoted a mem
          · have standby := (sound.lists _ _ before).standby id List.mem_cons_self
            rw [List.mem_singleton.mp mem, standby]
            exact ⟨Option.some_ne_none _, fun failed => by cases failed⟩
        · change ∀ d ∈ (Heap.assign _ _ _ _).declarations, _
          rw [Heap.record_assign.2]
          exact sound.respected.counted
    | kept held activeNodes before after perm activations declarations history =>
        exact ⟨activations ▸ sound.respected.promoted, declarations ▸ sound.respected.counted⟩
    | declared held before after succeeds activations declarations =>
        refine ⟨activations ▸ sound.respected.promoted, fun d mem => ?_⟩
        rw [declarations] at mem
        rcases List.mem_append.mp mem with mem | mem
        · exact sound.respected.counted d mem
        · rw [List.mem_singleton.mp mem]
          intro id listed
          exact (sound.lists _ _ before).unfailed succeeds id (List.mem_append_left _ listed)
  · cases effect with
    | outside none activations declarations => cases none.symm.trans lists
    | read attempt activeNodes left nodup standby read =>
        cases read.symm.trans lists
        exact .read nodup standby
    | promoted held id rest rank before after =>
        cases after.symm.trans lists
        exact (sound.lists _ _ before).promote rank
    | kept held activeNodes before after perm activations declarations history =>
        cases after.symm.trans lists
        exact (sound.lists _ _ before).reorder perm history
    | declared held before after succeeds activations declarations =>
        cases after.symm.trans lists

/-- An event that spares the listed nodes. -/
theorem Sound.event (sound : Sound setting rounds c) (e : Event)
    (spares : Spares setting rounds c (.event e)) :
    Sound setting rounds { c with heap := e.run setting c.heap } := by
  have record := e.record setting c.heap
  refine ⟨sound.ready, ⟨record.1 ▸ sound.respected.promoted, record.2 ▸ sound.respected.counted⟩,
    fun held left lists => ?_⟩
  obtain ⟨toPromote, active⟩ := spares held left lists
  obtain ⟨writes, history, fails⟩ := e.history setting c.heap
  have current := sound.lists held left lists
  refine current.later history (fun succeeds id mem failed => ?_) fun id mem => ?_
  · rcases List.mem_append.mp mem with mem | mem
    · exact active succeeds id mem ((fails id).mp failed)
    · exact (toPromote id mem).1 ((fails id).mp failed)
  · rw [Event.statusOf (toPromote id mem).1 (toPromote id mem).2]
    exact current.standby id mem

theorem sound_of_run {before : Server}
    (run : (interrupted setting rounds before).Run (Spares setting rounds) c) :
    Sound setting rounds c := by
  refine run.induct (fun c initial => ?_) fun c turn c' sound spares next => ?_
  · rw [show c = ⟨.checkState, .new before⟩ from initial]
    refine ⟨trivial, ⟨fun a mem => ?_, fun d mem => ?_⟩, fun held left lists => ?_⟩
    · cases mem
    · cases mem
    · cases lists
  · cases turn with
    | call _ =>
        obtain ⟨⟨p', h'⟩, steps, same⟩ := Option.map_eq_some_iff.mp next
        exact same ▸ sound.call steps
    | event e =>
        dsimp only [interrupted] at next
        split at next
        · cases next
        · cases next
          exact sound.event e spares

/-- **A failed node is not brought back while events spare the listed nodes.** Along every
interleaving of a call with reports, health ticks and cleanups in which no node still to be promoted
fails or leaves, and no active node of an attempt that will succeed fails, the call sets no node to
active that is failed or no longer registered, and it declares success without any node that failed
after its lists were read. -/
theorem respected_of_run (setting : Setting) (rounds : Nat → Round) (before : Server) {c : Scene}
    (run : (interrupted setting rounds before).Run (Spares setting rounds) c) :
    c.heap.Respected := (sound_of_run run).respected

end Invariant

/-! ## Runs -/

/-- The turn of the call, or of a loop of it over a set of nodes. -/
def go (next : String) : Turn := .call next

/-- The call up to the point where it promotes the first standby node. -/
def readingLists : List Turn := List.replicate 2 (go "")

/-- The call from there to its success, with three nodes of which one is promoted. -/
def promoting : List Turn :=
  List.replicate 8 (go "") ++ ["a.ns.1", "b.ns.1", "d.ns.1"].map go ++ [go ""]

/-- A time-out of a node that is not listed. -/
def Turn.passesBy (c : Scene) : Turn → Bool
  | .call _ => true
  | .event (.handleNodeTimeout nodeID) => c.point.lists.all fun lists =>
      nodeID ∉ lists.1.activeNodes ∧ nodeID ∉ lists.2
  | .event _ => false

theorem Turn.spares_of_passesBy {setting : Setting} {rounds : Nat → Round} {c : Scene} {turn : Turn}
    (passesBy : turn.passesBy c = true) : Spares setting rounds c turn := by
  cases turn with
  | call next => trivial
  | event e =>
      intro held left lists
      cases e with
      | handleNodeTimeout nodeID =>
          rw [Turn.passesBy, lists] at passesBy
          obtain ⟨active, toPromote⟩ := of_decide_eq_true passesBy
          refine ⟨fun id mem => ⟨?_, fun removes => removes⟩, fun _ id mem => ?_⟩
          · rintro ⟨rfl, _⟩
            exact toPromote mem
          · rintro ⟨rfl, _⟩
            exact active mem
      | _ => cases passesBy

/-- The steps after which one of three active nodes is reported and a standby node is silent. -/
def reporting : List Action :=
  gathering ++ [.sendHeartbeat ⟨"a.ns.1"⟩ 9, .sendHeartbeat ⟨"b.ns.1"⟩ 9,
    .notifyFailure ⟨"c.ns.1", "CUDA error", 1, "process"⟩]

/-- The call that is spawned for the reported node, from its start. -/
def spawnedCall (w : World) : System Scene Turn :=
  interrupted smallSetting (fun _ => .except []) w.data.scheduled

/-- A run of the call that is spawned for the reported node, decided from the start of the server. -/
theorem exists_spawnedCall {C : Scene → Turn → Prop} (allowed : Scene → Turn → Bool)
    (sound : ∀ c turn, allowed c turn = true → C c turn) (turns : List Turn) (p : Scene → Bool)
    (ends : ((system smallDeployment).runAll (fun _ _ => true) (World.new smallSetting)
      reporting).any (fun w => w.data.spawned = 1 ∧
        w.data.nodes.statusOf "d.ns.1" = some .standby ∧
        "d.ns.1" ∈ w.data.timeouts 10 smallSetting .inOrder ∧
        ((spawnedCall w).runAll allowed ⟨.checkState, .new w.data.scheduled⟩ turns).any p) = true) :
    ∃ w, (system smallDeployment).Reachable w ∧ w.data.spawned = 1 ∧
      w.data.nodes.statusOf "d.ns.1" = some .standby ∧
      "d.ns.1" ∈ w.data.timeouts 10 smallSetting .inOrder ∧
      ∃ c, (spawnedCall w).Run C c ∧ p c = true := by
  obtain ⟨w, reachable, holds⟩ := System.exists_reachable (S := system smallDeployment) reporting
    _ rfl ends
  obtain ⟨spawned, standby, silent, ends⟩ := of_decide_eq_true holds
  obtain ⟨c, run, holds⟩ := System.exists_run (S := spawnedCall w) (C := C) allowed turns p
    (fun c turn _ => sound c turn) rfl ends
  exact ⟨w, reachable, spawned, standby, silent, c, run, holds⟩

/-- The reported node times out while its replacement is promoted. -/
theorem respected_of_run_reported :
    ∃ w, (system smallDeployment).Reachable w ∧ w.data.spawned = 1 ∧
      ∃ c, (spawnedCall w).Run (Spares smallSetting fun _ => .except []) c ∧
        c.heap.activations = [⟨"d.ns.1", some .standby⟩] ∧ c.heap.declarations.length = 1 ∧
        c.heap.Respected := by
  obtain ⟨w, reachable, spawned, _, _, c, run, holds⟩ := exists_spawnedCall
    (C := Spares smallSetting fun _ => .except []) (fun c turn => turn.passesBy c)
    (fun c turn passesBy => Turn.spares_of_passesBy passesBy)
    (readingLists ++ .event (.handleNodeTimeout "c.ns.1") :: promoting)
    (fun c => c.heap.activations = [⟨"d.ns.1", some .standby⟩] ∧ c.heap.declarations.length = 1)
    (by decide +kernel)
  obtain ⟨activations, declared⟩ := of_decide_eq_true holds
  exact ⟨w, reachable, spawned, c, run, activations, declared, respected_of_run _ _ _ run⟩

/-- A silent standby node times out after the lists are read. It is promoted although it has
failed, and the call declares success with it. -/
theorem revived_after_timeout :
    ∃ w, (system smallDeployment).Reachable w ∧ w.data.spawned = 1 ∧
      w.data.nodes.statusOf "d.ns.1" = some .standby ∧
      "d.ns.1" ∈ w.data.timeouts 10 smallSetting .inOrder ∧
      ∃ c, (spawnedCall w).Reachable c ∧ ⟨"d.ns.1", some .failed⟩ ∈ c.heap.activations ∧
        (∃ d ∈ c.heap.declarations, "d.ns.1" ∈ d.activeNodes ∧ FailedIn d.writes "d.ns.1") ∧
        ¬ c.heap.Respected := by
  obtain ⟨w, reachable, spawned, standby, silent, c, run, holds⟩ := exists_spawnedCall
    (C := fun _ _ => True) (fun _ _ => true) (fun _ _ _ => trivial)
    (readingLists ++ .event (.handleNodeTimeout "d.ns.1") :: promoting)
    (fun c => ⟨"d.ns.1", some .failed⟩ ∈ c.heap.activations ∧
      ∃ d ∈ c.heap.declarations, "d.ns.1" ∈ d.activeNodes ∧ FailedIn d.writes "d.ns.1")
    (by decide +kernel)
  obtain ⟨promoted, declared⟩ := of_decide_eq_true holds
  exact ⟨w, reachable, spawned, standby, silent, c, run, promoted, declared,
    fun respected => (respected.promoted _ promoted).2 rfl⟩

end Interrupted

end C4D
