import C4D.Concurrent.Overlap

/-!
# When overlapping reconfigurations agree

Two calls that both return may have promoted the same standby node, counted it
twice and left two nodes with one rank. Two kinds of step lead there
(`Conflicts`): a call reads the node lists while the other still has nodes to
promote, and a call assigns a rank while the other is renumbering in a different
order, or has done so already with a list that is more recent.

In the runs without such steps the call that read last holds exactly the active
nodes (`Sound.latest`), and there is a call whose ranks the other does not
overwrite with different ones (`Governs`).
-/

set_option autoImplicit false

namespace C4D

open Foundations

namespace Server

/-- The last rank sent to a node. -/
def lastRank (s : Server) (id : String) : Option Int :=
  ((s.rounds.flatten.filter fun command => command.nodeID == id).getLast?).map Command.rank

variable {s : Server} {id : String}

/-- A notification is the last one its node got. -/
theorem lastRank_notify (command : Command) :
    lastRank { s with rounds := s.rounds ++ [[command]] } id =
      if command.nodeID = id then some command.rank else s.lastRank id := by
  simp only [lastRank, List.flatten_append, List.flatten_singleton, List.filter_append]
  by_cases here : command.nodeID = id
  · simp [here]
  · simp [here]

theorem rankOf_promote_of_ne {j : String} (ne : j ≠ id) (rank : Int) :
    (s.promote id rank).nodes.rankOf j = s.nodes.rankOf j := by
  rw [promote, Registry.rankOf_setRank_of_ne ne, setStatus, Registry.rankOf_setStatus]

/-- A promotion moves one node from one count to the other. -/
theorem drift_promote (standby : s.nodes.statusOf id = some .standby) (rank : Int) :
    (s.promote id rank).drift .active = s.drift .active - 1 ∧
      (s.promote id rank).drift .standby = s.drift .standby + 1 := by
  have count (status : Status) : (s.promote id rank).nodes.count status =
      s.nodes.count status + (if .active = status then 1 else 0)
        - (if .standby = status then 1 else 0) := by
    rw [← Registry.count_setStatus standby]
    exact Registry.count_congr (fun j => Registry.statusOf_setRank ..) status
  constructor
  · rw [drift, drift, count]
    simp only [counter, promote, setStatus, reduceCtorEq, if_true, if_false]
    omega
  · rw [drift, drift, count]
    simp only [counter, promote, setStatus, reduceCtorEq, if_true, if_false]
    omega

end Server

namespace Reconfiguration

/-! ## Progress of a call -/

/-- What a call has done, and what is left of it. -/
structure Progress where
  reported : Bool := true
  read : Bool := true
  activeNodes : List String := []
  promoted : List String := []
  /-- The nodes it still promotes. -/
  left : List String := []
  /-- The promotions that are not in the counters yet. -/
  uncounted : Nat := 0
  /-- The number of ranks it has assigned. -/
  assigned : Nat := 0
  /-- The nodes it still notifies. -/
  unsent : List String := activeNodes

def Point.progress : Point → Progress
  | .report => { reported := false, read := false }
  | .checkState => { read := false }
  | .enter => { read := false }
  | .refused => { read := false }
  | .readLists => { read := false }
  | .promote activeNodes promoted left =>
      { activeNodes, promoted, left, uncounted := promoted.length }
  | .count activeNodes promoted => { activeNodes, promoted, uncounted := promoted.length }
  | .sort activeNodes promoted => { activeNodes, promoted }
  | .insufficient activeNodes promoted => { activeNodes, promoted }
  | .assign activeNodes promoted i =>
      { activeNodes, promoted, assigned := min i activeNodes.length }
  | .notify activeNodes promoted left =>
      { activeNodes, promoted, assigned := activeNodes.length, unsent := left }
  | .checkRunning activeNodes promoted =>
      { activeNodes, promoted, assigned := activeNodes.length, unsent := [] }
  | .resume activeNodes promoted =>
      { activeNodes, promoted, assigned := activeNodes.length, unsent := [] }
  | .returned activeNodes promoted =>
      { activeNodes, promoted, assigned := activeNodes.length, unsent := [] }

/-- A list holds exactly the active nodes. -/
def Exact (activeNodes : List String) (s : Server) : Prop :=
  ∀ id, id ∈ activeNodes ↔ s.nodes.statusOf id = some .active

instance (activeNodes : List String) (s : Server) : Decidable (Exact activeNodes s) :=
  decidable_of_iff ((∀ id ∈ activeNodes, s.nodes.statusOf id = some .active) ∧
      ∀ id ∈ AList.keys s.nodes, s.nodes.statusOf id = some .active → id ∈ activeNodes) <| by
    rw [← Registry.forall_active_iff]
    exact ⟨fun ⟨listed, all⟩ id => ⟨listed id, all id⟩,
      fun exact_ => ⟨fun id => (exact_ id).mp, fun id => (exact_ id).mpr⟩⟩

/-- The call has assigned all its ranks. -/
def Progress.Renumbered (q : Progress) : Prop := q.assigned = q.activeNodes.length

instance : DecidablePred Progress.Renumbered := fun q =>
  inferInstanceAs (Decidable (q.assigned = q.activeNodes.length))

/-- The steps after which two calls that both return do not agree: a call reads the node lists while
the other has nodes to promote, or it assigns a rank after the other has, in a different order, and
the other is not done or this list of nodes is outdated. -/
def Conflicts (c : Threads Call Point Server) (i : Call) : Prop :=
  let other := (c.point i.other).progress
  match c.point i with
  | .readLists => other.left ≠ []
  | .assign activeNodes _ k => k < activeNodes.length ∧ 0 < other.assigned ∧
      other.activeNodes ≠ activeNodes ∧ ¬ (other.Renumbered ∧ Exact activeNodes c.data)
  | _ => False

instance (c : Threads Call Point Server) (i : Call) : Decidable (Conflicts c i) := by
  unfold Conflicts
  cases c.point i <;> infer_instance

/-! ## What a step can do -/

/-- Everything a step of a call can do to its progress and to the data, beside another call. -/
inductive Effect (nodeID : String) (other : Progress) :
    Progress → Server → Progress → Server → Prop where
  | moved {s : Server} (q : Progress) (current : State) (spawned inFlight : Nat) :
      Effect nodeID other q s q { s with current, spawned, inFlight }
  | reported {s : Server} (known : s.nodes.statusOf nodeID = some .active) :
      Effect nodeID other { reported := false, read := false } s { read := false }
        (s.failedOver nodeID .active)
  | read {s : Server} (activeNodes left : List String) (actives : Exact activeNodes s)
      (standbys : ∀ id ∈ left, s.nodes.statusOf id = some .standby)
      (nodup : (activeNodes ++ left).Nodup) (quiet : other.left = []) :
      Effect nodeID other { read := false } s { activeNodes, left } s
  | promoted {s : Server} (activeNodes promoted rest : List String) (id : String) (rank : Int) :
      Effect nodeID other
        { activeNodes, promoted, left := id :: rest, uncounted := promoted.length } s
        { activeNodes := activeNodes ++ [id], promoted := promoted ++ [id], left := rest,
          uncounted := (promoted ++ [id]).length }
        (s.promote id rank)
  | counted {s : Server} (activeNodes promoted : List String) :
      Effect nodeID other { activeNodes, promoted, uncounted := promoted.length } s
        { activeNodes, promoted } (s.countPromoted promoted.length)
  | sorted {s : Server} (activeNodes activeNodes' promoted : List String)
      (perm : activeNodes'.Perm activeNodes) :
      Effect nodeID other { activeNodes, promoted } s
        { activeNodes := activeNodes', promoted } s
  | assigned {s : Server} (activeNodes promoted : List String) (i : Nat)
      (bound : i < activeNodes.length)
      (rival : 0 < other.assigned → other.activeNodes = activeNodes ∨
        (other.Renumbered ∧ Exact activeNodes s)) :
      Effect nodeID other { activeNodes, promoted, assigned := i } s
        { activeNodes, promoted, assigned := i + 1 }
        { s with nodes := s.nodes.setRank activeNodes[i] i }
  | sent {s : Server} (activeNodes promoted left : List String) (command : Command)
      (rank : command.rank = s.nodes.rankOf command.nodeID) :
      Effect nodeID other
        { activeNodes, promoted, assigned := activeNodes.length, unsent := left } s
        { activeNodes, promoted, assigned := activeNodes.length,
          unsent := left.erase command.nodeID }
        { s with rounds := s.rounds ++ [[command]] }

variable {setting : Setting} {nodeID : String} {choice : Choice}

/-- No node is both active and standby. -/
theorem nodup_lists {nodes : Registry} {order : Shuffle String} {left : List String}
    (sublist : left.Sublist (nodes.listWith order .standby)) :
    (nodes.listWith order .active ++ left).Nodup := by
  refine (Registry.nodup_listWith _ _).append ((Registry.nodup_listWith _ _).sublist sublist)
    fun id active standby => ?_
  cases (Registry.mem_listWith.mp active).symm.trans
    (Registry.mem_listWith.mp (sublist.subset standby))

theorem effect_of_step {c : Threads Call Point Server} {i : Call} {p' : Point} {s' : Server}
    (steps : step setting nodeID choice (c.point i) c.data = some (p', s'))
    (sound : ¬ Conflicts c i) :
    Effect nodeID (c.point i.other).progress (c.point i).progress c.data p'.progress s' := by
  have still {q : Progress} {s : Server} : Effect nodeID (c.point i.other).progress q s q s :=
    .moved q s.current s.spawned s.inFlight
  unfold Conflicts at sound
  generalize c.point i = p at steps sound ⊢
  generalize c.data = s at steps sound ⊢
  unfold step at steps
  split at steps
  · cases steps
  cases p with
  | report =>
      simp only at steps
      split at steps
      · next accepted =>
          cases steps
          exact .reported accepted.2
      · cases steps
  | checkState =>
      simp only at steps
      split at steps <;> cases steps <;> exact .moved _ s.current (s.spawned - 1) (s.inFlight + 1)
  | enter =>
      simp only at steps
      split at steps <;> cases steps
      · exact .moved _ .reconfiguring s.spawned s.inFlight
      · exact still
  | refused =>
      cases steps
      exact .moved _ .failed s.spawned s.inFlight
  | readLists =>
      cases steps
      have quiet : (c.point i.other).progress.left = [] := not_not.mp sound
      have actives : Exact (s'.nodes.listWith choice.order .active) s' :=
        fun id => Registry.mem_listWith
      simp only [startPromotion]
      split
      · refine .read _ _ actives (fun id mem => Registry.mem_listWith.mp (List.mem_of_mem_take mem))
          (nodup_lists ?_) quiet
        exact (List.take_sublist _ _)
      · exact .read _ [] actives nofun (nodup_lists (List.nil_sublist _)) quiet
  | promote activeNodes promoted left =>
      cases left with
      | nil =>
          cases steps
          exact still
      | cons id rest =>
          cases steps
          exact .promoted activeNodes promoted rest id _
  | count activeNodes promoted =>
      cases steps
      exact .counted activeNodes promoted
  | sort activeNodes promoted =>
      simp only at steps
      split at steps <;> cases steps
      · exact still
      · have none : min 0 (sortBy choice.ties s'.nodes.rankOf activeNodes).length = 0 :=
          Nat.zero_min _
        simp only [Point.progress, none]
        exact .sorted activeNodes _ promoted (sortBy_perm _ _ _)
  | insufficient activeNodes promoted =>
      cases steps
      exact .moved _ .failed s.spawned s.inFlight
  | assign activeNodes promoted k =>
      simp only at steps
      rcases lt_or_ge k activeNodes.length with bound | past
      · rw [List.getElem?_eq_getElem bound] at steps
        cases steps
        have before : min k activeNodes.length = k := min_eq_left bound.le
        have after : min (k + 1) activeNodes.length = k + 1 := min_eq_left bound
        simp only [Point.progress, before, after]
        refine .assigned activeNodes promoted k bound ?_
        intro begun
        by_contra neither
        obtain ⟨different, outdated⟩ := not_or.mp neither
        exact sound ⟨bound, begun, different, outdated⟩
      · rw [List.getElem?_eq_none past] at steps
        cases steps
        have before : min k activeNodes.length = activeNodes.length := min_eq_right past
        simp only [Point.progress, before]
        exact still
  | notify activeNodes promoted left =>
      simp only at steps
      split_ifs at steps with mem done
      · cases steps
        exact .sent activeNodes promoted left (s.restartCommand setting choice.next) rfl
      · cases steps
        subst done
        exact still
  | checkRunning activeNodes promoted =>
      simp only at steps
      split at steps <;> cases steps
      · exact still
      · exact .moved _ s.current s.spawned (s.inFlight - 1)
  | resume activeNodes promoted =>
      simp only at steps
      split at steps <;> cases steps
      · exact .moved _ .running s.spawned (s.inFlight - 1)
      · exact .moved _ s.current s.spawned (s.inFlight - 1)
  | returned activeNodes promoted => cases steps

/-! ## One call -/

/-- What holds of a call whatever the other does. -/
structure Proper (nodeID : String) (q : Progress) (s : Server) : Prop where
  active : q.reported = false → s.nodes.statusOf nodeID = some .active
  left : ∀ id ∈ q.left, s.nodes.statusOf id = some .standby
  listed : ∀ id ∈ q.activeNodes,
    s.nodes.statusOf id = some .active ∨ s.nodes.statusOf id = some .failed
  nodup : (q.activeNodes ++ q.left).Nodup
  promoted : ∀ id ∈ q.promoted, id ∈ q.activeNodes
  unsent : ∀ id ∈ q.activeNodes, id ∉ q.unsent → q.Renumbered

namespace Proper

variable {q : Progress} {s : Server}

/-- Listed nodes are registered, and none of them is a standby node. -/
theorem registered (proper : Proper nodeID q s) {id : String} (mem : id ∈ q.activeNodes) :
    id ∈ s.nodes := by
  rw [Registry.mem_iff_statusOf]
  rcases proper.listed id mem with active | failed
  · exact ⟨_, active⟩
  · exact ⟨_, failed⟩

theorem not_standby (proper : Proper nodeID q s) {id : String} (mem : id ∈ q.activeNodes) :
    s.nodes.statusOf id ≠ some .standby := by
  rcases proper.listed id mem with same | same <;> rw [same] <;> decide

/-- A new status of one node matters only where the call still counts on the old one. -/
theorem change (proper : Proper nodeID q s) {s' : Server} {z : String}
    (off : ∀ id, id ≠ z → s'.nodes.statusOf id = s.nodes.statusOf id)
    (unreported : q.reported = false → nodeID ≠ z) (kept : z ∉ q.left)
    (listed : z ∈ q.activeNodes →
      s'.nodes.statusOf z = some .active ∨ s'.nodes.statusOf z = some .failed) :
    Proper nodeID q s' where
  active reported := (off _ (unreported reported)).trans (proper.active reported)
  left id mem := (off id fun same => kept (same ▸ mem)).trans (proper.left id mem)
  listed id mem := by
    by_cases here : id = z
    · exact here ▸ listed (here ▸ mem)
    · rw [off id here]
      exact proper.listed id mem
  nodup := proper.nodup
  promoted := proper.promoted
  unsent := proper.unsent

/-- What holds of a call depends on the statuses alone. -/
theorem congr (proper : Proper nodeID q s) {s' : Server}
    (same : ∀ id, s'.nodes.statusOf id = s.nodes.statusOf id) : Proper nodeID q s' where
  active reported := (same _).trans (proper.active reported)
  left id mem := (same id).trans (proper.left id mem)
  listed id mem := by
    rw [same]
    exact proper.listed id mem
  nodup := proper.nodup
  promoted := proper.promoted
  unsent := proper.unsent

end Proper

section Steps

variable {x y : String} {q q' r : Progress} {s s' : Server} (effect : Effect x r q s q' s')

include effect

theorem Proper.step (proper : Proper x q s) : Proper x q' s' := by
  cases effect with
  | moved _ current spawned inFlight => exact proper.congr fun _ => rfl
  | reported known => exact ⟨nofun, nofun, nofun, List.nodup_nil, nofun, nofun⟩
  | read activeNodes left actives standbys nodup quiet =>
      exact ⟨nofun, standbys, fun id mem => .inl ((actives id).mp mem), nodup, nofun,
        fun id mem unsent => absurd mem unsent⟩
  | promoted activeNodes promoted rest id rank =>
      have nodup : (activeNodes ++ id :: rest).Nodup := proper.nodup
      have fresh := List.nodup_middle.mp nodup
      have off (j : String) (other : j ≠ id) :
          (s.promote id rank).nodes.statusOf j = s.nodes.statusOf j := by
        rw [Server.statusOf_promote, if_neg other]
      refine ⟨nofun, fun j mem => ?_, fun j mem => ?_, ?_, fun j mem => ?_,
        fun j mem unsent => absurd mem unsent⟩
      · have other : j ≠ id := fun same =>
          (List.nodup_cons.mp fresh).1 (List.mem_append_right _ (same ▸ mem))
        exact (off j other).trans (proper.left j (List.mem_cons_of_mem id mem))
      · rcases List.mem_append.mp mem with old | new
        · have other : j ≠ id := fun same =>
            (List.nodup_cons.mp fresh).1 (List.mem_append_left _ (same ▸ old))
          rw [off j other]
          exact proper.listed j old
        · rw [List.mem_singleton.mp new, Server.statusOf_promote, if_pos rfl,
            proper.left id List.mem_cons_self]
          exact .inl rfl
      · rwa [List.append_assoc]
      · rcases List.mem_append.mp mem with old | new
        · exact List.mem_append_left _ (proper.promoted j old)
        · exact List.mem_append_right _ new
  | counted activeNodes promoted =>
      exact ⟨nofun, nofun, proper.listed, proper.nodup, proper.promoted, proper.unsent⟩
  | sorted activeNodes activeNodes' promoted perm =>
      refine ⟨nofun, nofun, fun id mem => proper.listed id (perm.mem_iff.mp mem), ?_,
        fun id mem => perm.mem_iff.mpr (proper.promoted id mem), fun id mem unsent => absurd mem unsent⟩
      have nodup := proper.nodup
      simp only [List.append_nil] at nodup ⊢
      exact perm.nodup_iff.mpr nodup
  | assigned activeNodes promoted i bound rival =>
      have same : Proper x { activeNodes, promoted, assigned := i }
          { s with nodes := s.nodes.setRank activeNodes[i] i } :=
        proper.congr fun id => Registry.statusOf_setRank ..
      exact ⟨nofun, nofun, same.listed, same.nodup, same.promoted,
        fun id mem unsent => absurd mem unsent⟩
  | sent activeNodes promoted left command rank =>
      exact ⟨nofun, nofun, proper.listed, proper.nodup, proper.promoted, fun id mem unsent => rfl⟩

/-- A step of one call keeps what holds of the other. -/
theorem Proper.step_other (apart : x ≠ y) (self : Proper x q s) (proper : Proper y r s)
    (oneLeft : q.left = [] ∨ r.left = []) : Proper y r s' := by
  cases effect with
  | moved _ current spawned inFlight => exact proper.congr fun _ => rfl
  | reported known =>
      refine proper.change (z := x) (fun id other => ?_) (fun _ => apart.symm) (fun mem => ?_)
        fun _ => ?_
      · rw [Server.statusOf_failedOver, if_neg other]
      · cases known.symm.trans (proper.left x mem)
      · rw [Server.statusOf_failedOver, if_pos rfl, known]
        exact .inr rfl
  | read activeNodes left actives standbys nodup quiet => exact proper
  | promoted activeNodes promoted rest id rank =>
      have standby := self.left id List.mem_cons_self
      refine proper.change (z := id) (fun j other => ?_) (fun reported same => ?_) (fun mem => ?_)
        fun mem => ?_
      · rw [Server.statusOf_promote, if_neg other]
      · cases standby.symm.trans (same ▸ proper.active reported)
      · rw [oneLeft.resolve_left (List.cons_ne_nil _ _)] at mem
        cases mem
      · exact absurd standby (proper.not_standby mem)
  | counted activeNodes promoted => exact proper.congr fun _ => rfl
  | sorted activeNodes activeNodes' promoted perm => exact proper
  | assigned activeNodes promoted i bound rival =>
      exact proper.congr fun id => Registry.statusOf_setRank ..
  | sent activeNodes promoted left command rank => exact proper.congr fun _ => rfl

/-! ## Both calls -/

omit effect

/-- The ranks the call has assigned stay, as the other call assigns the same ones, or is done and
holds the older list. -/
structure Governs (q r : Progress) (s : Server) : Prop where
  begun : 0 < q.assigned
  numbered : ∀ id ∈ q.activeNodes.take q.assigned, s.nodes.rankOf id = q.activeNodes.idxOf id
  told : ∀ id ∈ q.activeNodes, id ∉ q.unsent → s.lastRank id = some (s.nodes.rankOf id)
  rival : 0 < r.assigned → r.activeNodes = q.activeNodes ∨ (r.Renumbered ∧ Exact q.activeNodes s)

/-- What holds of two calls between any two steps. -/
structure Sound (before : Server) (x y : String) (q r : Progress) (s : Server) : Prop where
  mine : Proper x q s
  theirs : Proper y r s
  oneLeft : q.left = [] ∨ r.left = []
  disjoint : ∀ id ∈ q.promoted, id ∉ r.promoted
  activeDrift : s.drift .active + q.uncounted + r.uncounted = before.drift .active
  standbyDrift : s.drift .standby = before.drift .standby + q.uncounted + r.uncounted
  /-- The call that read last holds exactly the active nodes. -/
  latest : q.read → r.read →
    (Exact q.activeNodes s ∧ r.left = []) ∨ (Exact r.activeNodes s ∧ q.left = [])
  ranks : (q.assigned = 0 ∧ r.assigned = 0) ∨ Governs q r s ∨ Governs r q s

theorem Sound.symm {before : Server} (sound : Sound before x y q r s) :
    Sound before y x r q s where
  mine := sound.theirs
  theirs := sound.mine
  oneLeft := sound.oneLeft.symm
  disjoint id memR memQ := sound.disjoint id memQ memR
  activeDrift := by
    have := sound.activeDrift
    omega
  standbyDrift := by
    have := sound.standbyDrift
    omega
  latest readR readQ := (sound.latest readQ readR).symm
  ranks := by
    rcases sound.ranks with ⟨none, none'⟩ | governs | governs
    · exact .inl ⟨none', none⟩
    · exact .inr (.inr governs)
    · exact .inr (.inl governs)

theorem Exact.congr {l l' : List String} (exact_ : Exact l s) (perm : l'.Perm l)
    (same : ∀ id, s'.nodes.statusOf id = s.nodes.statusOf id) : Exact l' s' := by
  intro id
  rw [perm.mem_iff, same]
  exact exact_ id

/-- The next rank of a call whose ranks so far stay. -/
theorem governs_of_assigned {activeNodes promoted : List String} {i : Nat}
    (proper : Proper x { activeNodes, promoted, assigned := i } s) (bound : i < activeNodes.length)
    (numbered : ∀ id ∈ activeNodes.take i, s.nodes.rankOf id = activeNodes.idxOf id)
    (rival : 0 < r.assigned → r.activeNodes = activeNodes ∨ (r.Renumbered ∧ Exact activeNodes s)) :
    Governs { activeNodes, promoted, assigned := i + 1 } r
      { s with nodes := s.nodes.setRank activeNodes[i] i } where
  begun := Nat.succ_pos i
  numbered id mem := by
    have nodup : activeNodes.Nodup := (List.nodup_append.mp proper.nodup).1
    by_cases here : id = activeNodes[i]
    · rw [here, nodup.idxOf_getElem i bound]
      exact Registry.rankOf_setRank_self (proper.registered (List.getElem_mem bound)) _
    · refine (Registry.rankOf_setRank_of_ne here _).trans (numbered id ?_)
      rw [List.take_succ_eq_append_getElem bound] at mem
      exact (List.mem_append.mp mem).resolve_right fun last => here (List.mem_singleton.mp last)
  told id mem unsent := absurd mem unsent
  rival begun := (rival begun).imp_right fun ⟨renumbered, exact_⟩ =>
    ⟨renumbered, exact_.congr (.refl _) fun _ => Registry.statusOf_setRank ..⟩

include effect

theorem Governs.step (proper : Proper x q s) (governs : Governs q r s) : Governs q' r s' := by
  cases effect with
  | moved _ current spawned inFlight =>
      exact ⟨governs.begun, governs.numbered, governs.told, governs.rival⟩
  | reported known => cases governs.begun
  | read activeNodes left actives standbys nodup quiet => cases governs.begun
  | promoted activeNodes promoted rest id rank => cases governs.begun
  | counted activeNodes promoted => cases governs.begun
  | sorted activeNodes activeNodes' promoted perm => cases governs.begun
  | assigned activeNodes promoted i bound rival =>
      exact governs_of_assigned proper bound governs.numbered rival
  | sent activeNodes promoted left command rank =>
      refine ⟨governs.begun, governs.numbered, fun id mem unsent => ?_, governs.rival⟩
      rw [Server.lastRank_notify]
      by_cases here : command.nodeID = id
      · rw [if_pos here, rank, here]
      · rw [if_neg here]
        exact governs.told id mem fun waiting =>
          unsent ((List.mem_erase_of_ne (Ne.symm here)).mpr waiting)

/-- The other call goes on with the same ranks, or takes over with a more recent list. -/
theorem Governs.step_other (self : Proper x q s) (proper : Proper y r s) (governs : Governs r q s) :
    Governs q' r s' ∨ Governs r q' s' := by
  cases effect with
  | moved _ current spawned inFlight =>
      exact .inr ⟨governs.begun, governs.numbered, governs.told, governs.rival⟩
  | reported known =>
      have rank (id : String) : (s.failedOver x .active).nodes.rankOf id = s.nodes.rankOf id :=
        Registry.rankOf_setStatus id .failed
      refine .inr ⟨governs.begun, fun id mem => (rank id).trans (governs.numbered id mem),
        fun id mem unsent => ?_, nofun⟩
      rw [rank]
      exact governs.told id mem unsent
  | read activeNodes left actives standbys nodup quiet =>
      exact .inr ⟨governs.begun, governs.numbered, governs.told, nofun⟩
  | promoted activeNodes promoted rest id rank =>
      have other {j : String} (mem : j ∈ r.activeNodes) : j ≠ id := fun same =>
        proper.not_standby mem (same ▸ self.left id List.mem_cons_self)
      refine .inr ⟨governs.begun, fun j mem => ?_, fun j mem unsent => ?_, nofun⟩
      · rw [Server.rankOf_promote_of_ne (other (List.mem_of_mem_take mem))]
        exact governs.numbered j mem
      · rw [Server.rankOf_promote_of_ne (other mem)]
        exact governs.told j mem unsent
  | counted activeNodes promoted =>
      exact .inr ⟨governs.begun, governs.numbered, governs.told, nofun⟩
  | sorted activeNodes activeNodes' promoted perm =>
      exact .inr ⟨governs.begun, governs.numbered, governs.told, nofun⟩
  | assigned activeNodes promoted i bound rival =>
      -- The first rank may replace those of the other call; a later one is the same for both.
      have choice : i = 0 ∨ r.activeNodes = activeNodes := by
        rcases Nat.eq_zero_or_pos i with first | later
        · exact .inl first
        · rcases governs.rival later with same | ⟨renumbered, _⟩
          · exact .inr same.symm
          · exact absurd renumbered bound.ne
      rcases choice with rfl | same
      · exact .inl (governs_of_assigned self bound nofun rival)
      · have position : activeNodes.idxOf activeNodes[i] = i :=
          (List.nodup_append.mp self.nodup).1.idxOf_getElem i bound
        have rank (id : String) (here : s.nodes.rankOf id = activeNodes.idxOf id) :
            (s.nodes.setRank activeNodes[i] i).rankOf id = activeNodes.idxOf id := by
          by_cases here : id = activeNodes[i]
          · rw [here, position]
            exact Registry.rankOf_setRank_self (self.registered (List.getElem_mem bound)) _
          · rwa [Registry.rankOf_setRank_of_ne here]
        have numbered := governs.numbered
        rw [same] at numbered
        refine .inr ⟨governs.begun, fun id mem => ?_, fun id mem unsent => ?_,
          fun _ => .inl same.symm⟩
        · rw [same] at mem ⊢
          exact rank id (numbered id mem)
        · have renumbered : r.assigned = r.activeNodes.length := proper.unsent id mem unsent
          rw [renumbered, same, List.take_length] at numbered
          have before := numbered id (same ▸ mem)
          exact (governs.told id mem unsent).trans (congrArg some (before.trans (rank id before).symm))
  | sent activeNodes promoted left command rank =>
      refine .inr ⟨governs.begun, governs.numbered, fun id mem unsent => ?_, governs.rival⟩
      rw [Server.lastRank_notify]
      by_cases here : command.nodeID = id
      · rw [if_pos here, rank, here]
      · rw [if_neg here]
        exact governs.told id mem unsent

/-- Once both calls have read the lists, the call that read last stays exact. -/
theorem Sound.latest_step {before : Server} (sound : Sound before x y q r s)
    (readQ : q'.read) (readR : r.read) :
    (Exact q'.activeNodes s' ∧ r.left = []) ∨ (Exact r.activeNodes s' ∧ q'.left = []) := by
  cases effect with
  | moved _ current spawned inFlight => exact sound.latest readQ readR
  | reported known => cases readQ
  | read activeNodes left actives standbys nodup quiet => exact .inl ⟨actives, quiet⟩
  | promoted activeNodes promoted rest id rank =>
      rcases sound.latest rfl readR with ⟨exact_, quiet⟩ | ⟨_, done⟩
      · refine .inl ⟨fun j => ?_, quiet⟩
        rw [List.mem_append, List.mem_singleton, Server.statusOf_promote]
        by_cases here : j = id
        · rw [if_pos here, here, sound.mine.left id List.mem_cons_self]
          exact iff_of_true (.inr rfl) rfl
        · rw [if_neg here]
          exact (or_iff_left here).trans (exact_ j)
      · cases done
  | counted activeNodes promoted => exact sound.latest rfl readR
  | sorted activeNodes activeNodes' promoted perm =>
      refine (sound.latest rfl readR).imp_left fun ⟨exact_, quiet⟩ => ⟨?_, quiet⟩
      exact exact_.congr perm fun _ => rfl
  | assigned activeNodes promoted i bound rival =>
      have same (id : String) : (s.nodes.setRank activeNodes[i] i).statusOf id =
          s.nodes.statusOf id := Registry.statusOf_setRank ..
      exact (sound.latest rfl readR).imp (fun ⟨exact_, quiet⟩ => ⟨exact_.congr (.refl _) same, quiet⟩)
        fun ⟨exact_, done⟩ => ⟨exact_.congr (.refl _) same, done⟩
  | sent activeNodes promoted left command rank => exact sound.latest rfl readR

/-- The counters miss the promotions that are not counted yet. -/
theorem Sound.drift_step {before : Server} (sound : Sound before x y q r s) :
    s'.drift .active + q'.uncounted + r.uncounted = before.drift .active ∧
      s'.drift .standby = before.drift .standby + q'.uncounted + r.uncounted := by
  have active := sound.activeDrift
  have standby := sound.standbyDrift
  cases effect with
  | moved _ current spawned inFlight => exact ⟨active, standby⟩
  | reported known =>
      have kept (status : Status) : (s.failedOver x .active).drift status = s.drift status :=
        Server.drift_failedOver known (by decide) status
      rw [kept, kept]
      exact ⟨active, standby⟩
  | read activeNodes left actives standbys nodup quiet => exact ⟨active, standby⟩
  | promoted activeNodes promoted rest id rank =>
      obtain ⟨fewer, more⟩ := Server.drift_promote (sound.mine.left id List.mem_cons_self) rank
      rw [fewer, more]
      simp only [List.length_append, List.length_singleton] at active standby ⊢
      omega
  | counted activeNodes promoted =>
      simp only [Server.drift, Server.counter, Server.countPromoted] at active standby ⊢
      omega
  | sorted activeNodes activeNodes' promoted perm => exact ⟨active, standby⟩
  | assigned activeNodes promoted i bound rival =>
      have kept (status : Status) :
          Server.drift { s with nodes := s.nodes.setRank activeNodes[i] i } status =
            s.drift status := by
        have count : (s.nodes.setRank activeNodes[i] i).count status = s.nodes.count status :=
          Registry.count_congr (fun _ => Registry.statusOf_setRank ..) status
        rw [Server.drift, Server.drift, count]
        cases status <;> rfl
      rw [kept, kept]
      exact ⟨active, standby⟩
  | sent activeNodes promoted left command rank => exact ⟨active, standby⟩

/-- A node is promoted while it is a standby node, so only once. -/
theorem Sound.disjoint_step {before : Server} (sound : Sound before x y q r s) :
    ∀ id ∈ q'.promoted, id ∉ r.promoted := by
  cases effect with
  | promoted activeNodes promoted rest id rank =>
      intro j mem
      rcases List.mem_append.mp mem with old | new
      · exact sound.disjoint j old
      · rw [List.mem_singleton.mp new]
        exact fun again => sound.theirs.not_standby (sound.theirs.promoted id again)
          (sound.mine.left id List.mem_cons_self)
  | read activeNodes left actives standbys nodup quiet => exact nofun
  | reported known => exact nofun
  | moved _ current spawned inFlight => exact sound.disjoint
  | counted activeNodes promoted => exact sound.disjoint
  | sorted activeNodes activeNodes' promoted perm => exact sound.disjoint
  | assigned activeNodes promoted i bound rival => exact sound.disjoint
  | sent activeNodes promoted left command rank => exact sound.disjoint

theorem Sound.oneLeft_step {before : Server} (sound : Sound before x y q r s) :
    q'.left = [] ∨ r.left = [] := by
  cases effect with
  | read activeNodes left actives standbys nodup quiet => exact .inr quiet
  | promoted activeNodes promoted rest id rank =>
      exact .inr (sound.oneLeft.resolve_left (List.cons_ne_nil _ _))
  | reported known => exact .inl rfl
  | moved _ current spawned inFlight => exact sound.oneLeft
  | counted activeNodes promoted => exact .inl rfl
  | sorted activeNodes activeNodes' promoted perm => exact .inl rfl
  | assigned activeNodes promoted i bound rival => exact .inl rfl
  | sent activeNodes promoted left command rank => exact .inl rfl

theorem Sound.ranks_step {before : Server} (sound : Sound before x y q r s) :
    (q'.assigned = 0 ∧ r.assigned = 0) ∨ Governs q' r s' ∨ Governs r q' s' := by
  rcases sound.ranks with ⟨none, none'⟩ | governs | governs
  · cases effect with
    | assigned activeNodes promoted i bound rival =>
        have first : i = 0 := none
        subst first
        exact .inr (.inl (governs_of_assigned sound.mine bound nofun rival))
    | moved _ current spawned inFlight => exact .inl ⟨none, none'⟩
    | reported known => exact .inl ⟨rfl, none'⟩
    | read activeNodes left actives standbys nodup quiet => exact .inl ⟨rfl, none'⟩
    | promoted activeNodes promoted rest id rank => exact .inl ⟨rfl, none'⟩
    | counted activeNodes promoted => exact .inl ⟨rfl, none'⟩
    | sorted activeNodes activeNodes' promoted perm => exact .inl ⟨rfl, none'⟩
    | sent activeNodes promoted left command rank => exact .inl ⟨none, none'⟩
  · exact .inr (.inl (governs.step effect sound.mine))
  · exact .inr (governs.step_other effect sound.mine sound.theirs)

/-- **One step keeps what holds of two calls.** -/
theorem Sound.step {before : Server} (apart : x ≠ y) (sound : Sound before x y q r s) :
    Sound before x y q' r s' where
  mine := sound.mine.step effect
  theirs := Proper.step_other effect apart sound.mine sound.theirs sound.oneLeft
  oneLeft := sound.oneLeft_step effect
  disjoint := sound.disjoint_step effect
  activeDrift := (sound.drift_step effect).1
  standbyDrift := (sound.drift_step effect).2
  latest readQ readR := sound.latest_step effect readQ readR
  ranks := sound.ranks_step effect

end Steps

/-! ## Runs -/

variable {reports : Call → String} {before : Server} {c c' : Threads Call Point Server}

/-- What holds of the two calls in a run without conflicts. -/
def Coherent (reports : Call → String) (before : Server) (c : Threads Call Point Server) : Prop :=
  ∀ i : Call, Sound before (reports i) (reports i.other) (c.point i).progress
    (c.point i.other).progress c.data

theorem Coherent.step {i : Call} {choice : Choice} (apart : reports .first ≠ reports .second)
    (coherent : Coherent reports before c) (sound : ¬ Conflicts c i)
    (next : (overlap setting reports before).next c (i, choice) = some c') :
    Coherent reports before c' := by
  obtain ⟨p, s, steps, rfl⟩ := Threads.advance_of_next next
  have differ : reports i ≠ reports i.other := by
    cases i
    · exact apart
    · exact apart.symm
  have others : i.other ≠ i := by cases i <;> decide
  have after := (coherent i).step (effect_of_step steps sound) differ
  intro j
  by_cases here : j = i
  · rw [here, Threads.point_advance_self, Threads.point_advance_of_ne others]
    exact after
  · have swapped : j = i.other ∧ j.other = i := by
      cases i <;> cases j <;> first | exact absurd rfl here | exact ⟨rfl, rfl⟩
    rw [swapped.2, swapped.1, Threads.point_advance_self, Threads.point_advance_of_ne others]
    exact after.symm

/-- A call that has read, renumbered and notified all its nodes. -/
structure Progress.Done (q : Progress) : Prop where
  read : q.read
  renumbered : q.Renumbered
  sent : q.unsent = []

/-- The ranks of the active nodes are their positions in a list, and were sent to them. -/
def Settled (s : Server) : Prop :=
  ∃ l : List String, l.Nodup ∧ Exact l s ∧ (∀ id ∈ l, s.nodes.rankOf id = l.idxOf id) ∧
    ∀ id ∈ l, s.lastRank id = some (s.nodes.rankOf id)

section Done

variable {q r : Progress} {s : Server} {x y : String}

theorem settled_of_nobody (nobody : Exact [] s) : Settled s :=
  ⟨[], List.nodup_nil, nobody, nofun, nofun⟩

/-- A list without assigned ranks is empty when its call is done. -/
theorem Progress.Done.eq_nil (done : q.Done) (none : q.assigned = 0) : q.activeNodes = [] :=
  List.eq_nil_of_length_eq_zero (done.renumbered.symm.trans none)

theorem Governs.settled (governs : Governs q r s) (proper : Proper x q s) (doneQ : q.Done)
    (doneR : r.Done) (latest : Exact q.activeNodes s ∨ Exact r.activeNodes s) : Settled s := by
  have settled (exact_ : Exact q.activeNodes s) : Settled s := by
    have numbered := governs.numbered
    rw [show q.assigned = q.activeNodes.length from doneQ.renumbered, List.take_length] at numbered
    exact ⟨q.activeNodes, (List.nodup_append.mp proper.nodup).1, exact_, numbered,
      fun id mem => governs.told id mem (doneQ.sent ▸ List.not_mem_nil)⟩
  rcases latest with exact_ | exact_
  · exact settled exact_
  · rcases Nat.eq_zero_or_pos r.assigned with none | begun
    · exact settled_of_nobody (doneR.eq_nil none ▸ exact_)
    · rcases governs.rival begun with same | ⟨_, exact_⟩
      · exact settled (same ▸ exact_)
      · exact settled exact_

/-- Two calls that are done leave the ranks settled. -/
theorem Sound.settled {before : Server} (sound : Sound before x y q r s) (doneQ : q.Done)
    (doneR : r.Done) : Settled s := by
  have latest : Exact q.activeNodes s ∨ Exact r.activeNodes s :=
    (sound.latest doneQ.read doneR.read).imp And.left And.left
  rcases sound.ranks with ⟨none, none'⟩ | governs | governs
  · rcases latest with exact_ | exact_
    · exact settled_of_nobody (doneQ.eq_nil none ▸ exact_)
    · exact settled_of_nobody (doneR.eq_nil none' ▸ exact_)
  · exact governs.settled sound.mine doneQ doneR latest
  · exact governs.settled sound.theirs doneR doneQ latest.symm

end Done

/-- What the two calls leave behind when both return: consecutive ranks, the same in the registry and
in the last commands, no node promoted by both, and counters that are as far off as before. -/
structure Agree (before : Server) (c : Threads Call Point Server) : Prop where
  ranks : c.data.nodes.ConsecutiveRanks
  told : ∀ id, c.data.nodes.statusOf id = some .active →
    c.data.lastRank id = some (c.data.nodes.rankOf id)
  promotedOnce : ∀ id ∈ (c.point .first).progress.promoted,
    id ∉ (c.point .second).progress.promoted
  activeDrift : c.data.drift .active = before.drift .active
  standbyDrift : c.data.drift .standby = before.drift .standby

/-- The call returned nil. -/
def Point.Returned : Point → Prop
  | .returned _ _ => True
  | _ => False

theorem Point.Returned.done {p : Point} (returned : p.Returned) :
    p.progress.Done ∧ p.progress.uncounted = 0 := by
  cases p with
  | returned activeNodes promoted => exact ⟨⟨rfl, rfl, rfl⟩, rfl⟩
  | _ => exact returned.elim

instance : DecidablePred Point.Returned := fun p => by
  cases p <;> unfold Point.Returned <;> infer_instance

/-- **Overlapping reconfigurations agree** in every run without conflicts. -/
theorem agree_of_returned (setting : Setting) (reports : Call → String) (before : Server)
    (apart : reports .first ≠ reports .second)
    (active : ∀ i, before.nodes.statusOf (reports i) = some .active)
    {c : Threads Call Point Server}
    (run : (overlap setting reports before).Run (fun c a => ¬ Conflicts c a.1) c)
    (returned : ∀ i, (c.point i).Returned) : Agree before c := by
  have coherent : Coherent reports before c := by
    refine run.induct (fun c initial i => ?_) fun _ _ _ coherent sound next =>
      coherent.step apart sound next
    obtain ⟨data, start⟩ := initial
    have data : c.data = before := data
    rw [start, start, data]
    have proper (j : Call) : Proper (reports j) Point.report.progress before :=
      ⟨fun _ => active j, nofun, nofun, List.nodup_nil, nofun, nofun⟩
    exact ⟨proper i, proper i.other, .inl rfl, nofun, by simp [Point.progress],
      by simp [Point.progress], nofun, .inl ⟨rfl, rfl⟩⟩
  obtain ⟨doneFirst, countedFirst⟩ := (returned .first).done
  obtain ⟨doneSecond, countedSecond⟩ := (returned .second).done
  have sound : Sound before (reports .first) (reports .second) (c.point .first).progress
    (c.point .second).progress c.data := coherent .first
  obtain ⟨l, nodup, exact_, positions, told⟩ := sound.settled doneFirst doneSecond
  have activeDrift := sound.activeDrift
  have standbyDrift := sound.standbyDrift
  rw [countedFirst, countedSecond] at activeDrift standbyDrift
  exact ⟨Registry.consecutiveRanks_of_positions nodup exact_ positions,
    fun id active => told id ((exact_ id).mpr active), sound.disjoint, by omega, by omega⟩

/-! ## Two reports at once -/

/-- Three active nodes and two standby nodes. -/
def spareSetting : Setting :=
  { smallSetting with config := { smallSetting.config with expectedNodes := 5, standbyNodes := 2 } }

def spareServer : Server :=
  { Server.new spareSetting with
    current := .running
    nodes := AList.insert "a.ns.1" ⟨"http://a.ns:1", .active, 0⟩
      (AList.insert "b.ns.1" ⟨"http://b.ns:1", .active, 1⟩
        (AList.insert "c.ns.1" ⟨"http://c.ns:1", .active, 2⟩
          (AList.insert "d.ns.1" ⟨"http://d.ns:1", .standby, -1⟩
            (AList.insert "e.ns.1" ⟨"http://e.ns:1", .standby, -1⟩ ∅))))
    activeNodes := 3
    standbyNodes := 2 }

/-- The first two nodes fail. -/
def twoReports : Call → String
  | .first => "a.ns.1"
  | .second => "b.ns.1"

/-- One step of a call, which notifies a given node if it is sending. -/
def turn (next : String) (i : Call) : Call × Choice := (i, ⟨.inOrder, .inOrder, next⟩)

/-- Steps of both calls, one after the other, up to the notifications. -/
def together (steps : Nat) : List (Call × Choice) :=
  (List.replicate steps [turn "" .first, turn "" .second]).flatten

/-- The last steps of both calls, from the notifications on. -/
def notifyTogether : List (Call × Choice) :=
  (["c.ns.1", "d.ns.1", "e.ns.1"].flatMap fun id => [turn id .first, turn id .second]) ++ together 3

theorem agree_of_returned_overlapping :
    ∃ c, (overlap spareSetting twoReports spareServer).Run (fun c a => ¬ Conflicts c a.1) c ∧
      Agree spareServer c := by
  obtain ⟨c, run, holds⟩ := System.exists_run (S := overlap spareSetting twoReports spareServer)
    (C := fun c a => ¬ Conflicts c a.1) (s := ⟨spareServer, fun _ => .report⟩)
    (fun c a => ¬ Conflicts c a.1)
    (together 1 ++ List.replicate 6 (turn "" .first) ++ List.replicate 2 (turn "" .second) ++
      together 5 ++ notifyTogether)
    (fun c => (c.point .first).Returned ∧ (c.point .second).Returned)
    (fun _ _ _ sound => of_decide_eq_true sound) ⟨rfl, fun _ => rfl⟩ (by decide +kernel)
  obtain ⟨first, second⟩ := of_decide_eq_true holds
  exact ⟨c, run, agree_of_returned spareSetting twoReports spareServer (by decide)
    (fun i => by cases i <;> decide) run fun i => by cases i <;> assumption⟩

/-- Two calls that read the lists before either promotes take the same standby nodes. -/
theorem disagree_of_same_lists :
    ∃ c, (overlap spareSetting twoReports spareServer).Reachable c ∧
      (∀ i, (c.point i).Returned) ∧ ¬ Agree spareServer c := by
  obtain ⟨c, run, holds⟩ := System.exists_reachable
    (S := overlap spareSetting twoReports spareServer) (s := ⟨spareServer, fun _ => .report⟩)
    (together 12 ++ notifyTogether)
    (fun c => (c.point .first).Returned ∧ (c.point .second).Returned ∧
      "d.ns.1" ∈ (c.point .first).progress.promoted ∧
      "d.ns.1" ∈ (c.point .second).progress.promoted)
    ⟨rfl, fun _ => rfl⟩ (by decide +kernel)
  obtain ⟨first, second, byFirst, bySecond⟩ := of_decide_eq_true holds
  exact ⟨c, run, fun i => by cases i <;> assumption,
    fun agree => agree.promotedOnce _ byFirst bySecond⟩

end Reconfiguration

end C4D
