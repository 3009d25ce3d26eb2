import C4D.Server.Types

/-!
# The node registry

Reading and writing single nodes of the registry, the sets of nodes with a given
status and their sizes (`Registry.count`), and the lists a loop over the
registry collects (`Registry.listWith`).

A write to the status of one node changes the three counts by what it does to
that node; `Registry.count_of_agree_off` says it once for every write.
-/

set_option autoImplicit false

namespace C4D

open Foundations

namespace Registry

variable (nodes : Registry) (id : String)

/-! ## One node -/

/-- The status of a node, if it is registered. -/
def statusOf : Option Status := (nodes.lookup id).map NodeState.status

/-- The rank of a node. -/
def rankOf : Int := ((nodes.lookup id).map NodeState.rank).getD 0

/-- The URL of a node. -/
def urlOf : String := ((nodes.lookup id).map NodeState.nodeURL).getD ""

/-- `node.Status = status` -/
def setStatus (status : Status) : Registry :=
  Table.modify id (fun node => { node with status }) nodes

/-- `node.Rank = rank` -/
def setRank (rank : Int) : Registry :=
  Table.modify id (fun node => { node with rank }) nodes

variable {nodes id}

theorem statusOf_eq_some {status : Status} :
    nodes.statusOf id = some status ↔ ∃ node, nodes.lookup id = some node ∧ node.status = status :=
  Option.map_eq_some_iff

theorem statusOf_eq_none : nodes.statusOf id = none ↔ nodes.lookup id = none :=
  Option.map_eq_none_iff

theorem statusOf_of_lookup {node : NodeState} (found : nodes.lookup id = some node) :
    nodes.statusOf id = some node.status := by
  rw [statusOf, found, Option.map_some]

theorem mem_iff_statusOf : id ∈ nodes ↔ ∃ status, nodes.statusOf id = some status := by
  rw [← AList.lookup_isSome, Option.isSome_iff_exists]
  simp only [statusOf_eq_some]
  exact ⟨fun ⟨node, found⟩ => ⟨node.status, node, found, rfl⟩,
    fun ⟨_, node, found, _⟩ => ⟨node, found⟩⟩

theorem statusOf_setStatus (j : String) (status : Status) :
    (nodes.setStatus id status).statusOf j =
      if j = id then (nodes.statusOf j).map fun _ => status else nodes.statusOf j := by
  rw [statusOf, statusOf, setStatus, Table.lookup_modify]
  by_cases same : j = id
  · simp only [if_pos same, Option.map_map, Function.comp_def]
  · simp only [if_neg same, Option.map_id']

@[simp] theorem statusOf_setRank (j : String) (rank : Int) :
    (nodes.setRank id rank).statusOf j = nodes.statusOf j :=
  Table.map_lookup_modify NodeState.status (fun node => { node with rank }) (fun _ => rfl) j id nodes

@[simp] theorem rankOf_setStatus (j : String) (status : Status) :
    (nodes.setStatus id status).rankOf j = nodes.rankOf j :=
  congrArg (Option.getD · 0)
    (Table.map_lookup_modify _ (fun node => { node with status }) (fun _ => rfl) j id nodes)

@[simp] theorem urlOf_setStatus (j : String) (status : Status) :
    (nodes.setStatus id status).urlOf j = nodes.urlOf j :=
  congrArg (Option.getD · "")
    (Table.map_lookup_modify _ (fun node => { node with status }) (fun _ => rfl) j id nodes)

@[simp] theorem urlOf_setRank (j : String) (rank : Int) :
    (nodes.setRank id rank).urlOf j = nodes.urlOf j :=
  congrArg (Option.getD · "")
    (Table.map_lookup_modify _ (fun node => { node with rank }) (fun _ => rfl) j id nodes)

theorem rankOf_setRank_of_ne {j : String} (ne : j ≠ id) (rank : Int) :
    (nodes.setRank id rank).rankOf j = nodes.rankOf j := by
  rw [rankOf, rankOf, setRank, Table.lookup_modify_of_ne ne]

theorem rankOf_setRank_self (registered : id ∈ nodes) (rank : Int) :
    (nodes.setRank id rank).rankOf id = rank := by
  obtain ⟨node, found⟩ := Table.mem_iff_exists_lookup.mp registered
  rw [rankOf, setRank, Table.lookup_modify_self, found]
  rfl

@[simp] theorem mem_setStatus {j : String} {status : Status} :
    j ∈ nodes.setStatus id status ↔ j ∈ nodes := Table.mem_modify

@[simp] theorem mem_setRank {j : String} {rank : Int} :
    j ∈ nodes.setRank id rank ↔ j ∈ nodes := Table.mem_modify

@[simp] theorem keys_setStatus (status : Status) :
    AList.keys (nodes.setStatus id status) = AList.keys nodes := Table.keys_modify ..

@[simp] theorem keys_setRank (rank : Int) :
    AList.keys (nodes.setRank id rank) = AList.keys nodes := Table.keys_modify ..

theorem statusOf_insert (j : String) (node : NodeState) :
    statusOf (AList.insert id node nodes) j =
      if j = id then some node.status else nodes.statusOf j := by
  rw [statusOf, statusOf]
  by_cases same : j = id
  · rw [if_pos same, same, AList.lookup_insert, Option.map_some]
  · rw [if_neg same, AList.lookup_insert_ne same]

theorem urlOf_insert_self (id : String) (node : NodeState) (nodes : Registry) :
    urlOf (AList.insert id node nodes) id = node.nodeURL := by
  rw [urlOf, AList.lookup_insert, Option.map_some, Option.getD_some]

theorem urlOf_insert_of_ne {j : String} (ne : j ≠ id) (node : NodeState) :
    urlOf (AList.insert id node nodes) j = nodes.urlOf j := by
  rw [urlOf, AList.lookup_insert_ne ne, urlOf]

theorem statusOf_erase (j : String) :
    statusOf (AList.erase id nodes) j = if j = id then none else nodes.statusOf j := by
  rw [statusOf, statusOf]
  by_cases same : j = id
  · rw [if_pos same, same, AList.lookup_erase, Option.map_none]
  · rw [if_neg same, AList.lookup_erase_ne same]

/-! ## Nodes by status -/

/-- The nodes with a status. -/
def withStatus (nodes : Registry) (status : Status) : Finset String :=
  Table.keysWhere (fun node => node.status == status) nodes

/-- The number of nodes with a status. -/
def count (nodes : Registry) (status : Status) : Int := (nodes.withStatus status).card

/-- The nodes with a status, in the order a loop over the registry meets them. -/
def listWith (nodes : Registry) (order : Shuffle String) (status : Status) : List String :=
  (order.apply (AList.keys nodes)).filter fun id => nodes.statusOf id == some status

@[simp] theorem mem_withStatus {status : Status} :
    id ∈ nodes.withStatus status ↔ nodes.statusOf id = some status := by
  simp only [withStatus, Table.mem_keysWhere, statusOf_eq_some, beq_iff_eq]

@[simp] theorem mem_listWith {order : Shuffle String} {status : Status} :
    id ∈ nodes.listWith order status ↔ nodes.statusOf id = some status := by
  simp only [listWith, List.mem_filter, Shuffle.mem_apply, beq_iff_eq, and_iff_right_iff_imp]
  exact fun found => AList.mem_keys.mp (mem_iff_statusOf.mpr ⟨status, found⟩)

theorem nodup_listWith (order : Shuffle String) (status : Status) :
    (nodes.listWith order status).Nodup :=
  (order.nodup_apply (AList.keys_nodup nodes)).filter _

/-- The nodes with a status are counted by any list of them without repetitions. -/
theorem count_eq_length {status : Status} {l : List String} (nodup : l.Nodup)
    (lists : ∀ id, id ∈ l ↔ nodes.statusOf id = some status) : nodes.count status = l.length := by
  rw [count, ← List.toFinset_card_of_nodup nodup]
  congr 2
  ext id
  rw [List.mem_toFinset, mem_withStatus, lists]

theorem length_listWith (order : Shuffle String) (status : Status) :
    ((nodes.listWith order status).length : Int) = nodes.count status :=
  (count_eq_length (nodup_listWith order status) fun _ => mem_listWith).symm

variable {nodes' : Registry}

/-- A change confined to one node changes a count by what happens to that node. -/
theorem count_of_agree_off (agree : ∀ j, j ≠ id → nodes'.statusOf j = nodes.statusOf j)
    (status : Status) :
    nodes'.count status = nodes.count status
      + (if nodes'.statusOf id = some status then 1 else 0)
      - (if nodes.statusOf id = some status then 1 else 0) := by
  have off : ∀ k, k ≠ id → (k ∈ nodes'.withStatus status ↔ k ∈ nodes.withStatus status) := by
    intro k ne
    rw [mem_withStatus, mem_withStatus, agree k ne]
  simpa only [mem_withStatus, count] using card_of_agree_off off

/-- Fewer nodes with a status are not more of them. -/
theorem count_le {status : Status}
    (fewer : ∀ id, nodes'.statusOf id = some status → nodes.statusOf id = some status) :
    nodes'.count status ≤ nodes.count status :=
  Int.ofNat_le.mpr (Finset.card_le_card fun id mem =>
    mem_withStatus.mpr (fewer id (mem_withStatus.mp mem)))

theorem count_eq {status : Status}
    (same : ∀ id, nodes'.statusOf id = some status ↔ nodes.statusOf id = some status) :
    nodes'.count status = nodes.count status :=
  le_antisymm (count_le fun id => (same id).mp) (count_le fun id => (same id).mpr)

theorem count_congr (same : ∀ j, nodes'.statusOf j = nodes.statusOf j) (status : Status) :
    nodes'.count status = nodes.count status :=
  count_eq fun id => by rw [same]

theorem count_setStatus {old : Status} (found : nodes.statusOf id = some old)
    (new status : Status) :
    (nodes.setStatus id new).count status =
      nodes.count status + (if new = status then 1 else 0) - (if old = status then 1 else 0) := by
  have agree : ∀ j, j ≠ id → (nodes.setStatus id new).statusOf j = nodes.statusOf j :=
    fun j ne => by rw [statusOf_setStatus, if_neg ne]
  rw [count_of_agree_off agree status, statusOf_setStatus, if_pos rfl, found]
  simp only [Option.map_some, Option.some.injEq]

theorem count_insert (node : NodeState) (status : Status) :
    count (AList.insert id node nodes) status =
      nodes.count status + (if node.status = status then 1 else 0)
        - (if nodes.statusOf id = some status then 1 else 0) := by
  have agree : ∀ j, j ≠ id → statusOf (AList.insert id node nodes) j = nodes.statusOf j :=
    fun j ne => by rw [statusOf_insert, if_neg ne]
  rw [count_of_agree_off agree status, statusOf_insert, if_pos rfl]
  simp only [Option.some.injEq]

theorem count_erase (nodes : Registry) (id : String) (status : Status) :
    count (AList.erase id nodes) status =
      nodes.count status - (if nodes.statusOf id = some status then 1 else 0) := by
  have agree : ∀ j, j ≠ id → statusOf (AList.erase id nodes) j = nodes.statusOf j :=
    fun j ne => by rw [statusOf_erase, if_neg ne]
  rw [count_of_agree_off agree status, statusOf_erase, if_pos rfl]
  simp only [reduceCtorEq, if_false, add_zero]

end Registry

end C4D
