import C4D.Foundations.Histories
import C4D.Foundations.Json
import C4D.Foundations.Threads
import Mathlib.Data.List.Range

/-!
# The version store

`MVCCNode` keeps every value it is given under the next number. Its three methods are
sections under one lock, and three endpoints call them: one creates a version, one reads a
version, one reads the latest. The store tells an absent version from a stored one by its
key. The endpoints tell them apart by whether the value is true in Python.

The store is a log of the values created (`logs_of_history`): version `n` is the `n`th
of them, whatever the order of the requests.

The store does not look into a value, so values are of any type, with Python's
test for truth as a parameter.
-/

set_option autoImplicit false

namespace C4D.VersionStore

open Foundations

variable {V : Type}

/-! ## The store -/

structure MVCCNode (V : Type) where
  data : Table Nat V
  currentVersion : Nat

namespace MVCCNode

/-- `__init__` -/
def new : MVCCNode V where
  data := ∅
  currentVersion := 0

/-- `create_version` -/
def createVersion (data : V) (s : MVCCNode V) : Nat × MVCCNode V :=
  let version := s.currentVersion + 1
  (version, { data := s.data.insert version data, currentVersion := version })

/-- `get_version` -/
def getVersion (version : Nat) (s : MVCCNode V) : Option V := s.data.lookup version

/-- `get_latest_version` -/
def getLatestVersion (s : MVCCNode V) : Option V := s.data.lookup s.currentVersion

end MVCCNode

/-! ## The endpoints -/

inductive VersionRequest (V : Type) where
  /-- POST /version, with its body if that is JSON. -/
  | createVersion (body : Option V)
  /-- GET /version/{version} -/
  | getVersion (version : Nat)
  /-- GET /latest -/
  | getLatestVersion

inductive VersionReply (V : Type) where
  /-- 200, the number of the version -/
  | version (version : Nat)
  /-- 200, a value -/
  | found (data : V)
  /-- 404 -/
  | notFound (error : String)
  /-- 400: the body is not JSON. -/
  | refused

/-- `if data: … else: …`; no value is not true. -/
def VersionReply.ofData (truthy : V → Bool) (error : String) : Option V → VersionReply V
  | some data => if truthy data then .found data else .notFound error
  | none => .notFound error

/-- Where the thread of a request stands: before its method, or after it. -/
inductive VersionCall (V : Type) where
  | idle
  | createVersion (data : V)
  | getVersion (version : Nat)
  | getLatestVersion
  | created (data : V) (version : Nat)
  | fetched (version : Nat) (data : Option V)
  | fetchedLatest (data : Option V)
  | answered (reply : VersionReply V)

def VersionRequest.entry : VersionRequest V → VersionCall V
  | .createVersion (some data) => .createVersion data
  | .createVersion none => .answered .refused
  | .getVersion version => .getVersion version
  | .getLatestVersion => .getLatestVersion

inductive VersionMove (V : Type) where
  | receive (request : VersionRequest V)
  | go

namespace VersionCall

variable (truthy : V → Bool)

/-- The method of a request, or its answer. -/
def go (s : MVCCNode V) : VersionCall V → Option (VersionCall V × MVCCNode V)
  | .idle => none
  | .createVersion data =>
      let r := s.createVersion data
      some (.created data r.1, r.2)
  | .getVersion version => some (.fetched version (s.getVersion version), s)
  | .getLatestVersion => some (.fetchedLatest s.getLatestVersion, s)
  | .created _ version => some (.answered (.version version), s)
  | .fetched _ data => some (.answered (.ofData truthy "Version not found" data), s)
  | .fetchedLatest data => some (.answered (.ofData truthy "No versions found" data), s)
  | .answered _ => none

/-- A step of a thread. It receives a request when it has none. -/
def step (move : VersionMove V) (p : VersionCall V) (s : MVCCNode V) :
    Option (VersionCall V × MVCCNode V) :=
  match move, p with
  | .receive request, .idle => some (request.entry, s)
  | .receive request, .answered _ => some (request.entry, s)
  | .receive _, _ => none
  | .go, p => p.go truthy s

/-- The answer to a read, from what its method returns here. -/
def reply (s : MVCCNode V) : VersionCall V → Option (VersionReply V)
  | .getVersion version => some (.ofData truthy "Version not found" (s.getVersion version))
  | .getLatestVersion => some (.ofData truthy "No versions found" s.getLatestVersion)
  | _ => none

/-- A read is answered by what its method returns, whatever happens before the answer. -/
theorem answered_of_reply {p : VersionCall V} {s : MVCCNode V} {answer : VersionReply V}
    (replies : p.reply truthy s = some answer) :
    ∃ p', p.go truthy s = some (p', s) ∧
      ∀ s', p'.go truthy s' = some (.answered answer, s') := by
  cases p with
  | getVersion version =>
      cases replies
      exact ⟨_, rfl, fun _ => rfl⟩
  | getLatestVersion =>
      cases replies
      exact ⟨_, rfl, fun _ => rfl⟩
  | _ => cases replies

end VersionCall

/-- The threads of the store, any number of them. -/
abbrev VersionThreads (V : Type) := Threads Nat (VersionCall V) (MVCCNode V)

/-- All interleavings of requests to a new store. -/
def versions (truthy : V → Bool) : System (VersionThreads V) (Nat × VersionMove V) :=
  Threads.interleaving (fun s => s = .new) .idle fun _ => VersionCall.step truthy

/-! ## The log -/

/-- A step of a history. -/
abbrev VersionEvent (V : Type) := VersionThreads V × (Nat × VersionMove V)

/-- The value that is created in a step. -/
def VersionEvent.value (e : VersionEvent V) : Option V :=
  match e.2.2, e.1.point e.2.1 with
  | .go, .createVersion data => some data
  | _, _ => none

theorem VersionEvent.point_of_value {e : VersionEvent V} {data : V} (value : e.value = some data) :
    e.1.point e.2.1 = .createVersion data := by
  rw [VersionEvent.value] at value
  split at value
  · next here =>
      cases value
      exact here
  · cases value

/-- The values created, the first one first. -/
def created (history : List (VersionEvent V)) : List V := history.filterMap VersionEvent.value

/-- The version that is handed out in a step. -/
def VersionEvent.version (e : VersionEvent V) : Option Nat :=
  e.value.map fun data => (e.1.data.createVersion data).1

/-- The versions handed out, in the order of the methods. -/
def handedOut (history : List (VersionEvent V)) : List Nat :=
  history.filterMap VersionEvent.version

/-- The value of a version in a log. Versions are counted from one. -/
def logged (log : List V) : Nat → Option V
  | 0 => none
  | n + 1 => log[n]?

section Logged

variable {log : List V} {version : Nat} {data : V}

theorem logged_append (more : List V) (here : logged log version = some data) :
    logged (log ++ more) version = some data := by
  cases version with
  | zero => cases here
  | succ n =>
      obtain ⟨bound, _⟩ := List.getElem?_eq_some_iff.mp here
      exact (List.getElem?_append_left bound).trans here

theorem logged_concat (log : List V) (data : V) (version : Nat) :
    logged (log ++ [data]) version =
      if version = log.length + 1 then some data else logged log version := by
  cases version with
  | zero => rfl
  | succ n =>
      simp only [logged, List.getElem?_append, List.getElem?_singleton, Nat.add_right_cancel_iff]
      split
      · next bound => rw [if_neg (Nat.ne_of_lt bound)]
      · next beyond =>
          rw [List.getElem?_eq_none (Nat.le_of_not_lt beyond)]
          simp only [Nat.sub_eq_zero_iff_le]
          split
          · next le => rw [if_pos (Nat.le_antisymm le (Nat.le_of_not_lt beyond))]
          · next gt => rw [if_neg fun same => gt (Nat.le_of_eq same)]

theorem logged_length (log : List V) : logged log log.length = log.getLast? := by
  rw [List.getLast?_eq_getElem?]
  cases log with
  | nil => rfl
  | cons first rest => rfl

theorem mem_range_of_logged (here : logged log version = some data) :
    version ∈ List.range' 1 log.length := by
  cases version with
  | zero => cases here
  | succ n =>
      obtain ⟨bound, _⟩ := List.getElem?_eq_some_iff.mp here
      rw [List.mem_range'_1]
      omega

theorem logged_of_mem_range (mem : version ∈ List.range' 1 log.length) :
    ∃ data, logged log version = some data := by
  rw [List.mem_range'_1] at mem
  obtain ⟨n, rfl⟩ : ∃ n, version = n + 1 := ⟨version - 1, by omega⟩
  exact ⟨_, List.getElem?_eq_getElem (by omega)⟩

end Logged

/-- The store holds the values of a log. -/
structure Records (log : List V) (s : MVCCNode V) : Prop where
  currentVersion : s.currentVersion = log.length
  lookup : ∀ version, s.data.lookup version = logged log version

namespace Records

variable {log : List V} {s : MVCCNode V}

theorem new : Records ([] : List V) .new where
  currentVersion := rfl
  lookup version := by cases version <;> rfl

/-- **A new version is the next entry of the log.** -/
theorem createVersion (records : Records log s) (data : V) :
    (s.createVersion data).1 = log.length + 1 ∧
      Records (log ++ [data]) (s.createVersion data).2 := by
  refine ⟨congrArg Nat.succ records.currentVersion, ?_, ?_⟩
  · rw [List.length_append, MVCCNode.createVersion, records.currentVersion]
    rfl
  · intro version
    rw [logged_concat, MVCCNode.createVersion, records.currentVersion]
    split
    · next same => rw [same, AList.lookup_insert]
    · next other => rw [AList.lookup_insert_ne other, records.lookup]

theorem getLatestVersion (records : Records log s) : s.getLatestVersion = log.getLast? := by
  rw [MVCCNode.getLatestVersion, records.lookup, records.currentVersion, logged_length]

end Records

/-- What the log says of the threads: the store holds it, its versions were handed out in order,
and a thread that was handed a version will find its value there. -/
structure Logs (history : List (VersionEvent V)) (c : VersionThreads V) : Prop where
  records : Records (created history) c.data
  numbered : handedOut history = List.range' 1 (created history).length
  handed : ∀ i data version, c.point i = .created data version →
    logged (created history) version = some data

section Steps

variable {truthy : V → Bool} {history : List (VersionEvent V)} {c c' : VersionThreads V} {i : Nat}
  {move : VersionMove V}

theorem created_concat (history : List (VersionEvent V)) (e : VersionEvent V) :
    created (history ++ [e]) = created history ++ e.value.toList := by
  rw [created, List.filterMap_append]
  cases value : e.value <;> simp [created, value]

theorem handedOut_concat (history : List (VersionEvent V)) (e : VersionEvent V) :
    handedOut (history ++ [e]) = handedOut history ++ e.version.toList := by
  rw [handedOut, List.filterMap_append]
  cases version : e.version <;> simp [handedOut, version]

/-- A step of a thread, by whether it creates a version. -/
inductive Stepped (c : VersionThreads V) (i : Nat) (move : VersionMove V) :
    VersionCall V → MVCCNode V → Prop where
  | creates {data : V} (here : c.point i = .createVersion data) (goes : move = .go) :
      Stepped c i move (.created data (c.data.createVersion data).1) (c.data.createVersion data).2
  | other {p : VersionCall V} (nothing : VersionEvent.value (c, (i, move)) = none)
      (apart : ∀ data version, p ≠ .created data version) : Stepped c i move p c.data

theorem stepped_of_next (next : (versions truthy).next c (i, move) = some c') :
    ∃ p s, Stepped c i move p s ∧ c' = c.advance i p s := by
  obtain ⟨p, s, steps, same⟩ := Threads.advance_of_next next
  refine ⟨p, s, ?_, same⟩
  have apart (request : VersionRequest V) (data : V) (version : Nat) :
      request.entry ≠ .created data version := by
    intro same
    rcases request with (_ | body) | version | _ <;> cases same
  cases here : c.point i with
  | createVersion data =>
      rw [here] at steps
      cases move <;> cases steps
      exact .creates here rfl
  | _ =>
      rw [here] at steps
      cases move <;> cases steps
      all_goals
        refine .other (by simp only [VersionEvent.value, here]) fun data version same => ?_
        first
          | cases same
          | exact apart _ data version same

theorem Logs.start (initial : (versions truthy).init c) : Logs [] c where
  records := by
    rw [show c.data = .new from initial.1]
    exact .new
  numbered := rfl
  handed i data version here := by
    rw [initial.2 i] at here
    cases here

/-- **A step keeps the log.** -/
theorem Logs.next (logs : Logs history c) (next : (versions truthy).next c (i, move) = some c') :
    Logs (history ++ [(c, (i, move))]) c' := by
  obtain ⟨p, s, stepped, rfl⟩ := stepped_of_next next
  have others {data : V} {version j : Nat} (ne : j ≠ i) (more : List V)
      (here : (c.advance i p s).point j = .created data version) :
      logged (created history ++ more) version = some data := by
    rw [Threads.point_advance_of_ne ne] at here
    exact logged_append more (logs.handed j data version here)
  cases stepped with
  | @creates data here goes =>
      obtain ⟨number, records⟩ := logs.records.createVersion data
      have value : VersionEvent.value (c, (i, move)) = some data := by
        simp only [VersionEvent.value, here, goes]
      have version : VersionEvent.version (c, (i, move)) = some ((created history).length + 1) := by
        rw [VersionEvent.version, value, Option.map_some, number]
      have grown : created (history ++ [(c, (i, move))]) = created history ++ [data] := by
        rw [created_concat, value, Option.toList_some]
      refine ⟨grown ▸ records, ?_, ?_⟩
      · rw [handedOut_concat, version, Option.toList_some, logs.numbered, grown,
          List.length_append, List.length_singleton, List.range'_concat, Nat.one_mul, Nat.add_comm 1]
      · intro j value version handed
        rw [grown]
        by_cases same : j = i
        · rw [same, Threads.point_advance_self] at handed
          cases handed
          rw [number, logged_concat, if_pos rfl]
        · exact others same _ handed
  | other nothing apart =>
      have grown : created (history ++ [(c, (i, move))]) = created history := by
        rw [created_concat, nothing, Option.toList_none, List.append_nil]
      refine ⟨grown ▸ logs.records, ?_, ?_⟩
      · rw [handedOut_concat, VersionEvent.version, nothing, Option.map_none, Option.toList_none,
          List.append_nil, grown]
        exact logs.numbered
      · intro j value version handed
        by_cases same : j = i
        · rw [same, Threads.point_advance_self] at handed
          exact absurd handed (apart value version)
        · rw [← List.append_nil (created _), grown]
          exact others same [] handed

/-- **The store is a log of the values created.** -/
theorem logs_of_history (past : (versions truthy).History history c) : Logs history c := by
  induction past with
  | start initial => exact .start initial
  | step a _ next ih => exact ih.next next

end Steps

end C4D.VersionStore
