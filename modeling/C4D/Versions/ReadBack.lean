import C4D.Versions.Store

/-!
# What the version store returns

A client that was handed a version expects its value back. The store keeps it, but an
endpoint answers with it only if it is true in Python: null, false, zero and everything
empty are answered "Version not found" and "No versions found" although they are stored.

Along any history the store returns what was stored exactly if every value that is read is
true (`returnsStored_iff`). So it does along every history whose requests create such values
only (`readsTrue_of_posts`).
-/

set_option autoImplicit false

namespace C4D.VersionStore

open Foundations

variable {V : Type}

/-- The versions are 1, 2, 3, … . A version that was answered is returned by every later read, the
latest version is the one created last, and only what was not created is not found. -/
structure ReturnsStored (truthy : V → Bool) (history : List (VersionEvent V)) : Prop where
  numbered : handedOut history = List.range' 1 (handedOut history).length
  returned : ∀ before c i after data version, history = before ++ (c, (i, .go)) :: after →
    c.point i = .created data version → ∀ c' j, (c', (j, .go)) ∈ after →
      c'.point j = .getVersion version →
        (c'.point j).reply truthy c'.data = some (.found data)
  latest : ∀ before c j after data, history = before ++ (c, (j, .go)) :: after →
    c.point j = .getLatestVersion → (created before).getLast? = some data →
      (c.point j).reply truthy c.data = some (.found data)
  missing : ∀ before c j after version error, history = before ++ (c, (j, .go)) :: after →
    c.point j = .getVersion version → (c.point j).reply truthy c.data = some (.notFound error) →
      version ∉ handedOut before
  noneYet : ∀ before c j after error, history = before ++ (c, (j, .go)) :: after →
    c.point j = .getLatestVersion → (c.point j).reply truthy c.data = some (.notFound error) →
      handedOut before = []

/-- Every value that is read, of a version or the latest, was created as a true one. -/
structure ReadsTrue (truthy : V → Bool) (history : List (VersionEvent V)) : Prop where
  version : ∀ before c j after version data, history = before ++ (c, (j, .go)) :: after →
    c.point j = .getVersion version → logged (created before) version = some data →
      truthy data = true
  latest : ∀ before c j after data, history = before ++ (c, (j, .go)) :: after →
    c.point j = .getLatestVersion → (created before).getLast? = some data → truthy data = true

section Replies

variable {truthy : V → Bool} {error : String} {data : V}

theorem ofData_true (holds : truthy data = true) :
    VersionReply.ofData truthy error (some data) = .found data := if_pos holds

/-- What is not found is absent, or not true. -/
theorem ofData_notFound {found : Option V} {error' : String}
    (missing : VersionReply.ofData truthy error found = .notFound error') (data : V)
    (stored : found = some data) : truthy data = false := by
  subst stored
  cases holds : truthy data with
  | false => rfl
  | true =>
      rw [ofData_true holds] at missing
      cases missing

theorem ofData_false (fails : truthy data = false) :
    VersionReply.ofData truthy error (some data) = .notFound error := by
  rw [VersionReply.ofData, fails]
  rfl

end Replies

section History

variable {truthy : V → Bool} {history before after : List (VersionEvent V)} {c : VersionThreads V}
  {i version : Nat} {data : V}

theorem Logs.getVersion (logs : Logs history c) (version : Nat) :
    c.data.getVersion version = logged (created history) version := logs.records.lookup version

theorem Logs.getLatestVersion (logs : Logs history c) :
    c.data.getLatestVersion = (created history).getLast? := logs.records.getLatestVersion

/-- The versions handed out are the ones in the log. -/
theorem Logs.mem_handedOut_iff (logs : Logs history c) :
    version ∈ handedOut history ↔ ∃ data, logged (created history) version = some data := by
  rw [logs.numbered]
  constructor
  · exact logged_of_mem_range
  · rintro ⟨data, here⟩
    exact mem_range_of_logged here

theorem Logs.handedOut_eq_nil_iff (logs : Logs history c) :
    handedOut history = [] ↔ (created history).getLast? = none := by
  rw [List.getLast?_eq_none_iff, logs.numbered, List.range'_eq_nil_iff, List.length_eq_zero_iff]

/-- A version that was answered before a read is in the log of the read. -/
theorem logged_of_answered {between rest : List (VersionEvent V)} {c' c'' : VersionThreads V}
    {a : Nat × VersionMove V} (past : (versions truthy).History
      (before ++ (c, (i, .go)) :: between ++ (c', a) :: rest) c'')
    (answers : c.point i = .created data version) :
    logged (created (before ++ (c, (i, .go)) :: between)) version = some data := by
  rw [created, List.filterMap_append]
  exact logged_append _ ((logs_of_history past.upTo.upTo).handed i data version answers)

end History

/-- **The store returns what was stored** exactly along the histories that read true values only. -/
theorem returnsStored_iff {truthy : V → Bool} {history : List (VersionEvent V)}
    {c : VersionThreads V} (past : (versions truthy).History history c) :
    ReturnsStored truthy history ↔ ReadsTrue truthy history := by
  constructor
  · intro returns
    constructor
    · rintro before c j after version data rfl reads stored
      have logs := logs_of_history past.upTo
      by_contra fails
      refine returns.missing before c j after version "Version not found" rfl reads ?_
        (logs.mem_handedOut_iff.mpr ⟨data, stored⟩)
      rw [reads, VersionCall.reply, logs.getVersion, stored,
        ofData_false (Bool.eq_false_iff.mpr fails)]
    · rintro before c j after data rfl reads last
      have logs := logs_of_history past.upTo
      by_contra fails
      have empty := returns.noneYet before c j after "No versions found" rfl reads (by
        rw [reads, VersionCall.reply, logs.getLatestVersion, last,
          ofData_false (Bool.eq_false_iff.mpr fails)])
      cases (logs.handedOut_eq_nil_iff.mp empty).symm.trans last
  · intro readsTrue
    refine ⟨?_, ?_, ?_, ?_, ?_⟩
    · rw [(logs_of_history past).numbered, List.length_range']
    · rintro before c i after data version rfl answers c' j mem reads
      obtain ⟨between, rest, rfl⟩ := List.mem_iff_append.mp mem
      rw [← List.cons_append, ← List.append_assoc] at past
      have stored := logged_of_answered past answers
      rw [reads, VersionCall.reply, (logs_of_history past.upTo).getVersion, stored, ofData_true]
      exact readsTrue.version _ c' j rest version data (by simp) reads stored
    · rintro before c j after data rfl reads last
      rw [reads, VersionCall.reply, (logs_of_history past.upTo).getLatestVersion, last, ofData_true]
      exact readsTrue.latest before c j after data rfl reads last
    · rintro before c j after version error rfl reads missing handed
      have logs := logs_of_history past.upTo
      obtain ⟨data, stored⟩ := logs.mem_handedOut_iff.mp handed
      rw [reads, VersionCall.reply, Option.some.injEq, logs.getVersion] at missing
      have holds := readsTrue.version before c j after version data rfl reads stored
      rw [ofData_notFound missing data stored] at holds
      cases holds
    · rintro before c j after error rfl reads missing
      have logs := logs_of_history past.upTo
      rw [logs.handedOut_eq_nil_iff, Option.eq_none_iff_forall_ne_some]
      intro data last
      rw [reads, VersionCall.reply, Option.some.injEq, logs.getLatestVersion] at missing
      have holds := readsTrue.latest before c j after data rfl reads last
      rw [ofData_notFound missing data last] at holds
      cases holds

/-! ## Requests that create true values -/

/-- The value a client asks to store. -/
def VersionEvent.posted : VersionEvent V → Option V
  | (_, (_, .receive (.createVersion body))) => body
  | _ => none

/-- The values of the log, and the ones about to be created, are true. -/
structure AllTrue (truthy : V → Bool) (history : List (VersionEvent V)) (c : VersionThreads V) :
    Prop where
  created : ∀ data ∈ created history, truthy data = true
  waiting : ∀ i data, c.point i = .createVersion data → truthy data = true

section Posts

variable {truthy : V → Bool} {history : List (VersionEvent V)} {c : VersionThreads V}

/-- A thread is about to create a value because it has just been asked to. -/
theorem posted_of_step {p : VersionCall V} {s s' : MVCCNode V} {move : VersionMove V} {data : V}
    (steps : VersionCall.step truthy move p s = some (.createVersion data, s')) (i : Nat) :
    VersionEvent.posted (c, (i, move)) = some data := by
  have asks {request : VersionRequest V} (entry : request.entry = .createVersion data) :
      VersionEvent.posted (c, (i, .receive request)) = some data := by
    rcases request with (_ | body) | version | _ <;> cases entry
    rfl
  cases p <;> cases move <;> simp only [VersionCall.step, VersionCall.go, Option.some.injEq,
    Prod.mk.injEq, reduceCtorEq, false_and] at steps
  all_goals exact asks steps.1

theorem allTrue_of_posts (past : (versions truthy).History history c)
    (posts : ∀ e ∈ history, ∀ data, e.posted = some data → truthy data = true) :
    AllTrue truthy history c := by
  induction past with
  | start initial =>
      refine ⟨fun data mem => absurd mem List.not_mem_nil, fun i data here => ?_⟩
      rw [initial.2 i] at here
      cases here
  | @step history c c' a earlier next ih =>
      obtain ⟨i, move⟩ := a
      have before := ih fun e mem => posts e (List.mem_append_left _ mem)
      constructor
      · intro data mem
        rw [created_concat] at mem
        rcases List.mem_append.mp mem with mem | mem
        · exact before.created data mem
        · exact before.waiting i data (VersionEvent.point_of_value (Option.mem_toList.mp mem))
      · intro j data here
        obtain ⟨p, s, steps, rfl⟩ := Threads.advance_of_next next
        by_cases same : j = i
        · rw [same, Threads.point_advance_self] at here
          subst here
          exact posts _ (List.mem_append_right _ List.mem_cons_self) data (posted_of_step steps i)
        · rw [Threads.point_advance_of_ne same] at here
          exact before.waiting j data here

/-- **A store that is given true values only** returns them. -/
theorem readsTrue_of_posts (past : (versions truthy).History history c)
    (posts : ∀ e ∈ history, ∀ data, e.posted = some data → truthy data = true) :
    ReadsTrue truthy history := by
  constructor
  · rintro before c j after version data rfl _ stored
    have allTrue := allTrue_of_posts past.upTo fun e mem => posts e (List.mem_append_left _ mem)
    cases version with
    | zero => cases stored
    | succ n => exact allTrue.created data (List.mem_of_getElem? stored)
  · rintro before c j after data rfl _ last
    have allTrue := allTrue_of_posts past.upTo fun e mem => posts e (List.mem_append_left _ mem)
    exact allTrue.created data (List.mem_of_getLast? last)

end Posts

/-! ## A value stored and read back -/

/-- Python's test for truth. -/
def jsonTruthy : Json → Bool
  | .null => false
  | .bool b => b
  | .int n => n != 0
  | .str s => s != ""
  | .arr elements => !elements.isEmpty
  | .obj fields => !fields.isEmpty

/-- One client stores a value and is answered its version, and another one reads that version. -/
theorem exists_exchange (truthy : V → Bool) (data : V) : ∃ before c c',
    (versions truthy).History (before ++ [(c, (1, .go))]) c' ∧
      c.point 0 = .answered (.version 1) ∧ c.point 1 = .getVersion 1 ∧ created before = [data] ∧
        ∀ e ∈ before ++ [(c, (1, .go))], ∀ posted, e.posted = some posted → posted = data := by
  have start : (versions truthy).History [] ⟨.new, fun _ => .idle⟩ := .start ⟨rfl, fun _ => rfl⟩
  have asked := start.step (0, VersionMove.receive (.createVersion (some data))) rfl
  have stored := asked.step (0, VersionMove.go) rfl
  have answered := stored.step (0, VersionMove.go) rfl
  have reading := answered.step (1, VersionMove.receive (.getVersion 1)) rfl
  refine ⟨_, _, _, reading.step (1, VersionMove.go) rfl, rfl, rfl, rfl, ?_⟩
  intro e mem posted asks
  simp only [List.nil_append, List.cons_append, List.mem_cons, List.not_mem_nil, or_false] at mem
  rcases mem with rfl | rfl | rfl | rfl | rfl <;> cases asks
  rfl

/-- A stored zero is not found. -/
theorem returnsStored_not_zero : ∃ history c, (versions jsonTruthy).History history c ∧
    ¬ ReturnsStored jsonTruthy history := by
  obtain ⟨before, c, c', past, _, reads, created, _⟩ := exists_exchange jsonTruthy (.int 0)
  refine ⟨_, c', past, ?_⟩
  intro returns
  have logs := logs_of_history past.upTo
  have stored : logged (VersionStore.created before) 1 = some (.int 0) := by rw [created]; rfl
  refine returns.missing before c 1 [] 1 "Version not found" rfl reads ?_
    (logs.mem_handedOut_iff.mpr ⟨_, stored⟩)
  rw [reads, VersionCall.reply, logs.getVersion, stored]
  rfl

/-- A stored text is returned. -/
theorem returnsStored_text : ∃ history c, (versions jsonTruthy).History history c ∧
    created history = [.str "ready"] ∧ ReturnsStored jsonTruthy history := by
  obtain ⟨before, c, c', past, _, reads, created, posts⟩ := exists_exchange jsonTruthy (.str "ready")
  refine ⟨_, c', past, ?_, (returnsStored_iff past).mpr (readsTrue_of_posts past ?_)⟩
  · rw [created_concat, created, VersionEvent.value]
    simp only [reads, Option.toList_none, List.append_nil]
  · intro e mem data asks
    rw [posts e mem data asks]
    rfl

end C4D.VersionStore
