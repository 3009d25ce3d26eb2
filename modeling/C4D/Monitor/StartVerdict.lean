import C4D.Monitor.Entered
import C4D.Monitor.Requests

/-!
# The verdict of `Start`

`Start` registers with the server, and tries again after an error that names a
reconfiguration or a deadline. It remembers the last error and does not forget it when a
later attempt succeeds. So a monitor that is admitted by a later attempt than the first one
reports itself as failed, and this is the only case in which the verdict is wrong
(`verdictRight_iff`): the attempts themselves end with the first success or the first other
error.
-/

set_option autoImplicit false

namespace C4D

open Foundations Program

/-! ## Replies -/

/-- An error after which another attempt is made. -/
def Retryable (err : String) : Prop :=
  Mentions err "context deadline exceeded" ∨ Mentions err "Reconfiguring"

instance (err : String) : Decidable (Retryable err) := inferInstanceAs (Decidable (_ ∨ _))

/-- The reply is such an error. -/
def TriesAgain (reply : Option String) : Prop := ∃ err, reply = some err ∧ Retryable err

/-- A success comes before any error that is not retried, within the attempts that are left. -/
def Admitted (left : Nat) (replies : Nat → Option String) : Prop :=
  ∃ k < left, replies k = none ∧ ∀ j < k, TriesAgain (replies j)

section Replies

variable {left : Nat} {replies : Nat → Option String}

theorem not_admitted_zero : ¬ Admitted 0 replies := fun ⟨k, within, _⟩ => Nat.not_lt_zero k within

theorem admitted_of_success (success : replies 0 = none) : Admitted (left + 1) replies :=
  ⟨0, Nat.succ_pos left, success, fun _ before => absurd before (Nat.not_lt_zero _)⟩

/-- After an error that is retried, the later replies decide. -/
theorem admitted_of_retry (again : TriesAgain (replies 0)) :
    Admitted (left + 1) replies ↔ Admitted left fun n => replies (n + 1) := by
  constructor
  · rintro ⟨_ | k, within, success, before⟩
    · obtain ⟨err, failed, _⟩ := again
      cases success.symm.trans failed
    · exact ⟨k, Nat.lt_of_succ_lt_succ within, success, fun j earlier => before _ (Nat.succ_lt_succ earlier)⟩
  · rintro ⟨k, within, success, before⟩
    refine ⟨k + 1, Nat.succ_lt_succ within, success, ?_⟩
    intro j earlier
    cases j with
    | zero => exact again
    | succ j => exact before j (Nat.lt_of_succ_lt_succ earlier)

/-- An error that is not retried is final. -/
theorem not_admitted_of_error {err : String} (failed : replies 0 = some err) (fatal : ¬ Retryable err) :
    ¬ Admitted left replies := by
  rintro ⟨_ | k, _, success, before⟩
  · cases success.symm.trans failed
  · obtain ⟨other, same, retryable⟩ := before 0 (Nat.succ_pos k)
    cases same.symm.trans failed
    exact fatal retryable

end Replies

/-- The reply to an attempt to register. -/
def registerReply : MonitorEvent → Option (Option String)
  | ⟨.register _, reply⟩ => some reply
  | _ => none

/-- The replies to the attempts that were made. -/
def attempts (t : MonitorTrace) : List (Option String) := t.filterMap registerReply

/-- The attempts are made in turn, and only after errors that are retried. -/
structure Ordered (left : Nat) (replies : Nat → Option String) (made : List (Option String)) :
    Prop where
  inTurn : made <+: (List.range left).map replies
  retried : ∀ reply ∈ made.dropLast, TriesAgain reply

theorem Ordered.cons {left : Nat} {replies : Nat → Option String} {made : List (Option String)}
    (ordered : Ordered left (fun n => replies (n + 1)) made) (again : TriesAgain (replies 0)) :
    Ordered (left + 1) replies (replies 0 :: made) := by
  refine ⟨?_, ?_⟩
  · rw [List.range_succ_eq_map, List.map_cons, List.map_map]
    exact (List.prefix_cons_inj _).mpr ordered.inTurn
  · intro reply mem
    cases made with
    | nil => cases mem
    | cons next rest =>
        rw [List.dropLast_cons_cons, List.mem_cons] at mem
        rcases mem with rfl | mem
        · exact again
        · exact ordered.retried reply mem

theorem ordered_single (left : Nat) (replies : Nat → Option String) :
    Ordered (left + 1) replies [replies 0] := by
  refine ⟨?_, fun reply mem => absurd mem List.not_mem_nil⟩
  rw [List.range_succ_eq_map, List.map_cons]
  exact (List.prefix_cons_inj _).mpr List.nil_prefix

/-! ## The attempts -/

namespace Monitor

section Attempts

variable {α : Type} {m : Monitor} {req : RegisterRequest} {choices : Nat → Outcome}

/-- What an attempt leads to. -/
theorem run_register (next : Option String → MonitorProgram α) :
    (perform (MonitorOp.register req) next).run Monitor.act choices m =
      (next (choices 0).rpcError).run Monitor.act (fun n => choices (n + 1)) m := rfl

theorem trace_getState (next : State → MonitorProgram α) :
    (perform MonitorOp.getState next).trace Monitor.act choices m =
      ⟨.getState, m.state⟩ :: (next m.state).trace Monitor.act (fun n => choices (n + 1)) m := rfl

theorem attempts_register (next : Option String → MonitorProgram α) :
    attempts ((perform (MonitorOp.register req) next).trace Monitor.act choices m) =
      (choices 0).rpcError ::
        attempts ((next (choices 0).rpcError).trace Monitor.act (fun n => choices (n + 1)) m) := rfl

/-- How the attempts end. The error that is reported with a success is the last one before it. -/
structure AttemptsEnd (left : Nat) (replies : Nat → Option String) (lastErr : Option String)
    (m : Monitor) (ended : Ended (Except String (Option String)) Monitor Outcome) : Prop where
  same : ended.state = m
  admitted : Admitted left replies → ∃ e, ended.value = .ok e ∧ (replies 0 = none → e = lastErr) ∧
    (lastErr ≠ none ∨ replies 0 ≠ none → e ≠ none)
  refused : ¬ Admitted left replies → (∃ err, ended.value = .error err) ∨
    ∃ e, ended.value = .ok e ∧ (lastErr ≠ none ∨ 0 < left → e ≠ none)

/-- The replies of the server from an operation on. -/
def registerReplies (choices : Nat → Outcome) (k : Nat) : Nat → Option String :=
  fun n => (choices (n + k)).rpcError

/-- **The attempts** leave the monitor alone. -/
theorem attemptsEnd_registerAttempts (req : RegisterRequest) (left : Nat)
    (lastErr : Option String) (choices : Nat → Outcome) (m : Monitor) :
    AttemptsEnd left (registerReplies choices 0) lastErr m
      ((registerAttempts req left lastErr).run Monitor.act choices m) := by
  induction left generalizing lastErr choices with
  | zero =>
      refine ⟨rfl, fun admitted => absurd admitted not_admitted_zero, fun _ => ?_⟩
      exact .inr ⟨lastErr, rfl, fun known => known.resolve_right (Nat.not_lt_zero 0)⟩
  | succ left ih =>
      simp only [registerAttempts, register, op_bind, run_register]
      have first : registerReplies choices 0 0 = (choices 0).rpcError := rfl
      cases reply : (choices 0).rpcError with
      | none =>
          rw [reply] at first
          refine ⟨rfl, fun _ => ⟨lastErr, rfl, fun _ => rfl, fun known => ?_⟩, fun refused => ?_⟩
          · exact known.resolve_right (not_not.mpr first)
          · exact absurd (admitted_of_success first) refused
      | some err =>
          rw [reply] at first
          by_cases retryable : Retryable err
          · have again : TriesAgain (registerReplies choices 0 0) := ⟨err, first, retryable⟩
            have ends := ih (some err) fun n => choices (n + 1)
            change AttemptsEnd left (fun n => registerReplies choices 0 (n + 1)) _ m _ at ends
            change AttemptsEnd _ _ _ _ (Program.run _ (if Retryable err then _ else _) _ _)
            rw [if_pos retryable]
            refine ⟨ends.same, fun admitted => ?_, fun refused => ?_⟩
            · obtain ⟨e, value, _, known⟩ := ends.admitted ((admitted_of_retry again).mp admitted)
              have known : e ≠ none := known (.inl (Option.some_ne_none err))
              refine ⟨e, value, fun success => ?_, fun _ => known⟩
              cases success.symm.trans first
            · have later := ends.refused fun admitted => refused ((admitted_of_retry again).mpr admitted)
              refine later.imp id ?_
              rintro ⟨e, value, known⟩
              exact ⟨e, value, fun _ => known (.inl (Option.some_ne_none err))⟩
          · change AttemptsEnd _ _ _ _ (Program.run _ (if Retryable err then _ else _) _ _)
            rw [if_neg retryable]
            refine ⟨rfl, fun admitted => ?_, fun _ => .inl ⟨err, rfl⟩⟩
            exact absurd admitted (not_admitted_of_error first retryable)

/-- **No attempt is made after a success or an error that is not retried.** -/
theorem ordered_registerAttempts (req : RegisterRequest) (left : Nat)
    (lastErr : Option String) (choices : Nat → Outcome) (m : Monitor) :
    Ordered left (registerReplies choices 0)
      (attempts ((registerAttempts req left lastErr).trace Monitor.act choices m)) := by
  induction left generalizing lastErr choices with
  | zero => exact ⟨List.prefix_rfl, fun reply mem => absurd mem List.not_mem_nil⟩
  | succ left ih =>
      simp only [registerAttempts, register, op_bind, attempts_register]
      have single := ordered_single left (registerReplies choices 0)
      cases reply : (choices 0).rpcError with
      | none =>
          rw [show registerReplies choices 0 0 = none from reply] at single
          exact single
      | some err =>
          have first : registerReplies choices 0 0 = some err := reply
          change Ordered _ _ (some err :: attempts
            (Program.trace _ (if Retryable err then _ else _) _ _))
          split
          · next retryable =>
              have later : Ordered left (fun n => registerReplies choices 0 (n + 1)) _ :=
                ih (some err) fun n => choices (n + 1)
              have made := later.cons ⟨err, first, retryable⟩
              rw [first] at made
              exact made
          · rw [first] at single
            exact single

end Attempts

/-! ## `Start` -/

/-- `Start` is right about the registration. It succeeds, without a failure notification and in
`Standby`, exactly if a success comes before any error that is not retried, and returns an error
otherwise; and no attempt follows a success or such an error. -/
structure VerdictRight (getenv : String → String) (choices : Nat → Outcome) (m : Monitor) : Prop where
  succeeds : ((start getenv).run Monitor.act choices m).value = .ok () ∧
      ((start getenv).run Monitor.act choices m).state.state = .standby ∧
      ((start getenv).run Monitor.act choices m).state.failures = m.failures ↔
    Admitted maxRetries (registerReplies choices 2)
  fails : ¬ Admitted maxRetries (registerReplies choices 2) →
    ((start getenv).run Monitor.act choices m).value.isOk = false
  ordered : Ordered maxRetries (registerReplies choices 2)
    (attempts ((start getenv).trace Monitor.act choices m))

section Start

variable {getenv : String → String} {choices : Nat → Outcome} {m : Monitor}

/-- The registration request of a monitor. -/
def registration (getenv : String → String) (m : Monitor) : RegisterRequest :=
  ⟨m.nodeID, m.nodeURL, getenv "MASTER_ADDR", getenv "MASTER_PORT"⟩

/-- What `Start` does with the result of the attempts. -/
def concludes : Except String (Option String) → MonitorProgram (Except StartError Unit)
  | .error err => .done (.error (.refused err))
  | .ok (some lastErr) => setState .failed >>= fun _ => .done (.error (.notRegistered lastErr))
  | .ok none => setState .standby >>= fun _ => .done (.ok ())

/-- `Start` makes the attempts in `Initializing`, and concludes them. -/
theorem start_eq : start getenv = .perform .getState fun currentState =>
    if currentState ≠ .initializing then .done (.error .invalidState)
    else .perform .fields fun m =>
      registerAttempts (registration getenv m) maxRetries none >>= concludes := by
  rw [start]
  simp only [getState, fields, op_bind, pure_eq]
  rfl

theorem run_start (getenv : String → String) (choices : Nat → Outcome)
    (initializing : m.state = .initializing) :
    (start getenv).run Monitor.act choices m =
      (registerAttempts (registration getenv m) maxRetries none >>= concludes).run Monitor.act
        (fun n => choices (n + 2)) m := by
  rw [start_eq, run_getState, if_neg (not_not.mpr initializing)]
  rfl

theorem attempts_concludes (r : Except String (Option String)) (choices : Nat → Outcome) (m : Monitor) :
    attempts ((concludes r).trace Monitor.act choices m) = [] := by
  rcases r with err | _ | lastErr <;> rfl

theorem attempts_start (initializing : m.state = .initializing) :
    attempts ((start getenv).trace Monitor.act choices m) =
      attempts ((registerAttempts (registration getenv m) maxRetries none).trace Monitor.act
        (fun n => choices (n + 2)) m) := by
  have first : (start getenv).trace Monitor.act choices m = ⟨.getState, m.state⟩ :: ⟨.fields, m⟩ ::
      (registerAttempts (registration getenv m) maxRetries none >>= concludes).trace Monitor.act
        (fun n => choices (n + 2)) m := by
    rw [start_eq, trace_getState, if_neg (not_not.mpr initializing)]
    rfl
  rw [first, trace_bind]
  simp only [attempts, List.filterMap_cons, List.filterMap_append, registerReply]
  have concluded := attempts_concludes
  simp only [attempts] at concluded
  rw [concluded, List.append_nil]

/-- **When `Start` is right.** A registration that is admitted is admitted by the first attempt. -/
theorem verdictRight_iff (initializing : m.state = .initializing) :
    VerdictRight getenv choices m ↔
      (Admitted maxRetries (registerReplies choices 2) → registerReplies choices 2 0 = none) := by
  have ends := attemptsEnd_registerAttempts (registration getenv m) maxRetries none
    (fun n => choices (n + 2)) m
  have ordered := ordered_registerAttempts (registration getenv m) maxRetries none
    (fun n => choices (n + 2)) m
  rw [← attempts_start initializing] at ordered
  have run := run_start getenv choices initializing
  rw [run_bind] at run
  change AttemptsEnd maxRetries (registerReplies choices 2) none m _ at ends
  change Ordered maxRetries (registerReplies choices 2) _ at ordered
  constructor
  · intro right admitted
    have known := right.succeeds.mpr admitted
    obtain ⟨e, value, _, later⟩ := ends.admitted admitted
    rw [run, value] at known
    by_contra failed
    obtain ⟨err, rfl⟩ := Option.ne_none_iff_exists'.mp (later (.inr failed))
    cases known.1
  · intro first
    by_cases admitted : Admitted maxRetries (registerReplies choices 2)
    · obtain ⟨e, value, kept, _⟩ := ends.admitted admitted
      obtain rfl := kept (first admitted)
      have succeeds : ((start getenv).run Monitor.act choices m).value = .ok () ∧
          ((start getenv).run Monitor.act choices m).state.state = .standby ∧
          ((start getenv).run Monitor.act choices m).state.failures = m.failures := by
        rw [run, value, ends.same]
        exact ⟨rfl, state_enter .standby, failures_enter nofun⟩
      exact ⟨iff_of_true succeeds admitted, fun refused => absurd admitted refused, ordered⟩
    · have fails : ((start getenv).run Monitor.act choices m).value.isOk = false := by
        rw [run]
        rcases ends.refused admitted with ⟨err, value⟩ | ⟨e, value, known⟩
        · rw [value]
          rfl
        · obtain ⟨err, rfl⟩ := Option.ne_none_iff_exists'.mp (known (.inr (by decide)))
          rw [value]
          rfl
      refine ⟨iff_of_false ?_ admitted, fun _ => fails, ordered⟩
      rintro ⟨value, _⟩
      rw [value] at fails
      cases fails

/-- The server admits the monitor with an attempt. -/
def admittedBy (attempt : Nat) (n : Nat) : Outcome where
  rpcError := if n < attempt + 2 then
    some "rpc error: code = Unavailable desc = server not accepting registrations in Reconfiguring state"
    else none

/-- The first attempt succeeds. -/
theorem verdictRight_first :
    VerdictRight (fun _ => "") (admittedBy 0) (Monitor.new "a.ns.1" "http://a.ns:1" 0 3) :=
  (verdictRight_iff rfl).mpr fun _ => rfl

/-- The server reconfigures during the first attempt and admits the monitor with the second one. The
monitor reports itself as failed. -/
theorem verdict_wrong :
    let m := Monitor.new "a.ns.1" "http://a.ns:1" 0 3
    let ended := (start fun _ => "").run Monitor.act (admittedBy 1) m
    Admitted maxRetries (registerReplies (admittedBy 1) 2) ∧ ended.value.isOk = false ∧
      ended.state.state = .failed ∧ ended.state.failures = 1 ∧
      ¬ VerdictRight (fun _ => "") (admittedBy 1) m := by
  intro m ended
  have admitted : Admitted maxRetries (registerReplies (admittedBy 1) 2) := by
    refine ⟨1, by decide, rfl, ?_⟩
    intro j before
    obtain rfl : j = 0 := Nat.lt_one_iff.mp before
    exact ⟨_, rfl, by decide +kernel⟩
  have ends : (ended.value.isOk, ended.state.state, ended.state.failures) =
      (false, .failed, 1) := by decide +kernel
  simp only [Prod.mk.injEq] at ends
  obtain ⟨fails, failed, reported⟩ := ends
  refine ⟨admitted, fails, failed, reported, ?_⟩
  intro right
  rw [(right.succeeds.mpr admitted).1] at fails
  cases fails

end Start

end Monitor

end C4D
