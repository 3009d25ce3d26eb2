import C4D.Failure.Codec
import Mathlib.Tactic.IntervalCases

/-!
# When a message arrives as it was sent

A read may return some of the five bytes, and the zeros of the array stand for the missing
ones. It may also say that the stream has ended together with the last bytes, and then it is
taken for a failure. So the agent takes up a body of five bytes exactly if its first read
does not say so, and the missing bytes are zero or only lower a delay that is capped anyway.
Every other body is refused exactly if the first read says that it has ended
(`updatesExactly_iff`). The server decodes the state of an agent exactly if the first read
does not say that the answer has ended, and the missing bytes are zero (`decodesState_iff`).
-/

set_option autoImplicit false

namespace C4D

open Foundations

/-! ## Delays as numbers -/

/-- The bits of the delay as a number. -/
def delayBits (data : List UInt8) : Nat := (uint32 (data.drop 1)).toNat

section Delays

variable {data : List UInt8}

theorem delayBits_lt (data : List UInt8) : delayBits data < 2 ^ 32 := UInt32.toNat_lt _

theorem delayBits_cons (b₀ b₁ b₂ b₃ b₄ : UInt8) : delayBits [b₀, b₁, b₂, b₃, b₄] =
    b₁.toNat * 2 ^ 24 + b₂.toNat * 2 ^ 16 + b₃.toNat * 2 ^ 8 + b₄.toNat := by
  have h₁ := b₁.toNat_lt
  have h₂ := b₂.toNat_lt
  have h₃ := b₃.toNat_lt
  have h₄ := b₄.toNat_lt
  simp only [delayBits, uint32, List.drop_succ_cons, List.drop_zero, List.getD_cons_zero,
    List.getD_cons_succ, UInt32.toNat_ofNat']
  exact Nat.mod_eq_of_lt (by omega)

/-- The delay is negative if the first bit is set. -/
theorem toInt_readDelay (data : List UInt8) : (readDelay data).toInt =
    if delayBits data < 2 ^ 31 then (delayBits data : Int) else delayBits data - 2 ^ 32 := by
  change (uint32 (data.drop 1)).toBitVec.toInt = _
  rw [BitVec.toInt_eq_toNat_cond]
  change (if 2 * delayBits data < 2 ^ 32 then (delayBits data : Int) else delayBits data - 2 ^ 32) = _
  split <;> split <;> omega

theorem readDelay_inj {other : List UInt8} :
    readDelay data = readDelay other ↔ delayBits data = delayBits other := by
  rw [← Int32.toInt_inj, toInt_readDelay, toInt_readDelay]
  have h := delayBits_lt data
  have h' := delayBits_lt other
  split <;> split <;> omega

end Delays

/-! ## What a partial read decodes -/

section Partial

variable {body : List UInt8}

/-- A body of five bytes. -/
theorem exists_bytes (five : body.length = 5) : ∃ b₀ b₁ b₂ b₃ b₄, body = [b₀, b₁, b₂, b₃, b₄] := by
  match body, five with
  | [b₀, b₁, b₂, b₃, b₄], _ => exact ⟨b₀, b₁, b₂, b₃, b₄, rfl⟩

/-- A read of it returns its first byte. -/
theorem count_pos (read : Read body 5) (five : body.length = 5) : 0 < read.count :=
  read.progress (List.ne_nil_of_length_pos (five ▸ Nat.succ_pos 4)) (Nat.succ_pos 4)

theorem readRunning_buffer (read : Read body 5) (five : body.length = 5) :
    readRunning (read.buffer 0) = readRunning body := by
  obtain ⟨b₀, b₁, b₂, b₃, b₄, rfl⟩ := exists_bytes five
  obtain ⟨k, more⟩ := Nat.exists_eq_add_of_le' (count_pos read five)
  rw [readRunning, Read.buffer, more, List.take_succ_cons]
  rfl

/-- The missing bytes of the delay are read as zeros. -/
theorem delayBits_buffer (read : Read body 5) (five : body.length = 5) :
    delayBits (read.buffer 0) =
      delayBits body / 256 ^ (5 - read.count) * 256 ^ (5 - read.count) := by
  have positive := count_pos read five
  have fits := read.fits
  obtain ⟨b₀, b₁, b₂, b₃, b₄, rfl⟩ := exists_bytes five
  have h₁ := b₁.toNat_lt
  have h₂ := b₂.toNat_lt
  have h₃ := b₃.toNat_lt
  have h₄ := b₄.toNat_lt
  rw [Read.buffer, delayBits_cons]
  generalize read.count = n at positive fits
  interval_cases n
  · change delayBits [b₀, 0, 0, 0, 0] = _
    rw [delayBits_cons, UInt8.toNat_zero]
    omega
  · change delayBits [b₀, b₁, 0, 0, 0] = _
    rw [delayBits_cons, UInt8.toNat_zero]
    omega
  · change delayBits [b₀, b₁, b₂, 0, 0] = _
    rw [delayBits_cons, UInt8.toNat_zero]
    omega
  · change delayBits [b₀, b₁, b₂, b₃, 0] = _
    rw [delayBits_cons, UInt8.toNat_zero]
    omega
  · change delayBits [b₀, b₁, b₂, b₃, b₄] = _
    rw [delayBits_cons]
    omega

/-- The bytes a read has left out are zero. -/
def MissingZero (read : Read body 5) : Prop := ∀ b ∈ body.drop read.count, b = 0

instance (read : Read body 5) : Decidable (MissingZero read) :=
  inferInstanceAs (Decidable (∀ b ∈ body.drop read.count, b = 0))

/-- A read that returns all bytes leaves none out. -/
theorem missingZero_whole (fits : body.length ≤ 5) (ended : Bool) (noticed : body = [] → ended = true) :
    MissingZero (.whole fits ended noticed) := by
  intro b mem
  rw [Read.whole, List.drop_length] at mem
  exact absurd mem List.not_mem_nil

theorem missingZero_iff (read : Read body 5) (five : body.length = 5) :
    MissingZero read ↔ delayBits (read.buffer 0) = delayBits body := by
  have positive := count_pos read five
  have fits := read.fits
  rw [delayBits_buffer read five]
  obtain ⟨b₀, b₁, b₂, b₃, b₄, rfl⟩ := exists_bytes five
  have h₁ := b₁.toNat_lt
  have h₂ := b₂.toNat_lt
  have h₃ := b₃.toNat_lt
  have h₄ := b₄.toNat_lt
  rw [MissingZero, delayBits_cons]
  generalize read.count = n at positive fits
  have zero : ∀ b : UInt8, b = 0 ↔ b.toNat = 0 := fun b => UInt8.toNat_inj.symm
  interval_cases n <;>
    simp only [List.drop_succ_cons, List.drop_zero, List.forall_mem_cons, List.not_mem_nil,
      false_imp_iff, forall_const, and_true, zero, Nat.reduceSub, Nat.reducePow, Nat.div_one,
      Nat.mul_one] <;>
    omega

end Partial

/-! ## The agent -/

/-- The delay in the bytes that were read is capped. -/
def PausesLong {body : List UInt8} (read : Read body 5) : Prop := 1048576 ≤ readDelay (read.buffer 0)

instance {body : List UInt8} (read : Read body 5) : Decidable (PausesLong read) :=
  inferInstanceAs (Decidable (_ ≤ _))

/-- A partial read decodes the same state, if no byte it has left out matters. -/
theorem setState_buffer_iff {body : List UInt8} (read : Read body 5) (five : body.length = 5) :
    AgentState.setState (readRunning (read.buffer 0)) (readDelay (read.buffer 0)) =
        AgentState.setState (readRunning body) (readDelay body) ↔
      MissingZero read ∨ PausesLong read := by
  have cap : (1048576 : Int32).toInt = 1048576 := by decide
  have positive := count_pos read five
  have fits := read.fits
  have bits := delayBits_lt body
  have same : AgentState.setState (readRunning (read.buffer 0)) (readDelay (read.buffer 0)) =
      AgentState.setState (readRunning body) (readDelay body) ↔
        min (readDelay (read.buffer 0)).toInt 1048576 = min (readDelay body).toInt 1048576 := by
    rw [readRunning_buffer read five, setState_inj, ← Int32.toInt_inj, toInt_networkDelay,
      toInt_networkDelay]
  rw [same, missingZero_iff read five, PausesLong, Int32.le_iff_toInt_le, cap, toInt_readDelay,
    toInt_readDelay, delayBits_buffer read five]
  generalize read.count = n at positive fits
  interval_cases n <;> simp only [Nat.reduceSub, Nat.reducePow] <;> split <;> split <;> omega

/-- The agent accepts a body of five bytes and takes up the state in them, and refuses every other
body with an error and stays as it is. -/
def UpdatesExactly (s : AgentState) {body : List UInt8} (read : Read body 5) : Prop :=
  let r := s.handleUpdate "POST" read
  if body.length = 5 then r = (.ok, AgentState.setState (readRunning body) (readDelay body))
  else r.1.isError = true ∧ r.2 = s

instance (s : AgentState) {body : List UInt8} (read : Read body 5) :
    Decidable (UpdatesExactly s read) := by
  unfold UpdatesExactly
  infer_instance

/-- **When the agent takes up exactly the bodies of five bytes.** -/
theorem updatesExactly_iff (s : AgentState) {body : List UInt8} (read : Read body 5) :
    UpdatesExactly s read ↔
      if body.length = 5 then read.ended = false ∧ (MissingZero read ∨ PausesLong read)
      else read.ended = true := by
  rw [UpdatesExactly, AgentState.handleUpdate, if_neg (not_not.mpr rfl)]
  by_cases five : body.length = 5
  · rw [if_pos five, if_pos five]
    cases ended : read.ended with
    | true =>
        refine iff_of_false (fun same => ?_) (fun fine => Bool.noConfusion fine.1)
        exact FailureReply.noConfusion (congrArg Prod.fst same)
    | false =>
        rw [if_neg Bool.false_ne_true, ← setState_buffer_iff read five]
        simp
  · rw [if_neg five, if_neg five]
    cases read.ended with
    | true => exact iff_of_true ⟨rfl, rfl⟩ rfl
    | false => exact iff_of_false (fun fine => Bool.noConfusion fine.1) Bool.false_ne_true

/-! ## The bytes that are sent -/

/-- An update that the server forwards takes effect exactly if it is read without loss. -/
theorem handleUpdate_forward (s : AgentState) {running : Bool} {delay : Int32}
    (read : Read (FailureServer.forward running delay) 5) :
    s.handleUpdate "POST" read = (.ok, AgentState.setState running delay) ↔
      read.ended = false ∧ (MissingZero read ∨ PausesLong read) := by
  have five : (FailureServer.forward running delay).length = 5 := length_putState running delay
  have exactly := updatesExactly_iff s read
  rw [UpdatesExactly] at exactly
  simp only [if_pos five] at exactly
  have sentRunning : readRunning (FailureServer.forward running delay) = running :=
    readRunning_putState running delay
  have sentDelay : readDelay (FailureServer.forward running delay) = delay :=
    readDelay_putState running delay
  rwa [sentRunning, sentDelay] at exactly

/-! ## The server -/

/-- The server answers with the state the agent has sent. -/
def DecodesState (server : FailureServer) (taskID : String) (sender : AgentState)
    (answer : String → Option (Read sender.getStateBinary 5)) : Prop :=
  server.handleState "GET" taskID answer = .state sender.shouldBeRunning sender.networkDelay

instance (server : FailureServer) (taskID : String) (sender : AgentState)
    (answer : String → Option (Read sender.getStateBinary 5)) :
    Decidable (DecodesState server taskID sender answer) := inferInstanceAs (Decidable (_ = _))

/-- **When the server decodes the state of an agent.** -/
theorem decodesState_iff {server : FailureServer} {taskID agentURL : String} {sender : AgentState}
    {answer : String → Option (Read sender.getStateBinary 5)} {read : Read sender.getStateBinary 5}
    (found : server.agents.lookup taskID = some agentURL)
    (answered : answer agentURL = some read) :
    DecodesState server taskID sender answer ↔ read.ended = false ∧ MissingZero read := by
  have five : sender.getStateBinary.length = 5 := length_putState _ _
  have running : readRunning (read.buffer 0) = sender.shouldBeRunning :=
    (readRunning_buffer read five).trans (readRunning_putState _ _)
  have delay : readDelay sender.getStateBinary = sender.networkDelay := readDelay_putState _ _
  rw [DecodesState, FailureServer.handleState, if_neg (not_not.mpr rfl), found]
  simp only [answered]
  cases ended : read.ended with
  | true => exact iff_of_false nofun fun fine => Bool.noConfusion fine.1
  | false =>
      rw [if_neg Bool.false_ne_true, missingZero_iff read five, ← readDelay_inj, delay, running]
      simp

/-- **Both ends of the protocol.** -/
theorem framing_iff (s : AgentState) {update : List UInt8} (first : Read update 5)
    {server : FailureServer} {taskID agentURL : String} {sender : AgentState}
    {answer : String → Option (Read sender.getStateBinary 5)} {read : Read sender.getStateBinary 5}
    (found : server.agents.lookup taskID = some agentURL)
    (answered : answer agentURL = some read) :
    (UpdatesExactly s first ↔
      if update.length = 5 then first.ended = false ∧ (MissingZero first ∨ PausesLong first)
      else first.ended = true) ∧
    (DecodesState server taskID sender answer ↔ read.ended = false ∧ MissingZero read) :=
  ⟨updatesExactly_iff s first, decodesState_iff found answered⟩

/-! ## Some reads -/

/-- A server that knows one agent. -/
def FailureServer.watching : FailureServer := ⟨AList.insert "task-1" "http://agent:8082" ∅⟩

/-- An update that is read at once. -/
def forwardedAtOnce (ended : Bool) : Read (FailureServer.forward true 500) 5 :=
  .whole (by decide) ended fun empty => absurd empty (by decide)

/-- The answer of a fresh agent, read at once. -/
def stateAtOnce (ended : Bool) : Read AgentState.new.getStateBinary 5 :=
  .whole (by decide) ended fun empty => absurd empty (by decide)

/-- All bytes are read at once, and the end of the stream by another read. -/
theorem framing_atOnce : UpdatesExactly .new (forwardedAtOnce false) ∧
    DecodesState .watching "task-1" .new fun _ => some (stateAtOnce false) := by
  have found : FailureServer.watching.agents.lookup "task-1" = some "http://agent:8082" := by decide
  obtain ⟨updates, decodes⟩ := @framing_iff .new _ (forwardedAtOnce false) .watching "task-1" _ .new
    (fun _ => some (stateAtOnce false)) _ found rfl
  have forwarded : MissingZero (forwardedAtOnce false) := missingZero_whole _ _ _
  have answered : MissingZero (stateAtOnce false) := missingZero_whole _ _ _
  refine ⟨updates.mpr ?_, decodes.mpr ⟨rfl, answered⟩⟩
  have five : (FailureServer.forward true 500).length = 5 := length_putState true 500
  rw [if_pos five]
  exact ⟨rfl, .inl forwarded⟩

/-- The first two bytes of an update arrive before the others. -/
def forwardedInTwo : Read (FailureServer.forward true 500) 5 where
  count := 2
  ended := false
  fits := by decide
  available := by decide
  progress := fun _ _ => by decide
  atEnd := nofun
  noticed := nofun

/-- A body of six bytes. -/
def tooLong : Read ([1, 0, 0, 0, 7, 7] : List UInt8) 5 where
  count := 5
  ended := false
  fits := by decide
  available := by decide
  progress := fun _ _ => by decide
  atEnd := nofun
  noticed := nofun

/-- An update is refused when the end of the stream comes with its last bytes, its delay is lost when
the bytes arrive in two parts, a longer body is accepted, and so for the state of an agent. -/
theorem framing_misread : ¬ UpdatesExactly .new (forwardedAtOnce true) ∧
    AgentState.new.handleUpdate "POST" forwardedInTwo = (.ok, ⟨true, 0⟩) ∧
    ¬ UpdatesExactly .new forwardedInTwo ∧ ¬ UpdatesExactly .new tooLong ∧
    ¬ DecodesState .watching "task-1" .new fun _ => some (stateAtOnce true) := by
  decide +kernel

end C4D
