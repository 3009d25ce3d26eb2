import C4D.Failure.Protocol
import Mathlib.Order.Lattice

/-!
# The five bytes of a state

The server and the agent write and read the five bytes by hand, each with conversions
between signed and unsigned numbers, and the agent caps the delay in between. What was
written is read again (`readRunning_putState`, `readDelay_putState`), so a delay comes back
capped, and sending it again changes nothing (`roundTrip`).
-/

set_option autoImplicit false

namespace C4D

/-! ## Writing and reading -/

theorem length_putState (running : Bool) (delay : Int32) : (putState running delay).length = 5 := rfl

theorem readRunning_putState (running : Bool) (delay : Int32) :
    readRunning (putState running delay) = running := by
  cases running <;> rfl

theorem readDelay_putState (running : Bool) (delay : Int32) :
    readDelay (putState running delay) = delay := by
  have small := delay.toUInt32.toNat_lt
  have digits : delay.toUInt32.toNat / 2 ^ 24 % 2 ^ 8 * 2 ^ 24 +
      delay.toUInt32.toNat / 2 ^ 16 % 2 ^ 8 * 2 ^ 16 +
      delay.toUInt32.toNat / 2 ^ 8 % 2 ^ 8 * 2 ^ 8 + delay.toUInt32.toNat % 2 ^ 8 =
        delay.toUInt32.toNat := by omega
  rw [readDelay, putState]
  simp only [putUint32, List.drop_succ_cons, List.drop_zero, uint32, List.getD_cons_zero,
    List.getD_cons_succ, UInt8.toNat_ofNat']
  rw [digits, UInt32.ofNat_toNat, Int32.toInt32_toUInt32]

/-! ## The cap -/

/-- The delay of a state is capped. -/
theorem toInt_networkDelay (running : Bool) (delay : Int32) :
    (AgentState.setState running delay).networkDelay.toInt = min delay.toInt 1048576 := by
  have cap : (1048576 : Int32).toInt = 1048576 := by decide
  rw [AgentState.setState]
  split
  · next above =>
      rw [Int32.lt_iff_toInt_lt, cap] at above
      rw [cap, min_eq_right above.le]
  · next below =>
      rw [Int32.lt_iff_toInt_lt, cap, not_lt] at below
      rw [min_eq_left below]

theorem setState_inj {running : Bool} {delay other : Int32} :
    AgentState.setState running delay = AgentState.setState running other ↔
      (AgentState.setState running delay).networkDelay =
        (AgentState.setState running other).networkDelay := by
  simp [AgentState.setState]

/-- A capped delay is capped already. -/
theorem setState_networkDelay (running : Bool) (delay : Int32) :
    AgentState.setState running (AgentState.setState running delay).networkDelay =
      AgentState.setState running delay := by
  rw [setState_inj, ← Int32.toInt_inj]
  simp only [toInt_networkDelay, min_assoc, min_self]

/-! ## There and back -/

/-- What was written is stored as it was sent. -/
theorem setState_putState (running : Bool) (delay : Int32) :
    AgentState.setState (readRunning (putState running delay)) (readDelay (putState running delay)) =
      AgentState.setState running delay := by
  rw [readRunning_putState, readDelay_putState]

/-- **Round trip.** An update that the server sends comes back from the agent with its delay capped,
and sending what was received, or the same bytes, leaves the agent as it is. -/
theorem roundTrip (running : Bool) (delay : Int32) :
    let update := FailureServer.forward running delay
    let stored := AgentState.setState (readRunning update) (readDelay update)
    let answer := stored.getStateBinary
    let again := FailureServer.forward (readRunning answer) (readDelay answer)
    readRunning answer = running ∧ (readDelay answer).toInt = min delay.toInt (2 ^ 20) ∧
      AgentState.setState (readRunning again) (readDelay again) = stored ∧
      AgentState.setState (readRunning answer) (readDelay answer) = stored := by
  intro update stored answer again
  have first : stored = AgentState.setState running delay := setState_putState running delay
  have sent : answer = putState running (AgentState.setState running delay).networkDelay := by
    change stored.getStateBinary = _
    rw [first]
    rfl
  have back : readRunning answer = running ∧
      readDelay answer = (AgentState.setState running delay).networkDelay := by
    rw [sent]
    exact ⟨readRunning_putState .., readDelay_putState ..⟩
  have same : AgentState.setState (readRunning answer) (readDelay answer) = stored := by
    rw [back.1, back.2, first, setState_networkDelay]
  refine ⟨back.1, ?_, ?_, same⟩
  · rw [back.2]
    exact toInt_networkDelay running delay
  · exact (setState_putState ..).trans same

end C4D
