import C4D.Foundations.Guarded
import C4D.Foundations.Histories
import C4D.Foundations.Table

/-!
# The monitored mutex

The mutexes of the server are readers-writer locks that remember who took them last. Each
acquisition writes one slot, replaces the channel on which monitors are stopped, and starts
a monitor. A monitor looks at the slot at every tick; it ends without a report if the slot
is empty. Each release empties the slot and stops a monitor that waits on the channel,
if there is one.

The slot stands for all readers at once, so a reader that releases the lock empties it for
the others. Along any history the diagnostics are right exactly if no reader
releases the lock while another one holds it (`tellsTruth_iff`).

A call is one step, and so are the ways of a monitor to and from its `select`. Acquisitions
are numbered; a number names the acquisition, its channel and its monitor. Times are in
nanoseconds.
-/

set_option autoImplicit false

namespace C4D

open Foundations

/-! ## Durations as text -/

/-- `fmtFrac`: the digits after the point without the last zeros, and what stands before it. -/
def fmtFrac : Nat → Nat → String → String × Nat
  | 0, v, digits => (if digits = "" then "" else "." ++ digits, v)
  | prec + 1, v, digits =>
      let digit := v % 10
      fmtFrac prec (v / 10) (if digits = "" ∧ digit = 0 then "" else toString digit ++ digits)

/-- A number of units with its fraction. -/
def fmtUnit (u prec : Nat) (unit : String) : String :=
  let r := fmtFrac prec u ""
  toString r.2 ++ r.1 ++ unit

/-- `Duration.String` -/
def durationString (d : Int) : String :=
  let u := d.natAbs
  let text :=
    if u = 0 then "0s"
    else if u < 10 ^ 3 then fmtUnit u 0 "ns"
    else if u < 10 ^ 6 then fmtUnit u 3 "µs"
    else if u < 10 ^ 9 then fmtUnit u 6 "ms"
    else
      let r := fmtFrac 9 u ""
      let seconds := toString (r.2 % 60) ++ r.1 ++ "s"
      let minutes := r.2 / 60
      if minutes = 0 then seconds
      else if minutes / 60 = 0 then toString minutes ++ "m" ++ seconds
      else toString (minutes / 60) ++ "h" ++ toString (minutes % 60) ++ "m" ++ seconds
  if d < 0 then "-" ++ text else text

/-! ## The mutex -/

structure LockInfo where
  time : Int
  file : String
  line : Nat
  funcName : String

/-- A frame of the call stack, with its function if that is known. -/
structure CallerFrame where
  file : String
  line : Nat
  fn : Option String

/-- `getCaller` -/
def getCaller : Option CallerFrame → String × Nat × String
  | none => ("unknown", 0, "unknown")
  | some frame => (frame.file, frame.line, frame.fn.getD "unknown")

/-- `const threshold = 1 * time.Second` -/
def threshold : Int := 10 ^ 9

/-- The mutex with the acquisitions that hold it, its slot, and the monitors that run, each
with the channel it waits on once it has come to its `select`. -/
structure MonitoredRWMutex where
  writer : Option Nat
  readers : List Nat
  lockInfo : Option LockInfo
  shouldNotifyUnlock : Bool
  doneChan : Option Nat
  monitors : Table Nat (Option Nat)
  acquisitions : Nat
  printed : List String

/-- What a monitor finds at a tick. -/
inductive Finding where
  | noInfo
  | recent
  | overdue (info : LockInfo)

namespace MonitoredRWMutex

def new : MonitoredRWMutex where
  writer := none
  readers := []
  lockInfo := none
  shouldNotifyUnlock := false
  doneChan := none
  monitors := ∅
  acquisitions := 0
  printed := []

/-- The field `mu`. -/
def mu (m : MonitoredRWMutex) : RWMutex where
  readers := m.readers.length
  writer := m.writer.isSome

/-- A monitor waits on the channel of the mutex. -/
def Waits (m : MonitoredRWMutex) (k : Nat) : Prop :=
  m.doneChan ≠ none ∧ m.monitors.lookup k = some m.doneChan

instance (m : MonitoredRWMutex) (k : Nat) : Decidable (m.Waits k) :=
  inferInstanceAs (Decidable (_ ∧ _))

/-- `select { case m.done <- struct{}{}: default: }`: one monitor that waits is stopped. -/
def signal (receiver : Option Nat) (m : MonitoredRWMutex) : Option MonitoredRWMutex :=
  match receiver with
  | some k => if m.Waits k then some { m with monitors := m.monitors.erase k } else none
  | none => if ∀ k ∈ m.monitors.keys, ¬ m.Waits k then some m else none

/-- What `Lock` and `RLock` do once they have taken `mu`. -/
def entered (now : Int) (frame : Option CallerFrame) (receiver : Option Nat)
    (m : MonitoredRWMutex) : Option MonitoredRWMutex :=
  let caller := getCaller frame
  let m := { m with shouldNotifyUnlock := false }
  (m.signal receiver).map fun m =>
    { m with
      lockInfo := some
        { time := now, file := caller.1, line := caller.2.1, funcName := caller.2.2 }
      doneChan := some m.acquisitions
      monitors := m.monitors.insert m.acquisitions none
      acquisitions := m.acquisitions + 1 }

/-- What `Unlock` and `RUnlock` do before they give `mu` back. -/
def leaving (message : String) (receiver : Option Nat) (m : MonitoredRWMutex) :
    Option MonitoredRWMutex :=
  (m.signal receiver).map fun m =>
    { m with
      lockInfo := none
      printed := if m.shouldNotifyUnlock then m.printed ++ [message] else m.printed }

/-- `Lock` -/
def lock (now : Int) (frame : Option CallerFrame) (receiver : Option Nat)
    (m : MonitoredRWMutex) : Option MonitoredRWMutex :=
  if m.mu = .free then { m with writer := some m.acquisitions }.entered now frame receiver else none

/-- `Unlock` -/
def unlock (receiver : Option Nat) (m : MonitoredRWMutex) : Option MonitoredRWMutex :=
  if m.mu.writer then (m.leaving "Unlocking" receiver).map fun m => { m with writer := none } else none

/-- `RLock` -/
def rLock (now : Int) (frame : Option CallerFrame) (receiver : Option Nat)
    (m : MonitoredRWMutex) : Option MonitoredRWMutex :=
  if m.mu.writer then none
  else { m with readers := m.acquisitions :: m.readers }.entered now frame receiver

/-- `RUnlock` of an acquisition. -/
def rUnlock (k : Nat) (receiver : Option Nat) (m : MonitoredRWMutex) : Option MonitoredRWMutex :=
  if k ∈ m.readers then
    (m.leaving "RUnlocking" receiver).map fun m => { m with readers := m.readers.erase k }
  else none

/-- `GetLockInfo` -/
def getLockInfo (now : Int) (m : MonitoredRWMutex) : String :=
  match m.lockInfo with
  | none => "Lock not held"
  | some info =>
      "Lock held for " ++ durationString (now - info.time) ++ " at " ++ info.file ++ ":" ++
        toString info.line ++ " in " ++ info.funcName

/-! ## Monitors -/

def find (now : Int) (m : MonitoredRWMutex) : Finding :=
  match m.lockInfo with
  | none => .noInfo
  | some info => if now - info.time > threshold then .overdue info else .recent

/-- A monitor comes to its `select`. -/
def select (k : Nat) (m : MonitoredRWMutex) : Option MonitoredRWMutex :=
  if m.monitors.lookup k = some none then some { m with monitors := m.monitors.insert k m.doneChan }
  else none

/-- A monitor that waits is woken by its ticker. -/
def tick (k : Nat) (now : Int) (m : MonitoredRWMutex) : Option MonitoredRWMutex :=
  match m.monitors.lookup k with
  | some (some _) =>
      match m.find now with
      | .noInfo => some { m with monitors := m.monitors.erase k }
      | .recent => some { m with monitors := m.monitors.insert k none }
      | .overdue info =>
          some { m with
            monitors := m.monitors.erase k
            shouldNotifyUnlock := true
            printed := m.printed ++
              ["Warning: Lock held for more than " ++ durationString threshold,
                "Lock acquired at " ++ info.file ++ ":" ++ toString info.line ++ " in function " ++
                  info.funcName] }
  | _ => none

end MonitoredRWMutex

/-! ## Runs -/

inductive MutexStep where
  | lock (now : Int) (frame : Option CallerFrame) (receiver : Option Nat)
  | unlock (receiver : Option Nat)
  | rLock (now : Int) (frame : Option CallerFrame) (receiver : Option Nat)
  | rUnlock (k : Nat) (receiver : Option Nat)
  | select (k : Nat)
  | tick (k : Nat) (now : Int)

/-- All sequences of calls that a readers-writer lock permits, with its monitors between them. -/
def monitoredMutex : System MonitoredRWMutex MutexStep where
  init m := m = .new
  next m
    | .lock now frame receiver => m.lock now frame receiver
    | .unlock receiver => m.unlock receiver
    | .rLock now frame receiver => m.rLock now frame receiver
    | .rUnlock k receiver => m.rUnlock k receiver
    | .select k => m.select k
    | .tick k now => m.tick k now

namespace MonitoredRWMutex

/-! ## What the steps do -/

/-- An acquisition holds the lock. -/
def Holds (m : MonitoredRWMutex) (k : Nat) : Prop := m.writer = some k ∨ k ∈ m.readers

variable {m m' : MonitoredRWMutex}

theorem mu_eq_free : m.mu = .free ↔ m.writer = none ∧ m.readers = [] := by
  rw [mu, RWMutex.free, RWMutex.mk.injEq, List.length_eq_zero_iff, Option.isSome_eq_false_iff,
    Option.isNone_iff_eq_none, and_comm]

theorem getLockInfo_eq_iff (now : Int) : m.getLockInfo now = "Lock not held" ↔ m.lockInfo = none := by
  rw [getLockInfo]
  cases m.lockInfo with
  | none => exact iff_of_true rfl rfl
  | some info =>
      refine iff_of_false ?_ (Option.some_ne_none info)
      intro same
      have start := congrArg (fun text => text.toList.take 6) same
      simp [String.toList_append] at start

/-- A signal changes the monitors only. -/
theorem signal_eq {receiver : Option Nat} (signals : m.signal receiver = some m') :
    ∃ monitors, m' = { m with monitors } := by
  cases receiver with
  | none =>
      obtain ⟨_, same⟩ := Option.ite_none_right_eq_some.mp signals
      cases same
      exact ⟨m.monitors, rfl⟩
  | some k =>
      obtain ⟨_, same⟩ := Option.ite_none_right_eq_some.mp signals
      cases same
      exact ⟨_, rfl⟩

/-- An acquisition fills the slot. -/
theorem entered_eq {now : Int} {frame : Option CallerFrame} {receiver : Option Nat}
    (enters : m.entered now frame receiver = some m') :
    m'.writer = m.writer ∧ m'.readers = m.readers ∧ m'.lockInfo ≠ none := by
  obtain ⟨_, signals, rfl⟩ := Option.map_eq_some_iff.mp enters
  obtain ⟨monitors, rfl⟩ := signal_eq signals
  exact ⟨rfl, rfl, Option.some_ne_none _⟩

/-- A release empties the slot. -/
theorem leaving_eq {message : String} {receiver : Option Nat}
    (leaves : m.leaving message receiver = some m') :
    m'.writer = m.writer ∧ m'.readers = m.readers ∧ m'.lockInfo = none := by
  obtain ⟨_, signals, rfl⟩ := Option.map_eq_some_iff.mp leaves
  obtain ⟨monitors, rfl⟩ := signal_eq signals
  exact ⟨rfl, rfl, rfl⟩

/-- What a step does to the lock and its slot. -/
inductive Moved (m m' : MonitoredRWMutex) : MutexStep → Prop where
  | locked {now : Int} {frame : Option CallerFrame} {receiver : Option Nat}
      (free : m.readers = []) (writer : m'.writer ≠ none) (readers : m'.readers = m.readers)
      (filled : m'.lockInfo ≠ none) : Moved m m' (.lock now frame receiver)
  | unlocked {receiver : Option Nat} (held : m.writer ≠ none) (writer : m'.writer = none)
      (readers : m'.readers = m.readers) (empty : m'.lockInfo = none) :
      Moved m m' (.unlock receiver)
  | rLocked {now : Int} {frame : Option CallerFrame} {receiver : Option Nat}
      (writer : m'.writer = none) (readers : m'.readers ≠ []) (filled : m'.lockInfo ≠ none) :
      Moved m m' (.rLock now frame receiver)
  | rUnlocked {k : Nat} {receiver : Option Nat} (held : k ∈ m.readers)
      (writer : m'.writer = m.writer) (readers : m'.readers = m.readers.erase k)
      (empty : m'.lockInfo = none) : Moved m m' (.rUnlock k receiver)
  | selected {k : Nat} (writer : m'.writer = m.writer) (readers : m'.readers = m.readers)
      (slot : m'.lockInfo = m.lockInfo) : Moved m m' (.select k)
  | ticked {k : Nat} {now : Int} (writer : m'.writer = m.writer) (readers : m'.readers = m.readers)
      (slot : m'.lockInfo = m.lockInfo) : Moved m m' (.tick k now)

theorem moved_of_next {step : MutexStep} (next : monitoredMutex.next m step = some m') :
    Moved m m' step := by
  cases step with
  | lock now frame receiver =>
      obtain ⟨free, enters⟩ := Option.ite_none_right_eq_some.mp next
      obtain ⟨writer, readers, filled⟩ := entered_eq enters
      refine .locked (mu_eq_free.mp free).2 ?_ readers filled
      rw [writer]
      exact Option.some_ne_none _
  | unlock receiver =>
      obtain ⟨held, goes⟩ := Option.ite_none_right_eq_some.mp next
      obtain ⟨_, leaves, rfl⟩ := Option.map_eq_some_iff.mp goes
      obtain ⟨_, readers, empty⟩ := leaving_eq leaves
      exact .unlocked (Option.isSome_iff_ne_none.mp held) rfl readers empty
  | rLock now frame receiver =>
      obtain ⟨open_, enters⟩ := Option.ite_none_left_eq_some.mp next
      obtain ⟨writer, readers, filled⟩ := entered_eq enters
      refine .rLocked (writer.trans (Option.not_isSome_iff_eq_none.mp open_)) ?_ filled
      rw [readers]
      exact List.cons_ne_nil _ _
  | rUnlock k receiver =>
      obtain ⟨held, goes⟩ := Option.ite_none_right_eq_some.mp next
      obtain ⟨_, leaves, rfl⟩ := Option.map_eq_some_iff.mp goes
      obtain ⟨writer, readers, empty⟩ := leaving_eq leaves
      exact .rUnlocked held writer (congrArg (·.erase k) readers) empty
  | select k =>
      obtain ⟨_, same⟩ := Option.ite_none_right_eq_some.mp next
      cases same
      exact .selected rfl rfl rfl
  | tick k now =>
      change m.tick k now = some m' at next
      unfold tick at next
      split at next
      · split at next <;> cases next <;> exact .ticked rfl rfl rfl
      · cases next

end MonitoredRWMutex

/-! ## When the diagnostics are right -/

open MonitoredRWMutex

/-- After every call the lock is reported as not held exactly if nobody holds it, and the monitor of
an acquisition that still holds the lock finds its information at every tick. -/
structure TellsTruth (history : List (MonitoredRWMutex × MutexStep)) : Prop where
  reported : ∀ m step m', (m, step) ∈ history → monitoredMutex.next m step = some m' →
    ∀ now, m'.getLockInfo now = "Lock not held" ↔ m'.mu = .free
  watched : ∀ m k now, (m, .tick k now) ∈ history → m.Holds k → m.find now ≠ .noInfo

/-- A reader releases the lock only if it is the last one. -/
def LastReader (m : MonitoredRWMutex) : MutexStep → Prop
  | .rUnlock k _ => m.readers = [k]
  | _ => True

/-- A writer holds the lock alone, and the slot is empty exactly if nobody holds it. -/
structure SlotTells (m : MonitoredRWMutex) : Prop where
  alone : m.writer ≠ none → m.readers = []
  slot : m.lockInfo = none ↔ m.mu = .free

theorem SlotTells.new : SlotTells .new where
  alone _ := rfl
  slot := iff_of_true rfl rfl

theorem SlotTells.same {m m' : MonitoredRWMutex} (tells : SlotTells m) (writer : m'.writer = m.writer)
    (readers : m'.readers = m.readers) (slot : m'.lockInfo = m.lockInfo) : SlotTells m' where
  alone := by
    rw [writer, readers]
    exact tells.alone
  slot := by
    rw [slot, tells.slot, mu_eq_free, mu_eq_free, writer, readers]

/-- **A step at which no reader stays behind** keeps the slot right. -/
theorem SlotTells.next {m m' : MonitoredRWMutex} {step : MutexStep} (tells : SlotTells m)
    (last : LastReader m step) (next : monitoredMutex.next m step = some m') : SlotTells m' := by
  cases moved_of_next next with
  | locked free writer readers filled =>
      refine ⟨fun _ => readers.trans free, iff_of_false filled ?_⟩
      intro free
      exact writer (mu_eq_free.mp free).1
  | unlocked held writer readers empty =>
      have alone := readers.trans (tells.alone held)
      exact ⟨fun _ => alone, iff_of_true empty (mu_eq_free.mpr ⟨writer, alone⟩)⟩
  | rLocked writer readers filled =>
      refine ⟨fun held => absurd writer held, iff_of_false filled ?_⟩
      intro free
      exact readers (mu_eq_free.mp free).2
  | @rUnlocked k receiver held writer readers empty =>
      have none_ : m'.readers = [] := by
        rw [readers, show m.readers = [k] from last, List.erase_cons_head]
      have nobody : m.writer = none := by
        by_contra busy
        rw [tells.alone busy] at held
        cases held
      exact ⟨fun _ => none_, iff_of_true empty (mu_eq_free.mpr ⟨writer.trans nobody, none_⟩)⟩
  | selected writer readers slot => exact tells.same writer readers slot
  | ticked writer readers slot => exact tells.same writer readers slot

/-- The slot is right along every run in which no reader stays behind. -/
theorem slotTells_of_run {m : MonitoredRWMutex} (run : monitoredMutex.Run LastReader m) :
    SlotTells m := by
  apply run.induct
  · intro m start
    rw [show m = .new from start]
    exact .new
  · intro m step m' tells last next
    exact tells.next last next

/-- **The diagnostics tell the truth** exactly along the histories in which no reader releases the
lock while another one holds it. -/
theorem tellsTruth_iff {history : List (MonitoredRWMutex × MutexStep)} {m : MonitoredRWMutex}
    (past : monitoredMutex.History history m) :
    TellsTruth history ↔ ∀ e ∈ history, LastReader e.1 e.2 := by
  constructor
  · rintro truth ⟨m, step⟩ mem
    obtain ⟨_, _, _, m', next⟩ := past.of_mem mem
    have reported := truth.reported m step m' mem next 0
    rw [getLockInfo_eq_iff, mu_eq_free] at reported
    cases moved_of_next next with
    | @rUnlocked k receiver held writer readers empty =>
        have left := (reported.mp empty).2
        rw [readers, List.erase_eq_nil_iff] at left
        rcases left with nobody | alone
        · rw [nobody] at held
          cases held
        · exact alone
    | locked free writer readers filled => trivial
    | unlocked held writer readers empty => trivial
    | rLocked writer readers filled => trivial
    | selected writer readers slot => trivial
    | ticked writer readers slot => trivial
  · intro last
    have tells {m : MonitoredRWMutex} {step : MutexStep} (mem : (m, step) ∈ history) :
        SlotTells m ∧ ∀ m', monitoredMutex.next m step = some m' → SlotTells m' := by
      obtain ⟨before, inside, earlier, _⟩ := past.of_mem mem
      have here := slotTells_of_run (earlier.run fun e mem => last e (inside e mem))
      exact ⟨here, fun m' next => here.next (last _ mem) next⟩
    constructor
    · intro m step m' mem next now
      rw [getLockInfo_eq_iff]
      exact ((tells mem).2 m' next).slot
    · intro m k now mem holds found
      have empty : m.lockInfo = none := by
        unfold find at found
        split at found
        · next empty => exact empty
        · split at found <;> cases found
      obtain ⟨nobody, noReader⟩ := mu_eq_free.mp ((tells mem).1.slot.mp empty)
      rcases holds with writes | reads
      · cases nobody.symm.trans writes
      · rw [noReader] at reads
        cases reads

/-- One of two readers has released the lock, and the other one is not reported. -/
theorem tellsTruth_not_two : ∃ history m, monitoredMutex.History history m ∧ m.Holds 1 ∧
    m.getLockInfo 2000000000 = "Lock not held" ∧ ¬ TellsTruth history := by
  have start : monitoredMutex.History [] .new := .start rfl
  have first := start.step (MutexStep.rLock 0 (some ⟨"registry.go", 55, "GetNode"⟩) none) rfl
  have both := first.step (MutexStep.rLock 5 (some ⟨"registry.go", 55, "GetNode"⟩) none) rfl
  refine ⟨_, _, both.step (MutexStep.rUnlock 0 none) rfl, .inr List.mem_cons_self, rfl, ?_⟩
  intro truth
  have reported := truth.reported _ (.rUnlock 0 none) _ (List.mem_append_right _ List.mem_cons_self)
    rfl 2000000000
  cases (mu_eq_free.mp (reported.mp rfl)).2

/-- A reader that is alone is reported until it releases the lock. -/
theorem tellsTruth_one : ∃ history m, monitoredMutex.History history m ∧ history.length = 4 ∧
    TellsTruth history := by
  have start : monitoredMutex.History [] .new := .start rfl
  have held := start.step (MutexStep.rLock 0 (some ⟨"registry.go", 55, "GetNode"⟩) none) rfl
  have watched := held.step (MutexStep.select 0) rfl
  have ticked := watched.step (MutexStep.tick 0 500000000) rfl
  have released := ticked.step (MutexStep.rUnlock 0 none) rfl
  refine ⟨_, _, released, rfl, (tellsTruth_iff released).mpr ?_⟩
  intro e mem
  simp only [List.nil_append, List.cons_append, List.mem_cons, List.not_mem_nil, or_false] at mem
  rcases mem with rfl | rfl | rfl | rfl
  · trivial
  · trivial
  · trivial
  · rfl

end C4D
