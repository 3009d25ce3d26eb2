import C4D.Foundations.Program

/-!
# Tasks on one cooperative worker

A worker runs its tasks on one thread. The running task keeps the thread until it
ends or is suspended at an await. It waits with the thread for a mutex that is
taken, so the worker is frozen if a suspended task holds that mutex (`Frozen`).

Whatever the tasks are, a worker never freezes if no task is taken up while another
one holds a mutex (`not_frozen_of_run`). There is no other way around it for tasks
that do everything but await under one main mutex (`Orderly`): to take up one
of them while another holds a mutex freezes the worker at once
(`frozen_of_interferes`).
-/

set_option autoImplicit false

namespace C4D.Foundations

open Program

/-- The operations of a task: mutexes, awaits, and operations of its own. -/
inductive WorkerOp (L Q : Type) where
  | lock (l : L)
  | unlock (l : L)
  | await
  | call (q : Q)

variable {L Q σ ε τ : Type} {A : Q → Type}

/-- What the operations answer. -/
abbrev WorkerOp.Answer (A : Q → Type) : WorkerOp L Q → Type
  | .lock _ => Unit
  | .unlock _ => Unit
  | .await => Unit
  | .call q => A q

/-- A program of a worker. -/
abbrev WorkerProgram (L : Type) (A : Q → Type) (α : Type) :=
  Program (WorkerOp L Q) (WorkerOp.Answer A) α

/-- A task that runs alone finds every mutex free and every await over. -/
def Interface.alone (I : Interface Q A σ ε) :
    Interface (WorkerOp L Q) (WorkerOp.Answer A) σ ε
  | .lock _, _, s => ((), s)
  | .unlock _, _, s => ((), s)
  | .await, _, s => ((), s)
  | .call q, e, s => I q e s

/-- The tasks of a worker with their points, the task that runs, and who holds which mutex. -/
structure Worker (L Q : Type) (A : Q → Type) (σ : Type) where
  data : σ
  holder : L → Option Nat
  running : Option Nat
  point : Nat → WorkerProgram L A Unit

/-- What happens next on a worker: a task arrives, a task that is new or whose await is over is
taken up, the running task goes on, or it is suspended at an await. -/
inductive WorkerMove (τ ε : Type) where
  | arrive (i : Nat) (task : τ)
  | resume (i : Nat)
  | go (choice : ε)
  | suspend

namespace Worker

/-- A task stands at a point. -/
def place (c : Worker L Q A σ) (i : Nat) (p : WorkerProgram L A Unit) : Worker L Q A σ :=
  { c with point := Function.update c.point i p }

/-- The running task has come to a point. It gives the thread back when it has ended. -/
def reach (c : Worker L Q A σ) (i : Nat) (p : WorkerProgram L A Unit) : Worker L Q A σ :=
  { c.place i p with
    running := match p with
      | .done _ => none
      | .perform _ _ => some i }

/-- A mutex is taken by a task, or given back. -/
def setHolder [DecidableEq L] (c : Worker L Q A σ) (l : L) (holder : Option Nat) :
    Worker L Q A σ :=
  { c with holder := Function.update c.holder l holder }

/-- A task is taken up, at the beginning or after its await. -/
def resume (c : Worker L Q A σ) (i : Nat) : Option (Worker L Q A σ) :=
  match c.running with
  | some _ => none
  | none =>
      match c.point i with
      | .done _ => none
      | .perform .await next => some (c.reach i (next ()))
      | .perform (.lock _) _ => some { c with running := some i }
      | .perform (.unlock _) _ => some { c with running := some i }
      | .perform (.call _) _ => some { c with running := some i }

/-- The next operation of a task that runs. It has to wait for a mutex that is taken. -/
def go [DecidableEq L] (I : Interface Q A σ ε) (e : ε) (c : Worker L Q A σ) (i : Nat) :
    Option (Worker L Q A σ) :=
  match c.point i with
  | .done _ => none
  | .perform (.lock l) next =>
      if c.holder l = none then some ((c.setHolder l (some i)).reach i (next ())) else none
  | .perform (.unlock l) next => some ((c.setHolder l none).reach i (next ()))
  | .perform .await next => some (c.reach i (next ()))
  | .perform (.call q) next =>
      some ({ c with data := (I q e c.data).2 }.reach i (next (I q e c.data).1))

/-- A task that runs is suspended at its await. -/
def suspend (c : Worker L Q A σ) (i : Nat) : Option (Worker L Q A σ) :=
  match c.point i with
  | .perform .await _ => some { c with running := none }
  | _ => none

/-- A new task takes the place of one that has ended. -/
def arrive (c : Worker L Q A σ) (i : Nat) (p : WorkerProgram L A Unit) :
    Option (Worker L Q A σ) :=
  match c.point i with
  | .done _ => some (c.place i p)
  | .perform _ _ => none

/-- All the ways in which tasks can run on one worker. -/
def system [DecidableEq L] (I : Interface Q A σ ε) (program : τ → WorkerProgram L A Unit)
    (init : σ → Prop) : System (Worker L Q A σ) (WorkerMove τ ε) where
  init c := init c.data ∧ (∀ l, c.holder l = none) ∧ c.running = none ∧ ∀ i, c.point i = .done ()
  next c
    | .arrive i task => c.arrive i (program task)
    | .resume i => c.resume i
    | .go e => c.running.bind (c.go I e)
    | .suspend => c.running.bind c.suspend

/-- The running task waits for a mutex that a task suspended at an await holds. -/
def Frozen (c : Worker L Q A σ) : Prop :=
  ∃ i l next j rest, c.running = some i ∧ c.point i = .perform (.lock l) next ∧
    c.holder l = some j ∧ j ≠ i ∧ c.point j = .perform .await rest

/-- A task is taken up while another one holds a mutex. -/
def Interferes (c : Worker L Q A σ) : WorkerMove τ ε → Prop
  | .resume i => ∃ l j, c.holder l = some j ∧ j ≠ i
  | .arrive _ _ => False
  | .go _ => False
  | .suspend => False

/-- One task runs and waits for a mutex of another one that is suspended. -/
def waitsFor (c : Worker L Q A σ) (i j : Nat) : Bool :=
  c.running == some i &&
    (match c.point i with
      | .perform (.lock l) _ => c.holder l == some j
      | _ => false) &&
    (match c.point j with
      | .perform .await _ => true
      | _ => false)

theorem frozen_of_waitsFor {c : Worker L Q A σ} {i j : Nat} (ne : j ≠ i)
    (waits : c.waitsFor i j = true) : c.Frozen := by
  simp only [waitsFor, Bool.and_eq_true, beq_iff_eq] at waits
  obtain ⟨⟨runs, atLock⟩, atAwait⟩ := waits
  split at atLock
  · next l next here =>
      split at atAwait
      · next rest there => exact ⟨i, l, next, j, rest, runs, here, eq_of_beq atLock, ne, there⟩
      · cases atAwait
  · cases atLock

section Basic

variable {c : Worker L Q A σ} {i : Nat} {p : WorkerProgram L A Unit}

theorem holder_setHolder [DecidableEq L] (l k : L) (holder : Option Nat) :
    (c.setHolder l holder).holder k = if k = l then holder else c.holder k :=
  Function.update_apply ..

theorem point_place_self : (c.place i p).point i = p := Function.update_self ..

theorem point_place_of_ne {j : Nat} (ne : j ≠ i) : (c.place i p).point j = c.point j :=
  Function.update_of_ne ne ..

@[simp] theorem point_reach_self : (c.reach i p).point i = p := Function.update_self ..

theorem point_reach_of_ne {j : Nat} (ne : j ≠ i) : (c.reach i p).point j = c.point j :=
  Function.update_of_ne ne ..

/-- After a task has come to a point, no other task runs. -/
theorem running_reach {j : Nat} (runs : (c.reach i p).running = some j) : j = i := by
  cases p with
  | done a => cases runs
  | perform q next =>
      cases runs
      rfl

end Basic

/-! ## What a move does -/

/-- Everything a move can do. -/
inductive Moved [DecidableEq L] (I : Interface Q A σ ε) (program : τ → WorkerProgram L A Unit)
    (c : Worker L Q A σ) : WorkerMove τ ε → Worker L Q A σ → Prop where
  | arrived (i : Nat) (task : τ) (ended : c.point i = .done ()) :
      Moved I program c (.arrive i task) (c.place i (program task))
  | began (i : Nat) {q : WorkerOp L Q} {next : WorkerOp.Answer A q → WorkerProgram L A Unit}
      (idle : c.running = none) (here : c.point i = .perform q next) (fresh : q ≠ .await) :
      Moved I program c (.resume i) { c with running := some i }
  | awaited (i : Nat) {next : Unit → WorkerProgram L A Unit} (idle : c.running = none)
      (here : c.point i = .perform .await next) :
      Moved I program c (.resume i) (c.reach i (next ()))
  | locked (e : ε) {i : Nat} {l : L} {next : Unit → WorkerProgram L A Unit}
      (runs : c.running = some i) (here : c.point i = .perform (.lock l) next)
      (free : c.holder l = none) :
      Moved I program c (.go e) ((c.setHolder l (some i)).reach i (next ()))
  | unlocked (e : ε) {i : Nat} {l : L} {next : Unit → WorkerProgram L A Unit}
      (runs : c.running = some i) (here : c.point i = .perform (.unlock l) next) :
      Moved I program c (.go e) ((c.setHolder l none).reach i (next ()))
  | passed (e : ε) {i : Nat} {next : Unit → WorkerProgram L A Unit} (runs : c.running = some i)
      (here : c.point i = .perform .await next) :
      Moved I program c (.go e) (c.reach i (next ()))
  | called (e : ε) {i : Nat} {q : Q} {next : A q → WorkerProgram L A Unit}
      (runs : c.running = some i) (here : c.point i = .perform (.call q) next) :
      Moved I program c (.go e)
        ({ c with data := (I q e c.data).2 }.reach i (next (I q e c.data).1))
  | suspended {i : Nat} {next : Unit → WorkerProgram L A Unit} (runs : c.running = some i)
      (here : c.point i = .perform .await next) :
      Moved I program c .suspend { c with running := none }

theorem moved_of_next [DecidableEq L] {I : Interface Q A σ ε}
    {program : τ → WorkerProgram L A Unit} {init : σ → Prop} {c c' : Worker L Q A σ}
    {a : WorkerMove τ ε} (next : (system I program init).next c a = some c') :
    Moved I program c a c' := by
  cases a with
  | arrive i task =>
      change c.arrive i (program task) = some c' at next
      unfold arrive at next
      split at next
      · next ended =>
          cases next
          exact .arrived i task ended
      · cases next
  | resume i =>
      change c.resume i = some c' at next
      unfold resume at next
      split at next
      · cases next
      · next idle =>
          split at next
          · cases next
          · next rest here =>
              cases next
              exact .awaited i idle here
          all_goals
            next here =>
              cases next
              exact .began i idle here nofun
  | go e =>
      obtain ⟨i, runs, goes⟩ := Option.bind_eq_some_iff.mp next
      unfold go at goes
      split at goes
      · cases goes
      · next l rest here =>
          split at goes
          · next free =>
              cases goes
              exact .locked e runs here free
          · cases goes
      · next l rest here =>
          cases goes
          exact .unlocked e runs here
      · next rest here =>
          cases goes
          exact .passed e runs here
      · next q rest here =>
          cases goes
          exact .called e runs here
  | suspend =>
      obtain ⟨i, runs, suspends⟩ := Option.bind_eq_some_iff.mp next
      unfold suspend at suspends
      split at suspends
      · next rest here =>
          cases suspends
          exact .suspended runs here
      · cases suspends

/-! ## Tasks that are not taken up beside a holder -/

/-- Only the running task holds mutexes. -/
def Exclusive (c : Worker L Q A σ) : Prop :=
  ∀ i, c.running = some i → ∀ l j, c.holder l = some j → j = i

namespace Exclusive

variable {c c' : Worker L Q A σ} {i : Nat}

theorem reach (exclusive : ∀ l j, c.holder l = some j → j = i) (p : WorkerProgram L A Unit) :
    Exclusive (c.reach i p) := by
  intro k runs l j held
  rw [running_reach runs]
  exact exclusive l j held

/-- A move that does not interfere leaves the mutexes to the running task. -/
theorem next [DecidableEq L] {I : Interface Q A σ ε} {program : τ → WorkerProgram L A Unit}
    {init : σ → Prop} {a : WorkerMove τ ε} (exclusive : Exclusive c) (apart : ¬ c.Interferes a)
    (next : (system I program init).next c a = some c') : Exclusive c' := by
  have alone {i : Nat} (resumes : a = .resume i) : ∀ l j, c.holder l = some j → j = i := by
    intro l j held
    by_contra ne
    subst resumes
    exact apart ⟨l, j, held, ne⟩
  cases moved_of_next next with
  | arrived i task ended => exact exclusive
  | began i idle here fresh =>
      intro k runs
      cases runs
      exact alone rfl
  | awaited i idle here => exact reach (alone rfl) _
  | @locked e i l rest runs here free =>
      refine reach (fun k j held => ?_) _
      rw [holder_setHolder] at held
      split at held
      · exact (Option.some.inj held).symm
      · exact exclusive i runs k j held
  | @unlocked e i l rest runs here =>
      refine reach (fun k j held => ?_) _
      rw [holder_setHolder] at held
      split at held
      · cases held
      · exact exclusive i runs k j held
  | passed e runs here => exact reach (exclusive _ runs) _
  | called e runs here =>
      refine reach (fun l j held => ?_) _
      exact exclusive _ runs l j held
  | suspended runs here =>
      intro k none
      cases none

end Exclusive

section Run

variable [DecidableEq L] {I : Interface Q A σ ε} {program : τ → WorkerProgram L A Unit}
  {init : σ → Prop} {c : Worker L Q A σ}

theorem exclusive_of_run (run : (system I program init).Run (fun c a => ¬ c.Interferes a) c) :
    c.Exclusive := by
  refine run.induct (I := Exclusive) (fun c start i runs => ?_)
    fun c a c' exclusive apart next => exclusive.next apart next
  rw [start.2.2.1] at runs
  cases runs

/-- **A worker does not freeze** along a run in which no task is taken up while another one holds a
mutex. -/
theorem not_frozen_of_run (run : (system I program init).Run (fun c a => ¬ c.Interferes a) c) :
    ¬ c.Frozen := by
  rintro ⟨i, l, next, j, rest, runs, _, held, ne, _⟩
  exact ne (exclusive_of_run run i runs l j held)

end Run

/-! ## Tasks under a main mutex -/

/-- The mutexes a task holds. -/
def holds (c : Worker L Q A σ) (i : Nat) (l : L) : Bool := decide (c.holder l = some i)

theorem holds_eq_true {c : Worker L Q A σ} {i : Nat} {l : L} :
    c.holds i l = true ↔ c.holder l = some i := decide_eq_true_iff

theorem holds_eq_false {c : Worker L Q A σ} {i : Nat} {l : L} :
    c.holds i l = false ↔ c.holder l ≠ some i := decide_eq_false_iff_not

section Orderly

variable [DecidableEq L] (m : L) {α β : Type}

/-- From some mutexes held to others, the program takes every mutex but `m` only while it holds
`m`, and gives `m` back last. Without `m` it only awaits, and takes `m` afterwards. -/
def Orderly : (L → Bool) → WorkerProgram L A α → (L → Bool) → Prop
  | held, .done _, left => held = left
  | held, .perform (.lock l) next, left =>
      held l = false ∧ (l = m → ∀ k, held k = false) ∧ (l ≠ m → held m = true) ∧
        Orderly (Function.update held l true) (next ()) left
  | held, .perform (.unlock l) next, left =>
      held l = true ∧ (l = m → ∀ k, k ≠ m → held k = false) ∧
        Orderly (Function.update held l false) (next ()) left
  | held, .perform .await next, left =>
      (held m = false → ∃ later, next () = .perform (.lock m) later) ∧ Orderly held (next ()) left
  | held, .perform (.call _) next, left => held m = true ∧ ∀ answer, Orderly held (next answer) left

variable {m} {held mid left : L → Bool} {p : WorkerProgram L A α}

namespace Orderly

/-- What follows takes over the mutexes that are held. -/
theorem bind {f : α → WorkerProgram L A β} (first : Orderly m held p mid)
    (second : ∀ a, Orderly m mid (f a) left) : Orderly m held (p >>= f) left := by
  induction p generalizing held with
  | done a =>
      obtain rfl : held = mid := first
      exact second a
  | perform q next ih =>
      cases q with
      | lock l => exact ⟨first.1, first.2.1, first.2.2.1, ih () first.2.2.2⟩
      | unlock l => exact ⟨first.1, first.2.1, ih () first.2.2⟩
      | await =>
          refine ⟨fun free => ?_, ih () first.2⟩
          obtain ⟨later, takes⟩ := first.1 free
          exact ⟨_, congrArg (· >>= f) takes⟩
      | call q => exact ⟨first.1, fun answer => ih answer (first.2 answer)⟩

/-! The rules of the operations. -/

theorem lock {l : L} {f : Unit → WorkerProgram L A α} (free : held l = false)
    (first : l = m → ∀ k, held k = false) (under : l ≠ m → held m = true)
    (later : Orderly m (Function.update held l true) (f ()) left) :
    Orderly m held (op (.lock l) >>= f) left := ⟨free, first, under, later⟩

theorem unlock {l : L} {f : Unit → WorkerProgram L A α} (taken : held l = true)
    (last : l = m → ∀ k, k ≠ m → held k = false)
    (later : Orderly m (Function.update held l false) (f ()) left) :
    Orderly m held (op (.unlock l) >>= f) left := ⟨taken, last, later⟩

theorem await {f : Unit → WorkerProgram L A α}
    (takes : held m = false → ∃ later, f () = .perform (.lock m) later)
    (later : Orderly m held (f ()) left) : Orderly m held (op .await >>= f) left := ⟨takes, later⟩

theorem call {q : Q} {f : A q → WorkerProgram L A α} (under : held m = true)
    (later : ∀ answer, Orderly m held (f answer) left) :
    Orderly m held (op (.call q) >>= f) left := ⟨under, later⟩

end Orderly

/-- Every task is orderly from where it stands, and is suspended at an await if it holds a mutex and
does not run. -/
structure Disciplined (m : L) (c : Worker L Q A σ) : Prop where
  orderly : ∀ i, Orderly m (c.holds i) (c.point i) fun _ => false
  main : ∀ l i, c.holder l = some i → c.holder m = some i
  suspended : ∀ l i, c.holder l = some i → c.running ≠ some i →
    ∃ rest, c.point i = .perform .await rest

namespace Disciplined

variable {c c' : Worker L Q A σ} {i : Nat}

/-- A task comes to a point from which it is orderly. -/
theorem reach {p : WorkerProgram L A Unit} (here : Orderly m (c.holds i) p fun _ => false)
    (others : ∀ j, j ≠ i → Orderly m (c.holds j) (c.point j) fun _ => false)
    (main : ∀ l j, c.holder l = some j → c.holder m = some j)
    (suspended : ∀ l j, j ≠ i → c.holder l = some j → ∃ rest, c.point j = .perform .await rest) :
    Disciplined m (c.reach i p) where
  orderly j := by
    by_cases same : j = i
    · rw [same, point_reach_self]
      exact here
    · rw [point_reach_of_ne same]
      exact others j same
  main := main
  suspended l j taken idle := by
    have ne : j ≠ i := by
      rintro rfl
      cases p with
      | done a =>
          have none : c.holds j l = false := congrFun (here : c.holds j = fun _ => false) l
          exact holds_eq_false.mp none taken
      | perform q next => exact idle rfl
    rw [point_reach_of_ne ne]
    exact suspended l j ne taken

/-- The running task takes a mutex. -/
theorem holds_lock {l : L} (free : c.holder l = none) (j : Nat) :
    (c.setHolder l (some i)).holds j =
      if j = i then Function.update (c.holds i) l true else c.holds j := by
  funext k
  rw [holds, holder_setHolder]
  by_cases same : j = i
  · rw [if_pos same, Function.update_apply, same]
    by_cases this : k = l
    · simp [this]
    · simp [this, holds]
  · rw [if_neg same]
    by_cases this : k = l
    · simp [this, holds, free, Ne.symm same]
    · simp [this, holds]

/-- The running task gives a mutex back. -/
theorem holds_unlock {l : L} (taken : c.holder l = some i) (j : Nat) :
    (c.setHolder l none).holds j =
      if j = i then Function.update (c.holds i) l false else c.holds j := by
  funext k
  rw [holds, holder_setHolder]
  by_cases same : j = i
  · rw [if_pos same, Function.update_apply, same]
    by_cases this : k = l
    · simp [this]
    · simp [this, holds]
  · rw [if_neg same]
    by_cases this : k = l
    · simp [this, holds, taken, Ne.symm same]
    · simp [this, holds]

section Running

variable (disciplined : Disciplined m c) (runs : c.running = some i)

include disciplined runs

/-- The other holders are suspended while a task runs. -/
theorem waiting (l : L) (j : Nat) (ne : j ≠ i) (taken : c.holder l = some j) :
    ∃ rest, c.point j = .perform .await rest :=
  disciplined.suspended l j taken fun same => ne (Option.some.inj (same.symm.trans runs))

theorem locked {l : L} {p : WorkerProgram L A Unit} (free : c.holder l = none)
    (under : l ≠ m → c.holds i m = true)
    (later : Orderly m (Function.update (c.holds i) l true) p fun _ => false) :
    Disciplined m ((c.setHolder l (some i)).reach i p) := by
  refine reach ?_ (fun j ne => ?_) (fun k j taken => ?_) fun k j ne taken => ?_
  · rw [holds_lock free, if_pos rfl]
    exact later
  · rw [holds_lock free, if_neg ne]
    exact disciplined.orderly j
  · rw [holder_setHolder] at taken ⊢
    by_cases main : m = l
    · rw [if_pos main]
      split at taken
      · exact taken
      · have other := disciplined.main k j taken
        rw [main, free] at other
        cases other
    · rw [if_neg main]
      split at taken
      · rw [← taken]
        exact holds_eq_true.mp (under (Ne.symm main))
      · exact disciplined.main k j taken
  · rw [holder_setHolder] at taken
    split at taken
    · exact absurd (Option.some.inj taken).symm ne
    · exact disciplined.waiting runs k j ne taken

theorem unlocked {l : L} {p : WorkerProgram L A Unit} (taken : c.holds i l = true)
    (last : l = m → ∀ k, k ≠ m → c.holds i k = false)
    (later : Orderly m (Function.update (c.holds i) l false) p fun _ => false) :
    Disciplined m ((c.setHolder l none).reach i p) := by
  have own := holds_eq_true.mp taken
  refine reach ?_ (fun j ne => ?_) (fun k j taken => ?_) fun k j ne taken => ?_
  · rw [holds_unlock own, if_pos rfl]
    exact later
  · rw [holds_unlock own, if_neg ne]
    exact disciplined.orderly j
  · rw [holder_setHolder] at taken ⊢
    split at taken
    · cases taken
    · next other =>
        have main := disciplined.main k j taken
        by_cases same : m = l
        · subst same
          obtain rfl : i = j := Option.some.inj (own.symm.trans main)
          exact absurd taken (holds_eq_false.mp (last rfl k other))
        · rw [if_neg same]
          exact main
  · rw [holder_setHolder] at taken
    split at taken
    · cases taken
    · exact disciplined.waiting runs k j ne taken

end Running

/-- A task that arrives is orderly with no mutex held. -/
theorem arrived {p : WorkerProgram L A Unit} (disciplined : Disciplined m c)
    (ended : c.point i = .done ()) (task : Orderly m (fun _ => false) p fun _ => false) :
    Disciplined m (c.place i p) := by
  have before := disciplined.orderly i
  rw [ended] at before
  have nothing : c.holds i = fun _ => false := before
  refine ⟨fun j => ?_, disciplined.main, fun l j taken idle => ?_⟩
  · by_cases same : j = i
    · subst same
      rw [point_place_self]
      exact nothing ▸ task
    · rw [point_place_of_ne same]
      exact disciplined.orderly j
  · have ne : j ≠ i := by
      rintro rfl
      exact holds_eq_false.mp (congrFun nothing l) taken
    rw [point_place_of_ne ne]
    exact disciplined.suspended l j taken idle

/-- Every move keeps the discipline. -/
theorem next {I : Interface Q A σ ε} {program : τ → WorkerProgram L A Unit} {init : σ → Prop}
    {a : WorkerMove τ ε} (tasks : ∀ task, Orderly m (fun _ => false) (program task) fun _ => false)
    (disciplined : Disciplined m c) (next : (system I program init).next c a = some c') :
    Disciplined m c' := by
  have others {i : Nat} (j : Nat) (_ : j ≠ i) := disciplined.orderly j
  have resting (idle : c.running = none) (l : L) (j : Nat) (taken : c.holder l = some j) :=
    disciplined.suspended l j taken (idle.trans_ne (Option.some_ne_none j).symm)
  cases moved_of_next next with
  | arrived i task ended => exact disciplined.arrived ended (tasks task)
  | began i idle here fresh =>
      exact ⟨disciplined.orderly, disciplined.main, fun l j taken _ => resting idle l j taken⟩
  | awaited i idle point =>
      have here := disciplined.orderly i
      rw [point] at here
      exact reach here.2 others disciplined.main fun l j _ taken => resting idle l j taken
  | @locked e i l rest runs point free =>
      have here := disciplined.orderly i
      rw [point] at here
      exact disciplined.locked runs free here.2.2.1 here.2.2.2
  | @unlocked e i l rest runs point =>
      have here := disciplined.orderly i
      rw [point] at here
      exact disciplined.unlocked runs here.1 here.2.1 here.2.2
  | @passed e i rest runs point =>
      have here := disciplined.orderly i
      rw [point] at here
      exact reach here.2 others disciplined.main (disciplined.waiting runs)
  | @called e i q rest runs point =>
      have here := disciplined.orderly i
      rw [point] at here
      exact reach (c := { c with data := (I q e c.data).2 }) (here.2 _) others disciplined.main
        (disciplined.waiting runs)
  | @suspended i rest runs point =>
      refine ⟨disciplined.orderly, disciplined.main, fun l j taken _ => ?_⟩
      by_cases same : j = i
      · exact ⟨rest, same ▸ point⟩
      · exact disciplined.waiting runs l j same taken

end Disciplined

/-- **To take up an orderly task beside a holder freezes the worker.** -/
theorem frozen_of_interferes {I : Interface Q A σ ε} {program : τ → WorkerProgram L A Unit}
    {init : σ → Prop} {c c' : Worker L Q A σ} {a : WorkerMove τ ε} (disciplined : Disciplined m c)
    (interferes : c.Interferes a) (next : (system I program init).next c a = some c') :
    c'.Frozen := by
  have without {i j : Nat} {l : L} (taken : c.holder l = some j) (ne : j ≠ i) (k : L) :
      c.holds i k = false := by
    refine holds_eq_false.mpr fun own => ne ?_
    exact Option.some.inj ((disciplined.main l j taken).symm.trans (disciplined.main k i own))
  have resting (idle : c.running = none) {l : L} {j : Nat} (taken : c.holder l = some j) :=
    disciplined.suspended l j taken (idle.trans_ne (Option.some_ne_none j).symm)
  cases moved_of_next next with
  | awaited i idle point =>
      obtain ⟨l, j, taken, ne⟩ := interferes
      obtain ⟨rest, waits⟩ := resting idle taken
      have here := disciplined.orderly i
      rw [point] at here
      -- After its await the task takes the main mutex, which the other one holds.
      obtain ⟨last, takes⟩ := here.1 (without taken ne m)
      refine ⟨i, m, last, j, rest, ?_, ?_, disciplined.main l j taken, ne, ?_⟩
      · rw [takes]
        rfl
      · rw [point_reach_self, takes]
      · rw [point_reach_of_ne ne]
        exact waits
  | @began i q later idle point fresh =>
      obtain ⟨l, j, taken, ne⟩ := interferes
      obtain ⟨rest, waits⟩ := resting idle taken
      have here := disciplined.orderly i
      rw [point] at here
      have free := without taken ne
      -- A task that holds nothing begins with the main mutex.
      cases q with
      | lock k =>
          obtain rfl : k = m := by
            by_contra other
            exact Bool.false_ne_true ((free m).symm.trans (here.2.2.1 other))
          exact ⟨i, k, later, j, rest, rfl, point, disciplined.main l j taken, ne, waits⟩
      | unlock k => exact absurd ((free k).symm.trans here.1) Bool.false_ne_true
      | await => exact absurd rfl fresh
      | call q => exact absurd ((free m).symm.trans here.1) Bool.false_ne_true
  | arrived | locked | unlocked | passed | called | suspended => exact interferes.elim

end Orderly

end Worker

end C4D.Foundations
