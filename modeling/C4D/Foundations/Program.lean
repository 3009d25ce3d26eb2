import C4D.Foundations.Threads

/-!
# Programs that perform operations

A program performs operations one after the other and goes on with their
answers. What the operations mean is not part of it: an `Interface` says what an
operation answers and does to a state, given what the environment decides. The
same program can be run to its end in one go (`run`), or take its operations one
at a time between those of other programs (`step`, `tasks`).

A property of the state that every operation of a program keeps is kept by its
run (`Keeps`), so it is enough to know what the program performs (`Uses`). What
a program may still do while the answers of its operations are restricted is
`MayPerform`: it holds at a point of the program exactly if some
allowed answers lead from there to an operation with the property.
-/

set_option autoImplicit false

namespace C4D.Foundations

/-- A program over the operations `Q` with the answers `A`. -/
inductive Program (Q : Type) (A : Q → Type) (α : Type) where
  | done (a : α)
  | perform (q : Q) (next : A q → Program Q A α)

/-- What operations answer and do to a state `σ`, where the environment decides by `ε`. -/
abbrev Interface (Q : Type) (A : Q → Type) (σ ε : Type) := (q : Q) → ε → σ → A q × σ

namespace Program

variable {Q : Type} {A : Q → Type} {α β σ ε : Type}

/-- A program followed by another one. -/
def bind : Program Q A α → (α → Program Q A β) → Program Q A β
  | .done a, f => f a
  | .perform q next, f => .perform q fun answer => (next answer).bind f

instance : Monad (Program Q A) where
  pure := .done
  bind := .bind

/-- One operation. -/
def op (q : Q) : Program Q A (A q) := .perform q .done

@[simp] theorem pure_eq (a : α) : (pure a : Program Q A α) = .done a := rfl

@[simp] theorem done_bind (a : α) (f : α → Program Q A β) : (.done a >>= f) = f a := rfl

@[simp] theorem perform_bind (q : Q) (next : A q → Program Q A α) (f : α → Program Q A β) :
    (.perform q next >>= f) = .perform q fun answer => next answer >>= f := rfl

@[simp] theorem op_bind (q : Q) (f : A q → Program Q A β) : (op q >>= f) = .perform q f := rfl

/-! ## Running to the end -/

/-- How a run ended: its value, the state, and what the environment decides from there on. -/
structure Ended (α σ ε : Type) where
  value : α
  state : σ
  rest : Nat → ε

/-- The run of a program while nothing else happens. Operation `n` of the run uses decision `n`. -/
def run (I : Interface Q A σ ε) : Program Q A α → (Nat → ε) → σ → Ended α σ ε
  | .done a, choices, s => ⟨a, s, choices⟩
  | .perform q next, choices, s =>
      let r := I q (choices 0) s
      (next r.1).run I (fun n => choices (n + 1)) r.2

variable {I : Interface Q A σ ε}

@[simp] theorem run_done (a : α) (choices : Nat → ε) (s : σ) :
    (.done a : Program Q A α).run I choices s = ⟨a, s, choices⟩ := rfl

@[simp] theorem run_perform (q : Q) (next : A q → Program Q A α) (choices : Nat → ε) (s : σ) :
    (perform q next).run I choices s =
      (next (I q (choices 0) s).1).run I (fun n => choices (n + 1)) (I q (choices 0) s).2 := rfl

theorem run_bind (p : Program Q A α) (f : α → Program Q A β) (choices : Nat → ε) (s : σ) :
    (p >>= f).run I choices s =
      (f (p.run I choices s).value).run I (p.run I choices s).rest (p.run I choices s).state := by
  induction p generalizing choices s with
  | done a => rfl
  | perform q next ih => exact ih _ _ _

/-- What the environment decides after a run is a tail of what it decided. -/
theorem rest_run (p : Program Q A α) (choices : Nat → ε) (s : σ) :
    ∃ k, (p.run I choices s).rest = fun n => choices (n + k) := by
  induction p generalizing choices s with
  | done a => exact ⟨0, rfl⟩
  | perform q next ih =>
      obtain ⟨k, rest⟩ := ih (I q (choices 0) s).1 (fun n => choices (n + 1)) (I q (choices 0) s).2
      exact ⟨k + 1, rest⟩

/-! ## What a run keeps -/

/-- Every run of the program keeps a property of the state. -/
def Keeps (I : Interface Q A σ ε) (P : σ → Prop) (p : Program Q A α) : Prop :=
  ∀ choices s, P s → P (p.run I choices s).state

namespace Keeps

variable {P : σ → Prop} {p : Program Q A α}

theorem done (a : α) : Keeps I P (.done a : Program Q A α) := fun _ _ holds => holds

theorem perform {q : Q} {next : A q → Program Q A α} (kept : ∀ e s, P s → P (I q e s).2)
    (later : ∀ answer, Keeps I P (next answer)) : Keeps I P (.perform q next) :=
  fun choices s holds => later _ _ _ (kept (choices 0) s holds)

theorem bind {f : α → Program Q A β} (first : Keeps I P p) (second : ∀ a, Keeps I P (f a)) :
    Keeps I P (p >>= f) := by
  intro choices s holds
  rw [run_bind]
  exact second _ _ _ (first choices s holds)

theorem ite {c : Prop} [Decidable c] {other : Program Q A α} (yes : c → Keeps I P p)
    (no : ¬ c → Keeps I P other) : Keeps I P (if c then p else other) := by
  split
  · next holds => exact yes holds
  · next fails => exact no fails

end Keeps

/-! ## What a program performs -/

/-- Every operation the program may come to perform is permitted. -/
def Uses (ok : Q → Prop) : Program Q A α → Prop
  | .done _ => True
  | .perform q next => ok q ∧ ∀ answer, Uses ok (next answer)

namespace Uses

variable {ok weaker : Q → Prop} {p : Program Q A α}

theorem done (a : α) : Uses ok (.done a : Program Q A α) := trivial

theorem perform {q : Q} {next : A q → Program Q A α} (now : ok q)
    (later : ∀ answer, Uses ok (next answer)) : Uses ok (.perform q next) := ⟨now, later⟩

theorem bind {f : α → Program Q A β} (first : Uses ok p) (second : ∀ a, Uses ok (f a)) :
    Uses ok (p >>= f) := by
  induction p with
  | done a => exact second a
  | perform q next ih => exact ⟨first.1, fun answer => ih answer (first.2 answer)⟩

theorem ite {c : Prop} [Decidable c] {other : Program Q A α} (yes : Uses ok p)
    (no : Uses ok other) : Uses ok (if c then p else other) := by
  split
  · exact yes
  · exact no

theorem mono (uses : Uses ok p) (implies : ∀ q, ok q → weaker q) : Uses weaker p := by
  induction p with
  | done a => trivial
  | perform q next ih => exact ⟨implies q uses.1, fun answer => ih answer (uses.2 answer)⟩

/-- What every permitted operation keeps is kept by the program. -/
theorem keeps {P : σ → Prop} (uses : Uses ok p)
    (kept : ∀ q, ok q → ∀ e s, P s → P (I q e s).2) : Keeps I P p := by
  induction p with
  | done a => exact Keeps.done a
  | perform q next ih => exact Keeps.perform (kept q uses.1) fun answer => ih answer (uses.2 answer)

end Uses

/-! ## What a program may still do -/

/-- With answers restricted by `ok`, the program may come to perform an operation in `P`. -/
inductive MayPerform (ok : (q : Q) → A q → Prop) (P : Q → Prop) : Program Q A α → Prop where
  | here {q : Q} {next : A q → Program Q A α} (now : P q) : MayPerform ok P (.perform q next)
  | later {q : Q} {next : A q → Program Q A α} {answer : A q} (allowed : ok q answer)
      (then_ : MayPerform ok P (next answer)) : MayPerform ok P (.perform q next)

section MayPerform

variable {ok : (q : Q) → A q → Prop} {P : Q → Prop}

theorem not_mayPerform_done (a : α) : ¬ MayPerform ok P (.done a : Program Q A α) := by
  intro may
  cases may

theorem mayPerform_perform {q : Q} {next : A q → Program Q A α} :
    MayPerform ok P (.perform q next) ↔ P q ∨ ∃ answer, ok q answer ∧ MayPerform ok P (next answer) := by
  constructor
  · intro may
    cases may with
    | here now => exact .inl now
    | later allowed later => exact .inr ⟨_, allowed, later⟩
  · rintro (now | ⟨answer, allowed, later⟩)
    · exact .here now
    · exact .later allowed later

end MayPerform

/-! ## Programs as threads -/

/-- The next operation of a program, if it has not ended. -/
def step (I : Interface Q A σ ε) (e : ε) (p : Program Q A α) (s : σ) :
    Option (Program Q A α × σ) :=
  match p with
  | .done _ => none
  | .perform q next => some (next (I q e s).1, (I q e s).2)

/-- What a thread does next: begin a task, or perform the next operation of its task. -/
inductive Move (τ ε : Type) where
  | begin (task : τ)
  | go (choice : ε)

/-- A step of a thread. It begins a task when it has none. -/
def taskStep {τ : Type} (I : Interface Q A σ ε) (program : τ → Program Q A Unit)
    (move : Move τ ε) (p : Program Q A Unit) (s : σ) : Option (Program Q A Unit × σ) :=
  match move, p with
  | .begin task, .done _ => some (program task, s)
  | .begin _, .perform _ _ => none
  | .go e, p => p.step I e s

/-- All interleavings of any number of threads that do tasks one after the other. -/
def tasks {τ : Type} (I : Interface Q A σ ε) (program : τ → Program Q A Unit) (init : σ → Prop) :
    System (Threads Nat (Program Q A Unit) σ) (Nat × Move τ ε) :=
  Threads.interleaving init (.done ()) fun _ => taskStep I program

theorem advance_of_next_tasks {τ : Type} {I : Interface Q A σ ε} {program : τ → Program Q A Unit}
    {init : σ → Prop} {c c' : Threads Nat (Program Q A Unit) σ} {i : Nat} {move : Move τ ε}
    (next : (tasks I program init).next c (i, move) = some c') :
    ∃ p s, taskStep I program move (c.point i) c.data = some (p, s) ∧ c' = c.advance i p s :=
  Threads.advance_of_next next

end Program

end C4D.Foundations
