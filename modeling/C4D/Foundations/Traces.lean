import C4D.Foundations.Program

/-!
# What a program has performed so far

The trace of a program is the list of the operations it has performed, each with its
answer. `Along` says what holds of the trace before each operation the program may come to
perform, whatever the answers are, and of the whole trace when it ends. It is composed
along sequences of programs (`along_bind`). It holds of a run to the end
(`Along.run`), and at every point of threads that do tasks and keep the trace of the task
they are doing (`along_of_reachable`).
-/

set_option autoImplicit false

namespace C4D.Foundations.Program

variable {Q : Type} {A : Q → Type} {α β σ ε : Type}

/-- An operation with its answer. -/
structure Event (Q : Type) (A : Q → Type) where
  performed : Q
  answer : A performed

/-- The operations performed, the first one first. -/
abbrev Trace (Q : Type) (A : Q → Type) := List (Event Q A)

/-- Each operation is performed after a trace that allows it by `P`, and the program ends with a trace
and a value in `R`. -/
def Along (P : Trace Q A → Q → Prop) (R : Trace Q A → α → Prop) :
    Trace Q A → Program Q A α → Prop
  | t, .done a => R t a
  | t, .perform q next => P t q ∧ ∀ answer, Along P R (t ++ [⟨q, answer⟩]) (next answer)

section Along

variable {P : Trace Q A → Q → Prop} {R S : Trace Q A → α → Prop} {t : Trace Q A}

@[simp] theorem along_done (a : α) : Along P R t (.done a) ↔ R t a := Iff.rfl

@[simp] theorem along_perform (q : Q) (next : A q → Program Q A α) :
    Along P R t (.perform q next) ↔
      P t q ∧ ∀ answer, Along P R (t ++ [⟨q, answer⟩]) (next answer) := Iff.rfl

theorem Along.mono {p : Program Q A α} (along : Along P R t p) (weaker : ∀ t a, R t a → S t a) :
    Along P S t p := by
  induction p generalizing t with
  | done a => exact weaker t a along
  | perform q next ih => exact ⟨along.1, fun answer => ih answer (along.2 answer)⟩

/-- **A program followed by another one.** -/
theorem along_bind {T : Trace Q A → β → Prop} (p : Program Q A α) (f : α → Program Q A β) :
    Along P T t (p >>= f) ↔ Along P (fun t a => Along P T t (f a)) t p := by
  induction p generalizing t with
  | done a => exact Iff.rfl
  | perform q next ih =>
      rw [perform_bind, along_perform, along_perform]
      exact and_congr_right fun _ => forall_congr' fun answer => ih answer

theorem Along.bind {T : Trace Q A → β → Prop} {p : Program Q A α} {f : α → Program Q A β}
    (first : Along P R t p) (second : ∀ t a, R t a → Along P T t (f a)) :
    Along P T t (p >>= f) :=
  (along_bind p f).mpr (first.mono second)

/-- A program that performs permitted operations only. -/
theorem Uses.along {ok : Q → Prop} {p : Program Q A α} (uses : Uses ok p)
    (allowed : ∀ t q, ok q → P t q) : Along P (fun _ _ => True) t p := by
  induction p generalizing t with
  | done a => trivial
  | perform q next ih => exact ⟨allowed t q uses.1, fun answer => ih answer (uses.2 answer)⟩

end Along

/-! ## The trace of a run -/

/-- The trace of a run to the end. -/
def trace (I : Interface Q A σ ε) : Program Q A α → (Nat → ε) → σ → Trace Q A
  | .done _, _, _ => []
  | .perform q next, choices, s =>
      let r := I q (choices 0) s
      ⟨q, r.1⟩ :: (next r.1).trace I (fun n => choices (n + 1)) r.2

variable {I : Interface Q A σ ε}

theorem trace_bind (p : Program Q A α) (f : α → Program Q A β) (choices : Nat → ε) (s : σ) :
    (p >>= f).trace I choices s = p.trace I choices s ++
      (f (p.run I choices s).value).trace I (p.run I choices s).rest (p.run I choices s).state := by
  induction p generalizing choices s with
  | done a => rfl
  | perform q next ih => exact congrArg (List.cons _) (ih _ _ _)

/-- What holds along a program holds of its run. -/
theorem Along.run {P : Trace Q A → Q → Prop} {R : Trace Q A → α → Prop} {t : Trace Q A}
    {p : Program Q A α} (along : Along P R t p) (choices : Nat → ε) (s : σ) :
    R (t ++ p.trace I choices s) (p.run I choices s).value ∧
      ∀ before e after, p.trace I choices s = before ++ e :: after → P (t ++ before) e.performed := by
  induction p generalizing t choices s with
  | done a =>
      refine ⟨by simpa [trace] using along, ?_⟩
      intro before e after split
      simp [trace] at split
  | perform q next ih =>
      obtain ⟨ends, during⟩ := ih _ (along.2 (I q (choices 0) s).1) (fun n => choices (n + 1))
        (I q (choices 0) s).2
      rw [List.append_assoc] at ends
      refine ⟨ends, ?_⟩
      intro before e after split
      cases before with
      | nil =>
          obtain rfl : (⟨q, _⟩ : Event Q A) = e := (List.cons.inj split).1
          simpa using along.1
      | cons first before =>
          obtain ⟨rfl, later⟩ := List.cons.inj split
          have allowed := during before e after later
          rwa [List.append_assoc] at allowed

/-! ## Threads that keep their trace -/

/-- A step of a thread that keeps the trace of its task. -/
def recordedStep {τ : Type} (I : Interface Q A σ ε) (program : τ → Program Q A Unit)
    (move : Move τ ε) (point : Program Q A Unit × Trace Q A) (s : σ) :
    Option ((Program Q A Unit × Trace Q A) × σ) :=
  match move, point with
  | .begin task, (.done _, _) => some ((program task, []), s)
  | .go e, (.perform q next, t) => some ((next (I q e s).1, t ++ [⟨q, (I q e s).1⟩]), (I q e s).2)
  | _, _ => none

/-- All interleavings of any number of threads that do tasks one after the other and keep the trace
of the task they are doing. -/
def recordedTasks {τ : Type} (I : Interface Q A σ ε) (program : τ → Program Q A Unit)
    (init : σ → Prop) : System (Threads Nat (Program Q A Unit × Trace Q A) σ) (Nat × Move τ ε) :=
  Threads.interleaving init (.done (), []) fun _ => recordedStep I program

theorem along_recordedStep {τ : Type} {program : τ → Program Q A Unit} {P : Trace Q A → Q → Prop}
    (tasks : ∀ task, Along P (fun _ _ => True) [] (program task)) {move : Move τ ε}
    {point point' : Program Q A Unit × Trace Q A} {s s' : σ}
    (along : Along P (fun _ _ => True) point.2 point.1)
    (steps : recordedStep I program move point s = some (point', s')) :
    Along P (fun _ _ => True) point'.2 point'.1 := by
  rcases point with ⟨_ | ⟨q, next⟩, t⟩
  · cases move <;> cases steps
    exact tasks _
  · cases move <;> cases steps
    exact along.2 _

/-- **What holds along every task holds at every point of its threads.** -/
theorem along_of_reachable {τ : Type} {program : τ → Program Q A Unit} {init : σ → Prop}
    {P : Trace Q A → Q → Prop} (tasks : ∀ task, Along P (fun _ _ => True) [] (program task))
    {c : Threads Nat (Program Q A Unit × Trace Q A) σ}
    (reachable : (recordedTasks I program init).Reachable c) (i : Nat) :
    Along P (fun _ _ => True) (c.point i).2 (c.point i).1 := by
  revert i
  apply reachable.induct (I := fun c => ∀ i, Along P (fun _ _ => True) (c.point i).2 (c.point i).1)
  · intro c ⟨_, start⟩ i
    rw [start i]
    trivial
  · rintro c ⟨j, move⟩ c' along _ next i
    obtain ⟨point, s, steps, rfl⟩ := Threads.advance_of_next next
    by_cases same : i = j
    · subst same
      rw [Threads.point_advance_self]
      exact along_recordedStep tasks (along i) steps
    · rw [Threads.point_advance_of_ne same]
      exact along i

end C4D.Foundations.Program
