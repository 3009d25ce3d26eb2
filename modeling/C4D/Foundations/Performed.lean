import C4D.Foundations.Histories
import C4D.Foundations.Traces

/-!
# When the operations of a trace were performed

The trace of a thread says what its task has performed, the history of a run which thread took which
step. Every operation of a trace was performed by a step of the history, with the answer in the
trace and after the operations before it (`exists_step`). The data change with the operations
only, so a field that every operation overwrites with what it writes holds what was written
last (`data_eq_latest`).
-/

set_option autoImplicit false

namespace C4D.Foundations.Program

variable {Q : Type} {A : Q → Type} {σ ε τ : Type} {I : Interface Q A σ ε}
variable {program : τ → Program Q A Unit} {init : σ → Prop}

/-- A step of threads that keep their traces, with the state before it. -/
abbrev Taken (A : Q → Type) (σ ε τ : Type) :=
  Threads Nat (Program Q A Unit × Trace Q A) σ × (Nat × Move τ ε)

/-- The operation a step performs, with what the environment decides in it. -/
def operation (step : Taken A σ ε τ) : Option (Q × ε) :=
  match step.2.2, (step.1.point step.2.1).1 with
  | .go e, .perform q _ => some (q, e)
  | .go _, .done _ => none
  | .begin _, _ => none

theorem operation_go {c : Threads Nat (Program Q A Unit × Trace Q A) σ} {i : Nat} {q : Q}
    {next : A q → Program Q A Unit} {t : Trace Q A} (stands : c.point i = (.perform q next, t)) (e : ε) :
    operation ((c, (i, .go e)) : Taken A σ ε τ) = some (q, e) := by
  simp only [operation, stands]

/-- A step that performs an operation is one of a thread that stands before it. -/
theorem operation_eq_some {c : Threads Nat (Program Q A Unit × Trace Q A) σ} {i : Nat}
    {move : Move τ ε} {q : Q} {e : ε}
    (performs : operation ((c, (i, move)) : Taken A σ ε τ) = some (q, e)) :
    move = .go e ∧ ∃ next t, c.point i = (.perform q next, t) := by
  cases move with
  | begin task => cases performs
  | go choice =>
      rw [operation] at performs
      rcases here : c.point i with ⟨_ | ⟨q', next⟩, t⟩
      · rw [here] at performs
        cases performs
      · rw [here] at performs
        cases performs
        exact ⟨rfl, next, t, rfl⟩

/-- What an operation writes, read off a step. -/
def writes {V : Type} (written : Q → ε → σ → Option V) (step : Taken A σ ε τ) : Option V :=
  (operation step).bind fun o => written o.1 o.2 step.1.data

theorem writes_go {V : Type} {written : Q → ε → σ → Option V}
    {c : Threads Nat (Program Q A Unit × Trace Q A) σ} {i : Nat} {q : Q}
    {next : A q → Program Q A Unit} {t : Trace Q A} (stands : c.point i = (.perform q next, t)) (e : ε) :
    writes written ((c, (i, .go e)) : Taken A σ ε τ) = written q e c.data := by
  rw [writes, operation_go stands, Option.bind_some]

/-- A thread begins a task in a step. -/
def Begins (i : Nat) (step : Taken A σ ε τ) : Bool :=
  match step.2 with
  | (j, .begin _) => j == i
  | (_, .go _) => false

theorem begins_of_ne {i j : Nat} (ne : j ≠ i)
    {c : Threads Nat (Program Q A Unit × Trace Q A) σ} {move : Move τ ε} :
    Begins i (c, (j, move)) = false := by
  cases move with
  | begin task => exact beq_false_of_ne ne
  | go choice => rfl

/-- A thread begins no task in some steps, so it does the same task before and after them. -/
def SameTask (i : Nat) (steps : List (Taken A σ ε τ)) : Prop := ∀ step ∈ steps, Begins i step = false

theorem SameTask.insert {i : Nat} {before after : List (Taken A σ ε τ)} {step : Taken A σ ε τ}
    (first : SameTask i before) (goesOn : Begins i step = false) (last : SameTask i after) :
    SameTask i (before ++ step :: after) := by
  intro taken mem
  rcases List.mem_append.mp mem with mem | mem
  · exact first taken mem
  · rcases List.mem_cons.mp mem with rfl | mem
    · exact goesOn
    · exact last taken mem

section History

variable {history : List (Taken A σ ε τ)} {c : Threads Nat (Program Q A Unit × Trace Q A) σ}
variable {i : Nat}

/-- A step that is no operation leaves the data as they are. -/
theorem data_next {c' : Threads Nat (Program Q A Unit × Trace Q A) σ} {a : Nat × Move τ ε}
    (next : (recordedTasks I program init).next c a = some c') :
    c'.data = ((operation (c, a)).map fun o => (I o.1 o.2 c.data).2).getD c.data := by
  obtain ⟨j, move⟩ := a
  obtain ⟨point, s, steps, rfl⟩ := Threads.advance_of_next next
  rw [Threads.data_advance, operation]
  rcases here : c.point j with ⟨_ | ⟨q, rest⟩, t⟩
  · rw [here] at steps
    cases move <;> cases steps
    rfl
  · rw [here] at steps
    cases move <;> cases steps
    rfl

/-- **What every operation overwrites holds what was written last.** -/
theorem data_eq_latest {V : Type} {f : σ → V} {written : Q → ε → σ → Option V} {default : V}
    (initial : ∀ s, init s → f s = default)
    (overwrites : ∀ q e s, f (I q e s).2 = (written q e s).getD (f s))
    (past : (recordedTasks I program init).History history c) :
    f c.data = latest (writes written) default history := by
  apply past.holds_latest (f := fun c => f c.data)
  · exact fun c start => initial c.data start.1
  · intro c a c' _ next
    rw [data_next next, writes]
    cases operation (c, a) with
    | none => rfl
    | some o => exact overwrites o.1 o.2 c.data

/-- What every operation keeps is kept by all runs. -/
theorem data_of_reachable {P : σ → Prop} (initial : ∀ s, init s → P s)
    (kept : ∀ q e s, P s → P (I q e s).2)
    (reachable : (recordedTasks I program init).Reachable c) : P c.data := by
  apply reachable.induct (I := fun c => P c.data)
  · exact fun c start => initial c.data start.1
  · intro c a c' holds _ next
    rw [data_next next]
    cases operation (c, a) with
    | none => exact holds
    | some o => exact kept o.1 o.2 c.data holds

/-- **Every operation of a trace was performed** in the task of the thread, after the ones before it
and with its answer. -/
theorem exists_step {before after : Trace Q A} {e : Event Q A}
    (past : (recordedTasks I program init).History history c)
    (split : (c.point i).2 = before ++ e :: after) :
    ∃ earlier later c₀ choice next, history = earlier ++ (c₀, (i, .go choice)) :: later ∧
      c₀.point i = (.perform e.performed next, before) ∧
      e.answer = (I e.performed choice c₀.data).1 ∧ SameTask i later := by
  induction past generalizing before after with
  | start initial =>
      rw [initial.2 i] at split
      exact absurd split (List.append_ne_nil_of_right_ne_nil _ (List.cons_ne_nil _ _)).symm
  | @step history c c' a earlier next ih =>
      -- a step of the earlier history is one of the longer history
      have extend : Begins i (c, a) = false → ∀ after, (c.point i).2 = before ++ e :: after →
          ∃ earlier later c₀ choice next,
            history ++ [(c, a)] = earlier ++ (c₀, (i, .go choice)) :: later ∧
            c₀.point i = (.perform e.performed next, before) ∧
            e.answer = (I e.performed choice c₀.data).1 ∧ SameTask i later := by
        intro goesOn after same
        obtain ⟨first, later, c₀, choice, rest, rfl, stands, answers, during⟩ := ih same
        exact ⟨first, later ++ [(c, a)], c₀, choice, rest, by simp, stands, answers,
          during.insert goesOn fun _ => nofun⟩
      obtain ⟨j, move⟩ := a
      obtain ⟨point, s, steps, rfl⟩ := Threads.advance_of_next next
      by_cases same : i = j
      · subst same
        rw [Threads.point_advance_self] at split
        rcases here : c.point i with ⟨_ | ⟨q, rest⟩, t⟩
        · rw [here] at steps
          cases move <;> cases steps
          exact absurd split (List.append_ne_nil_of_right_ne_nil _ (List.cons_ne_nil _ _)).symm
        · rw [here] at steps
          cases move with
          | begin task => cases steps
          | go choice =>
              cases steps
              rcases List.eq_nil_or_concat after with rfl | ⟨after, last, rfl⟩
              · -- the operation of this step
                obtain ⟨rfl, single⟩ := List.append_inj' split rfl
                obtain rfl := (List.cons.inj single).1
                exact ⟨history, [], c, choice, rest, rfl, here, rfl, fun _ => nofun⟩
              · rw [List.concat_eq_append, ← List.cons_append, ← List.append_assoc] at split
                refine extend rfl after ?_
                rw [here]
                exact (List.append_inj' split rfl).1
      · rw [Threads.point_advance_of_ne same] at split
        exact extend (begins_of_ne (Ne.symm same)) after split

end History

end C4D.Foundations.Program
