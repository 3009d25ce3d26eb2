import C4D.Foundations.Transition
import Mathlib.Data.List.Induction

/-!
# Histories of runs

A history is the list of the steps of a run, each with the state before it. A reading of
the steps that gives a value now and then has a latest value; a field that every step
overwrites with the value it reads holds the latest one (`History.holds_latest`). A history
can be cut at any step (`History.upTo`).
-/

set_option autoImplicit false

namespace C4D.Foundations

/-- The last value that is read along a history, or a default. -/
def latest {β V : Type} (reading : β → Option V) (default : V) (history : List β) : V :=
  (history.filterMap reading).getLast?.getD default

section Latest

variable {β V : Type} (reading : β → Option V) (default : V)

/-- A step replaces the latest value by the one it reads, if any. -/
theorem latest_concat (history : List β) (step : β) :
    latest reading default (history ++ [step]) =
      (reading step).getD (latest reading default history) := by
  rw [latest, latest, List.filterMap_append]
  cases reads : reading step <;> simp [reads]

/-- A latest value other than the default was read in some step. -/
theorem exists_of_latest {history : List β} (ne : latest reading default history ≠ default) :
    ∃ before step after, history = before ++ step :: after ∧
      reading step = some (latest reading default history) := by
  induction history using List.reverseRecOn with
  | nil => exact absurd rfl ne
  | append_singleton history step ih =>
      rw [latest_concat] at ne ⊢
      cases reads : reading step with
      | some v => exact ⟨history, step, [], rfl, reads⟩
      | none =>
          rw [reads] at ne
          obtain ⟨before, last, after, rfl, reads⟩ := ih ne
          exact ⟨before, last, after ++ [step], by simp, reads⟩

/-- The latest value is no default once something else is read, so nothing was read before. -/
theorem unread_of_latest {history : List β}
    (never : ∀ step ∈ history, reading step ≠ some default)
    (unchanged : latest reading default history = default) :
    ∀ step ∈ history, reading step = none := by
  induction history using List.reverseRecOn with
  | nil => simp
  | append_singleton history step ih =>
      rw [latest_concat] at unchanged
      intro taken mem
      have last := never step (by simp)
      cases reads : reading step with
      | some v =>
          rw [reads] at unchanged last
          exact absurd (congrArg some unchanged) last
      | none =>
          rw [reads] at unchanged
          rcases List.mem_append.mp mem with mem | mem
          · exact ih (fun s mem => never s (List.mem_append_left _ mem)) unchanged taken mem
          · rw [List.mem_singleton.mp mem]
            exact reads

end Latest

namespace System

variable {σ α : Type} {S : System σ α}

variable (S) in
/-- The steps of a run with the states before them, and the state it ends in. -/
inductive History : List (σ × α) → σ → Prop where
  | start {s : σ} (initial : S.init s) : History [] s
  | step {history : List (σ × α)} {s s' : σ} (a : α) (earlier : History history s)
      (next : S.next s a = some s') : History (history ++ [(s, a)]) s'

namespace History

variable {history : List (σ × α)} {s : σ}

theorem reachable (past : S.History history s) : S.Reachable s := by
  induction past with
  | start initial => exact .start initial
  | step a _ next ih => exact .step a ih trivial next

/-- Every run has a history. -/
theorem exists_of_reachable (reachable : S.Reachable s) : ∃ history, S.History history s := by
  induction reachable with
  | start initial => exact ⟨[], .start initial⟩
  | step a _ _ next ih =>
      obtain ⟨history, earlier⟩ := ih
      exact ⟨_, .step a earlier next⟩

/-- The last step of a history. -/
theorem last {t : σ} {a : α} (past : S.History (history ++ [(t, a)]) s) :
    S.History history t ∧ S.next t a = some s := by
  generalize whole : history ++ [(t, a)] = entries at past
  cases past with
  | start initial => simp at whole
  | step b earlier next =>
      obtain ⟨rfl, same⟩ := List.append_inj' whole rfl
      cases same
      exact ⟨earlier, next⟩

section Split

variable {before after : List (σ × α)} {t : σ} {a : α}

/-- The history before a step. -/
theorem upTo (past : S.History (before ++ (t, a) :: after) s) : S.History before t := by
  induction after using List.reverseRecOn generalizing s with
  | nil => exact past.last.1
  | append_singleton after e ih =>
      rw [← List.cons_append, ← List.append_assoc] at past
      exact ih past.last.1

end Split

/-- A step of a history was taken in a state that had a history. -/
theorem of_mem {t : σ} {a : α} (past : S.History history s) (mem : (t, a) ∈ history) :
    ∃ before, (∀ e ∈ before, e ∈ history) ∧ S.History before t ∧ ∃ t', S.next t a = some t' := by
  obtain ⟨before, after, rfl⟩ := List.mem_iff_append.mp mem
  refine ⟨before, fun e mem => List.mem_append_left _ mem, past.upTo, ?_⟩
  rw [List.append_cons] at past
  induction after using List.reverseRecOn generalizing s with
  | nil =>
      rw [List.append_nil] at past
      exact ⟨s, past.last.2⟩
  | append_singleton after e ih =>
      rw [← List.append_assoc] at past
      exact ih past.last.1 (by simp)

/-- A history whose steps meet a condition is one of a run that is restricted by it. -/
theorem run {C : σ → α → Prop} (past : S.History history s) (all : ∀ e ∈ history, C e.1 e.2) :
    S.Run C s := by
  induction past with
  | start initial => exact .start initial
  | step a _ next ih =>
      have earlier := ih fun e mem => all e (List.mem_append_left _ mem)
      exact .step a earlier (all _ (List.mem_append_right _ List.mem_cons_self)) next

/-- **A field that every step overwrites with what it reads holds the latest value.** -/
theorem holds_latest {V : Type} {reading : σ × α → Option V} {default : V} {f : σ → V}
    (initial : ∀ s, S.init s → f s = default)
    (step : ∀ s a s', S.Reachable s → S.next s a = some s' →
      f s' = (reading (s, a)).getD (f s))
    (past : S.History history s) : f s = latest reading default history := by
  induction past with
  | start start => exact initial _ start
  | step a earlier next ih => rw [latest_concat, step _ a _ earlier.reachable next, ih]

end History

end System

end C4D.Foundations
