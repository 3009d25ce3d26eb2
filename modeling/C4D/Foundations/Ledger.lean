import Mathlib.Algebra.BigOperators.Group.List.Basic
import Mathlib.Algebra.Order.Ring.Int
import Mathlib.Data.List.Basic

/-!
# Counters with accounts

A counter adds up contributions of many accounts. A `Charge` is one change of a
counter on behalf of an account. A list of charges determines the value of every
counter (`total`) and what each account contributes to it (`tally`). Both are
additive, and charges to other accounts do not matter to a tally.
-/

set_option autoImplicit false

namespace C4D.Foundations

/-- A change of a counter on behalf of an account. -/
structure Charge (κ ι : Type) where
  account : κ
  counter : ι
  amount : Int

namespace Charge

variable {κ ι : Type} [DecidableEq ι] {charges : List (Charge κ ι)} {k : κ} {i : ι}

/-- The value of a counter after the charges, from zero. -/
def total (charges : List (Charge κ ι)) (i : ι) : Int :=
  (charges.map fun charge => if charge.counter = i then charge.amount else 0).sum

@[simp] theorem total_nil : total ([] : List (Charge κ ι)) i = 0 := rfl

@[simp] theorem total_cons (charge : Charge κ ι) : total (charge :: charges) i =
    (if charge.counter = i then charge.amount else 0) + total charges i := by
  rw [total, List.map_cons, List.sum_cons, total]

@[simp] theorem total_append (more : List (Charge κ ι)) :
    total (charges ++ more) i = total charges i + total more i := by
  rw [total, List.map_append, List.sum_append, total, total]

variable [DecidableEq κ]

/-- What an account contributes to a counter. -/
def tally (charges : List (Charge κ ι)) (k : κ) (i : ι) : Int :=
  (charges.map fun charge =>
    if charge.account = k ∧ charge.counter = i then charge.amount else 0).sum

@[simp] theorem tally_nil : tally ([] : List (Charge κ ι)) k i = 0 := rfl

@[simp] theorem tally_cons (charge : Charge κ ι) : tally (charge :: charges) k i =
    (if charge.account = k ∧ charge.counter = i then charge.amount else 0) +
      tally charges k i := by
  rw [tally, List.map_cons, List.sum_cons, tally]

@[simp] theorem tally_append (more : List (Charge κ ι)) :
    tally (charges ++ more) k i = tally charges k i + tally more k i := by
  rw [tally, List.map_append, List.sum_append, tally, tally]

/-- The charges to other accounts do not matter to a tally. -/
theorem tally_eq_zero (others : ∀ charge ∈ charges, charge.account ≠ k) :
    tally charges k i = 0 := by
  induction charges with
  | nil => rfl
  | cons charge rest ih =>
      rw [tally_cons, ih fun c mem => others c (List.mem_cons_of_mem _ mem),
        if_neg fun same => others charge List.mem_cons_self same.1, add_zero]

end Charge

end C4D.Foundations
