import Mathlib.Data.List.Basic

/-!
# One read of a stream

A read into a buffer returns any positive number of the elements that are left, as many as fit, and
says whether the stream has ended. It may say so together with the last elements, or in a
read of its own that returns none. The buffer keeps what it held beyond the elements that
were returned.
-/

set_option autoImplicit false

namespace C4D.Foundations

variable {α : Type}

/-- A read of at most `capacity` elements of what is left of a stream. -/
structure Read (left : List α) (capacity : Nat) where
  count : Nat
  /-- The stream has ended. -/
  ended : Bool
  fits : count ≤ capacity
  available : count ≤ left.length
  progress : left ≠ [] → 0 < capacity → 0 < count
  atEnd : ended = true → count = left.length
  noticed : left = [] → ended = true

namespace Read

variable {left : List α} {capacity : Nat}

/-- A buffer that was filled with one element, after the read. -/
def buffer (blank : α) (read : Read left capacity) : List α :=
  left.take read.count ++ List.replicate (capacity - read.count) blank

/-- The read has returned all that was left, if nothing is missing. -/
def whole (fits : left.length ≤ capacity) (ended : Bool) (noticed : left = [] → ended = true) :
    Read left capacity where
  count := left.length
  ended := ended
  fits := fits
  available := Nat.le_refl _
  progress := fun nonempty _ => List.length_pos_iff.mpr nonempty
  atEnd := fun _ => rfl
  noticed := noticed

end Read

end C4D.Foundations
