import C4D.Foundations.Table

/-!
# JSON values and their decoding into records

JSON values as a writer emits them and a reader receives them, without their
text. Numbers are the ones without fraction and exponent.

A decoder writes a JSON value into a variable of its type, as the decoder of
Go's standard library does: it starts from the value the variable has, and
`null` leaves it alone unless the variable is a pointer or a map. A value of
another kind than the type expects is an error. The fields of a record are
decoded in the order of the object; a key without a field is skipped, and a
field without a key keeps its value. (Go goes on after the first mismatch and
reports it at the end, which leads to an error as well.)

An optional value that is written as `null` when absent is read back through a
pointer (`pointer_ofOption`), and an optional table of strings through a map
(`stringMap_ofOption`).
-/

set_option autoImplicit false

namespace C4D.Foundations

/-- A JSON value. -/
inductive Json where
  | null
  | bool (b : Bool)
  | int (n : Int)
  | str (s : String)
  | arr (elements : List Json)
  | obj (fields : List (String × Json))

namespace Json

/-- An absent value is written as `null`. -/
def ofOption {α : Type} (f : α → Json) : Option α → Json
  | none => .null
  | some a => f a

/-- A table of strings is written as an object, in the order of its entries. -/
def ofTable (t : Table String String) : Json := .obj (t.entries.map fun e => (e.1, .str e.2))

end Json

/-! ## Phrases in a text -/

/-- The phrase occurs in the text. -/
def Mentions (text phrase : String) : Prop := phrase.toList <:+: text.toList

instance (text phrase : String) : Decidable (Mentions text phrase) :=
  inferInstanceAs (Decidable (_ <:+: _))

namespace Json

mutual

/-- The text of the value contains a phrase without punctuation. -/
def mentions (phrase : String) : Json → Bool
  | .str s => Mentions s phrase
  | .arr elements => elementsMention phrase elements
  | .obj fields => fieldsMention phrase fields
  | .null => false
  | .bool _ => false
  | .int _ => false

def elementsMention (phrase : String) : List Json → Bool
  | [] => false
  | v :: rest => v.mentions phrase || elementsMention phrase rest

def fieldsMention (phrase : String) : List (String × Json) → Bool
  | [] => false
  | (k, v) :: rest => Mentions k phrase || v.mentions phrase || fieldsMention phrase rest

end

end Json

/-! ## Decoders -/

/-- A decoder writes a JSON value into a variable. -/
abbrev Decoder (α : Type) := α → Json → Option α

/-- A field of a record, with the decoder of its type. -/
structure Field (α : Type) where
  name : String
  decode : Decoder α

namespace Decoder

variable {α β γ : Type}

def string : Decoder String
  | current, .null => some current
  | _, .str s => some s
  | _, _ => none

/-- Numbers of 64 bits with a sign. -/
def int64 : Decoder Int
  | current, .null => some current
  | _, .int n => if -(2 ^ 63) ≤ n ∧ n < 2 ^ 63 then some n else none
  | _, _ => none

/-- A pointer is set to nil, or to a variable that holds the decoded value. -/
def pointer (zero : α) (d : Decoder α) : Decoder (Option α)
  | _, .null => some none
  | current, v => (d (current.getD zero) v).map some

/-- The entries of an object are added to a map of strings. -/
def addEntries : Table String String → List (String × Json) → Option (Table String String)
  | t, [] => some t
  | t, (k, v) :: rest => (string "" v).bind fun s => addEntries (t.insert k s) rest

/-- A map of strings is set to nil, or extended by the entries of an object. -/
def stringMap : Decoder (Option (Table String String))
  | _, .null => some none
  | current, .obj entries => (addEntries (current.getD ∅) entries).map some
  | _, _ => none

/-- The fields of a record are decoded one after the other. -/
def decodeFields (fields : List (Field α)) : α → List (String × Json) → Option α
  | a, [] => some a
  | a, (k, v) :: rest =>
      match fields.find? fun f => f.name == k with
      | some f => (f.decode a v).bind fun a => decodeFields fields a rest
      | none => decodeFields fields a rest

/-- A record. -/
def record (fields : List (Field α)) : Decoder α
  | a, .null => some a
  | a, .obj entries => decodeFields fields a entries
  | _, _ => none

/-- The field with this name, read and written by these functions. -/
def field (name : String) (d : Decoder β) (get : α → β) (set : α → β → α) : Field α where
  name := name
  decode a v := (d (get a) v).map (set a)

/-! ## Reading back what was written -/

section Fields

variable {fields : List (Field α)} {a : α} {k : String} {v : Json} {rest : List (String × Json)}
  {d : Decoder β} {get : α → β} {set : α → β → α}

/-- An entry with a field is read into it. -/
theorem decodeFields_cons {b : β}
    (found : (fields.find? fun f => f.name == k) = some (field k d get set))
    (reads : d (get a) v = some b) :
    decodeFields fields a ((k, v) :: rest) = decodeFields fields (set a b) rest := by
  rw [decodeFields, found]
  simp only [field, reads, Option.map_some, Option.bind_some]

/-- An entry that the decoder of its field refuses is an error. -/
theorem decodeFields_refused
    (found : (fields.find? fun f => f.name == k) = some (field k d get set))
    (refuses : d (get a) v = none) : decodeFields fields a ((k, v) :: rest) = none := by
  rw [decodeFields, found]
  simp only [field, refuses, Option.map_none, Option.bind_none]

end Fields

theorem string_str (current s : String) : string current (.str s) = some s := rfl

theorem pointer_null (zero : α) (d : Decoder α) (current : Option α) :
    pointer zero d current .null = some none := rfl

theorem record_null (fields : List (Field α)) (a : α) : record fields a .null = some a := rfl

theorem pointer_of_ne_null {zero : α} {d : Decoder α} {current : Option α} {v : Json}
    (present : v ≠ .null) : pointer zero d current v = (d (current.getD zero) v).map some := by
  cases v with
  | null => exact absurd rfl present
  | _ => rfl

theorem pointer_ofOption {write : γ → Json} {read : γ → α} {zero : α} {d : Decoder α}
    (present : ∀ c, write c ≠ .null) (reads : ∀ c, d zero (write c) = some (read c))
    (o : Option γ) : pointer zero d none (.ofOption write o) = some (o.map read) := by
  cases o with
  | none => rfl
  | some c => rw [Json.ofOption, pointer_of_ne_null (present c), Option.getD_none, reads]; rfl

theorem int64_int {n : Int} (lower : -(2 ^ 63) ≤ n) (upper : n < 2 ^ 63) (current : Int) :
    int64 current (.int n) = some n := if_pos ⟨lower, upper⟩

end Decoder

/-! ## Tables of strings -/

namespace Table

/-- The table with the entries of a list added one after the other. -/
def addAll (t : Table String String) (entries : List (Sigma fun _ : String => String)) :
    Table String String :=
  entries.foldl (fun t e => t.insert e.1 e.2) t

theorem lookup_addAll (t : Table String String)
    {entries : List (Sigma fun _ : String => String)} (nodup : entries.NodupKeys) (k : String) :
    (t.addAll entries).lookup k = (entries.dlookup k).or (t.lookup k) := by
  induction entries generalizing t with
  | nil => rfl
  | cons e rest ih =>
      rw [List.nodupKeys_cons] at nodup
      rw [addAll, List.foldl_cons]
      apply (ih (t.insert e.1 e.2) nodup.2).trans
      by_cases same : k = e.1
      · subst same
        rw [List.dlookup_eq_none.mpr nodup.1, AList.lookup_insert, List.dlookup_cons_eq]
        rfl
      · rw [AList.lookup_insert_ne same, List.dlookup_cons_ne _ _ same]

/-- The table read back from what was written. -/
def reread (t : Table String String) : Table String String := addAll ∅ t.entries

theorem lookup_reread (t : Table String String) (k : String) :
    t.reread.lookup k = t.lookup k := by
  apply (lookup_addAll ∅ t.nodupKeys k).trans
  rw [AList.lookup_empty, Option.or_none]
  rfl

end Table

namespace Decoder

theorem addEntries_map (t : Table String String)
    (entries : List (Sigma fun _ : String => String)) :
    addEntries t (entries.map fun e => (e.1, .str e.2)) = some (t.addAll entries) := by
  induction entries generalizing t with
  | nil => rfl
  | cons e rest ih => exact ih (t.insert e.1 e.2)

/-- A map that was nil reads a table back, whether or not there is one. -/
theorem stringMap_ofOption (o : Option (Table String String)) :
    stringMap none (.ofOption .ofTable o) = some (o.map Table.reread) := by
  cases o with
  | none => rfl
  | some t =>
      rw [Json.ofOption, Json.ofTable, stringMap, Option.getD_none, addEntries_map]
      rfl

end Decoder

end C4D.Foundations
