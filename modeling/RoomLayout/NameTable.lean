/-!
# Name tables

Finite maps from names to values. A name has at most one value, the one it was
given last.
-/

namespace RoomLayout

/-- A finite map from names; no name occurs twice. -/
structure NameTable (β : Type) where
  entries : List (String × β)

namespace NameTable

variable {β : Type}

/-- The table without names. -/
def empty : NameTable β := ⟨[]⟩

/-- The value of a name. -/
def get? (table : NameTable β) (name : String) : Option β := table.entries.lookup name

/-- Give a name a value, replacing an earlier one. -/
def insert (table : NameTable β) (name : String) (value : β) : NameTable β :=
  ⟨(name, value) :: table.entries.filter fun entry => entry.1 != name⟩

/-- Without the entries of one name, the other names keep their meaning. -/
theorem lookup_filter_ne {name key : String} (different : key ≠ name)
    (entries : List (String × β)) :
    (entries.filter fun entry => entry.1 != name).lookup key = entries.lookup key := by
  induction entries with
  | nil => rfl
  | cons entry rest inductionHypothesis =>
    rw [List.filter_cons]
    split
    · rw [List.lookup_cons, List.lookup_cons, inductionHypothesis]
    · next dropped =>
      obtain rfl : entry.1 = name := by simpa using dropped
      rw [List.lookup_cons, inductionHypothesis, beq_eq_false_iff_ne.mpr different]

/-- A name means what it was given last. -/
theorem get?_insert (table : NameTable β) (name key : String) (value : β) :
    (table.insert name value).get? key = if key = name then some value else table.get? key := by
  simp only [get?, insert, List.lookup_cons]
  split
  · next same => rw [if_pos (beq_iff_eq.mp same)]
  · next different =>
    rw [beq_eq_false_iff_ne] at different
    rw [if_neg different, lookup_filter_ne different]

theorem get?_insert_self (table : NameTable β) (name : String) (value : β) :
    (table.insert name value).get? name = some value := by
  rw [get?_insert, if_pos rfl]

/-- Whether a name has a value. -/
def contains (table : NameTable β) (name : String) : Bool := (table.get? name).isSome

/-- The number of names. -/
def size (table : NameTable β) : Nat := table.entries.length

end NameTable

end RoomLayout
