/-!
# Tables

A table maps names to values and remembers the order in which names were first entered: it is
a list of entries with distinct names. Setting a name replaces its value in place, or appends a
new entry at the end; the order of names is therefore the order of first entry.
-/

namespace Federation

/-- Entries from names to values, in order of first entry. -/
abbrev Table (α : Type) := List (String × α)

namespace Table

variable {α : Type}

/-- The value of a name, if it has an entry. -/
def find? (t : Table α) (k : String) : Option α :=
  match t with
  | [] => none
  | (k', v) :: rest => if k' == k then some v else find? rest k

/-- Whether a name has an entry. -/
def contains (t : Table α) (k : String) : Bool := (t.find? k).isSome

/-- Gives a name a value: in place if it has an entry, at the end otherwise. -/
def set (t : Table α) (k : String) (v : α) : Table α :=
  match t with
  | [] => [(k, v)]
  | (k', v') :: rest => if k' == k then (k, v) :: rest else (k', v') :: set rest k v

/-- Changes the value of a name, starting from a default if it has no entry yet. -/
def update (t : Table α) (k : String) (d : α) (f : α → α) : Table α :=
  t.set k (f ((t.find? k).getD d))

/-- The names in order. -/
def keys (t : Table α) : List String := t.map (·.1)

/-- Setting a name makes it map to the new value. -/
@[simp] theorem find?_set_self (t : Table α) (k : String) (v : α) : (t.set k v).find? k = some v := by
  induction t with
  | nil => simp [set, find?]
  | cons e rest ih =>
    obtain ⟨k', v'⟩ := e
    by_cases h : k' = k
    · subst h; simp [set, find?]
    · simp [set, find?, h, ih]

/-- Setting a name leaves every other name's value alone. -/
theorem find?_set_of_ne (t : Table α) {k j : String} (v : α) (h : k ≠ j) :
    (t.set k v).find? j = t.find? j := by
  induction t with
  | nil => simp [set, find?, h]
  | cons e rest ih =>
    obtain ⟨k', v'⟩ := e
    by_cases hk : k' = k
    · subst hk; simp [set, find?, h]
    · simp only [set, beq_iff_eq, hk, if_false, find?]
      split <;> simp_all

end Table

end Federation
