/-! Lists of keyed entries in which a later entry for a key replaces the earlier one in place. -/

namespace Scratchpad

namespace Bindings

variable {κ α : Type} [DecidableEq κ]

/-- Replaces the entry of a key, or adds one at the end. -/
def insert (key : κ) (value : α) : List (κ × α) → List (κ × α)
  | [] => [(key, value)]
  | entry :: rest =>
    if entry.1 = key then (key, value) :: rest else entry :: insert key value rest

/-- The entries of a list, each key once. -/
def ofList (entries : List (κ × α)) : List (κ × α) :=
  entries.foldl (fun known entry => insert entry.1 entry.2 known) []

/-- Inserting an entry changes the value of its key alone, by induction on the entries. -/
theorem lookup_insert (key other : κ) (value : α) (entries : List (κ × α))
    : (insert key value entries).lookup other
      = if other = key then some value else entries.lookup other := by
  induction entries with
  | nil =>
      by_cases same : other = key
      · simp [insert, same]
      · simp [insert, List.lookup_cons, beq_false_of_ne same, same]
  | cons entry rest ih =>
      obtain ⟨held, old⟩ := entry
      by_cases replaced : held = key
      · subst held
        by_cases same : other = key
        · simp [insert, same]
        · simp [insert, List.lookup_cons, beq_false_of_ne same, same]
      · by_cases same : other = held
        · simp [insert, replaced, same]
        · simp [insert, List.lookup_cons, beq_false_of_ne same, replaced, ih]

end Bindings

end Scratchpad
