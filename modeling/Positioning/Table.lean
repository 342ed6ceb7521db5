/-!
# Tables

A table maps keys to values and keeps the keys in the order in which they first came. Its view is
`get?`; `get?_put` says what a write does to it.
-/

namespace Positioning

/-- A table of values by key. -/
structure Table (κ α : Type) where
  entries : List (κ × α)

namespace Table

variable {κ α : Type} [DecidableEq κ]

/-- The table without entries. -/
def empty : Table κ α :=
  ⟨[]⟩

/-- The value of the first entry with a key. -/
def find? (key : κ) : List (κ × α) → Option α
  | [] => none
  | (k, a) :: rest => if k = key then some a else find? key rest

/-- The entries with the value of a key replaced, or with an entry added behind them. -/
def replace (key : κ) (value : α) : List (κ × α) → List (κ × α)
  | [] => [(key, value)]
  | (k, a) :: rest => if k = key then (k, value) :: rest else (k, a) :: replace key value rest

/-- The value of a key. -/
def get? (t : Table κ α) (key : κ) : Option α :=
  find? key t.entries

/-- The table with a value written under a key. -/
def put (t : Table κ α) (key : κ) (value : α) : Table κ α :=
  ⟨replace key value t.entries⟩

/-- The keys of a table, in the order in which they first came. -/
def keys (t : Table κ α) : List κ :=
  t.entries.map Prod.fst

/-- A write is seen under its key and nowhere else. -/
theorem get?_put (t : Table κ α) (key key' : κ) (value : α) :
    (t.put key value).get? key' = if key = key' then some value else t.get? key' := by
  obtain ⟨entries⟩ := t
  simp only [get?, put]
  induction entries with
  | nil => simp [replace, find?]
  | cons entry rest ih =>
    obtain ⟨k, a⟩ := entry
    by_cases h : k = key
    · subst h
      by_cases h' : k = key' <;> simp [replace, find?, h']
    · by_cases h' : k = key'
      · subst h'
        have hne : ¬ key = k := fun e => h e.symm
        simp [replace, find?, h, hne]
      · simp [replace, find?, h, h', ih]

/-- The keys of a table are those that have a value. -/
theorem mem_keys_iff (t : Table κ α) (key : κ) : key ∈ t.keys ↔ (t.get? key).isSome = true := by
  obtain ⟨entries⟩ := t
  simp only [get?, keys]
  induction entries with
  | nil => simp [find?]
  | cons entry rest ih =>
    obtain ⟨k, a⟩ := entry
    by_cases h : k = key
    · simp [find?, h]
    · have hne : ¬ key = k := fun e => h e.symm
      simp [find?, h, hne, ← ih]

end Table

end Positioning
