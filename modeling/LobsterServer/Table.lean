set_option autoImplicit false

/-!
# Tables

A table holds one value for each of finitely many keys, the most recently written first.  Its
view is `get?`: each operation is known by what it does to that view.
-/

namespace LobsterServer

/-- Values under textual keys. -/
abbrev Table (α : Type) := List (String × α)

namespace Table

variable {α : Type}

/-- The value under a key. -/
def get? (t : Table α) (key : String) : Option α :=
  match t with
  | [] => none
  | (k, v) :: rest => if k = key then some v else get? rest key

/-- The table without a key. -/
def erase (t : Table α) (key : String) : Table α :=
  match t with
  | [] => []
  | (k, v) :: rest => if k = key then erase rest key else (k, v) :: erase rest key

/-- The table with `value` under `key`, whatever was there before. -/
def insert (t : Table α) (key : String) (value : α) : Table α := (key, value) :: t.erase key

/-- The keys of a table. -/
def keys (t : Table α) : List String := t.map Prod.fst

/-- Whether a key has a value. -/
def has (t : Table α) (key : String) : Bool := (t.get? key).isSome

@[simp] theorem get?_nil (key : String) : get? ([] : Table α) key = none := rfl

@[simp] theorem get?_erase_self (t : Table α) (key : String) : (t.erase key).get? key = none := by
  induction t with
  | nil => rfl
  | cons entry rest ih =>
    obtain ⟨k, v⟩ := entry
    by_cases h : k = key <;> simp [erase, get?, h, ih]

theorem get?_erase_of_ne (t : Table α) {key other : String} (h : other ≠ key) :
    (t.erase key).get? other = t.get? other := by
  induction t with
  | nil => rfl
  | cons entry rest ih =>
    obtain ⟨k, v⟩ := entry
    by_cases hk : k = key
    · simp [erase, get?, hk, ih, Ne.symm h]
    · by_cases ho : k = other <;> simp [erase, get?, hk, ho, ih, h]

@[simp] theorem get?_insert_self (t : Table α) (key : String) (value : α) :
    (t.insert key value).get? key = some value := by
  simp [insert, get?]

theorem get?_insert_of_ne (t : Table α) {key other : String} (value : α) (h : other ≠ key) :
    (t.insert key value).get? other = t.get? other := by
  simp [insert, get?, Ne.symm h, get?_erase_of_ne t h]

/-- A key that has a value is one of the keys. -/
theorem mem_keys_of_get? {t : Table α} {key : String} {value : α} (h : t.get? key = some value) :
    key ∈ t.keys := by
  induction t with
  | nil => cases h
  | cons entry rest ih =>
    by_cases hkey : entry.1 = key
    · exact hkey ▸ List.mem_cons_self
    · simp only [get?, hkey, if_false] at h
      exact List.mem_cons_of_mem _ (ih h)

end Table

end LobsterServer
