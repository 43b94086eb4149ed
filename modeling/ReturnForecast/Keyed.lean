/-!
# Values by key

A finite map from texts that remembers the order in which its keys first came. Main statements: what
a look-up finds after an insertion, and how the number of keys changes.
-/

namespace ReturnForecast

/-- Values by key, in the order in which the keys first came. -/
structure Keyed (β : Type) where
  entries : List (String × β) := []

namespace Keyed

variable {β : Type}

/-- The value of a key among entries. -/
def find? (key : String) : List (String × β) → Option β
  | [] => none
  | (k, value) :: rest => if k = key then some value else find? key rest

/-- Entries with a new value for a key, which keeps its place if it is there. -/
def put (key : String) (value : β) : List (String × β) → List (String × β)
  | [] => [(key, value)]
  | (k, old) :: rest => if k = key then (k, value) :: rest else (k, old) :: put key value rest

/-- The value of a key. -/
def get? (m : Keyed β) (key : String) : Option β := find? key m.entries

/-- Gives a key a value. -/
def insert (m : Keyed β) (key : String) (value : β) : Keyed β := ⟨put key value m.entries⟩

/-- The number of keys. -/
def size (m : Keyed β) : Nat := m.entries.length

/-- The keys, in the order in which they first came. -/
def keys (m : Keyed β) : List String := m.entries.map (·.1)

theorem find?_put (key other : String) (value : β) (entries : List (String × β)) :
    find? other (put key value entries) =
      if key = other then some value else find? other entries := by
  induction entries with
  | nil => simp [put, find?]
  | cons entry rest ih =>
    obtain ⟨k, old⟩ := entry
    simp only [put]
    split
    · next h => subst h; by_cases ho : k = other <;> simp [find?, ho]
    · next h =>
      by_cases ho : k = other
      · subst ho; simp [find?, Ne.symm h]
      · simp [find?, ho, ih]

@[simp] theorem get?_empty (key : String) : (⟨[]⟩ : Keyed β).get? key = none := rfl

theorem get?_insert (m : Keyed β) (key other : String) (value : β) :
    (m.insert key value).get? other = if key = other then some value else m.get? other :=
  find?_put key other value m.entries

@[simp] theorem get?_insert_self (m : Keyed β) (key : String) (value : β) :
    (m.insert key value).get? key = some value := by simp [get?_insert]

theorem get?_insert_of_ne (m : Keyed β) {key other : String} (value : β) (h : key ≠ other) :
    (m.insert key value).get? other = m.get? other := by simp [get?_insert, h]

theorem length_put (key : String) (value : β) (entries : List (String × β)) :
    (put key value entries).length =
      if (find? key entries).isSome then entries.length else entries.length + 1 := by
  induction entries with
  | nil => simp [put, find?]
  | cons entry rest ih =>
    obtain ⟨k, old⟩ := entry
    by_cases h : k = key
    · simp [put, find?, h]
    · simp only [put, find?, h, if_false, List.length_cons, ih]
      split <;> rfl

/-- A new key adds one to the size, a present one adds nothing. -/
theorem size_insert (m : Keyed β) (key : String) (value : β) :
    (m.insert key value).size = if (m.get? key).isSome then m.size else m.size + 1 :=
  length_put key value m.entries

end Keyed

end ReturnForecast
