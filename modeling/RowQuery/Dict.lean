/-!
Maps from strings, as lists of entries in ascending order of their keys.

`insert` keeps the order and replaces the value of a key that is there, so of several entries with
one key given to `ofList` the last one stays.
-/

namespace RowQuery

/-- A map from strings: its entries in ascending order of the keys, no key twice. -/
abbrev Dict (α : Type) := List (String × α)

namespace Dict

variable {α β : Type}

/-- The value of a key. -/
def find? : Dict α → String → Option α
  | [], _ => none
  | (k, v) :: rest, key => if k = key then some v else find? rest key

/-- Puts a value under a key, in the place of the old value if there is one. -/
def insert (key : String) (value : α) : Dict α → Dict α
  | [] => [(key, value)]
  | (k, v) :: rest =>
    if key < k then (key, value) :: (k, v) :: rest
    else if key = k then (key, value) :: rest
    else (k, v) :: insert key value rest

/-- The map of a list of entries; of entries with one key the last one counts. -/
def ofList (entries : List (String × α)) : Dict α :=
  entries.foldl (fun d e => insert e.1 e.2 d) []

/-- The keys, ascending. -/
def keys (d : Dict α) : List String := d.map (·.1)

/-- Applies a function to every value. -/
def mapValues (f : α → β) (d : Dict α) : Dict β := d.map fun e => (e.1, f e.2)

/-- Keys ascend strictly. -/
def Sorted (d : Dict α) : Prop := d.Pairwise fun a b => a.1 < b.1

@[simp] theorem find?_nil (key : String) : find? ([] : Dict α) key = none := rfl

theorem find?_cons (k key : String) (v : α) (rest : Dict α) :
    find? ((k, v) :: rest) key = if k = key then some v else find? rest key := rfl

/-- Looking up after an insertion finds the new value under its key and the old one elsewhere. -/
theorem find?_insert (key other : String) (value : α) (d : Dict α) :
    find? (insert key value d) other = if key = other then some value else find? d other := by
  induction d with
  | nil => simp [insert, find?]
  | cons e rest ih =>
    obtain ⟨k, v⟩ := e
    simp only [insert]
    split
    · simp [find?]
    · split
      · rename_i hk; subst hk; simp only [find?]; split <;> rfl
      · rename_i hk
        simp only [find?, ih]
        by_cases h1 : k = other
        · subst h1; simp [hk]
        · simp [h1]

end Dict
end RowQuery
