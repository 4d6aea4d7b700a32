/-! Named entries in insertion order. A name occurs once; giving it a new value keeps its place.
Names are strings, or the texts that name the members of objects. -/
namespace TableServer

abbrev Entries (α : Type) := List (String × α)

namespace Entries

variable {κ α : Type}

def names (entries : List (κ × α)) : List κ :=
  entries.map Prod.fst

variable [DecidableEq κ]

def find? (name : κ) : List (κ × α) → Option α
  | [] => none
  | (k, v) :: rest => if k = name then some v else find? name rest

def has (name : κ) (entries : List (κ × α)) : Bool :=
  (find? name entries).isSome

/-- Replaces the value at its place, or adds the entry at the end. -/
def put (name : κ) (value : α) : List (κ × α) → List (κ × α)
  | [] => [(name, value)]
  | (k, v) :: rest => if k = name then (k, value) :: rest else (k, v) :: put name value rest

def erase (name : κ) : List (κ × α) → List (κ × α)
  | [] => []
  | (k, v) :: rest => if k = name then rest else (k, v) :: erase name rest

def merge (entries patch : List (κ × α)) : List (κ × α) :=
  patch.foldl (fun acc (k, v) => put k v acc) entries

/-- Entries from pairs in which the last pair of a name gives its value. -/
def ofPairs (pairs : List (κ × α)) : List (κ × α) :=
  merge [] pairs

@[simp] theorem find?_put_self (name : κ) (value : α) (entries : List (κ × α)) :
    find? name (put name value entries) = some value := by
  induction entries with
  | nil => simp [put, find?]
  | cons e rest ih =>
      obtain ⟨k, v⟩ := e
      by_cases h : k = name
      · simp [put, find?, h]
      · simp [put, find?, h, ih]

theorem find?_put_of_ne {name other : κ} (h : other ≠ name) (value : α)
    (entries : List (κ × α)) : find? other (put name value entries) = find? other entries := by
  induction entries with
  | nil => simp [put, find?, Ne.symm h]
  | cons e rest ih =>
      obtain ⟨k, v⟩ := e
      by_cases hk : k = name
      · simp [put, find?, hk, Ne.symm h]
      · by_cases ho : k = other
        · simp [put, find?, ho, h]
        · simp [put, find?, hk, ho, ih]

theorem names_put (name : κ) (value : α) (entries : List (κ × α)) :
    names (put name value entries) =
      if name ∈ names entries then names entries else names entries ++ [name] := by
  induction entries with
  | nil => simp [put, names]
  | cons e rest ih =>
      obtain ⟨k, v⟩ := e
      by_cases h : k = name
      · simp [put, names, h]
      · have h' : ¬name = k := fun g => h g.symm
        simp only [names] at ih
        simp only [put, h, names, List.map_cons, List.mem_cons, h', false_or, if_false, ih]
        split <;> simp_all

end Entries

end TableServer
