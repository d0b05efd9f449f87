set_option autoImplicit false

namespace StoryScript

structure Dictionary (α : Type) where
  entries : List (String × α) := []

namespace Dictionary

variable {α : Type}

def lookup (name : String) : List (String × α) → Option α
  | [] => none
  | (key, value) :: rest => if name = key then some value else lookup name rest

-- Replaces the entry of a name, or adds one before the first greater name.
def put (name : String) (value : α) : List (String × α) → List (String × α)
  | [] => [(name, value)]
  | (key, old) :: rest =>
    if name = key then (name, value) :: rest
    else if name < key then (name, value) :: (key, old) :: rest
    else (key, old) :: put name value rest

def get? (d : Dictionary α) (name : String) : Option α := lookup name d.entries

def insert (d : Dictionary α) (name : String) (value : α) : Dictionary α :=
  ⟨put name value d.entries⟩

def names (d : Dictionary α) : List String := d.entries.map Prod.fst

theorem lookup_put (name other : String) (value : α) (entries : List (String × α)) :
    lookup other (put name value entries) =
      if other = name then some value else lookup other entries := by
  induction entries with
  | nil => rfl
  | cons entry rest ih =>
    obtain ⟨key, old⟩ := entry
    unfold put
    by_cases same : name = key
    · subst same
      by_cases h : other = name <;> simp [lookup, h]
    · by_cases less : name < key
      · simp [lookup, same, less]
      · by_cases h : other = key
        · have differs : key ≠ name := fun eq => same eq.symm
          subst h
          simp [lookup, same, less, differs]
        · simp [lookup, same, less, h, ih]

@[simp] theorem get?_insert (d : Dictionary α) (name other : String) (value : α) :
    (d.insert name value).get? other = if other = name then some value else d.get? other :=
  lookup_put name other value d.entries

theorem get?_insert_self (d : Dictionary α) (name : String) (value : α) :
    (d.insert name value).get? name = some value := by
  simp

end Dictionary

end StoryScript
