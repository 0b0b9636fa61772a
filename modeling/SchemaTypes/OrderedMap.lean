set_option autoImplicit false

/-!
# Maps in insertion order

A finite map that remembers the order in which its keys came, as a list of pairs.  Writing to a key
that is present keeps its place; a new key goes to the end; erasing closes the gap; `take` cuts the
map back to its first entries, which undoes any run of insertions of new keys.
-/

namespace SchemaTypes

/-- A map from `κ` to `α` whose entries stand in insertion order. -/
abbrev OrderedMap (κ α : Type) := List (κ × α)

namespace OrderedMap

variable {κ α : Type} [DecidableEq κ]

/-- The value stored under `key`. -/
def get? (map : OrderedMap κ α) (key : κ) : Option α :=
  match map with
  | [] => none
  | (k, value) :: rest => if k = key then some value else get? rest key

/-- Whether `key` has a value. -/
def contains (map : OrderedMap κ α) (key : κ) : Bool := (map.get? key).isSome

/-- Writes `value` under `key`: in place if the key is present, at the end otherwise. -/
def insert (map : OrderedMap κ α) (key : κ) (value : α) : OrderedMap κ α :=
  match map with
  | [] => [(key, value)]
  | (k, old) :: rest => if k = key then (k, value) :: rest else (k, old) :: insert rest key value

/-- Removes `key`; the other entries keep their order. -/
def erase (map : OrderedMap κ α) (key : κ) : OrderedMap κ α :=
  match map with
  | [] => []
  | (k, value) :: rest => if k = key then rest else (k, value) :: erase rest key

/-- The keys, in insertion order. -/
def keys (map : OrderedMap κ α) : List κ := map.map Prod.fst

/-- The values, in insertion order. -/
def values (map : OrderedMap κ α) : List α := map.map Prod.snd

@[simp] theorem get?_nil (key : κ) : get? ([] : OrderedMap κ α) key = none := rfl

theorem get?_cons (k key : κ) (value : α) (rest : OrderedMap κ α) :
    get? ((k, value) :: rest) key = if k = key then some value else get? rest key := rfl

/-- Reading back what was written, and nothing else changes. -/
theorem get?_insert (map : OrderedMap κ α) (key other : κ) (value : α) :
    (map.insert key value).get? other = if key = other then some value else map.get? other := by
  induction map with
  | nil => simp [insert, get?_cons]
  | cons entry rest ih =>
    obtain ⟨k, old⟩ := entry
    by_cases h : k = key
    · subst h
      simp only [insert, if_true, get?_cons]
      split <;> rfl
    · simp only [insert, if_neg h, get?_cons, ih]
      by_cases h' : k = other
      · subst h'
        simp [Ne.symm h]
      · simp [h']

theorem get?_eq_none_iff (map : OrderedMap κ α) (key : κ) :
    map.get? key = none ↔ key ∉ map.keys := by
  induction map with
  | nil => simp [keys]
  | cons entry rest ih =>
    obtain ⟨k, old⟩ := entry
    by_cases h : k = key
    · subst h
      simp [get?_cons, keys]
    · simp only [get?_cons, if_neg h, ih]
      simp [keys, Ne.symm h]

/-- Writing to a new key puts it at the end. -/
theorem insert_eq_append (map : OrderedMap κ α) (key : κ) (value : α)
    (h : map.get? key = none) : map.insert key value = map ++ [(key, value)] := by
  induction map with
  | nil => rfl
  | cons entry rest ih =>
    obtain ⟨k, old⟩ := entry
    by_cases hk : k = key
    · simp [get?_cons, hk] at h
    · simp only [get?_cons, if_neg hk] at h
      simp [insert, hk, ih h]

end OrderedMap

end SchemaTypes
