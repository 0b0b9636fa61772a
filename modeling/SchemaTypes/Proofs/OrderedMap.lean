import Mathlib.Data.List.Nodup
import SchemaTypes.OrderedMap

set_option autoImplicit false

/-!
# Growing maps

How reading a map behaves when entries are appended to it, when one is overwritten by itself and
when the last one is erased, and where the entry stands that is read.  A map that another one is a
prefix of answers at least as much, which is all that an append-only table needs.
-/

namespace SchemaTypes.OrderedMap

variable {κ α : Type} [DecidableEq κ]

/-! ## Appending -/

/-- The first part of a map goes before the second. -/
theorem get?_append (first second : OrderedMap κ α) (key : κ) :
    get? (first ++ second) key = (first.get? key).or (get? second key) := by
  induction first with
  | nil => rfl
  | cons entry rest ih =>
    obtain ⟨k, value⟩ := entry
    rw [List.cons_append, get?_cons, get?_cons, ih]
    split <;> rfl

/-- What a map answers, every map that continues it answers too. -/
theorem get?_of_prefix {before after : OrderedMap κ α} (h : before <+: after) {key : κ} {value : α}
    (found : before.get? key = some value) : after.get? key = some value := by
  obtain ⟨rest, rfl⟩ := h
  rw [get?_append, found]
  rfl

theorem get?_append_of_none {first : OrderedMap κ α} {key : κ} (h : first.get? key = none)
    (second : OrderedMap κ α) : get? (first ++ second) key = get? second key := by
  rw [get?_append, h]
  rfl

@[simp] theorem get?_singleton (k key : κ) (value : α) :
    get? [(k, value)] key = if k = key then some value else none := rfl

/-- What is appended under a new key is found there. -/
theorem get?_append_singleton {map : OrderedMap κ α} {key : κ} (h : map.get? key = none)
    (value : α) : get? (map ++ [(key, value)]) key = some value := by
  rw [get?_append_of_none h, get?_singleton, if_pos rfl]

/-- What is appended under a key is found only under that key. -/
theorem get?_append_singleton_eq {map : OrderedMap κ α} {key other : κ} {value found : α}
    (h : get? (map ++ [(key, value)]) other = some found) :
    map.get? other = some found ∨ (key = other ∧ value = found) := by
  rw [get?_append, get?_singleton] at h
  cases hmap : map.get? other with
  | some old =>
    rw [hmap] at h
    exact Or.inl h
  | none =>
    rw [hmap, Option.none_or] at h
    split at h
    · rename_i hkey
      exact Or.inr ⟨hkey, Option.some.inj h⟩
    · cases h

/-! ## Membership -/

theorem mem_of_get? {map : OrderedMap κ α} {key : κ} {value : α} (h : map.get? key = some value) :
    (key, value) ∈ map := by
  induction map with
  | nil => simp at h
  | cons entry rest ih =>
    obtain ⟨k, old⟩ := entry
    rw [get?_cons] at h
    split at h
    · rename_i hk
      cases h
      rw [hk]
      exact List.mem_cons_self
    · exact List.mem_cons_of_mem _ (ih h)

/-- In a map without repeated keys every entry is found under its key. -/
theorem get?_of_mem {map : OrderedMap κ α} (nodup : map.keys.Nodup) {key : κ} {value : α}
    (h : (key, value) ∈ map) : map.get? key = some value := by
  induction map with
  | nil => simp at h
  | cons entry rest ih =>
    obtain ⟨k, old⟩ := entry
    have hnodup := List.nodup_cons.mp nodup
    rw [get?_cons]
    rcases List.mem_cons.mp h with heq | hrest
    · cases heq
      rw [if_pos rfl]
    · have hk : k ≠ key := by
        rintro rfl
        have hkeys := List.mem_map_of_mem (f := Prod.fst) hrest
        exact hnodup.1 hkeys
      rw [if_neg hk]
      exact ih hnodup.2 hrest

omit [DecidableEq κ] in
@[simp] theorem keys_append (first second : OrderedMap κ α) :
    keys (first ++ second) = first.keys ++ keys second := List.map_append

/-- A new key keeps the keys distinct. -/
theorem nodup_keys_append_singleton {map : OrderedMap κ α} (nodup : map.keys.Nodup) {key : κ}
    (h : map.get? key = none) (value : α) : (keys (map ++ [(key, value)])).Nodup := by
  rw [keys_append]
  refine nodup.append (List.nodup_singleton key) ?_
  exact List.disjoint_singleton.mpr ((get?_eq_none_iff map key).mp h)

/-! ## Places -/

/-- What is found under a key stands at the first place that has the key. -/
theorem get?_eq_bind_findIdx? (map : OrderedMap κ α) (key : κ) :
    map.get? key =
      (map.findIdx? fun entry => entry.1 = key).bind fun place => map[place]?.map Prod.snd := by
  induction map with
  | nil => rfl
  | cons entry rest ih =>
    obtain ⟨first, value⟩ := entry
    rw [get?_cons, List.findIdx?_cons]
    by_cases hkey : first = key
    · simp [hkey]
    · simp only [hkey, if_false, decide_false, Bool.false_eq_true]
      rw [ih, Option.bind_map]
      rfl

/-- Where keys differ, every place is the first that has its key. -/
theorem findIdx?_of_nodup {map : OrderedMap κ α} (hnodup : map.keys.Nodup) {place : Nat}
    {entry : κ × α} (hentry : map[place]? = some entry) :
    (map.findIdx? fun other => other.1 = entry.1) = some place := by
  obtain ⟨hlt, rfl⟩ := List.getElem?_eq_some_iff.mp hentry
  refine List.findIdx?_eq_some_iff_getElem.mpr ⟨hlt, decide_eq_true rfl, fun earlier hearlier => ?_⟩
  intro hsame
  have hbound : earlier < map.length := Nat.lt_trans hearlier hlt
  have hkeys : map.keys[earlier]? = map.keys[place]? := by
    rw [keys, List.getElem?_map, List.getElem?_map, List.getElem?_eq_getElem hbound,
      List.getElem?_eq_getElem hlt, Option.map_some, Option.map_some, of_decide_eq_true hsame]
  rw [← List.length_map (f := Prod.fst)] at hbound
  exact absurd ((List.getElem?_inj hbound hnodup).mp hkeys) (Nat.ne_of_lt hearlier)

/-! ## Writing and erasing -/

/-- Writing what is there already changes nothing. -/
theorem insert_eq_self {map : OrderedMap κ α} {key : κ} {value : α}
    (h : map.get? key = some value) : map.insert key value = map := by
  induction map with
  | nil => simp at h
  | cons entry rest ih =>
    obtain ⟨k, old⟩ := entry
    rw [get?_cons] at h
    by_cases hk : k = key
    · rw [if_pos hk] at h
      cases h
      simp [insert, hk]
    · rw [if_neg hk] at h
      simp [insert, hk, ih h]

/-- Writing keeps the keys distinct. -/
theorem nodup_keys_insert {map : OrderedMap κ α} (nodup : map.keys.Nodup) (key : κ) (value : α) :
    (map.insert key value).keys.Nodup := by
  have hkeys : ∀ map : OrderedMap κ α, map.get? key ≠ none →
      (map.insert key value).keys = map.keys := by
    intro map
    induction map with
    | nil => simp
    | cons entry rest ih =>
      obtain ⟨k, old⟩ := entry
      intro h
      rw [get?_cons] at h
      by_cases hk : k = key
      · simp [insert, keys, hk]
      · rw [if_neg hk] at h
        have hrest := ih h
        simp only [keys] at hrest
        simp [insert, keys, hk, hrest]
  cases h : map.get? key with
  | none =>
    rw [insert_eq_append map key value h]
    exact nodup_keys_append_singleton nodup h value
  | some old =>
    rw [hkeys map (by simp [h])]
    exact nodup

/-- What stands in a map that was written to stood there before, or was written. -/
theorem eq_or_mem_of_mem_insert {map : OrderedMap κ α} {key : κ} {value : α} {entry : κ × α}
    (h : entry ∈ map.insert key value) : entry = (key, value) ∨ entry ∈ map := by
  induction map with
  | nil => exact Or.inl (List.mem_singleton.mp h)
  | cons first rest ih =>
    obtain ⟨k, old⟩ := first
    rw [insert] at h
    split at h
    · rename_i hk
      rcases List.mem_cons.mp h with rfl | hrest
      · exact Or.inl (by rw [hk])
      · exact Or.inr (List.mem_cons_of_mem _ hrest)
    · rcases List.mem_cons.mp h with rfl | hrest
      · exact Or.inr List.mem_cons_self
      · exact (ih hrest).imp_right (List.mem_cons_of_mem _)

/-- Writing to a new key, or the same again, only continues the map. -/
theorem prefix_insert {map : OrderedMap κ α} {key : κ} {value : α}
    (h : map.get? key = none ∨ map.get? key = some value) : map <+: map.insert key value := by
  rcases h with absent | present
  · rw [insert_eq_append map key value absent]
    exact List.prefix_append _ _
  · exact ⟨[], by rw [List.append_nil, insert_eq_self present]⟩

/-- Erasing a key leaves the others as they are. -/
theorem get?_erase_of_ne {map : OrderedMap κ α} {key other : κ} (h : other ≠ key) :
    (map.erase key).get? other = map.get? other := by
  induction map with
  | nil => rfl
  | cons entry rest ih =>
    obtain ⟨k, old⟩ := entry
    by_cases hk : k = key
    · subst hk
      simp only [erase, if_true, get?_cons, if_neg (Ne.symm h)]
    · simp only [erase, if_neg hk, get?_cons, ih]

theorem erase_sublist (map : OrderedMap κ α) (key : κ) : (map.erase key).Sublist map := by
  induction map with
  | nil => exact List.Sublist.refl _
  | cons entry rest ih =>
    obtain ⟨k, old⟩ := entry
    by_cases hk : k = key
    · simp only [erase, if_pos hk]
      exact List.sublist_cons_self _ rest
    · simp only [erase, if_neg hk]
      exact ih.cons_cons _

theorem keys_erase_sublist (map : OrderedMap κ α) (key : κ) :
    (map.erase key).keys.Sublist map.keys := (erase_sublist map key).map Prod.fst

/-- Erasing the last entry, whose key came last. -/
theorem erase_append_singleton {map : OrderedMap κ α} {key : κ} (h : map.get? key = none)
    (value : α) : erase (map ++ [(key, value)]) key = map := by
  induction map with
  | nil => simp [erase]
  | cons entry rest ih =>
    obtain ⟨k, old⟩ := entry
    rw [get?_cons] at h
    by_cases hk : k = key
    · simp [hk] at h
    · rw [if_neg hk] at h
      simp [erase, hk, ih h]

end SchemaTypes.OrderedMap
