import Mathlib.Data.List.Induction
import SchemaTypes.Operation.Basic
import SchemaTypes.Proofs.Enumeration
import SchemaTypes.Proofs.Operation.Chains

set_option autoImplicit false

/-!
# Parameters that apply

The parameters of a path item and those of an operation are one sequence of entries, one for each
item of their lists that leads somewhere.  Of the entries with one key the last one applies, where
the first one stands, and every entry without a key applies where it stands.  An entry of the
operation thereby takes the place of the path item's entry with its key.
-/

namespace SchemaTypes

namespace ParameterEntry

/-! ## Entries of a list -/

/-- What a place in a list of parameters is read as: the parameter that it leads to, known by its
string members `name` and `in` if it has both, or the fault for which it leads nowhere. -/
inductive Reads (store : Store) (r : Reference) : ParameterEntry → Prop
  | known {place : Reference} {node : Json} {name passing : String}
      (leads : store.follow r = .ok (some place)) (resolves : store.resolve place = .ok node)
      (named : node.stringMember? "name" = some name)
      (passed : node.stringMember? "in" = some passing) :
      Reads store r ⟨some (name, passing), .ok place⟩
  | unknown {place : Reference} {node : Json} (leads : store.follow r = .ok (some place))
      (resolves : store.resolve place = .ok node)
      (lacks : node.stringMember? "name" = none ∨ node.stringMember? "in" = none) :
      Reads store r ⟨none, .ok place⟩
  | failed {fault : Fault} (fails : store.follow r = .error fault) :
      Reads store r ⟨none, .error fault⟩

/-- A place that leads to a parameter is read as that parameter, by its key. -/
theorem Reads.reached {store : Store} {r place : Reference} {node : Json}
    (leads : store.follow r = .ok (some place)) (resolves : store.resolve place = .ok node) :
    Reads store r ⟨keyOf node, .ok place⟩ := by
  cases hkey : keyOf node with
  | none => exact .unknown leads resolves (keyOf_eq_none_iff.mp hkey)
  | some key =>
    obtain ⟨named, passed⟩ := keyOf_eq_some_iff.mp hkey
    exact .known leads resolves named passed

/-- An entry of the list `parameters` of an owner, by the position of the item. -/
inductive ListedAt (store : Store) (owner : Reference) (node : Json) :
    Address → ParameterEntry → Prop
  | item {items : List Json} {index : Nat} {entry : ParameterEntry}
      (list : node.member? "parameters" = some (.array items)) (within : index < items.length)
      (reads : Reads store ((owner.child "parameters").child (toString index)) entry) :
      ListedAt store owner node [index] entry

theorem read?_eq_some_iff {store : Store} {r : Reference} {entry : ParameterEntry} :
    read? store r = some entry ↔ Reads store r entry := by
  unfold read?
  constructor
  · intro h
    cases hfollow : store.follow r with
    | error fault =>
      rw [hfollow] at h
      cases h
      exact .failed hfollow
    | ok reached =>
      rw [hfollow] at h
      cases reached with
      | none => cases h
      | some place =>
        obtain ⟨-, node, hnode, -⟩ := Store.follow_eq_some_iff.mp hfollow
        simp only [ofPlace, hnode] at h
        cases h
        exact .reached hfollow hnode
  · rintro (⟨leads, resolves, named, passed⟩ | ⟨leads, resolves, lacks⟩ | fails)
    · simp only [leads, ofPlace, resolves, keyOf_eq_some_iff.mpr ⟨named, passed⟩]
    · simp only [leads, ofPlace, resolves, keyOf_eq_none_iff.mpr lacks]
    · simp only [fails]

/-- The entries of an owner are those of its list, in order. -/
theorem enumerates_ofOwner (store : Store) (owner : Reference) (node : Json) :
    Enumerates (ListedAt store owner node) (ofOwner store owner node) := by
  unfold ofOwner
  split
  · rename_i items hitems
    have harray := Json.bind_items?_eq_some_iff.mp hitems
    refine ((Enumerates.self (List.range items.length)).filterMap _).congr fun address entry => ?_
    constructor
    · rintro ⟨index, ⟨place, rfl, hplace⟩, hread⟩
      obtain ⟨hwithin, hindex⟩ := List.getElem?_eq_some_iff.mp hplace
      rw [List.length_range] at hwithin
      rw [List.getElem_range] at hindex
      subst hindex
      exact .item harray hwithin (read?_eq_some_iff.mp hread)
    · rintro ⟨list, within, reads⟩
      rw [harray] at list
      cases list
      exact ⟨_, ⟨_, rfl, List.getElem?_range within⟩, read?_eq_some_iff.mpr reads⟩
  · rename_i hnone
    apply Enumerates.nil
    rintro address entry ⟨list, -, -⟩
    rw [list] at hnone
    cases hnone

/-- No item of a list is left out if the owner stands where it is said to. -/
theorem exists_reads {store : Store} {owner : Reference} {node : Json} {items : List Json}
    {index : Nat} (hnode : store.resolve owner = .ok node)
    (hlist : node.member? "parameters" = some (.array items)) (hwithin : index < items.length) :
    ∃ entry, Reads store ((owner.child "parameters").child (toString index)) entry := by
  have hitem : store.resolve ((owner.child "parameters").child (toString index)) =
      .ok items[index] := by
    cases node with
    | object members =>
      exact Store.resolve_item (Store.resolve_member hnode hlist)
        (List.getElem?_eq_getElem hwithin)
    | _ => cases hlist
  cases hfollow : store.follow ((owner.child "parameters").child (toString index)) with
  | error fault => exact ⟨_, .failed hfollow⟩
  | ok reached =>
    cases reached with
    | none =>
      have hlacks := Store.resolve_of_lacks (Store.follow_eq_none_iff.mp hfollow)
      cases hitem.symm.trans hlacks
    | some place =>
      obtain ⟨-, parameter, hparameter, -⟩ := Store.follow_eq_some_iff.mp hfollow
      exact ⟨_, .reached hfollow hparameter⟩

/-! ## Entries of one key -/

section Merge

variable {entries : List ParameterEntry} {entry last : ParameterEntry} {place : Nat}
  {key : String × String}

/-- Whether an entry is known by a key. -/
def hasKey (key : String × String) (entry : ParameterEntry) : Bool := entry.key == some key

/-- The last entry of a key, and the place of the first one. -/
structure Latest (entries : List ParameterEntry) (key : String × String) (place : Nat)
    (last : ParameterEntry) : Prop where
  first : entries.findIdx? (hasKey key) = some place
  last : (entries.filter (hasKey key)).getLast? = some last

/-- What applies at a place of a sequence of entries: the entry there if it has no key, or the last
one of a key if the first one of that key stands there. -/
inductive AppliesAt (entries : List ParameterEntry) (place : Nat) : ParameterEntry → Prop
  | keyless {entry : ParameterEntry} (stands : entries[place]? = some entry)
      (keyless : entry.key = none) : AppliesAt entries place entry
  | keyed {last : ParameterEntry} {key : String × String}
      (latest : Latest entries key place last) : AppliesAt entries place last

theorem hasKey_iff : hasKey key entry = true ↔ entry.key = some key := beq_iff_eq

theorem hasKey_eq_false_iff : hasKey key entry = false ↔ entry.key ≠ some key := by
  rw [← Bool.not_eq_true, hasKey_iff]

namespace Latest

theorem hasKey (h : Latest entries key place last) : last.key = some key :=
  hasKey_iff.mp (List.mem_filter.mp (List.mem_of_getLast? h.last)).2

theorem lt_length (h : Latest entries key place last) : place < entries.length :=
  (List.findIdx?_eq_some_iff_getElem.mp h.first).1

theorem exists_of_first (hfirst : entries.findIdx? (ParameterEntry.hasKey key) = some place) :
    ∃ last, Latest entries key place last := by
  obtain ⟨hplace, hkey, -⟩ := List.findIdx?_eq_some_iff_getElem.mp hfirst
  have hfiltered := List.ne_nil_of_mem (List.mem_filter.mpr ⟨List.getElem_mem hplace, hkey⟩)
  exact ⟨_, hfirst, List.getLast?_eq_some_getLast hfiltered⟩

/-- A further entry leaves the other keys as they are. -/
theorem append_of_ne (hkey : entry.key ≠ some key) :
    Latest (entries ++ [entry]) key place last ↔ Latest entries key place last := by
  have hfirst : (entries ++ [entry]).findIdx? (ParameterEntry.hasKey key) =
      entries.findIdx? (ParameterEntry.hasKey key) := by
    simp [List.findIdx?_append, List.findIdx?_cons, hasKey_eq_false_iff.mpr hkey]
  have hlast : (entries ++ [entry]).filter (ParameterEntry.hasKey key) =
      entries.filter (ParameterEntry.hasKey key) := by
    simp [List.filter_append, hasKey_eq_false_iff.mpr hkey]
  exact ⟨fun ⟨first, last⟩ => ⟨hfirst ▸ first, hlast ▸ last⟩,
    fun ⟨first, last⟩ => ⟨hfirst.symm ▸ first, hlast.symm ▸ last⟩⟩

/-- A further entry is the last one of its key.  The first one stays where it was, if there was
one. -/
theorem append_self (hkey : entry.key = some key) :
    Latest (entries ++ [entry]) key place last ↔
      (entries.findIdx? (ParameterEntry.hasKey key)).getD entries.length = place ∧
        entry = last := by
  have hfirst : (entries ++ [entry]).findIdx? (ParameterEntry.hasKey key) =
      some ((entries.findIdx? (ParameterEntry.hasKey key)).getD entries.length) := by
    cases hfound : entries.findIdx? (ParameterEntry.hasKey key) <;>
      simp [List.findIdx?_append, List.findIdx?_cons, hasKey_iff.mpr hkey, hfound]
  have hlast : ((entries ++ [entry]).filter (ParameterEntry.hasKey key)).getLast? =
      some entry := by
    simp [List.filter_append, hasKey_iff.mpr hkey]
  constructor
  · rintro ⟨first, last⟩
    exact ⟨Option.some.inj (hfirst.symm.trans first), Option.some.inj (hlast.symm.trans last)⟩
  · rintro ⟨rfl, rfl⟩
    exact ⟨hfirst, hlast⟩

end Latest

theorem AppliesAt.lt_length (h : AppliesAt entries place entry) : place < entries.length := by
  cases h with
  | keyless stands => exact (List.getElem?_eq_some_iff.mp stands).1
  | keyed latest => exact latest.lt_length

/-- The entries of a key apply as the last of them. -/
theorem AppliesAt.latest (h : AppliesAt entries place entry) (hkey : entry.key = some key) :
    Latest entries key place entry := by
  cases h with
  | keyless _ keyless => cases keyless.symm.trans hkey
  | keyed latest =>
    obtain rfl := Option.some.inj (latest.hasKey.symm.trans hkey)
    exact latest

theorem getElem?_append_singleton {applying : ParameterEntry} :
    (entries ++ [entry])[place]? = some applying ↔
      entries[place]? = some applying ∨ (place = entries.length ∧ entry = applying) := by
  grind

/-- A further entry whose key, if it has one, is not there yet applies besides, where it stands. -/
theorem appliesAt_append_new
    (hnew : ∀ key, entry.key = some key → entries.findIdx? (hasKey key) = none) :
    AppliesAt (entries ++ [entry]) place last ↔
      AppliesAt entries place last ∨ (place = entries.length ∧ entry = last) := by
  constructor
  · intro h
    cases h with
    | keyless stands keyless =>
      exact (getElem?_append_singleton.mp stands).imp_left fun h => .keyless h keyless
    | @keyed key latest =>
      by_cases hkey : entry.key = some key
      · obtain ⟨hplace, rfl⟩ := (Latest.append_self hkey).mp latest
        rw [hnew key hkey, Option.getD_none] at hplace
        exact Or.inr ⟨hplace.symm, rfl⟩
      · exact Or.inl (.keyed ((Latest.append_of_ne hkey).mp latest))
  · rintro (h | ⟨rfl, rfl⟩)
    · cases h with
      | keyless stands keyless =>
        exact .keyless (getElem?_append_singleton.mpr (Or.inl stands)) keyless
      | @keyed key latest =>
        refine .keyed ((Latest.append_of_ne fun hkey => ?_).mpr latest)
        cases (hnew key hkey).symm.trans latest.first
    · cases hkey : entry.key with
      | none => exact .keyless (getElem?_append_singleton.mpr (Or.inr ⟨rfl, rfl⟩)) hkey
      | some key =>
        refine .keyed ((Latest.append_self hkey).mpr ⟨?_, rfl⟩)
        rw [hnew key hkey, Option.getD_none]

/-- A further entry whose key is there already applies where the last one of the key did. -/
theorem appliesAt_append_known {first : Nat} (hkey : entry.key = some key)
    (hknown : entries.findIdx? (hasKey key) = some first) :
    AppliesAt (entries ++ [entry]) place last ↔
      ∃ before, AppliesAt entries place before ∧
        (if hasKey key before then entry else before) = last := by
  constructor
  · intro h
    cases h with
    | keyless stands keyless =>
      rcases getElem?_append_singleton.mp stands with hbefore | ⟨-, rfl⟩
      · refine ⟨last, .keyless hbefore keyless, if_neg ?_⟩
        rw [hasKey_iff, keyless]
        nofun
      · cases keyless.symm.trans hkey
    | @keyed other latest =>
      by_cases hother : other = key
      · subst hother
        obtain ⟨hplace, rfl⟩ := (Latest.append_self hkey).mp latest
        rw [hknown, Option.getD_some] at hplace
        subst hplace
        obtain ⟨before, hbefore⟩ := Latest.exists_of_first hknown
        exact ⟨before, .keyed hbefore, if_pos (hasKey_iff.mpr hbefore.hasKey)⟩
      · have hne : entry.key ≠ some other := fun h => hother (Option.some.inj (h.symm.trans hkey))
        have hbefore := (Latest.append_of_ne hne).mp latest
        refine ⟨last, .keyed hbefore, if_neg ?_⟩
        rw [hasKey_iff, hbefore.hasKey]
        exact fun h => hother (Option.some.inj h)
  · rintro ⟨before, happlies, rfl⟩
    split
    · rename_i hbefore
      have hlatest := happlies.latest (hasKey_iff.mp hbefore)
      refine .keyed ((Latest.append_self hkey).mpr ⟨?_, rfl⟩)
      rw [hlatest.first, Option.getD_some]
    · rename_i hbefore
      cases happlies with
      | keyless stands keyless =>
        exact .keyless (getElem?_append_singleton.mpr (Or.inl stands)) keyless
      | @keyed other latest =>
        refine .keyed ((Latest.append_of_ne fun h => hbefore ?_).mpr latest)
        rw [hasKey_iff, latest.hasKey, ← h, hkey]

/-! ## The merge -/

/-- The keys of some entries. -/
def keys (entries : List ParameterEntry) : List (String × String) :=
  entries.filterMap ParameterEntry.key

theorem mem_keys_iff : key ∈ keys entries ↔ ∃ entry ∈ entries, entry.key = some key :=
  List.mem_filterMap

theorem findIdx?_of_mem_keys (h : key ∈ keys entries) :
    ∃ first, entries.findIdx? (hasKey key) = some first := by
  obtain ⟨other, hother, hkey⟩ := mem_keys_iff.mp h
  exact ⟨_, List.findIdx?_eq_some_of_exists ⟨other, hother, hasKey_iff.mpr hkey⟩⟩

theorem findIdx?_of_not_mem_keys (h : key ∉ keys entries) :
    entries.findIdx? (hasKey key) = none := by
  rw [List.findIdx?_eq_none_iff]
  intro other hother
  rw [hasKey_eq_false_iff]
  exact fun hkey => h (mem_keys_iff.mpr ⟨other, hother, hkey⟩)

/-- An entry whose key, if it has one, is not there yet goes to the end. -/
theorem put_of_new (hnew : ∀ key, entry.key = some key → key ∉ keys entries) :
    put entry entries = entries ++ [entry] := by
  cases hkey : entry.key with
  | none => exact put_of_key_eq_none entry entries hkey
  | some key =>
    have habsent := hnew key hkey
    induction entries with
    | nil => rfl
    | cons head rest ih =>
      have hhead : head.key ≠ some key := fun h =>
        habsent (mem_keys_iff.mpr ⟨head, List.mem_cons_self, h⟩)
      have hrest : key ∉ keys rest := fun h =>
        have ⟨other, hother, h⟩ := mem_keys_iff.mp h
        habsent (mem_keys_iff.mpr ⟨other, List.mem_cons_of_mem _ hother, h⟩)
      have hnew : ∀ other, entry.key = some other → other ∉ keys rest := by
        intro other hother
        obtain rfl := Option.some.inj (hkey.symm.trans hother)
        exact hrest
      simp [put, hkey, hhead, ih hnew hrest]

/-- An entry whose key is there already takes the place of the one entry with that key. -/
theorem put_of_known (hkey : entry.key = some key) (hknown : key ∈ keys entries)
    (hnodup : (keys entries).Nodup) :
    put entry entries = entries.map fun other => if hasKey key other then entry else other := by
  induction entries with
  | nil => cases hknown
  | cons head rest ih =>
    by_cases hhead : head.key = some key
    · have habsent : ∀ other ∈ rest, ¬ hasKey key other = true := by
        intro other hother h
        rw [keys, List.filterMap_cons_some hhead] at hnodup
        exact (List.nodup_cons.mp hnodup).1 (mem_keys_iff.mpr ⟨other, hother, hasKey_iff.mp h⟩)
      have hrest : rest.map (fun other => if hasKey key other then entry else other) = rest :=
        (List.map_congr_left fun other hother => if_neg (habsent other hother)).trans
          (List.map_id' rest)
      simp [put, hkey, hhead, hasKey_iff.mpr hhead, hrest]
    · obtain ⟨other, hother, h⟩ := mem_keys_iff.mp hknown
      have hother : other ∈ rest := by
        rcases List.mem_cons.mp hother with rfl | hother
        · exact absurd h hhead
        · exact hother
      have hrest := hnodup.sublist ((List.sublist_cons_self head rest).filterMap _)
      have hne : (head.key == entry.key) = false := by simp [hkey, hhead]
      rw [put, hne, Bool.and_false, if_neg Bool.false_ne_true, List.map_cons,
        if_neg (mt hasKey_iff.mp hhead), ih (mem_keys_iff.mpr ⟨other, hother, h⟩) hrest]

/-- An entry in the place of others with its key has that key. -/
theorem keys_map_of_key_eq (hkey : entry.key = some key) :
    keys (entries.map fun other => if hasKey key other then entry else other) = keys entries := by
  rw [keys, List.filterMap_map]
  refine congrArg (List.filterMap · entries) (funext fun other => ?_)
  simp only [Function.comp_apply]
  split
  · rename_i h
    rw [hkey, hasKey_iff.mp h]
  · rfl

theorem merge_append_singleton :
    merge (entries ++ [entry]) = put entry (merge entries) := by
  rw [merge, List.foldl_append, List.foldl_cons, List.foldl_nil, merge]

theorem keys_append_singleton : keys (entries ++ [entry]) = keys entries ++ entry.key.toList := by
  rw [keys, List.filterMap_append]
  cases hkey : entry.key <;> simp [keys, hkey]

/-- A put entry adds its key to the others, unless it is one of them. -/
theorem keys_put (hnodup : (keys entries).Nodup) :
    keys (put entry entries) = keys entries ++ entry.key.toList.filter (· ∉ keys entries) := by
  by_cases hknown : ∃ key, entry.key = some key ∧ key ∈ keys entries
  · obtain ⟨key, hkey, hknown⟩ := hknown
    rw [put_of_known hkey hknown hnodup, keys_map_of_key_eq hkey, hkey]
    simp [hknown]
  · have hnew : ∀ key, entry.key = some key → key ∉ keys entries :=
      fun key hkey h => hknown ⟨key, hkey, h⟩
    rw [put_of_new hnew, keys_append_singleton, List.filter_eq_self.mpr]
    intro key hkey
    exact decide_eq_true (hnew key (Option.mem_toList.mp hkey))

/-- The merged entries have the keys of all, each once. -/
theorem keys_merge (entries : List ParameterEntry) :
    (keys (merge entries)).Nodup ∧ ∀ key, key ∈ keys (merge entries) ↔ key ∈ keys entries := by
  induction entries using List.reverseRecOn with
  | nil => exact ⟨List.nodup_nil, fun key => Iff.rfl⟩
  | append_singleton entries entry ih =>
    obtain ⟨hnodup, hmem⟩ := ih
    rw [merge_append_singleton, keys_put hnodup]
    constructor
    · refine List.nodup_append.mpr ⟨hnodup, ?_, ?_⟩
      · exact List.Nodup.filter _ (by cases entry.key <;> simp)
      · rintro key hkey _ hadded rfl
        exact of_decide_eq_true (List.mem_filter.mp hadded).2 hkey
    · intro key
      rw [keys_append_singleton, List.mem_append, List.mem_append, ← hmem, List.mem_filter]
      by_cases hkey : key ∈ keys (merge entries) <;> simp [hkey]

/-- The merged entries are those that apply, where they do. -/
theorem enumerates_merge (entries : List ParameterEntry) :
    Enumerates (fun address entry => ∃ place, address = [place] ∧ AppliesAt entries place entry)
      (merge entries) := by
  induction entries using List.reverseRecOn with
  | nil =>
    apply Enumerates.nil
    rintro address entry ⟨place, -, happlies⟩
    exact absurd happlies.lt_length (Nat.not_lt_zero place)
  | append_singleton entries entry ih =>
    rw [merge_append_singleton]
    by_cases hknown : ∃ key, entry.key = some key ∧ key ∈ keys (merge entries)
    · obtain ⟨key, hkey, hknown⟩ := hknown
      rw [put_of_known hkey hknown (keys_merge entries).1]
      obtain ⟨first, hfirst⟩ := findIdx?_of_mem_keys ((keys_merge entries).2 key |>.mp hknown)
      refine (ih.map _).congr fun address applying => ?_
      constructor
      · rintro ⟨before, ⟨place, rfl, happlies⟩, hbecomes⟩
        exact ⟨place, rfl, (appliesAt_append_known hkey hfirst).mpr ⟨before, happlies, hbecomes⟩⟩
      · rintro ⟨place, rfl, happlies⟩
        obtain ⟨before, happlies, hbecomes⟩ := (appliesAt_append_known hkey hfirst).mp happlies
        exact ⟨before, ⟨place, rfl, happlies⟩, hbecomes⟩
    · have hnew : ∀ key, entry.key = some key → key ∉ keys (merge entries) :=
        fun key hkey h => hknown ⟨key, hkey, h⟩
      rw [put_of_new hnew]
      have hfirst : ∀ key, entry.key = some key → entries.findIdx? (hasKey key) = none := by
        intro key hkey
        exact findIdx?_of_not_mem_keys (mt ((keys_merge entries).2 key).mpr (hnew key hkey))
      refine ((ih.append ((Enumerates.option (some entry)).under entries.length) ?_).congr
        fun address applying => ?_)
      · rintro address other applying applying' ⟨place, rfl, happlies⟩ ⟨below, rfl, -⟩
        exact .rel happlies.lt_length
      · constructor
        · rintro (⟨place, rfl, happlies⟩ | ⟨below, rfl, rfl, hlast⟩)
          · exact ⟨place, rfl, (appliesAt_append_new hfirst).mpr (Or.inl happlies)⟩
          · exact ⟨_, rfl, (appliesAt_append_new hfirst).mpr (Or.inr ⟨rfl, Option.some.inj hlast⟩)⟩
        · rintro ⟨place, rfl, happlies⟩
          rcases (appliesAt_append_new hfirst).mp happlies with happlies | ⟨rfl, rfl⟩
          · exact Or.inl ⟨place, rfl, happlies⟩
          · exact Or.inr ⟨[], rfl, rfl, rfl⟩

/-- Where two sequences have a key, the last one of the second applies where the first one of the
first stands. -/
theorem Latest.append {others : List ParameterEntry}
    (hfirst : entries.findIdx? (ParameterEntry.hasKey key) = some place)
    (hlast : (others.filter (ParameterEntry.hasKey key)).getLast? = some last) :
    Latest (entries ++ others) key place last where
  first := by rw [List.findIdx?_append, hfirst, Option.some_or]
  last := by rw [List.filter_append, List.getLast?_append, hlast, Option.some_or]

end Merge

end ParameterEntry

namespace Operation

open ParameterEntry

/-- The parameters of an operation are those that apply of its path item's entries followed by its
own, in their order: every entry without a key, and for every key the last entry, where the first
one stands.  The entries are those of the two lists, none of which is left out where the owner
stands.  So no two parameters have one key, each key stays, and an own entry takes the place of the
path item's with its key. -/
theorem parameters_are_merged (store : Store) (operation : Operation) :
    ∃ inherited own : List ParameterEntry,
      Enumerates (ListedAt store operation.itemPlace operation.item) inherited ∧
      Enumerates (ListedAt store operation.place operation.node) own ∧
      (∀ owner node items index, store.resolve owner = .ok node →
        node.member? "parameters" = some (.array items) → index < items.length →
          ∃ entry, ListedAt store owner node [index] entry) ∧
      Enumerates (fun address entry =>
          ∃ place, address = [place] ∧ AppliesAt (inherited ++ own) place entry)
        (operation.parameters store) ∧
      (keys (operation.parameters store)).Nodup ∧
      (∀ key, key ∈ keys (operation.parameters store) ↔
        key ∈ keys inherited ∨ key ∈ keys own) ∧
      ∀ key place entry, inherited.findIdx? (hasKey key) = some place →
        (own.filter (hasKey key)).getLast? = some entry →
          AppliesAt (inherited ++ own) place entry := by
  refine ⟨ofOwner store operation.itemPlace operation.item,
    ofOwner store operation.place operation.node, enumerates_ofOwner _ _ _,
    enumerates_ofOwner _ _ _, ?_, enumerates_merge _, (keys_merge _).1, ?_, ?_⟩
  · intro owner node items index hnode hlist hwithin
    obtain ⟨entry, hreads⟩ := exists_reads hnode hlist hwithin
    exact ⟨entry, .item hlist hwithin hreads⟩
  · intro key
    rw [parameters, (keys_merge _).2, keys, List.filterMap_append, List.mem_append, keys, keys]
  · intro key place entry hfirst hlast
    exact .keyed (.append hfirst hlast)

/-- A parameter of the operation in the place of the path item's, and a broken one that stays. -/
example :
    let parameter (name schema : String) : Json :=
      .object [("name", .string name), ("in", .string "query"), ("is", .string schema)]
    let link : Json := .object [("$ref", .string "#/none")]
    let own : Json := .object [("parameters", .array [parameter "page" "own"])]
    let item : Json := .object
      [("parameters", .array [parameter "page" "shared", link, parameter "size" "shared"]),
        ("get", own)]
    let store : Store := ⟨[("api.json", .object [("item", item)])]⟩
    let place : Reference := ⟨"api.json", ["item"]⟩
    let parameters := parameters store ⟨place, item, place.child "get", own, "getItem"⟩
    parameters.map (·.key) = [some ("page", "query"), none, some ("size", "query")] ∧
      parameters.map (·.place) =
        [.ok ⟨"api.json", ["item", "get", "parameters", "0"]⟩,
          .error (.unresolvedReference "api.json#/none"),
          .ok ⟨"api.json", ["item", "parameters", "2"]⟩] := by
  decide +kernel

end Operation
end SchemaTypes
