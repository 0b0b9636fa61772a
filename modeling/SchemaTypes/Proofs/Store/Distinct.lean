import SchemaTypes.Proofs.Store.Places

set_option autoImplicit false

/-!
# Documents without repeated names

In an object that is read from a text no name stands twice: the last value of a name is the one that
counts.  So it is in every document of a store that texts were registered in, and in every node of
one; and the member that a name leads to is the only one of that name.
-/

namespace SchemaTypes

namespace Json

/-! ## Objects with different names -/

theorem distinctItems_iff {items : List Json} :
    distinctItems items = true ↔ ∀ item ∈ items, item.distinct = true := by
  induction items with
  | nil => simp [distinctItems]
  | cons item rest ih => simp [distinctItems, ih]

theorem distinctMembers_iff {members : OrderedMap String Json} {seen : List String} :
    distinctMembers seen members = true ↔
      (∀ name ∈ members.keys, name ∉ seen) ∧ members.keys.Nodup ∧
        ∀ entry ∈ members, entry.2.distinct = true := by
  induction members generalizing seen with
  | nil => simp [distinctMembers, OrderedMap.keys]
  | cons entry rest ih =>
    obtain ⟨name, value⟩ := entry
    simp only [OrderedMap.keys] at ih
    simp only [distinctMembers, Bool.and_eq_true, ih, OrderedMap.keys, List.map_cons,
      List.nodup_cons, List.forall_mem_cons, Bool.not_eq_true', List.contains_eq_mem,
      decide_eq_false_iff_not]
    simp only [List.mem_cons, not_or]
    constructor
    · rintro ⟨⟨hname, hvalue⟩, hapart, hnodup, hrest⟩
      exact ⟨⟨hname, fun other hother => (hapart other hother).2⟩,
        ⟨fun hmem => (hapart name hmem).1 rfl, hnodup⟩, hvalue, hrest⟩
    · rintro ⟨⟨hname, hapart⟩, ⟨hnot, hnodup⟩, hvalue, hrest⟩
      exact ⟨⟨hname, hvalue⟩,
        fun other hother => ⟨fun heq => hnot (heq ▸ hother), hapart other hother⟩, hnodup, hrest⟩

theorem distinct_array_iff {items : List Json} :
    (array items).distinct = true ↔ ∀ item ∈ items, item.distinct = true :=
  distinctItems_iff

theorem distinct_object_iff {members : OrderedMap String Json} :
    (object members).distinct = true ↔
      members.keys.Nodup ∧ ∀ entry ∈ members, entry.2.distinct = true := by
  rw [distinct, distinctMembers_iff]
  exact and_iff_right fun _ _ => List.not_mem_nil

/-- Among different names, every member is the one of its name. -/
theorem get?_of_mem_of_distinct {members : OrderedMap String Json}
    (h : (object members).distinct = true) {name : String} {value : Json}
    (hmem : (name, value) ∈ members) : members.get? name = some value :=
  OrderedMap.get?_of_mem (distinct_object_iff.mp h).1 hmem

theorem distinct_insert {members : OrderedMap String Json} (h : (object members).distinct = true)
    (name : String) {value : Json} (hvalue : value.distinct = true) :
    (object (members.insert name value)).distinct = true := by
  obtain ⟨hnodup, hvalues⟩ := distinct_object_iff.mp h
  refine distinct_object_iff.mpr ⟨OrderedMap.nodup_keys_insert hnodup name value, ?_⟩
  intro entry hentry
  rcases OrderedMap.eq_or_mem_of_mem_insert hentry with rfl | hold
  · exact hvalue
  · exact hvalues entry hold

/-- What stands in a value with different names has different names itself. -/
theorem distinct_of_step? {node next : Json} {token : String} (h : node.distinct = true)
    (hstep : walk?.step? node token = some next) : next.distinct = true := by
  cases node with
  | object members =>
    exact (distinct_object_iff.mp h).2 _ (OrderedMap.mem_of_get? hstep)
  | array items =>
    simp only [walk?.step?] at hstep
    split at hstep
    · exact distinct_array_iff.mp h _ (List.mem_of_getElem? hstep)
    · cases hstep
  | _ => cases hstep

theorem distinct_of_walk? {path : List String} {node found : Json} (h : node.distinct = true)
    (hwalk : node.walk? path = some found) : found.distinct = true := by
  induction path generalizing node with
  | nil =>
    cases hwalk
    exact h
  | cons token rest ih =>
    rw [walk?] at hwalk
    split at hwalk
    · rename_i next hstep
      exact ih (distinct_of_step? h hstep) hwalk
    · cases hwalk

/-! ## Values that are read -/

section Reading

variable {fuel depth : Nat} {input rest : List Char}

/-- Values, items and members that are read in a number of steps have different names in every
object. -/
structure ReadsDistinct (fuel : Nat) : Prop where
  value : ∀ {depth : Nat} {input rest : List Char} {value : Json},
    readValue fuel depth input = some (value, rest) → value.distinct = true
  items : ∀ {depth : Nat} {input rest : List Char} {items : List Json},
    readItems fuel depth input = some (items, rest) → (array items).distinct = true
  members : ∀ {depth : Nat} {input rest : List Char} {done members : OrderedMap String Json},
    (object done).distinct = true → readMembers fuel depth done input = some (members, rest) →
      (object members).distinct = true

theorem ReadsDistinct.readValue (reads : ReadsDistinct fuel) {value : Json}
    (h : readValue (fuel + 1) depth input = some (value, rest)) : value.distinct = true := by
  rw [Json.readValue] at h
  split at h
  · cases h
  split at h
  · -- A string.
    split at h <;> cases h
    rfl
  split at h
  · -- An array.
    split at h
    · cases h
    split at h
    · cases h
      rfl
    · split at h
      · cases h
      · rename_i hitems
        cases h
        exact reads.items hitems
  split at h
  · -- An object; no name has been read before.
    split at h
    · cases h
    split at h
    · cases h
    split at h
    · cases h
      rfl
    · split at h
      · cases h
      · rename_i hmembers
        cases h
        exact reads.members rfl hmembers
  -- A word or a number.
  repeat' split at h
  all_goals
    obtain ⟨after, -, hpair⟩ := Option.map_eq_some_iff.mp h
    cases hpair
    rfl

theorem ReadsDistinct.readItems (reads : ReadsDistinct fuel) {items : List Json}
    (h : readItems (fuel + 1) depth input = some (items, rest)) :
    (array items).distinct = true := by
  rw [Json.readItems] at h
  split at h
  · cases h
  rename_i hitem
  have hfirst := reads.value hitem
  split at h
  · cases h
    exact distinct_array_iff.mpr (List.forall_mem_singleton.mpr hfirst)
  · split at h
    · cases h
    · rename_i hrest
      cases h
      exact distinct_array_iff.mpr
        (List.forall_mem_cons.mpr ⟨hfirst, distinct_array_iff.mp (reads.items hrest)⟩)
  · cases h

theorem ReadsDistinct.readMembers (reads : ReadsDistinct fuel)
    {done members : OrderedMap String Json} (hdone : (object done).distinct = true)
    (h : readMembers (fuel + 1) depth done input = some (members, rest)) :
    (object members).distinct = true := by
  rw [Json.readMembers] at h
  split at h
  · cases h
  split at h
  · cases h
  split at h
  · cases h
  rename_i name _ _
  split at h
  · split at h
    · cases h
    rename_i hvalue
    have hnext := distinct_insert hdone name (reads.value hvalue)
    simp only at h
    split at h
    · cases h
    split at h
    · cases h
      exact hnext
    · split at h
      · exact reads.members hnext h
      · cases h
  · cases h

theorem readsDistinct (fuel : Nat) : ReadsDistinct fuel := by
  induction fuel with
  | zero => exact ⟨nofun, nofun, nofun⟩
  | succ fuel ih => exact ⟨ih.readValue, ih.readItems, ih.readMembers⟩

/-- A value that is read from a text has different names in every object: a name that comes again
keeps its place and takes the last value. -/
theorem distinct_of_readDocument? {text : String} {document : Json}
    (h : readDocument? text = some document) : document.distinct = true := by
  unfold readDocument? read? at h
  split at h
  · cases h
  · rename_i hread
    split at h
    · cases h
      exact (readsDistinct _).value hread
    · cases h

end Reading

end Json

namespace Yaml

variable {value : Json}

/-! ## Documents in the other notation -/

theorem Core.distinct_of_real? {text : List Char} (h : real? text = some value) :
    value.distinct = true := by
  unfold real? at h
  simp only at h
  split at h
  · cases h
  split at h
  · cases h
    rfl
  split at h
  · obtain ⟨x, -, rfl⟩ := Option.map_eq_some_iff.mp h
    rfl
  · cases h

theorem Core.distinct_of_plain? {text : String} (h : plain? text = some value) :
    value.distinct = true := by
  unfold plain? at h
  split at h
  · cases h
    rfl
  split at h
  · cases h
    rfl
  split at h
  · cases h
    rfl
  · cases h
  split at h
  · cases h
    rfl
  cases hreal : real? text.toList with
  | none =>
    rw [hreal] at h
    cases h
    rfl
  | some other =>
    rw [hreal] at h
    cases h
    exact distinct_of_real? hreal

theorem Core.distinct_of_untagged? {scalar : Scalar} (h : untagged? scalar = some value) :
    value.distinct = true := by
  unfold untagged? at h
  split at h
  · exact distinct_of_plain? h
  · cases h
    rfl

theorem Core.distinct_of_scalar? {tag : Option (List UInt8)} {scalar : Scalar}
    (h : scalar? tag scalar = some value) : value.distinct = true := by
  unfold scalar? at h
  split at h
  · exact distinct_of_untagged? h
  split at h
  · cases h
  split at h
  · obtain ⟨truth, -, rfl⟩ := Option.map_eq_some_iff.mp h
    rfl
  split at h
  · unfold taggedInteger? at h
    split at h <;> cases h
    rfl
  split at h
  · exact distinct_of_real? h
  split at h
  · split at h <;> cases h
    rfl
  split at h
  · exact distinct_of_untagged? h
  · cases h
    rfl

namespace Scope

variable {scope : Scope} {read : Node → Nat → Option (Json × Nat)} {followed after : Nat}

theorem distinct_of_readItems?
    (hread : ∀ {node followed value after}, read node followed = some (value, after) →
      value.distinct = true) {nodes : List Node} {values : List Json}
    (h : readItems? read nodes followed = some (values, after)) :
    (Json.array values).distinct = true := by
  induction nodes generalizing followed values after with
  | nil =>
    cases h
    rfl
  | cons node rest ih =>
    rw [readItems?] at h
    split at h
    · cases h
    rename_i hvalue
    split at h
    · rename_i hrest
      cases h
      exact Json.distinct_array_iff.mpr
        (List.forall_mem_cons.mpr ⟨hread hvalue, Json.distinct_array_iff.mp (ih hrest)⟩)
    · cases h

theorem distinct_of_readEntries?
    (hread : ∀ {node followed value after}, read node followed = some (value, after) →
      value.distinct = true) {entries : List (Node × Node)} {done members : OrderedMap String Json}
    (hdone : (Json.object done).distinct = true)
    (h : readEntries? scope read done entries followed = some (members, after)) :
    (Json.object members).distinct = true := by
  induction entries generalizing followed done with
  | nil =>
    cases h
    exact hdone
  | cons entry rest ih =>
    rw [readEntries?] at h
    split at h
    · cases h
    rename_i name _ _
    split at h
    · cases h
    rename_i hvalue
    exact ih (Json.distinct_insert hdone name (hread hvalue)) h

theorem distinct_of_readNode? (depth : Nat) : ∀ {node followed value after},
    scope.readNode? depth node followed = some (value, after) → value.distinct = true := by
  induction depth with
  | zero =>
    intro node followed value after h
    rw [readNode?] at h
    split at h
    · obtain ⟨scalar, hscalar, hpair⟩ := Option.map_eq_some_iff.mp h
      cases hpair
      exact Core.distinct_of_scalar? hscalar
    all_goals cases h
  | succ depth ih =>
    intro node followed value after h
    rw [readNode?] at h
    split at h
    · obtain ⟨scalar, hscalar, hpair⟩ := Option.map_eq_some_iff.mp h
      cases hpair
      exact Core.distinct_of_scalar? hscalar
    · simp only at h
      split at h
      · cases h
      split at h
      · rename_i hitems
        cases h
        exact distinct_of_readItems? ih hitems
      · cases h
    · simp only at h
      split at h
      · cases h
      split at h
      · rename_i hentries
        cases h
        exact distinct_of_readEntries? ih rfl hentries
      · cases h
    · cases h

end Scope

end Yaml

theorem Json.distinct_of_ofYaml? {text : String} {document : Json}
    (h : ofYaml? text = some document) : document.distinct = true := by
  unfold ofYaml? at h
  split at h
  · unfold Yaml.Document.toJson? at h
    split at h
    · cases h
      rfl
    · obtain ⟨⟨value, after⟩, hread, rfl⟩ := Option.map_eq_some_iff.mp h
      exact Yaml.Scope.distinct_of_readNode? _ hread
  · cases h

namespace Store

variable {store next : Store} {r : Reference}

/-- In every object of every document the names differ. -/
def Distinct (store : Store) : Prop := ∀ entry ∈ store.documents, entry.2.distinct = true

theorem Distinct.resolve (h : store.Distinct) {node : Json} (hnode : store.resolve r = .ok node) :
    node.distinct = true := by
  obtain ⟨document, hdocument, hwalk⟩ := resolve_eq_ok_iff.mp hnode
  exact Json.distinct_of_walk? (h _ (OrderedMap.mem_of_get? hdocument)) hwalk

theorem distinct_empty : empty.Distinct := nofun

theorem eq_or_mem_of_mem_place {key : String} {document : Json} {documents : List (String × Json)}
    {entry : String × Json} (h : entry ∈ place key document documents) :
    entry = (key, document) ∨ entry ∈ documents := by
  induction documents with
  | nil => exact Or.inl (List.mem_singleton.mp h)
  | cons first rest ih =>
    obtain ⟨id, other⟩ := first
    rw [place] at h
    split at h
    · exact List.mem_cons.mp h
    · rcases List.mem_cons.mp h with rfl | hrest
      · exact Or.inr List.mem_cons_self
      · exact (ih hrest).imp_right (List.mem_cons_of_mem _)

theorem Distinct.insert (h : store.Distinct) {document : Json}
    (hdocument : document.distinct = true) {id key : String}
    (hinsert : store.insert id document = .ok (key, next)) : next.Distinct := by
  unfold Store.insert at hinsert
  split at hinsert
  · cases hinsert
  split at hinsert
  · cases hinsert
  cases hinsert
  intro entry hentry
  rcases eq_or_mem_of_mem_place hentry with rfl | hold
  · exact hdocument
  · exact h entry hold

/-- Stores that texts are registered in keep different names in every object. -/
theorem Distinct.insertJson (h : store.Distinct) {id text key : String}
    (hinsert : store.insertJson id text = .ok (key, next)) : next.Distinct := by
  unfold Store.insertJson at hinsert
  split at hinsert
  · cases hinsert
  · rename_i hdocument
    exact h.insert (Json.distinct_of_readDocument? hdocument) hinsert

theorem Distinct.insertYaml (h : store.Distinct) {id text key : String}
    (hinsert : store.insertYaml id text = .ok (key, next)) : next.Distinct := by
  unfold Store.insertYaml at hinsert
  split at hinsert
  · cases hinsert
  · rename_i hdocument
    exact h.insert (Json.distinct_of_ofYaml? hdocument) hinsert

end Store

end SchemaTypes
