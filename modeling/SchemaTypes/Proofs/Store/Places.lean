import Mathlib.Data.List.Perm.Subperm
import SchemaTypes.Proofs.OrderedMap
import SchemaTypes.Proofs.Text.Ascii
import SchemaTypes.Store

set_option autoImplicit false

/-!
# Places in a store

The places of a document are as many as its nodes, and every path that leads to a node is one of
them: a token means an item of a list only if it is the numeral of the item's place.  A store
therefore has no more references that can be resolved than it has nodes.
-/

namespace SchemaTypes

/-! ## Numerals -/

namespace Pointer

theorem digitChar_of_isDigit {c : Char} (h : c.isDigit = true) :
    Nat.digitChar (c.toNat - 48) = c := by
  obtain ⟨hlow, hhigh⟩ := Text.toNat_bounds_of_isDigit h
  rw [← Char.toNat_inj, Nat.toNat_digitChar_of_lt_ten (by omega)]
  omega

/-- More digits after a numeral that does not start with zero make a longer numeral. -/
theorem toDigits_append_digits {digits : List Char} (hdigits : ∀ c ∈ digits, c.isDigit = true)
    {value : Nat} (hvalue : 0 < value) :
    Nat.toDigits 10 value ++ digits =
      Nat.toDigits 10 (digits.foldl (fun value c => value * 10 + (c.toNat - 48)) value) := by
  induction digits generalizing value with
  | nil => exact List.append_nil _
  | cons c rest ih =>
    have hc := hdigits c List.mem_cons_self
    have hrest : ∀ d ∈ rest, d.isDigit = true := fun d hd => hdigits d (List.mem_cons_of_mem c hd)
    have hlt : c.toNat - 48 < 10 := by
      have hbounds := Text.toNat_bounds_of_isDigit hc
      omega
    have hlonger := Nat.toDigits_append_toDigits (by decide : 1 < 10) hvalue hlt
    rw [Nat.toDigits_of_lt_base hlt, digitChar_of_isDigit hc, Nat.mul_comm] at hlonger
    rw [List.foldl_cons, ← ih hrest (by omega), ← hlonger, List.append_assoc,
      List.singleton_append]

/-- Digits that do not start with zero are the numeral of their value. -/
theorem eq_toDigits_of_ne_zero {c : Char} {rest : List Char} (hzero : c ≠ '0')
    (hdigits : ∀ d ∈ c :: rest, d.isDigit = true) :
    c :: rest = Nat.toDigits 10
      ((c :: rest).foldl (fun value c => value * 10 + (c.toNat - 48)) 0) := by
  have hc := hdigits c List.mem_cons_self
  have hrest : ∀ d ∈ rest, d.isDigit = true := fun d hd => hdigits d (List.mem_cons_of_mem c hd)
  obtain ⟨hlow, hhigh⟩ := Text.toNat_bounds_of_isDigit hc
  have hne : c.toNat ≠ 48 := fun h => hzero (Char.toNat_inj.mp h)
  have hpositive : 0 < c.toNat - 48 := by omega
  have hfirst : Nat.toDigits 10 (c.toNat - 48) = [c] := by
    rw [Nat.toDigits_of_lt_base (by omega), digitChar_of_isDigit hc]
  rw [List.foldl_cons, Nat.zero_mul, Nat.zero_add, ← toDigits_append_digits hrest hpositive, hfirst,
    List.singleton_append]

/-- A token means the place whose numeral it is, and no other. -/
theorem eq_toString_of_index? {token : String} {place : Nat} (h : index? token = some place) :
    token = toString place := by
  rw [Nat.toString_eq_ofList_toDigits, ← String.ofList_toList (s := token)]
  congr 1
  unfold index? at h
  cases htoken : token.toList with
  | nil =>
    rw [htoken] at h
    cases h
  | cons c rest =>
    rw [htoken] at h
    by_cases hzero : c = '0'
    · subst hzero
      cases rest with
      | nil =>
        cases h
        rfl
      | cons d rest => cases h
    · split at h
      · cases h
      · rename_i heq
        exact absurd (List.cons.inj heq).1 hzero
      · split at h
        · rename_i hall
          cases h
          exact eq_toDigits_of_ne_zero hzero (List.all_eq_true.mp hall)
        · cases h

theorem head?_toDigits {n : Nat} (h : 0 < n) : (Nat.toDigits 10 n).head? ≠ some '0' := by
  induction n using Nat.strongRecOn with
  | ind n ih =>
    rw [Nat.toDigits_eq_if (by decide)]
    split
    · rename_i hlt
      have hdigit : ∀ m < 10, 0 < m → Nat.digitChar m ≠ '0' := by decide
      exact fun hhead => hdigit n hlt h (Option.some.inj hhead)
    · rename_i hge
      rw [List.head?_append_of_ne_nil _ Nat.toDigits_ne_nil]
      exact ih (n / 10) (Nat.div_lt_self h (by decide)) (by omega)

/-- The numeral of a place means that place. -/
theorem index?_toString (place : Nat) : index? (toString place) = some place := by
  have hdigits : (Nat.toDigits 10 place).all Char.isDigit = true :=
    List.all_eq_true.mpr fun _ => Text.isDigit_of_mem_decimal
  unfold index?
  rw [Nat.toString_eq_ofList_toDigits, String.toList_ofList]
  split
  · rename_i hnil
    exact absurd hnil Nat.toDigits_ne_nil
  · rename_i second rest hzero
    cases place with
    | zero => cases hzero
    | succ n =>
      refine absurd ?_ (head?_toDigits (Nat.succ_pos n))
      rw [hzero]
      rfl
  · rw [hdigits, if_pos rfl, Text.foldl_toDigits]

end Pointer

/-! ## Places in a document -/

namespace Json

mutual

/-- The paths to the nodes of a value, its own first. -/
def paths : Json → List (List String)
  | array items => [] :: itemPaths 0 items
  | object members => [] :: memberPaths members
  | _ => [[]]

/-- The paths to the nodes of list items, the first of which has the given place. -/
def itemPaths (place : Nat) : List Json → List (List String)
  | [] => []
  | item :: rest => (paths item).map (toString place :: ·) ++ itemPaths (place + 1) rest

/-- The paths to the nodes of members. -/
def memberPaths : List (String × Json) → List (List String)
  | [] => []
  | (name, value) :: rest => (paths value).map (name :: ·) ++ memberPaths rest

end

mutual

/-- There are as many paths as nodes. -/
theorem length_paths : ∀ node : Json, node.paths.length = node.nodeCount
  | array items => by
    rw [paths, nodeCount, List.length_cons, length_itemPaths 0 items, Nat.add_comm]
  | object members => by
    rw [paths, nodeCount, List.length_cons, length_memberPaths members, Nat.add_comm]
  | null => rfl
  | bool _ => rfl
  | number _ => rfl
  | string _ => rfl

theorem length_itemPaths (place : Nat) : ∀ items : List Json,
    (itemPaths place items).length = nodeCountItems items
  | [] => rfl
  | item :: rest => by
    rw [itemPaths, nodeCountItems, List.length_append, List.length_map, length_paths item,
      length_itemPaths (place + 1) rest]

theorem length_memberPaths : ∀ members : List (String × Json),
    (memberPaths members).length = nodeCountMembers members
  | [] => rfl
  | (name, value) :: rest => by
    rw [memberPaths, nodeCountMembers, List.length_append, List.length_map, length_paths value,
      length_memberPaths rest]

end

theorem nil_mem_paths (node : Json) : [] ∈ node.paths := by
  cases node <;> simp [paths]

theorem mem_itemPaths {items : List Json} (start : Nat) {place : Nat} {item : Json}
    {path : List String} (hitem : items[place]? = some item)
    (hpath : path ∈ item.paths) :
    toString (start + place) :: path ∈ itemPaths start items := by
  induction items generalizing start place with
  | nil => cases hitem
  | cons first rest ih =>
    rw [itemPaths]
    cases place with
    | zero =>
      cases hitem
      exact List.mem_append_left _ (List.mem_map_of_mem hpath)
    | succ place =>
      rw [List.getElem?_cons_succ] at hitem
      have hrest := ih (start + 1) hitem
      rw [Nat.add_right_comm, Nat.add_assoc] at hrest
      exact List.mem_append_right _ hrest

theorem mem_memberPaths {members : List (String × Json)} {name : String} {value : Json}
    {path : List String} (hmember : OrderedMap.get? members name = some value)
    (hpath : path ∈ value.paths) : name :: path ∈ memberPaths members := by
  induction members with
  | nil => cases hmember
  | cons member rest ih =>
    obtain ⟨first, other⟩ := member
    rw [OrderedMap.get?_cons] at hmember
    rw [memberPaths]
    split at hmember
    · rename_i hname
      cases hmember
      subst hname
      exact List.mem_append_left _ (List.mem_map_of_mem hpath)
    · exact List.mem_append_right _ (ih hmember)

/-- Every path that leads to a node is among the paths of the document. -/
theorem mem_paths_of_walk? {path : List String} {document node : Json}
    (h : document.walk? path = some node) : path ∈ document.paths := by
  induction path generalizing document with
  | nil => exact nil_mem_paths document
  | cons token rest ih =>
    rw [walk?] at h
    split at h
    · rename_i next hstep
      have hrest := ih h
      cases document with
      | object members =>
        rw [paths]
        exact List.mem_cons_of_mem _ (mem_memberPaths hstep hrest)
      | array items =>
        simp only [walk?.step?] at hstep
        split at hstep
        · rename_i place hplace
          rw [Pointer.eq_toString_of_index? hplace, paths]
          have hitem := mem_itemPaths 0 hstep hrest
          rw [Nat.zero_add] at hitem
          exact List.mem_cons_of_mem _ hitem
        · cases hstep
      | _ => cases hstep
    · cases h

/-- A path that goes on where another one ends. -/
theorem walk?_append (node : Json) (first second : List String) :
    node.walk? (first ++ second) = (node.walk? first).bind fun next => next.walk? second := by
  induction first generalizing node with
  | nil => rfl
  | cons token rest ih =>
    rw [List.cons_append, walk?, walk?]
    cases walk?.step? node token with
    | none => rfl
    | some next => exact ih next

/-- One step further down. -/
theorem walk?_append_singleton {path : List String} {document node : Json}
    (h : document.walk? path = some node) (token : String) :
    document.walk? (path ++ [token]) = walk?.step? node token := by
  rw [walk?_append, h, Option.bind_some, walk?]
  cases walk?.step? node token with
  | none => rfl
  | some next => rfl

end Json

/-! ## References that can be resolved -/

namespace Store

/-- The references to the nodes of all documents. -/
def references (store : Store) : List Reference :=
  store.documents.flatMap fun entry => entry.2.paths.map (Reference.mk entry.1)

theorem length_references (store : Store) : store.references.length = store.nodeCount := by
  obtain ⟨documents⟩ := store
  unfold references nodeCount
  induction documents with
  | nil => rfl
  | cons entry rest ih =>
    rw [List.flatMap_cons, List.length_append, List.length_map, Json.length_paths, List.foldr_cons,
      ih]

/-- A reference names the node that its path leads to in its document. -/
theorem resolve_eq_ok_iff {store : Store} {r : Reference} {node : Json} : store.resolve r = .ok node ↔
    ∃ document, store.get? r.document = some document ∧ document.walk? r.path = some node := by
  unfold resolve
  constructor
  · intro h
    split at h
    · cases h
    · rename_i document hdocument
      split at h
      · cases h
      · rename_i found hwalk
        cases h
        exact ⟨document, hdocument, hwalk⟩
  · rintro ⟨document, hdocument, hwalk⟩
    simp only [hdocument, hwalk]

/-- What stands one step below a node is found one step below its place. -/
theorem resolve_child {store : Store} {r : Reference} {node next : Json} {token : String}
    (h : store.resolve r = .ok node) (hstep : Json.walk?.step? node token = some next) :
    store.resolve (r.child token) = .ok next := by
  obtain ⟨document, hdocument, hwalk⟩ := resolve_eq_ok_iff.mp h
  refine resolve_eq_ok_iff.mpr ⟨document, hdocument, ?_⟩
  rw [Reference.child_path, Json.walk?_append_singleton hwalk, hstep]

theorem resolve_member {store : Store} {r : Reference} {members : List (String × Json)}
    {name : String} {value : Json} (h : store.resolve r = .ok (.object members))
    (hmember : OrderedMap.get? members name = some value) :
    store.resolve (r.child name) = .ok value :=
  resolve_child h hmember

theorem resolve_item {store : Store} {r : Reference} {items : List Json} {place : Nat}
    {item : Json} (h : store.resolve r = .ok (.array items)) (hitem : items[place]? = some item) :
    store.resolve (r.child (toString place)) = .ok item := by
  apply resolve_child h
  simp only [Json.walk?.step?, Pointer.index?_toString, hitem]

/-- The document of a reference is in the store, but its path leads nowhere in it. -/
def Lacks (store : Store) (r : Reference) : Prop :=
  ∃ document, store.get? r.document = some document ∧ document.walk? r.path = none

theorem resolve_of_lacks {store : Store} {r : Reference} (h : store.Lacks r) :
    store.resolve r = .error (.unresolvedReference r.canonical) := by
  obtain ⟨document, hdocument, hwalk⟩ := h
  unfold resolve
  simp only [hdocument, hwalk]

/-- A reference cannot be resolved because its document is not in the store or because its path
leads nowhere in it. -/
theorem resolve_error {store : Store} {r : Reference} {fault : Fault}
    (h : store.resolve r = .error fault) :
    (store.get? r.document = none ∧ fault = .unknownDocument r.document) ∨
      (store.Lacks r ∧ fault = .unresolvedReference r.canonical) := by
  unfold resolve at h
  split at h
  · rename_i hdocument
    cases h
    exact Or.inl ⟨hdocument, rfl⟩
  · rename_i document hdocument
    split at h
    · rename_i hwalk
      cases h
      exact Or.inr ⟨⟨document, hdocument, hwalk⟩, rfl⟩
    · cases h

theorem resolve_ne_exhausted {store : Store} {r : Reference} :
    store.resolve r ≠ .error .nestingExhausted := by
  intro h
  rcases resolve_error h with ⟨-, hfault⟩ | ⟨-, hfault⟩ <;> cases hfault

/-- Whether the store has the node that a reference names. -/
def Has (store : Store) (r : Reference) : Prop := ∃ node, store.resolve r = .ok node

theorem mem_references {store : Store} {r : Reference} (h : store.Has r) :
    r ∈ store.references := by
  obtain ⟨node, h⟩ := h
  obtain ⟨document, hdocument, hwalk⟩ := resolve_eq_ok_iff.mp h
  have hentry := OrderedMap.mem_of_get? hdocument
  exact List.mem_flatMap.mpr ⟨_, hentry, List.mem_map_of_mem (Json.mem_paths_of_walk? hwalk)⟩

/-- Different references that can be resolved are no more than the nodes of the store. -/
theorem length_le_nodeCount {store : Store} {references : List Reference}
    (hnodup : references.Nodup) (h : ∀ r ∈ references, store.Has r) :
    references.length ≤ store.nodeCount := by
  rw [← length_references]
  exact (hnodup.subperm fun r hr => mem_references (h r hr)).length_le

end Store

end SchemaTypes
