import SchemaTypes.Proofs.Enumeration
import SchemaTypes.Proofs.Store.Distinct
import SchemaTypes.Proofs.Store.Places

set_option autoImplicit false

/-!
# Paths and positions

A node has a position in its document: which part it is of the node above it, on every level.  A
path is followed token by token, and each token that means anything means one of the parts.  In
documents without repeated names this is a correspondence: every node has one path that leads to it.
-/

namespace SchemaTypes

namespace Json

/-! ## Parts of nodes -/

/-- The part of a node at a place: an item of an array, or the value of a member. -/
def part? : Json → Nat → Option Json
  | array items, place => items[place]?
  | object members, place => members[place]?.map Prod.snd
  | _, _ => none

/-- The place of the part that a token means. -/
def place? : Json → String → Option Nat
  | array items, token => (Pointer.index? token).filter (· < items.length)
  | object members, token => members.findIdx? fun member => member.1 = token
  | _, _ => none

variable {node part : Json} {place : Nat} {token other : String}

theorem place?_array_eq_some_iff {items : List Json} :
    (array items).place? token = some place ↔ token = toString place ∧ place < items.length := by
  rw [place?, Option.filter_eq_some_iff, decide_eq_true_iff]
  refine and_congr_left' ⟨Pointer.eq_toString_of_index?, ?_⟩
  rintro rfl
  exact Pointer.index?_toString place

/-- A step of a path goes to the part that the token means. -/
theorem step?_eq (node : Json) (token : String) :
    walk?.step? node token = (node.place? token).bind node.part? := by
  cases node with
  | array items =>
    rw [walk?.step?, place?]
    cases Pointer.index? token with
    | none => rfl
    | some place =>
      rw [Option.filter_some]
      by_cases hlt : place < items.length
      · rw [if_pos (decide_eq_true hlt)]
        rfl
      · simp [hlt]
  | object members => exact OrderedMap.get?_eq_bind_findIdx? members token
  | _ => rfl

/-- Two tokens that mean the same part of a node are the same. -/
theorem place?_injective (h : node.place? token = some place)
    (hother : node.place? other = some place) : token = other := by
  cases node with
  | array items =>
    rw [(place?_array_eq_some_iff.mp h).1, (place?_array_eq_some_iff.mp hother).1]
  | object members =>
    obtain ⟨hlt, hname, -⟩ := List.findIdx?_eq_some_iff_getElem.mp h
    obtain ⟨_, hother, -⟩ := List.findIdx?_eq_some_iff_getElem.mp hother
    exact (of_decide_eq_true hname).symm.trans (of_decide_eq_true hother)
  | _ => cases h

/-- Every part of a node without repeated names is meant by a token. -/
theorem exists_place? (hdistinct : node.distinct = true) (h : node.part? place = some part) :
    ∃ token, node.place? token = some place := by
  cases node with
  | array items =>
    exact ⟨toString place, place?_array_eq_some_iff.mpr ⟨rfl, (List.getElem?_eq_some_iff.mp h).1⟩⟩
  | object members =>
    obtain ⟨member, hmember, -⟩ := Option.map_eq_some_iff.mp h
    exact ⟨member.1, OrderedMap.findIdx?_of_nodup (distinct_object_iff.mp hdistinct).1 hmember⟩
  | _ => cases h

theorem distinct_of_part? (hdistinct : node.distinct = true) (h : node.part? place = some part) :
    part.distinct = true := by
  obtain ⟨token, htoken⟩ := exists_place? hdistinct h
  have hstep : walk?.step? node token = some part := by
    rw [step?_eq, htoken]
    exact h
  exact distinct_of_step? hdistinct hstep

/-! ## Positions in documents -/

/-- The node at a position: the part at each place, level by level. -/
def at? : Json → Address → Option Json
  | node, [] => some node
  | node, place :: below =>
    match node.part? place with
    | some part => part.at? below
    | none => none

/-- The position that a path leads to. -/
def locate? : Json → List String → Option Address
  | _, [] => some []
  | node, token :: path =>
    match node.place? token with
    | some place =>
      match node.part? place with
      | some part => (part.locate? path).map (place :: ·)
      | none => none
    | none => none

variable {path : List String} {address : Address}

theorem locate?_cons_eq_some_iff : node.locate? (token :: path) = some address ↔
    ∃ place below part, address = place :: below ∧ node.place? token = some place ∧
      node.part? place = some part ∧ part.locate? path = some below := by
  rw [locate?]
  constructor
  · intro h
    split at h
    · rename_i place hplace
      split at h
      · rename_i part hpart
        obtain ⟨below, hbelow, rfl⟩ := Option.map_eq_some_iff.mp h
        exact ⟨place, below, part, rfl, hplace, hpart, hbelow⟩
      · cases h
    · cases h
  · rintro ⟨place, below, part, rfl, hplace, hpart, hbelow⟩
    simp only [hplace, hpart, hbelow, Option.map_some]

/-- A path leads to the node at its position. -/
theorem walk?_eq (node : Json) (path : List String) :
    node.walk? path = (node.locate? path).bind node.at? := by
  induction path generalizing node with
  | nil => rfl
  | cons token path ih =>
    rw [walk?, step?_eq, locate?]
    cases hplace : node.place? token with
    | none => rfl
    | some place =>
      cases hpart : node.part? place with
      | none => simp only [hpart, Option.bind_some, Option.bind_none]
      | some part =>
        simp only [hpart, Option.bind_some]
        rw [ih, Option.bind_map]
        refine congrArg _ (funext fun below => ?_)
        simp only [Function.comp_apply, at?, hpart]

/-- Two paths to one position are the same. -/
theorem locate?_injective {other : List String} (h : node.locate? path = some address)
    (hother : node.locate? other = some address) : path = other := by
  induction path generalizing node other address with
  | nil =>
    cases h
    cases other with
    | nil => rfl
    | cons token other =>
      obtain ⟨place, below, part, hcons, -⟩ := locate?_cons_eq_some_iff.mp hother
      cases hcons
  | cons token path ih =>
    obtain ⟨place, below, part, rfl, hplace, hpart, hbelow⟩ := locate?_cons_eq_some_iff.mp h
    cases other with
    | nil => cases hother
    | cons token' other =>
      obtain ⟨_, _, part', hcons, hplace', hpart', hbelow'⟩ := locate?_cons_eq_some_iff.mp hother
      cases hcons
      rw [hpart] at hpart'
      cases hpart'
      rw [place?_injective hplace hplace', ih hbelow hbelow']

/-- In a document without repeated names a path leads to every node. -/
theorem exists_locate? (hdistinct : node.distinct = true) {found : Json}
    (h : node.at? address = some found) : ∃ path, node.locate? path = some address := by
  induction address generalizing node with
  | nil => exact ⟨[], rfl⟩
  | cons place below ih =>
    rw [at?] at h
    split at h
    · rename_i part hpart
      obtain ⟨token, htoken⟩ := exists_place? hdistinct hpart
      obtain ⟨path, hpath⟩ := ih (distinct_of_part? hdistinct hpart) h
      exact ⟨token :: path,
        locate?_cons_eq_some_iff.mpr ⟨place, below, part, rfl, htoken, hpart, hpath⟩⟩
    · cases h

end Json

namespace Store

variable {store : Store} {r : Reference}

/-- What a path leads to from the node that a reference names is what the reference with the longer
path names. -/
theorem resolve_append {node : Json} (h : store.resolve r = .ok node) (path : List String) :
    store.resolve ⟨r.document, r.path ++ path⟩ =
      match node.walk? path with
      | some next => .ok next
      | none =>
        .error (.unresolvedReference (Reference.mk r.document (r.path ++ path)).canonical) := by
  obtain ⟨document, hdocument, hwalk⟩ := resolve_eq_ok_iff.mp h
  unfold resolve
  simp only [hdocument, Json.walk?_append, hwalk, Option.bind_some]
  cases node.walk? path <;> rfl

/-- A token means an item of an array only if it is the numeral of its place. -/
theorem resolve_child_array_iff {items : List Json} (h : store.resolve r = .ok (.array items))
    {token : String} {item : Json} : store.resolve (r.child token) = .ok item ↔
      ∃ place : Nat, token = toString place ∧ items[place]? = some item := by
  constructor
  · intro hitem
    obtain ⟨document, hdocument, hwalk⟩ := resolve_eq_ok_iff.mp h
    obtain ⟨_, hsame, hnext⟩ := resolve_eq_ok_iff.mp hitem
    cases hdocument.symm.trans hsame
    rw [Reference.child_path, Json.walk?_append_singleton hwalk, Json.step?_eq] at hnext
    obtain ⟨place, hplace, hpart⟩ := Option.bind_eq_some_iff.mp hnext
    exact ⟨place, (Json.place?_array_eq_some_iff.mp hplace).1, hpart⟩
  · rintro ⟨place, rfl, hitem⟩
    exact resolve_item h hitem

/-- In a store whose documents repeat no names, the path of a reference goes on from the node that
it names as it does from the node itself; a path leads to a node exactly if it leads to a position
and the node is at it; every node of a document, at whatever position, is named by one reference
and by no other; and below an array a token means something exactly if it is the numeral of the
place of an item. -/
theorem nodes_have_one_path {store : Store} (h : store.Distinct) :
    (∀ r node, store.resolve r = .ok node → ∀ path,
      store.resolve ⟨r.document, r.path ++ path⟩ =
        match node.walk? path with
        | some next => .ok next
        | none =>
          .error (.unresolvedReference (Reference.mk r.document (r.path ++ path)).canonical)) ∧
    (∀ id document, store.get? id = some document →
      (∀ path node, store.resolve ⟨id, path⟩ = .ok node ↔
        ∃ address, document.locate? path = some address ∧ document.at? address = some node) ∧
      ∀ address node, document.at? address = some node →
        ∃ path, store.resolve ⟨id, path⟩ = .ok node ∧ document.locate? path = some address ∧
          ∀ other, document.locate? other = some address → other = path) ∧
    ∀ r items, store.resolve r = .ok (.array items) → ∀ token item,
      store.resolve (r.child token) = .ok item ↔
        ∃ place : Nat, token = toString place ∧ items[place]? = some item := by
  refine ⟨fun r node hnode path => resolve_append hnode path, fun id document hdocument => ?_,
    fun r items hitems token item => resolve_child_array_iff hitems⟩
  have hdistinct := h _ (OrderedMap.mem_of_get? hdocument)
  have hresolve : ∀ path node, store.resolve ⟨id, path⟩ = .ok node ↔
      ∃ address, document.locate? path = some address ∧ document.at? address = some node := by
    intro path node
    rw [resolve_eq_ok_iff]
    simp only [hdocument, Option.some.injEq, exists_eq_left', Json.walk?_eq,
      Option.bind_eq_some_iff]
  refine ⟨hresolve, fun address node hnode => ?_⟩
  obtain ⟨path, hpath⟩ := Json.exists_locate? hdistinct hnode
  exact ⟨path, (hresolve path node).mpr ⟨address, hpath, hnode⟩, hpath,
    fun other hother => Json.locate?_injective hother hpath⟩

/-- A document with an empty name, an array and a name that is a numeral. -/
def nestedDocument : Json := .object [("", .array [.null, .object [("0", .bool true)]])]

/-- The value at the second item is named by one reference, which goes on from the array; a numeral
with a leading zero means no item of it. -/
theorem nodes_have_one_path_nested :
    let store : Store := ⟨[("api.json", nestedDocument)]⟩
    let items : List Json := [.null, .object [("0", .bool true)]]
    store.Distinct ∧
    (store.resolve ⟨"api.json", [""]⟩ = .ok (.array items) ∧
      store.resolve ⟨"api.json", [""] ++ ["1", "0"]⟩ = .ok (.bool true)) ∧
    (store.get? "api.json" = some nestedDocument ∧
      nestedDocument.at? [0, 1, 0] = some (.bool true) ∧
      ∀ other, nestedDocument.locate? other = some [0, 1, 0] → other = ["", "1", "0"]) ∧
    ∀ item, store.resolve ((Reference.mk "api.json" [""]).child "01") ≠ .ok item := by
  intro store items
  have hdistinct : store.Distinct := List.forall_mem_singleton.mpr rfl
  obtain ⟨happend, hone, harray⟩ := nodes_have_one_path hdistinct
  have hitems : store.resolve ⟨"api.json", [""]⟩ = .ok (.array items) := rfl
  have hdocument : store.get? "api.json" = some nestedDocument := rfl
  have hnode : nestedDocument.at? [0, 1, 0] = some (.bool true) := rfl
  obtain ⟨path, -, -, honly⟩ := (hone _ _ hdocument).2 _ _ hnode
  have hpath : nestedDocument.locate? ["", "1", "0"] = some [0, 1, 0] := by decide
  refine ⟨hdistinct, ⟨hitems, (happend _ _ hitems _).trans ?_⟩, ⟨hdocument, hnode,
    fun other hother => (honly other hother).trans (honly _ hpath).symm⟩, fun item hitem => ?_⟩
  · rfl
  · obtain ⟨place, htoken, -⟩ := (harray _ _ hitems _ _).mp hitem
    have hmeans := Pointer.index?_toString place
    have hnothing : Pointer.index? "01" = none := by decide
    rw [← htoken, hnothing] at hmeans
    cases hmeans

end Store

end SchemaTypes
