import Mathlib.Logic.Relation
import SchemaTypes.Proofs.Schema.Calls
import SchemaTypes.Proofs.Schema.Keywords
import SchemaTypes.Proofs.Store.Distinct
import SchemaTypes.Proofs.Store.Places

set_option autoImplicit false

/-!
# Where parsed nodes stand

Below the resolution of a reference, nodes are parsed inside its target and, wherever one of them is
a reference, inside the target of that one in turn.  As long as the names in every object differ, a
node that is parsed is the node that the store has at the place it is said to stand at.
-/

namespace SchemaTypes

open Relation (ReflTransGen)

namespace Store

variable {store : Store} {r : Reference} {call inner : Schema.Call}

/-! ## Parts of nodes -/

/-- A schema is that of the node which the store has at a place. -/
def Reads (store : Store) (place : Reference) (schema : Schema) : Prop :=
  ∃ node, store.resolve place = .ok node ∧ schema = Schema.ofJson place node

/-- The schemas that the schema of an object node is put together of are those of the nodes which
the store has at their places. -/
structure ReadsParts (store : Store) (location : Reference) (members : Schema.Members) : Prop where
  list : ∀ (keyword : String) (place : Nat) (schema : Schema),
    ((Schema.partsOf location members).list keyword)[place]? = some schema →
      store.Reads ((location.child keyword).child (toString place)) schema
  schema : ∀ (keyword : String) (value : Json), OrderedMap.get? members keyword = some value →
    store.Reads (location.child keyword) ((Schema.partsOf location members).schema keyword)
  fields : ∀ field ∈ (Schema.partsOf location members).fields,
    store.Reads ((location.child "properties").child field.1) field.2

theorem Distinct.readsParts (h : store.Distinct) {members : Schema.Members}
    (hnode : store.resolve r = .ok (.object members)) : store.ReadsParts r members where
  list keyword place schema hschema := by
    change (Schema.listAt r keyword members)[place]? = some schema at hschema
    rw [Schema.listAt_eq] at hschema
    split at hschema
    · rename_i items hitems
      rw [Schema.getElem?_ofItems, Nat.zero_add] at hschema
      obtain ⟨item, hitem, rfl⟩ := Option.map_eq_some_iff.mp hschema
      exact ⟨item, resolve_item (resolve_member hnode hitems) hitem, rfl⟩
    · cases hschema
  schema keyword value hvalue := by
    refine ⟨value, resolve_member hnode hvalue, ?_⟩
    change Schema.schemaAt r keyword members = _
    rw [Schema.schemaAt_eq, hvalue]
  fields field hfield := by
    change field ∈ Schema.fieldsAt r members at hfield
    rw [Schema.fieldsAt_eq] at hfield
    split at hfield
    · rename_i fields hfields
      rw [Schema.ofFields_eq_map] at hfield
      obtain ⟨⟨name, value⟩, hmem, rfl⟩ := List.mem_map.mp hfield
      have hfields := resolve_member hnode hfields
      exact ⟨value, resolve_member hfields
        (Json.get?_of_mem_of_distinct (h.resolve hfields) hmem), rfl⟩
    · cases hfield

/-! ## Calls -/

/-- A node that is parsed is a reference to `r`. -/
def Refers (call : Schema.Call) (r : Reference) : Prop :=
  ∃ target, call.2.stringMember? "$ref" = some target ∧
    Reference.parse target call.1.document = .ok r

/-- Parsing a node may come to another one: inside it, or to the target of the reference it is. -/
inductive Calls (store : Store) : Schema.Call → Schema.Call → Prop
  | inside {call inner : Schema.Call} (inside : Schema.Calls call inner) : Calls store call inner
  | target {call : Schema.Call} {r : Reference} {node : Json} (refers : Refers call r)
      (resolves : store.resolve r = .ok node) : Calls store call (r, node)

/-- Resolving a reference may come to a node. -/
def Reaches (store : Store) (start : Reference) (call : Schema.Call) : Prop :=
  ∃ root, store.resolve start = .ok root ∧ ReflTransGen store.Calls (start, root) call

/-- A reference is the one that is resolved, or is written at a node that this comes to. -/
def Meets (store : Store) (start r : Reference) : Prop :=
  r = start ∨ ∃ call, store.Reaches start call ∧ Refers call r

/-- A node that is come to stands where it is said to if the one that it is come from does. -/
theorem Calls.located (hdistinct : store.Distinct) (h : store.Calls call inner)
    (hcall : store.resolve call.1 = .ok call.2) : store.resolve inner.1 = .ok inner.2 := by
  cases h with
  | target _ resolves => exact resolves
  | inside inside =>
    cases inside with
    | listed _ found stands => exact resolve_item (resolve_member hcall found) stands
    | items found _ => exact resolve_member hcall found
    | values found => exact resolve_member hcall found
    | field found stands =>
      have hfields := resolve_member hcall found
      exact resolve_member hfields (Json.get?_of_mem_of_distinct (hdistinct.resolve hfields) stands)

theorem Reaches.located {start : Reference} (hdistinct : store.Distinct)
    (h : store.Reaches start call) : store.resolve call.1 = .ok call.2 := by
  obtain ⟨root, hroot, hcalls⟩ := h
  induction hcalls with
  | refl => exact hroot
  | tail _ hcall ih => exact hcall.located hdistinct ih

theorem Reaches.inside {start : Reference} (h : store.Reaches start call)
    (hinside : Schema.Calls call inner) : store.Reaches start inner := by
  obtain ⟨root, hroot, hcalls⟩ := h
  exact ⟨root, hroot, hcalls.tail (.inside hinside)⟩

/-- The target of a reference that is met is come to. -/
theorem Meets.reaches {start : Reference} (h : store.Meets start r) {node : Json}
    (hnode : store.resolve r = .ok node) : store.Reaches start (r, node) := by
  rcases h with rfl | ⟨call, ⟨root, hroot, hcalls⟩, hrefers⟩
  · exact ⟨node, hnode, .refl⟩
  · exact ⟨root, hroot, hcalls.tail (.target hrefers hnode)⟩

end Store

end SchemaTypes
