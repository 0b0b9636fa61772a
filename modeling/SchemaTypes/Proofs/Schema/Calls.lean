import SchemaTypes.Proofs.OrderedMap
import SchemaTypes.Proofs.Schema.Keywords
import SchemaTypes.Proofs.Schema.Parsing

set_option autoImplicit false

/-!
# The nodes that are parsed

Parsing a node comes to other nodes inside it, each at the place that is put together out of the
place of the node, the keyword and the position or name below it.  What is asked for at a node is
what the node itself gives rise to: it is a reference, it is a text, or it violates one of the rules
on the shape of schemas.  Whatever holds of steps that announce such nodes and ask such questions,
and of steps one after the other, therefore holds of parsing.
-/

namespace SchemaTypes.Schema

/-! ## Nodes and their places -/

/-- A node violates one of the rules on the shape of schemas, for which there is a reason. -/
inductive Violates : Json → String → Prop
  | node {node : Json} (object : ∀ members, node ≠ .object members)
      (bool : ∀ value, node ≠ .bool value) :
      Violates node ("expected a schema object, found " ++ node.typeName)
  | reference {members : Members} {value : Json}
      (found : OrderedMap.get? members "$ref" = some value)
      (text : ∀ target, value ≠ .string target) :
      Violates (.object members) "`$ref` must be a string"
  | enum {members : Members} {value : Json} (found : OrderedMap.get? members "enum" = some value)
      (list : ∀ items, value ≠ .array items) :
      Violates (.object members) "`enum` must be an array"
  | schemas {members : Members} {value : Json} {keyword : String}
      (lists : keyword ∈ "prefixItems" :: combiningKeywords)
      (found : OrderedMap.get? members keyword = some value)
      (list : ∀ items, value ≠ .array items) :
      Violates (.object members) ("`" ++ keyword ++ "` must be an array of schemas")
  | type {members : Members} {value : Json} (found : OrderedMap.get? members "type" = some value)
      (text : ∀ name, value ≠ .string name) (list : ∀ items, value ≠ .array items) :
      Violates (.object members) "`type` must be a string or an array of strings"
  | typeEntry {members : Members} {items : List Json} {item : Json}
      (found : OrderedMap.get? members "type" = some (.array items)) (stands : item ∈ items)
      (text : ∀ name, item ≠ .string name) :
      Violates (.object members) "`type` entries must be strings"
  | properties {members : Members} {value : Json}
      (found : OrderedMap.get? members "properties" = some value)
      (object : ∀ fields, value ≠ .object fields) :
      Violates (.object members) "`properties` must be an object"

/-- A node that is parsed, at the place that it is said to stand at. -/
abbrev Call := Reference × Json

/-- Parsing a node may come to another one inside it. -/
inductive Calls : Call → Call → Prop
  | listed {location : Reference} {members : Members} {keyword : String} {items : List Json}
      {place : Nat} {item : Json}
      (lists : keyword ∈ combiningKeywords ++ listKeywords)
      (found : OrderedMap.get? members keyword = some (.array items))
      (stands : items[place]? = some item) :
      Calls (location, .object members)
        ((location.child keyword).child (toString place), item)
  | items {location : Reference} {members : Members} {value : Json}
      (found : OrderedMap.get? members "items" = some value)
      (single : ∀ items, value ≠ .array items) :
      Calls (location, .object members) (location.child "items", value)
  | values {location : Reference} {members inner : Members}
      (found : OrderedMap.get? members "additionalProperties" = some (.object inner)) :
      Calls (location, .object members) (location.child "additionalProperties", .object inner)
  | field {location : Reference} {members fields : Members} {name : String} {value : Json}
      (found : OrderedMap.get? members "properties" = some (.object fields))
      (stands : (name, value) ∈ fields) :
      Calls (location, .object members) ((location.child "properties").child name, value)

/-- A node inside another one is in the same document. -/
theorem Calls.document_eq {call inner : Call} (h : Calls call inner) :
    inner.1.document = call.1.document := by
  cases h <;> rfl

/-- What a node may ask for. -/
inductive Asks : Call → Question → Prop
  | malformed {location : Reference} {node : Json} {reason : String}
      (violates : Violates node reason) : Asks (location, node) (.malformed location reason)
  | reference {location : Reference} {node : Json} {target : String}
      (written : node.stringMember? "$ref" = some target) :
      Asks (location, node) (.reference target)
  | text (call : Call) (format : Option String) : Asks call (.text format)

/-! ## What holds of parsing -/

section Supports

variable {m : Type → Type} [Monad m]

/-- What has to be shown of steps in order to know that `H` holds of parsing the nodes of which `L`
holds: it holds of steps one after the other, `L` holds of the nodes that parsing comes to, and `H`
holds of announcing these nodes and of what they ask for. -/
structure Supports (H : (α : Type) → m α → Prop) (L : Call → Prop)
    (enter : Reference → Json → m Unit) (ask : Reference → Question → m TypeExpr) : Prop where
  pure : ∀ {α : Type} (value : α), H α (Pure.pure value)
  bind : ∀ {α β : Type} {x : m α} {f : α → m β}, H α x → (∀ value, H β (f value)) →
    H β (x >>= f)
  calls : ∀ {call inner}, L call → Calls call inner → L inner
  enter : ∀ {call}, L call → H _ (enter call.1 call.2)
  ask : ∀ {call q}, L call → Asks call q → H _ (ask call.1 q)

variable {H : (α : Type) → m α → Prop} {L : Call → Prop} {enter : Reference → Json → m Unit}
  {ask : Reference → Question → m TypeExpr} {location : Reference} {members : Members}

/-- `H` holds of what is done with the nodes inside a node. -/
structure PartParsers.Hold (H : (α : Type) → m α → Prop) (members : Members)
    (parsers : PartParsers m) : Prop where
  list : ∀ keyword ∈ combiningKeywords ++ listKeywords, H _ (parsers.list keyword)
  items : ∀ value, OrderedMap.get? members "items" = some value →
    (∀ items, value ≠ .array items) → H _ (parsers.schema "items")
  values : ∀ inner, OrderedMap.get? members "additionalProperties" = some (.object inner) →
    H _ (parsers.schema "additionalProperties")
  fields : ∀ label, H _ (parsers.fields label)

namespace Supports

section Node

variable {parsers : PartParsers m} {values : List Json}

theorem parseLiteralsOr (rules : Supports H L enter ask) {kind : Kind} {otherwise : m TypeExpr}
    (h : H _ otherwise) : H _ (parseLiteralsOr values kind otherwise) := by
  unfold Schema.parseLiteralsOr
  split
  · exact h
  · exact rules.pure _

theorem malformed (rules : Supports H L enter ask) (hnode : L (location, .object members))
    {reason : String} (h : Violates (.object members) reason) :
    H _ (ask location (.malformed location reason)) :=
  rules.ask hnode (.malformed h)

theorem parseArray (rules : Supports H L enter ask) (hnode : L (location, .object members))
    (h : parsers.Hold H members) : H _ (parseArray (ask location) location members parsers) := by
  unfold Schema.parseArray
  cases hprefix : OrderedMap.get? members "prefixItems" with
  | some value =>
    cases value with
    | array => exact rules.bind (h.list _ (by simp [listKeywords])) fun _ => rules.pure _
    | _ => exact rules.malformed hnode (.schemas (by simp) hprefix (by simp))
  | none =>
    cases hitems : OrderedMap.get? members "items" with
    | none => exact rules.pure _
    | some value =>
      cases value with
      | array => exact rules.bind (h.list _ (by simp [listKeywords])) fun _ => rules.pure _
      | _ => exact rules.bind (h.items _ hitems (by simp)) fun _ => rules.pure _

theorem parseObject (rules : Supports H L enter ask) (hnode : L (location, .object members))
    (h : parsers.Hold H members) : H _ (parseObject (ask location) location members parsers) := by
  unfold Schema.parseObject
  cases hproperties : OrderedMap.get? members "properties" with
  | some value =>
    cases value with
    | object => exact rules.bind (h.fields _) fun _ => rules.pure _
    | _ => exact rules.malformed hnode (.properties hproperties (by simp))
  | none =>
    cases hvalues : OrderedMap.get? members "additionalProperties" with
    | none => exact rules.pure _
    | some value =>
      cases value with
      | object inner => exact rules.bind (h.values inner hvalues) fun _ => rules.pure _
      | bool allowed => cases allowed <;> exact rules.pure _
      | _ => exact rules.pure _

theorem parseKind (rules : Supports H L enter ask) (hnode : L (location, .object members))
    (h : parsers.Hold H members) (kind : Kind) :
    H _ (parseKind (ask location) location members values parsers kind) := by
  cases kind with
  | string => exact rules.parseLiteralsOr (rules.ask hnode (.text _ _))
  | number => exact rules.parseLiteralsOr (rules.pure _)
  | integer => exact rules.parseLiteralsOr (rules.pure _)
  | boolean => exact rules.parseLiteralsOr (rules.pure _)
  | null => exact rules.pure _
  | array => exact rules.parseArray hnode h
  | object => exact rules.parseObject hnode h

theorem inOrder {α : Type} (rules : Supports H L enter ask) {steps : List (m α)}
    (h : ∀ step ∈ steps, H _ step) : H _ (inOrder steps) := by
  induction steps with
  | nil => exact rules.pure _
  | cons step rest ih =>
    obtain ⟨hstep, hrest⟩ := List.forall_mem_cons.mp h
    exact rules.bind hstep fun _ => rules.bind (ih hrest) fun _ => rules.pure _

/-- A list that is not one of texts has an item that is none. -/
theorem exists_of_texts?_eq_none {items : List Json} (h : texts? items = none) :
    ∃ item ∈ items, ∀ name, item ≠ .string name := by
  induction items with
  | nil => cases h
  | cons item rest ih =>
    cases item with
    | string value =>
      obtain ⟨other, hother, htext⟩ := ih (Option.map_eq_none_iff.mp h)
      exact ⟨other, List.mem_cons_of_mem _ hother, htext⟩
    | _ => exact ⟨_, List.mem_cons_self, by simp⟩

theorem violates_of_declaredKinds {reason : String} (h : declaredKinds members = .error reason) :
    Violates (.object members) reason := by
  unfold declaredKinds at h
  split at h
  · cases h
  · cases h
  · rename_i items htype
    split at h
    · cases h
    · rename_i htexts
      cases h
      obtain ⟨item, hitem, htext⟩ := exists_of_texts?_eq_none htexts
      exact .typeEntry htype hitem htext
  · rename_i value htext hlist htype
    cases h
    exact .type htype htext hlist

theorem parseKinds (rules : Supports H L enter ask) (hnode : L (location, .object members))
    (h : parsers.Hold H members) :
    H _ (parseKinds (ask location) location members values parsers) := by
  unfold Schema.parseKinds
  split
  · rename_i reason hreason
    exact rules.malformed hnode (violates_of_declaredKinds hreason)
  · split
    · exact rules.pure _
    · refine rules.bind (rules.inOrder fun step hstep => ?_) fun _ => rules.pure _
      obtain ⟨kind, -, rfl⟩ := List.mem_map.mp hstep
      exact rules.parseKind hnode h kind

theorem parseCombined (rules : Supports H L enter ask) (hnode : L (location, .object members))
    (h : parsers.Hold H members) {keyword : String}
    (hkeyword : keyword ∈ combiningKeywords) (combine : List TypeExpr → TypeExpr)
    {otherwise : m TypeExpr} (hother : H _ otherwise) :
    H _ (parseCombined (ask location) location members parsers keyword combine otherwise) := by
  unfold Schema.parseCombined
  cases hvalue : OrderedMap.get? members keyword with
  | none => exact hother
  | some value =>
    cases value with
    | array =>
      exact rules.bind (h.list keyword (List.mem_append_left _ hkeyword)) fun _ => rules.pure _
    | _ =>
      exact rules.malformed hnode (.schemas (List.mem_cons_of_mem _ hkeyword) hvalue (by simp))

theorem violates_of_listed (h : listed members = .malformed) :
    Violates (.object members) "`enum` must be an array" := by
  unfold listed at h
  split at h
  · cases h
  · rename_i value hlist henum
    exact .enum henum hlist
  · split at h <;> cases h

theorem parseMembers (rules : Supports H L enter ask) (hnode : L (location, .object members))
    (h : parsers.Hold H members) :
    H _ (parseMembers (ask location) location members parsers) := by
  unfold Schema.parseMembers
  cases hlisted : listed members with
  | malformed => exact rules.malformed hnode (violates_of_listed hlisted)
  | _ =>
    cases hvalue : OrderedMap.get? members "$ref" with
    | none =>
      exact rules.parseCombined hnode h (by decide) _ (rules.parseCombined hnode h (by decide) _
        (rules.parseCombined hnode h (by decide) _ (rules.parseKinds hnode h)))
    | some value =>
      cases value with
      | string target =>
        exact rules.ask hnode (.reference (Json.stringMember?_eq_some_iff.mpr hvalue))
      | _ => exact rules.malformed hnode (.reference hvalue (by simp))

end Node

mutual

/-- What holds of announcing nodes and of what they ask for holds of parsing. -/
theorem parse (rules : Supports H L enter ask) {location : Reference} : ∀ node : Json,
    L (location, node) → H _ (parse enter ask location node)
  | .object members, hnode => by
    have hparts : PartParsers.Hold H members
        { list := fun keyword => Schema.parseListAt enter ask location keyword members
          schema := fun keyword => Schema.parseAt enter ask location keyword members
          fields := fun label => Schema.parseFieldsAt enter ask location label members } :=
      ⟨fun keyword hlists => rules.parseListAt hnode hlists members rfl,
        fun value hvalue hsingle => rules.parseAt (rules.calls hnode (.items hvalue hsingle))
          members hvalue,
        fun inner hvalue => rules.parseAt (rules.calls hnode (.values hvalue)) members hvalue,
        fun label => rules.parseFieldsAt hnode label members rfl⟩
    rw [Schema.parse]
    refine rules.bind (rules.enter hnode) fun _ => ?_
    split
    · exact rules.bind (rules.parseMembers hnode hparts) fun _ => rules.pure _
    · exact rules.parseMembers hnode hparts
  | .bool _, hnode => rules.bind (rules.enter hnode) fun _ => rules.pure _
  | .null, hnode => rules.bind (rules.enter hnode) fun _ =>
      rules.ask hnode (.malformed (.node (by simp) (by simp)))
  | .number _, hnode => rules.bind (rules.enter hnode) fun _ =>
      rules.ask hnode (.malformed (.node (by simp) (by simp)))
  | .string _, hnode => rules.bind (rules.enter hnode) fun _ =>
      rules.ask hnode (.malformed (.node (by simp) (by simp)))
  | .array _, hnode => rules.bind (rules.enter hnode) fun _ =>
      rules.ask hnode (.malformed (.node (by simp) (by simp)))

theorem parseListAt (rules : Supports H L enter ask) {location : Reference} {all : Members}
    (hnode : L (location, .object all)) {keyword : String}
    (hlists : keyword ∈ combiningKeywords ++ listKeywords) :
    ∀ members : List (String × Json),
      OrderedMap.get? all keyword = OrderedMap.get? members keyword →
        H _ (parseListAt enter ask location keyword members)
  | [], _ => rules.pure _
  | (name, value) :: rest, hfound => by
    rw [OrderedMap.get?_cons] at hfound
    cases value with
    | array items =>
      rw [Schema.parseListAt]
      split at hfound
      · rename_i hname
        rw [if_pos hname]
        refine rules.parseItems 0 items fun place item hitem => ?_
        rw [Nat.zero_add]
        exact rules.calls hnode (.listed hlists hfound hitem)
      · rename_i hname
        rw [if_neg hname]
        exact rules.parseListAt hnode hlists rest hfound
    | _ =>
      unfold Schema.parseListAt
      split at hfound
      · rename_i hname
        rw [if_pos hname]
        exact rules.pure _
      · rename_i hname
        rw [if_neg hname]
        exact rules.parseListAt hnode hlists rest hfound

theorem parseAt (rules : Supports H L enter ask) {location : Reference} {keyword : String}
    {inner : Json} (hnode : L (location.child keyword, inner)) :
    ∀ members : List (String × Json), OrderedMap.get? members keyword = some inner →
      H _ (parseAt enter ask location keyword members)
  | [], hfound => by cases hfound
  | (name, value) :: rest, hfound => by
    rw [OrderedMap.get?_cons] at hfound
    rw [Schema.parseAt]
    split at hfound
    · rename_i hname
      rw [if_pos hname]
      exact rules.parse value (Option.some.inj hfound ▸ hnode)
    · rename_i hname
      rw [if_neg hname]
      exact rules.parseAt hnode rest hfound

theorem parseFieldsAt (rules : Supports H L enter ask) {location : Reference} {all : Members}
    (hnode : L (location, .object all)) (label : String → FieldLabel) :
    ∀ members : List (String × Json),
      OrderedMap.get? all "properties" = OrderedMap.get? members "properties" →
        H _ (parseFieldsAt enter ask location label members)
  | [], _ => rules.pure _
  | (name, value) :: rest, hfound => by
    rw [OrderedMap.get?_cons] at hfound
    cases value with
    | object fields =>
      rw [Schema.parseFieldsAt]
      split at hfound
      · rename_i hname
        rw [if_pos hname]
        exact rules.parseFields label fields fun name value hfield =>
          rules.calls hnode (.field hfound hfield)
      · rename_i hname
        rw [if_neg hname]
        exact rules.parseFieldsAt hnode label rest hfound
    | _ =>
      unfold Schema.parseFieldsAt
      split at hfound
      · rename_i hname
        rw [if_pos hname]
        exact rules.pure _
      · rename_i hname
        rw [if_neg hname]
        exact rules.parseFieldsAt hnode label rest hfound

theorem parseItems (rules : Supports H L enter ask) {location : Reference} (start : Nat) :
    ∀ items : List Json,
      (∀ place item, items[place]? = some item →
        L (location.child (toString (start + place)), item)) →
        H _ (parseItems enter ask location start items)
  | [], _ => rules.pure _
  | item :: rest, hitems => by
    refine rules.bind (rules.parse item (hitems 0 item rfl)) fun _ =>
      rules.bind (rules.parseItems (start + 1) rest fun place other hother => ?_) fun _ =>
        rules.pure _
    have hplace : start + 1 + place = start + (place + 1) := by omega
    rw [hplace]
    exact hitems (place + 1) other hother

theorem parseFields (rules : Supports H L enter ask) {location : Reference}
    (label : String → FieldLabel) : ∀ fields : List (String × Json),
      (∀ name value, (name, value) ∈ fields → L (location.child name, value)) →
        H _ (parseFields enter ask location label fields)
  | [], _ => rules.pure _
  | (name, value) :: rest, hfields =>
    rules.bind (rules.parse value (hfields name value List.mem_cons_self)) fun _ =>
      rules.bind (rules.parseFields label rest fun other inner hother =>
        hfields other inner (List.mem_cons_of_mem _ hother)) fun _ => rules.pure _

end

end Supports

end Supports

end SchemaTypes.Schema
