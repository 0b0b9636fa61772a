import SchemaTypes.Operation.Media
import SchemaTypes.Proofs.Operation.Chains
import SchemaTypes.Proofs.Store.Distinct

set_option autoImplicit false

/-!
# Places of schemas

The schema of a parameter, a body or a response is looked for by media type, and the place that is
given for it is put together from names, apart from that search.  The two go together: the schema
that counts is told by the configuration and by the order of the document, and where the names in an
object differ, it is what the store has at the place.
-/

namespace SchemaTypes.Media

variable {store : Store} {config : Config} {preferred : List String}
  {content : OrderedMap String Json} {owner location : Reference} {node entry schema : Json}
  {media : String}

/-! ## The media type that counts -/

/-- A node carries a schema. -/
def Carries (node : Json) : Prop := ∃ schema, node.member? "schema" = some schema

/-- A content has an entry for a media type that carries a schema. -/
def Offers (content : OrderedMap String Json) (media : String) : Prop :=
  ∃ entry, content.get? media = some entry ∧ Carries entry

/-- The media type whose schema counts, and its entry: the first of the configured ones that the
content offers a schema for; if it offers one for none of them, the first one in the content whose
entry carries one. -/
inductive Chosen (preferred : List String) (content : OrderedMap String Json) (media : String)
    (entry : Json) : Prop
  | preferred {turn : Nat} (stands : preferred[turn]? = some media)
      (found : content.get? media = some entry) (carries : Carries entry)
      (first : ∀ earlier other, earlier < turn → preferred[earlier]? = some other →
        ¬ Offers content other) : Chosen preferred content media entry
  | listed {turn : Nat} (others : ∀ other ∈ preferred, ¬ Offers content other)
      (stands : content[turn]? = some (media, entry)) (carries : Carries entry)
      (first : ∀ earlier other, earlier < turn → content[earlier]? = some other →
        ¬ Carries other.2) : Chosen preferred content media entry

theorem hasSchema_iff : hasSchema node = true ↔ Carries node := Option.isSome_iff_exists

theorem any_hasSchema_iff : (content.get? media).any hasSchema = true ↔ Offers content media := by
  unfold Offers
  rw [Option.any_eq_true]
  simp only [hasSchema_iff]

/-- The item that a search finds is the first one of its kind. -/
theorem find?_eq_some_iff_first {α : Type} {items : List α} {test : α → Bool} {found : α} :
    items.find? test = some found ↔ ∃ turn : Nat, items[turn]? = some found ∧ test found = true ∧
      ∀ (earlier : Nat) other, earlier < turn → items[earlier]? = some other →
        ¬ test other = true := by
  rw [List.find?_eq_some_iff_getElem]
  constructor
  · rintro ⟨htest, turn, hwithin, hfound, hfirst⟩
    refine ⟨turn, List.getElem?_eq_some_iff.mpr ⟨hwithin, hfound⟩, htest, ?_⟩
    intro earlier other hearlier hother
    obtain ⟨_, rfl⟩ := List.getElem?_eq_some_iff.mp hother
    simpa using hfirst earlier hearlier
  · rintro ⟨turn, hstands, htest, hfirst⟩
    obtain ⟨hwithin, hfound⟩ := List.getElem?_eq_some_iff.mp hstands
    refine ⟨htest, turn, hwithin, hfound, fun earlier hearlier => ?_⟩
    have hother := List.getElem?_eq_getElem (Nat.lt_trans hearlier hwithin)
    simpa using hfirst earlier _ hearlier hother

theorem choose?_eq_some_iff : choose? preferred content = some media ↔
    ∃ entry, Chosen preferred content media entry := by
  unfold choose?
  cases hpreferred : preferred.find? fun media => (content.get? media).any hasSchema with
  | some found =>
    obtain ⟨turn, hstands, hoffers, hfirst⟩ := find?_eq_some_iff_first.mp hpreferred
    simp only [any_hasSchema_iff] at hoffers hfirst
    constructor
    · rintro ⟨⟩
      obtain ⟨entry, hentry, hcarries⟩ := hoffers
      exact ⟨entry, .preferred hstands hentry hcarries hfirst⟩
    · rintro ⟨entry, @⟨other, stands, hentry, carries, first⟩ | ⟨others, -, -, -⟩⟩
      · -- both are the first one that is offered
        rcases Nat.lt_trichotomy turn other with hlt | rfl | hlt
        · exact absurd hoffers (first turn found hlt hstands)
        · exact hstands.symm.trans stands
        · exact absurd ⟨entry, hentry, carries⟩ (hfirst other media hlt stands)
      · exact absurd hoffers (others found (List.mem_of_getElem? hstands))
  | none =>
    have hothers : ∀ other ∈ preferred, ¬ Offers content other := by
      intro other hother hoffers
      exact List.find?_eq_none.mp hpreferred other hother (any_hasSchema_iff.mpr hoffers)
    simp only [Option.map_eq_some_iff, find?_eq_some_iff_first, hasSchema_iff]
    constructor
    · rintro ⟨⟨media, entry⟩, ⟨turn, hstands, hcarries, hfirst⟩, rfl⟩
      exact ⟨entry, .listed hothers hstands hcarries hfirst⟩
    · rintro ⟨entry, ⟨stands, hentry, carries, -⟩ | ⟨-, stands, carries, first⟩⟩
      · exact absurd ⟨entry, hentry, carries⟩ (hothers media (List.mem_of_getElem? stands))
      · exact ⟨_, ⟨_, stands, carries, first⟩, rfl⟩

/-- No media type counts exactly if no entry carries a schema. -/
theorem choose?_eq_none_iff : choose? preferred content = none ↔
    ∀ entry ∈ content, ¬ Carries entry.2 := by
  unfold choose?
  cases hpreferred : preferred.find? fun media => (content.get? media).any hasSchema with
  | some found =>
    obtain ⟨-, -, hoffers, -⟩ := find?_eq_some_iff_first.mp hpreferred
    obtain ⟨entry, hentry, hcarries⟩ := any_hasSchema_iff.mp hoffers
    refine iff_of_false nofun fun hnone => ?_
    exact hnone _ (OrderedMap.mem_of_get? hentry) hcarries
  | none => simp only [Option.map_eq_none_iff, List.find?_eq_none, hasSchema_iff]

theorem Chosen.carries (h : Chosen preferred content media entry) : Carries entry := by
  cases h <;> assumption

/-- Among different names, the entry that counts is the one of its media type. -/
theorem Chosen.get? (h : Chosen preferred content media entry)
    (hdistinct : (Json.object content).distinct = true) : content.get? media = some entry := by
  cases h with
  | preferred _ found => exact found
  | listed _ stands =>
    exact Json.get?_of_mem_of_distinct hdistinct (List.mem_of_getElem? stands)

/-! ## The place of the schema -/

/-- The schema that a node carries, and its place: below the media type that counts if the node has
a content, which is an object, and otherwise directly below the node. -/
inductive CarriesAt (preferred : List String) (owner : Reference) (node : Json) :
    Reference → Json → Prop
  | content {content : OrderedMap String Json} {media : String} {entry schema : Json}
      (given : node.member? "content" = some (.object content))
      (chosen : Chosen preferred content media entry)
      (carries : entry.member? "schema" = some schema) :
      CarriesAt preferred owner node (((owner.child "content").child media).child "schema") schema
  | direct {schema : Json} (without : ∀ content, node.member? "content" ≠ some (.object content))
      (carries : node.member? "schema" = some schema) :
      CarriesAt preferred owner node (owner.child "schema") schema

/-- A node carries no schema: no entry of its content does or, if it has no content, it has none
itself. -/
inductive Bare (node : Json) : Prop
  | content {content : OrderedMap String Json}
      (given : node.member? "content" = some (.object content))
      (none : ∀ entry ∈ content, ¬ Carries entry.2) : Bare node
  | direct (without : ∀ content, node.member? "content" ≠ some (.object content))
      (none : ¬ Carries node) : Bare node

theorem bind_members?_eq_none_iff {found : Option Json} :
    found.bind Json.members? = none ↔ ∀ content, found ≠ some (.object content) := by
  rw [Option.eq_none_iff_forall_ne_some]
  exact forall_congr' fun content => not_congr Json.bind_members?_eq_some_iff

theorem schemaPlace?_eq_some_iff : schemaPlace? preferred owner node = some location ↔
    ∃ schema, CarriesAt preferred owner node location schema := by
  unfold schemaPlace?
  cases hcontent : (node.member? "content").bind Json.members? with
  | some content =>
    have hgiven := Json.bind_members?_eq_some_iff.mp hcontent
    simp only [Option.map_eq_some_iff, choose?_eq_some_iff]
    constructor
    · rintro ⟨media, ⟨entry, hchosen⟩, rfl⟩
      obtain ⟨schema, hschema⟩ := hchosen.carries
      exact ⟨schema, .content hgiven hchosen hschema⟩
    · rintro ⟨schema, ⟨given, chosen, -⟩ | ⟨without, -⟩⟩
      · cases hgiven.symm.trans given
        exact ⟨_, ⟨_, chosen⟩, rfl⟩
      · exact absurd hgiven (without content)
  | none =>
    have hwithout := bind_members?_eq_none_iff.mp hcontent
    simp only [Option.ite_none_right_eq_some, hasSchema_iff, Option.some.injEq]
    constructor
    · rintro ⟨⟨schema, hschema⟩, rfl⟩
      exact ⟨schema, .direct hwithout hschema⟩
    · rintro ⟨schema, ⟨given, -, -⟩ | ⟨-, carries⟩⟩
      · exact absurd given (hwithout _)
      · exact ⟨⟨schema, carries⟩, rfl⟩

theorem schemaPlace?_eq_none_iff : schemaPlace? preferred owner node = none ↔ Bare node := by
  unfold schemaPlace?
  cases hcontent : (node.member? "content").bind Json.members? with
  | some content =>
    have hgiven := Json.bind_members?_eq_some_iff.mp hcontent
    simp only [Option.map_eq_none_iff, choose?_eq_none_iff]
    constructor
    · exact .content hgiven
    · rintro (⟨given, none⟩ | ⟨without, -⟩)
      · cases hgiven.symm.trans given
        exact none
      · exact absurd hgiven (without content)
  | none =>
    have hwithout := bind_members?_eq_none_iff.mp hcontent
    simp only [ite_eq_right_iff, reduceCtorEq, imp_false, hasSchema_iff]
    constructor
    · exact .direct hwithout
    · rintro (⟨given, -⟩ | ⟨-, none⟩)
      · exact absurd given (hwithout _)
      · exact none

theorem resolve_member? {r : Reference} {name : String} {value : Json}
    (hnode : store.resolve r = .ok node) (hmember : node.member? name = some value) :
    store.resolve (r.child name) = .ok value := by
  cases node with
  | object members => exact Store.resolve_member hnode hmember
  | _ => cases hmember

/-- The place of a schema is put together so that it leads there. -/
theorem CarriesAt.resolve (h : CarriesAt preferred owner node location schema)
    (hdistinct : store.Distinct) (hnode : store.resolve owner = .ok node) :
    store.resolve location = .ok schema := by
  cases h with
  | content given chosen carries =>
    have hcontent := resolve_member? hnode given
    have hentry := Store.resolve_member hcontent (chosen.get? (hdistinct.resolve hcontent))
    exact resolve_member? hentry carries
  | direct _ carries => exact resolve_member? hnode carries

/-! ## Locating a schema -/

theorem schemaAt_eq_some_iff : schemaAt store config owner = .ok (some location) ↔
    ∃ node schema, store.resolve owner = .ok node ∧
      CarriesAt config.preferredMediaTypes owner node location schema := by
  unfold schemaAt
  cases store.resolve owner with
  | error fault => simp
  | ok node => simp [schemaPlace?_eq_some_iff]

theorem schemaAt_eq_none_iff : schemaAt store config owner = .ok none ↔
    ∃ node, store.resolve owner = .ok node ∧ Bare node := by
  unfold schemaAt
  cases store.resolve owner with
  | error fault => simp
  | ok node => simp [schemaPlace?_eq_none_iff]

theorem schemaAt_eq_error_iff {fault : Fault} :
    schemaAt store config owner = .error fault ↔ store.resolve owner = .error fault := by
  unfold schemaAt
  cases store.resolve owner <;> simp

theorem locate_eq_some_iff : locate store config owner = .ok (some location) ↔
    ∃ place, store.follow owner = .ok (some place) ∧
      schemaAt store config place = .ok (some location) := by
  unfold locate
  rcases store.follow owner with fault | _ | place <;> simp

theorem locate_eq_none_iff : locate store config owner = .ok none ↔
    store.follow owner = .ok none ∨ ∃ place, store.follow owner = .ok (some place) ∧
      schemaAt store config place = .ok none := by
  unfold locate
  rcases store.follow owner with fault | _ | place <;> simp

/-- The place at the end of a chain can be resolved, so that nothing but the chain can fail. -/
theorem locate_eq_error_iff {fault : Fault} :
    locate store config owner = .error fault ↔ store.follow owner = .error fault := by
  unfold locate
  rcases hfollow : store.follow owner with other | _ | place
  · simp
  · simp
  · obtain ⟨-, node, hnode, -⟩ := Store.follow_eq_some_iff.mp hfollow
    simp [schemaAt_eq_error_iff, hnode]

end SchemaTypes.Media
