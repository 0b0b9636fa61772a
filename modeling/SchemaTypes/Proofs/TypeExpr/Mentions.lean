import SchemaTypes.TypeExpr.Algebra

set_option autoImplicit false

/-!
# What types mention

A type mentions declarations, by their identifiers, and helpers, by the types that they provide.
Building a type out of others loses nothing that these mention and adds nothing: the union and the
intersection drop only members equal to an earlier one, and equal types mention the same.
-/

namespace SchemaTypes.TypeExpr

mutual

/-- The identifiers and the provided types in a type, in order. -/
def mentions : TypeExpr → List TypeExpr
  | array element => mentions element
  | record fields => fieldMentions fields
  | dictionary values => mentions values
  | union members => listMentions members
  | intersection members => listMentions members
  | tuple items => listMentions items
  | identifier name importPath => [identifier name importPath]
  | recursive _ body => mentions body
  | provided displayName backingName => [provided displayName backingName]
  | _ => []

/-- What a list of types mentions. -/
def listMentions : List TypeExpr → List TypeExpr
  | [] => []
  | t :: rest => mentions t ++ listMentions rest

/-- What the types of fields mention. -/
def fieldMentions : List (FieldLabel × TypeExpr) → List TypeExpr
  | [] => []
  | (_, t) :: rest => mentions t ++ fieldMentions rest

end

theorem mem_listMentions {m : TypeExpr} {types : List TypeExpr} :
    m ∈ listMentions types ↔ ∃ t ∈ types, m ∈ mentions t := by
  induction types with
  | nil => simp [listMentions]
  | cons t rest ih => simp [listMentions, ih]

theorem fieldMentions_eq (fields : List (FieldLabel × TypeExpr)) :
    fieldMentions fields = listMentions (fields.map Prod.snd) := by
  induction fields with
  | nil => rfl
  | cons field rest ih =>
    obtain ⟨label, t⟩ := field
    rw [fieldMentions, ih]
    rfl

/-! ## Equal types -/

mutual

/-- Equal types mention the same. -/
theorem mentions_eq_of_same : ∀ a b : TypeExpr, same a b = true → mentions a = mentions b
  | array a, b, h => by
    cases b <;> simp only [same, Bool.false_eq_true] at h
    rw [mentions, mentions]
    exact mentions_eq_of_same a _ h
  | record fields, b, h => by
    cases b <;> simp only [same, Bool.false_eq_true] at h
    exact fieldMentions_eq_of_same fields _ h
  | dictionary a, b, h => by
    cases b <;> simp only [same, Bool.false_eq_true] at h
    rw [mentions, mentions]
    exact mentions_eq_of_same a _ h
  | union members, b, h => by
    cases b <;> simp only [same, Bool.false_eq_true] at h
    exact listMentions_eq_of_same members _ h
  | intersection members, b, h => by
    cases b <;> simp only [same, Bool.false_eq_true] at h
    exact listMentions_eq_of_same members _ h
  | tuple items, b, h => by
    cases b <;> simp only [same, Bool.false_eq_true] at h
    exact listMentions_eq_of_same items _ h
  | identifier name path, b, h => by
    cases b <;> simp only [same, Bool.false_eq_true, Bool.and_eq_true, beq_iff_eq] at h
    rw [h.1, h.2]
  | recursive name body, b, h => by
    cases b <;> simp only [same, Bool.false_eq_true, Bool.and_eq_true] at h
    rw [mentions, mentions]
    exact mentions_eq_of_same body _ h.2
  | primitive kind, b, h => by
    cases b <;> simp only [same, Bool.false_eq_true] at h
    rfl
  | literal value, b, h => by
    cases b <;> simp only [same, Bool.false_eq_true] at h
    rfl
  | provided display backing, b, h => by
    cases b <;> simp only [same, Bool.false_eq_true, Bool.and_eq_true, beq_iff_eq] at h
    rw [h.1, h.2]
  | unknown, b, h => by
    cases b <;> simp only [same, Bool.false_eq_true] at h
    rfl

theorem listMentions_eq_of_same : ∀ as bs : List TypeExpr,
    sameList as bs = true → listMentions as = listMentions bs
  | [], [], _ => rfl
  | [], _ :: _, h => by simp [sameList] at h
  | _ :: _, [], h => by simp [sameList] at h
  | a :: as, b :: bs, h => by
    simp only [sameList, Bool.and_eq_true] at h
    rw [listMentions, listMentions, mentions_eq_of_same a b h.1,
      listMentions_eq_of_same as bs h.2]

theorem fieldMentions_eq_of_same : ∀ as bs : List (FieldLabel × TypeExpr),
    sameFields as bs = true → fieldMentions as = fieldMentions bs
  | [], [], _ => rfl
  | [], _ :: _, h => by simp [sameFields] at h
  | _ :: _, [], h => by simp [sameFields] at h
  | (l, a) :: as, (m, b) :: bs, h => by
    simp only [sameFields, Bool.and_eq_true] at h
    rw [fieldMentions, fieldMentions, mentions_eq_of_same a b h.1.2,
      fieldMentions_eq_of_same as bs h.2]

end

/-! ## Unions and intersections -/

/-- Dropping a member that equals an earlier one loses nothing that is mentioned. -/
theorem mem_listMentions_addMember {m : TypeExpr} (members : List TypeExpr)
    (member : TypeExpr) : m ∈ listMentions (addMember members member) ↔
      m ∈ listMentions members ∨ m ∈ mentions member := by
  unfold addMember
  split
  · rename_i h
    obtain ⟨other, hother, hsame⟩ := List.any_eq_true.mp h
    rw [← mentions_eq_of_same other member hsame, iff_self_or]
    exact fun hm => mem_listMentions.mpr ⟨other, hother, hm⟩
  · simp [mem_listMentions, or_and_right, exists_or]

theorem mem_listMentions_foldl_addMember {m : TypeExpr} (members seen : List TypeExpr) :
    m ∈ listMentions (members.foldl addMember seen) ↔
      m ∈ listMentions seen ∨ m ∈ listMentions members := by
  induction members generalizing seen with
  | nil => simp [listMentions]
  | cons member rest ih =>
    rw [List.foldl_cons, ih, mem_listMentions_addMember, listMentions, List.mem_append,
      or_assoc]

/-- The distinct members of a list mention all that the list mentions. -/
theorem mem_listMentions_distinctMembers {m : TypeExpr} (members : List TypeExpr) :
    m ∈ listMentions (distinctMembers members) ↔ m ∈ listMentions members := by
  unfold distinctMembers
  rw [mem_listMentions_foldl_addMember]
  simp [listMentions]

/-- Wrapping members adds no mention, whether one is left or several. -/
theorem mentions_collapse {wrap : List TypeExpr → TypeExpr}
    (hwrap : ∀ members, mentions (wrap members) = listMentions members)
    (members : List TypeExpr) : mentions (collapse wrap members) = listMentions members := by
  unfold collapse
  split
  · rfl
  · simp [listMentions]
  · exact hwrap members

theorem listMentions_unionMembers (t : TypeExpr) :
    listMentions (unionMembers t) = mentions t := by
  cases t <;> simp [unionMembers, listMentions, mentions]

theorem listMentions_intersectionMembers (t : TypeExpr) :
    listMentions (intersectionMembers t) = mentions t := by
  cases t <;> simp [intersectionMembers, listMentions, mentions]

/-- Taking types apart into members keeps their mentions. -/
theorem mem_listMentions_flatMap {m : TypeExpr} {parts : TypeExpr → List TypeExpr}
    (hparts : ∀ t, listMentions (parts t) = mentions t) (types : List TypeExpr) :
    m ∈ listMentions (types.flatMap parts) ↔ ∃ t ∈ types, m ∈ mentions t := by
  induction types with
  | nil => simp [listMentions]
  | cons t rest ih =>
    have happend : ∀ first second : List TypeExpr,
        m ∈ listMentions (first ++ second) ↔
          m ∈ listMentions first ∨ m ∈ listMentions second := by
      intro first second
      simp only [mem_listMentions, List.mem_append, or_and_right, exists_or]
    rw [List.flatMap_cons, happend, hparts, ih]
    simp

theorem mem_mentions_unionOf {m : TypeExpr} (types : List TypeExpr) :
    m ∈ (unionOf types).mentions ↔ ∃ t ∈ types, m ∈ t.mentions := by
  unfold unionOf
  rw [mentions_collapse (fun _ => by rw [mentions]), mem_listMentions_distinctMembers,
    mem_listMentions_flatMap listMentions_unionMembers]

theorem mem_mentions_intersectionOf {m : TypeExpr} (types : List TypeExpr) :
    m ∈ (intersectionOf types).mentions ↔ ∃ t ∈ types, m ∈ t.mentions := by
  unfold intersectionOf
  rw [mentions_collapse (fun _ => by rw [mentions]), mem_listMentions_distinctMembers,
    mem_listMentions_flatMap listMentions_intersectionMembers]

/-! ## Types put together -/

/-- The ways in which a type is put together out of the types of its parts. -/
inductive Combines : List TypeExpr → TypeExpr → Prop
  | union (types : List TypeExpr) : Combines types (unionOf types)
  | intersection (types : List TypeExpr) : Combines types (intersectionOf types)
  | array (element : TypeExpr) : Combines [element] (array element)
  | dictionary (values : TypeExpr) : Combines [values] (dictionary values)
  | tuple (items : List TypeExpr) : Combines items (tuple items)
  | record (fields : List (FieldLabel × TypeExpr)) :
      Combines (fields.map Prod.snd) (record fields)

/-- A type mentions exactly what its parts mention. -/
theorem Combines.mem_mentions {m : TypeExpr} {types : List TypeExpr} {t : TypeExpr}
    (h : Combines types t) : m ∈ t.mentions ↔ ∃ part ∈ types, m ∈ part.mentions := by
  cases h with
  | union => exact mem_mentions_unionOf types
  | intersection => exact mem_mentions_intersectionOf types
  | array element => simp [mentions]
  | dictionary values => simp [mentions]
  | tuple => rw [mentions, mem_listMentions]
  | record fields => rw [mentions, fieldMentions_eq, mem_listMentions]

/-- What is read off the mentions of a type is read off those of its parts. -/
theorem Combines.mem_filterMap_mentions {α : Type} {read : TypeExpr → Option α} {a : α}
    {types : List TypeExpr} {t : TypeExpr} (h : Combines types t) :
    a ∈ t.mentions.filterMap read ↔ ∃ part ∈ types, a ∈ part.mentions.filterMap read := by
  simp only [List.mem_filterMap, h.mem_mentions]
  constructor
  · rintro ⟨m, ⟨part, hpart, hm⟩, hread⟩
    exact ⟨part, hpart, m, hm, hread⟩
  · rintro ⟨part, hpart, m, hm, hread⟩
    exact ⟨m, ⟨part, hpart, hm⟩, hread⟩

/-! ## Helpers -/

/-- The helper behind a mentioned type. -/
def backing? : TypeExpr → Option String
  | provided _ backingName => some backingName
  | _ => none

/-- The helpers behind the provided types in a type, in order. -/
def backings (t : TypeExpr) : List String := t.mentions.filterMap backing?

/-- A type needs exactly the helpers that its parts need. -/
theorem Combines.mem_backings {backing : String} {types : List TypeExpr} {t : TypeExpr}
    (h : Combines types t) : backing ∈ t.backings ↔ ∃ part ∈ types, backing ∈ part.backings :=
  h.mem_filterMap_mentions

end SchemaTypes.TypeExpr
