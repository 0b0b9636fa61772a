import SchemaTypes.Proofs.Schema.Plain
import SchemaTypes.Proofs.TypeExpr.Equality

set_option autoImplicit false

/-!
# Types inside types

The types that occur in a type, the type itself among them.  What is put together out of types has
only their occurrences, and its own compound forms; in particular nothing that is put together
contains a recursive declaration unless a part does.
-/

namespace SchemaTypes.TypeExpr

mutual

/-- The types that occur in a type, the type itself first. -/
def occurrences : TypeExpr → List TypeExpr
  | array element => array element :: occurrences element
  | record fields => record fields :: fieldOccurrences fields
  | dictionary values => dictionary values :: occurrences values
  | union members => union members :: listOccurrences members
  | intersection members => intersection members :: listOccurrences members
  | tuple items => tuple items :: listOccurrences items
  | recursive name body => recursive name body :: occurrences body
  | t => [t]

/-- The types that occur in the types of a list. -/
def listOccurrences : List TypeExpr → List TypeExpr
  | [] => []
  | t :: rest => occurrences t ++ listOccurrences rest

/-- The types that occur in the types of fields. -/
def fieldOccurrences : List (FieldLabel × TypeExpr) → List TypeExpr
  | [] => []
  | (_, t) :: rest => occurrences t ++ fieldOccurrences rest

end

theorem mem_listOccurrences {s : TypeExpr} {types : List TypeExpr} :
    s ∈ listOccurrences types ↔ ∃ t ∈ types, s ∈ occurrences t := by
  induction types with
  | nil => simp [listOccurrences]
  | cons t rest ih => simp [listOccurrences, ih]

theorem fieldOccurrences_eq (fields : List (FieldLabel × TypeExpr)) :
    fieldOccurrences fields = listOccurrences (fields.map Prod.snd) := by
  induction fields with
  | nil => rfl
  | cons field rest ih =>
    obtain ⟨label, t⟩ := field
    rw [fieldOccurrences, ih]
    rfl

theorem mem_occurrences_self (t : TypeExpr) : t ∈ t.occurrences := by
  cases t <;> simp [occurrences]

/-! ## Parts of what is put together -/

/-- The forms that arise when types are put together. -/
inductive Compound : TypeExpr → Prop
  | unknown : Compound .unknown
  | union (members : List TypeExpr) : Compound (.union members)
  | intersection (members : List TypeExpr) : Compound (.intersection members)
  | array (element : TypeExpr) : Compound (.array element)
  | dictionary (values : TypeExpr) : Compound (.dictionary values)
  | tuple (items : List TypeExpr) : Compound (.tuple items)
  | record (fields : List (FieldLabel × TypeExpr)) : Compound (.record fields)

theorem mem_foldl_addMember {t : TypeExpr} {members seen : List TypeExpr}
    (h : t ∈ members.foldl addMember seen) : t ∈ seen ∨ t ∈ members := by
  induction members generalizing seen with
  | nil => exact Or.inl h
  | cons member rest ih =>
    rcases ih h with hseen | hrest
    · unfold addMember at hseen
      split at hseen
      · exact Or.inl hseen
      · rcases List.mem_append.mp hseen with hold | hnew
        · exact Or.inl hold
        · rw [List.mem_singleton.mp hnew]
          exact Or.inr List.mem_cons_self
    · exact Or.inr (List.mem_cons_of_mem _ hrest)

theorem mem_of_mem_distinctMembers {t : TypeExpr} {members : List TypeExpr}
    (h : t ∈ distinctMembers members) : t ∈ members := by
  rcases mem_foldl_addMember h with hnil | hmem
  · cases hnil
  · exact hmem

theorem mem_foldl_addMember_of_mem {t : TypeExpr} (members : List TypeExpr) {seen : List TypeExpr}
    (h : t ∈ seen) : t ∈ members.foldl addMember seen := by
  induction members generalizing seen with
  | nil => exact h
  | cons member rest ih =>
    apply ih
    unfold addMember
    split
    · exact h
    · exact List.mem_append_left _ h

/-- Of every member an equal one is kept. -/
theorem exists_foldl_addMember {m : TypeExpr} (members seen : List TypeExpr)
    (h : m ∈ seen ∨ m ∈ members) :
    ∃ other ∈ members.foldl addMember seen, same other m = true := by
  induction members generalizing seen with
  | nil => exact ⟨m, h.resolve_right List.not_mem_nil, same_self m⟩
  | cons member rest ih =>
    rcases h with hseen | hmem
    · exact ⟨m, mem_foldl_addMember_of_mem _ hseen, same_self m⟩
    rcases List.mem_cons.mp hmem with rfl | hrest
    · by_cases hany : seen.any (same · m) = true
      · obtain ⟨other, hother, hsame⟩ := List.any_eq_true.mp hany
        exact ⟨other, mem_foldl_addMember_of_mem _ hother, hsame⟩
      · have hadded : m ∈ addMember seen m := by
          unfold addMember
          rw [if_neg hany]
          exact List.mem_append_right _ (List.mem_singleton_self m)
        exact ⟨m, mem_foldl_addMember_of_mem rest hadded, same_self m⟩
    · exact ih _ (Or.inr hrest)

theorem distinctMembers_ne_nil {members : List TypeExpr} (h : members ≠ []) :
    distinctMembers members ≠ [] := by
  obtain ⟨m, hm⟩ := List.exists_mem_of_ne_nil _ h
  obtain ⟨other, hother, -⟩ := exists_foldl_addMember _ [] (Or.inr hm)
  exact List.ne_nil_of_mem hother

/-- Members are wrapped only if there are several. -/
theorem collapse_cases (wrap : List TypeExpr → TypeExpr) (members : List TypeExpr) :
    collapse wrap members = unknown ∨ collapse wrap members ∈ members ∨
      (collapse wrap members = wrap members ∧ 2 ≤ members.length) := by
  match members with
  | [] => exact Or.inl rfl
  | [member] => exact Or.inr (Or.inl List.mem_cons_self)
  | first :: second :: rest =>
    refine Or.inr (Or.inr ⟨rfl, ?_⟩)
    simp only [List.length_cons]
    omega

/-- What occurs in the distinct members of types, wrapped, occurs in one of the types, or is all of
it. -/
theorem mem_occurrences_collapse {s : TypeExpr} {wrap : List TypeExpr → TypeExpr}
    {parts : TypeExpr → List TypeExpr}
    (hwrap : ∀ members, (wrap members).occurrences = wrap members :: listOccurrences members)
    (hform : ∀ members, Compound (wrap members))
    (hparts : ∀ {t member}, member ∈ parts t → s ∈ member.occurrences → s ∈ t.occurrences)
    {types : List TypeExpr}
    (h : s ∈ (collapse wrap (distinctMembers (types.flatMap parts))).occurrences) :
    (∃ t ∈ types, s ∈ t.occurrences) ∨
      (s = collapse wrap (distinctMembers (types.flatMap parts)) ∧ s.Compound) := by
  have hmembers : ∀ member ∈ distinctMembers (types.flatMap parts), s ∈ member.occurrences →
      ∃ t ∈ types, s ∈ t.occurrences := by
    intro member hmember hs
    obtain ⟨t, ht, hpart⟩ := List.mem_flatMap.mp (mem_of_mem_distinctMembers hmember)
    exact ⟨t, ht, hparts hpart hs⟩
  generalize distinctMembers (types.flatMap parts) = members at h hmembers ⊢
  rcases collapse_cases wrap members with hnone | hone | ⟨hseveral, -⟩
  · rw [hnone] at h ⊢
    obtain rfl := List.mem_singleton.mp h
    exact Or.inr ⟨rfl, .unknown⟩
  · exact Or.inl (hmembers _ hone h)
  · rw [hseveral, hwrap] at h
    rw [hseveral]
    rcases List.mem_cons.mp h with rfl | hmem
    · exact Or.inr ⟨rfl, hform _⟩
    · obtain ⟨member, hmember, hs⟩ := mem_listOccurrences.mp hmem
      exact Or.inl (hmembers member hmember hs)

theorem mem_occurrences_of_mem_unionMembers {s t member : TypeExpr}
    (hmember : member ∈ t.unionMembers) (hs : s ∈ member.occurrences) : s ∈ t.occurrences := by
  unfold unionMembers at hmember
  split at hmember
  · rw [occurrences]
    exact List.mem_cons_of_mem _ (mem_listOccurrences.mpr ⟨member, hmember, hs⟩)
  · rwa [← List.mem_singleton.mp hmember]

theorem mem_occurrences_of_mem_intersectionMembers {s t member : TypeExpr}
    (hmember : member ∈ t.intersectionMembers) (hs : s ∈ member.occurrences) :
    s ∈ t.occurrences := by
  unfold intersectionMembers at hmember
  split at hmember
  · rw [occurrences]
    exact List.mem_cons_of_mem _ (mem_listOccurrences.mpr ⟨member, hmember, hs⟩)
  · rwa [← List.mem_singleton.mp hmember]

/-- What occurs in a type that was put together occurs in a part, or is the type itself. -/
theorem Combines.mem_occurrences {s t : TypeExpr} {types : List TypeExpr} (h : Combines types t)
    (hs : s ∈ t.occurrences) :
    (∃ part ∈ types, s ∈ part.occurrences) ∨ (s = t ∧ s.Compound) := by
  cases h with
  | union =>
    exact mem_occurrences_collapse (fun _ => by rw [occurrences]) .union
      mem_occurrences_of_mem_unionMembers hs
  | intersection =>
    exact mem_occurrences_collapse (fun _ => by rw [occurrences]) .intersection
      mem_occurrences_of_mem_intersectionMembers hs
  | array element =>
    rw [occurrences] at hs
    rcases List.mem_cons.mp hs with rfl | hmem
    · exact Or.inr ⟨rfl, .array element⟩
    · exact Or.inl ⟨element, List.mem_singleton_self _, hmem⟩
  | dictionary values =>
    rw [occurrences] at hs
    rcases List.mem_cons.mp hs with rfl | hmem
    · exact Or.inr ⟨rfl, .dictionary values⟩
    · exact Or.inl ⟨values, List.mem_singleton_self _, hmem⟩
  | tuple =>
    rw [occurrences] at hs
    rcases List.mem_cons.mp hs with rfl | hmem
    · exact Or.inr ⟨rfl, .tuple types⟩
    · exact Or.inl (mem_listOccurrences.mp hmem)
  | record fields =>
    rw [occurrences, fieldOccurrences_eq] at hs
    rcases List.mem_cons.mp hs with rfl | hmem
    · exact Or.inr ⟨rfl, .record fields⟩
    · exact Or.inl (mem_listOccurrences.mp hmem)

/-! ## Types without recursive declarations -/

/-- No recursive declaration occurs in the type. -/
def Unfolded (t : TypeExpr) : Prop := ∀ name body, recursive name body ∉ t.occurrences

theorem unfolded_identifier (name : String) (importPath : Option String) :
    (identifier name importPath).Unfolded := by
  intro n body h
  simp [occurrences] at h

theorem unfolded_provided (display backing : String) : (provided display backing).Unfolded := by
  intro n body h
  simp [occurrences] at h

/-- Putting types together makes no recursive declaration. -/
theorem Combines.unfolded {t : TypeExpr} {types : List TypeExpr} (h : Combines types t)
    (hparts : ∀ part ∈ types, part.Unfolded) : t.Unfolded := by
  intro name body hmem
  rcases h.mem_occurrences hmem with ⟨part, hpart, hin⟩ | ⟨-, hform⟩
  · exact hparts part hpart name body hin
  · cases hform

theorem Constant.unfolded {t : TypeExpr} (h : t.Constant) : t.Unfolded := by
  cases h with
  | literals values =>
    refine (Combines.union _).unfolded fun part hpart => ?_
    obtain ⟨value, -, rfl⟩ := List.mem_map.mp hpart
    intro name body hmem
    simp [occurrences] at hmem
  | _ =>
    intro name body hmem
    simp [occurrences, TypeExpr.number, TypeExpr.boolean, TypeExpr.null, TypeExpr.anyObject] at hmem

/-- No recursive declaration arises where the parts of a type have none. -/
theorem inherited_unfolded : Inherited Unfolded where
  constant := Constant.unfolded
  string := by
    intro name body hmem
    simp [occurrences, TypeExpr.string] at hmem
  provided := unfolded_provided
  identifier := unfolded_identifier
  combines := Combines.unfolded

end SchemaTypes.TypeExpr
