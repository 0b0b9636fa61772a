import Mathlib.Data.List.Perm.Subperm
import SchemaTypes.Proofs.Registry.Growth

set_option autoImplicit false

/-!
# Free names

A reference is given the first of its candidates, the preferred name and then the variants of it,
that belongs to no other reference.  The variants that are numbered are all different, so that as
long as fewer names are taken than there are candidates, one of them is free.
-/

namespace SchemaTypes

/-! ## Numbered variants -/

/-- A name that is not followed by a number is told from one that is by its length, and two numbers
by their digits. -/
theorem ModelName.numbered_injective (preferred : ModelName) :
    Function.Injective preferred.numbered := by
  intro first second h
  have htext : preferred.name ++ toString (first + 1) = preferred.name ++ toString (second + 1) :=
    congrArg ModelName.name h
  have hdigits := congrArg String.toList htext
  rw [String.toList_append, String.toList_append] at hdigits
  have hnumber := congrArg (Nat.ofDigitChars 10 · 0) (List.append_cancel_left hdigits)
  simpa [Nat.toString_eq_ofList_toDigits] using hnumber

theorem ModelName.numbered_ne (preferred : ModelName) (attempt : Nat) :
    preferred.numbered attempt ≠ preferred := by
  intro h
  have htext : preferred.name ++ toString (attempt + 1) = preferred.name :=
    congrArg ModelName.name h
  have hdigits := congrArg String.toList htext
  rw [String.toList_append, List.append_right_eq_self, Nat.toString_eq_ofList_toDigits,
    String.toList_ofList] at hdigits
  exact Nat.toDigits_ne_nil hdigits

/-- The policies that sessions and generation choose from. -/
inductive NamingPolicy.IsBuiltIn : NamingPolicy → Prop
  | component : IsBuiltIn .component
  | operation (operation : String) (part : OperationPart) (suffix : String) :
      IsBuiltIn (.operation operation part suffix)
  | shared (suffix : String) : IsBuiltIn (.shared suffix)
  | external (nameSpace : String) : IsBuiltIn (.external nameSpace)

theorem NamingPolicy.IsBuiltIn.variant_eq {policy : NamingPolicy} (h : policy.IsBuiltIn) :
    policy.variant = ModelName.numbered := by
  cases h <;> rfl

/-- A type that needs a name and cannot have one is not declared. -/
theorem Session.declare_eq_error {policy : NamingPolicy} {r : Reference} {fault : Fault}
    (type : TypeExpr) (session : Session) (hqualifies : type.qualifies = true)
    (hconflict : session.registry.assignName policy r r.canonical = .error fault) :
    declare r policy type session = .error fault session := by
  rw [declare, if_pos hqualifies, hconflict]

namespace Registry

variable {registry after : Registry} {policy : NamingPolicy} {r : Reference} {key : String}
  {name : ModelName} {taken : ModelName → Bool} {candidates : Nat → ModelName}

theorem candidate_injective (hvariant : policy.variant = ModelName.numbered)
    (preferred : ModelName) : Function.Injective (candidate policy preferred) := by
  intro first second h
  unfold candidate at h
  rw [hvariant] at h
  split at h
  · rename_i hfirst
    split at h
    · rename_i hsecond
      rw [hfirst, hsecond]
    · exact absurd h.symm (preferred.numbered_ne second)
  · split at h
    · exact absurd h (preferred.numbered_ne first)
    · exact preferred.numbered_injective h

/-! ## The search -/

theorem firstFree_eq_some_iff {remaining attempt : Nat} :
    firstFree taken candidates remaining attempt = some name ↔
      ∃ place < remaining, name = candidates (attempt + place) ∧ taken name = false ∧
        ∀ earlier < place, taken (candidates (attempt + earlier)) = true := by
  induction remaining generalizing attempt with
  | zero => simp [firstFree]
  | succ remaining ih =>
    have hshift : ∀ place, attempt + 1 + place = attempt + (place + 1) := fun place => by omega
    rw [firstFree, Nat.exists_lt_succ_left]
    simp only [Nat.forall_lt_succ_left, Nat.not_lt_zero, false_implies, implies_true, and_true,
      Nat.add_zero]
    cases hhere : taken (candidates attempt) with
    | true =>
      rw [if_pos rfl, ih]
      simp only [hshift, true_and]
      refine (or_iff_right ?_).symm
      rintro ⟨rfl, hfree⟩
      exact absurd (hhere.symm.trans hfree) (by decide)
    | false =>
      rw [if_neg Bool.false_ne_true]
      constructor
      · intro h
        cases h
        exact Or.inl ⟨rfl, hhere⟩
      · rintro (⟨rfl, -⟩ | ⟨place, -, -, -, hfirst, -⟩)
        · rfl
        · cases hfirst

theorem firstFree_eq_none_iff {remaining attempt : Nat} :
    firstFree taken candidates remaining attempt = none ↔
      ∀ place < remaining, taken (candidates (attempt + place)) = true := by
  induction remaining generalizing attempt with
  | zero => simp [firstFree]
  | succ remaining ih =>
    have hshift : ∀ place, attempt + 1 + place = attempt + (place + 1) := fun place => by omega
    rw [firstFree, Nat.forall_lt_succ_left, Nat.add_zero]
    cases taken (candidates attempt) with
    | true =>
      rw [if_pos rfl, ih, and_iff_right rfl]
      simp only [hshift]
    | false => simp

/-! ## Names of other references -/

/-- A name belongs to a reference that is not known by this key. -/
def BelongsToOther (registry : Registry) (key : String) (name : ModelName) : Prop :=
  ∃ owner, registry.names.get? name = some owner ∧ owner ≠ key

theorem isTaken_eq_true_iff : registry.isTaken key name = true ↔
    registry.BelongsToOther key name := by
  unfold isTaken BelongsToOther
  cases registry.names.get? name with
  | none => simp
  | some owner => simp

theorem isTaken_eq_false_iff : registry.isTaken key name = false ↔
    ¬ registry.BelongsToOther key name := by
  rw [← isTaken_eq_true_iff, Bool.not_eq_true]

/-- A name that belongs to no other reference belongs to this one or to none. -/
theorem get?_names_of_not_belongsToOther (h : ¬ registry.BelongsToOther key name) :
    registry.names.get? name = none ∨ registry.names.get? name = some key := by
  cases howner : registry.names.get? name with
  | none => exact Or.inl rfl
  | some owner =>
    have heq : owner = key := by_contra fun hne => h ⟨owner, howner, hne⟩
    exact Or.inr (congrArg some heq)

/-- A candidate belongs to no other reference, and all earlier ones do. -/
structure IsFirstFree (registry : Registry) (key : String) (candidates : Nat → ModelName)
    (attempt : Nat) : Prop where
  free : ¬ registry.BelongsToOther key (candidates attempt)
  first : ∀ earlier < attempt, registry.BelongsToOther key (candidates earlier)

/-- A registry later, a name belongs to a reference.  It did so before, or it is the last one that
was taken; nothing else is another. -/
structure Takes (registry : Registry) (key : String) (name : ModelName) (after : Registry) :
    Prop where
  rest : after = { registry with names := after.names }
  names : registry.names.get? name = some key ∧ after.names = registry.names ∨
    registry.names.get? name = none ∧ after.names = registry.names ++ [(name, key)]

theorem takes_iff (hfree : ¬ registry.BelongsToOther key name) :
    registry.Takes key name after ↔ after = registry.takeName key name := by
  have hinsert : ∀ names, registry.names.insert name key = names ↔
      (registry.names.get? name = some key ∧ names = registry.names ∨
        registry.names.get? name = none ∧ names = registry.names ++ [(name, key)]) := by
    intro names
    rcases get?_names_of_not_belongsToOther hfree with hnone | hown
    · rw [OrderedMap.insert_eq_append _ _ _ hnone]
      simp [hnone, eq_comm]
    · rw [OrderedMap.insert_eq_self hown]
      simp [hown, eq_comm]
  constructor
  · rintro ⟨hrest, hnames⟩
    rw [hrest, ← (hinsert after.names).mpr hnames]
    rfl
  · rintro rfl
    exact ⟨rfl, (hinsert _).mp rfl⟩

theorem Takes.get?_eq (h : registry.Takes key name after) (other : ModelName) :
    after.names.get? other = if name = other then some key else registry.names.get? other := by
  rcases h.names with ⟨hown, hnames⟩ | ⟨hnone, hnames⟩
  · rw [hnames]
    split
    · rename_i heq
      rw [← heq, hown]
    · rfl
  · rw [hnames, ← OrderedMap.insert_eq_append _ _ _ hnone, OrderedMap.get?_insert]

/-! ## Assigning a name -/

theorem assignName_eq_ok_iff : registry.assignName policy r key = .ok (name, after) ↔
    ∃ attempt ≤ variantLimit, name = candidate policy (policy.name r) attempt ∧
      registry.IsFirstFree key (candidate policy (policy.name r)) attempt ∧
        registry.Takes key name after := by
  have hassign : registry.assignName policy r key = .ok (name, after) ↔
      firstFree (registry.isTaken key) (candidate policy (policy.name r)) (variantLimit + 1) 0 =
          some name ∧ after = registry.takeName key name := by
    unfold assignName
    dsimp only
    split
    · rename_i hnone
      simp [hnone]
    · rename_i found hfound
      rw [hfound]
      simp only [Except.ok.injEq, Prod.mk.injEq, Option.some.injEq]
      constructor
      · rintro ⟨rfl, rfl⟩
        exact ⟨rfl, rfl⟩
      · rintro ⟨rfl, rfl⟩
        exact ⟨rfl, rfl⟩
  rw [hassign, firstFree_eq_some_iff]
  simp only [isTaken_eq_true_iff, isTaken_eq_false_iff, Nat.zero_add, Nat.lt_succ_iff]
  constructor
  · rintro ⟨⟨attempt, hlimit, rfl, hfree, hfirst⟩, hafter⟩
    exact ⟨attempt, hlimit, rfl, ⟨hfree, hfirst⟩, (takes_iff hfree).mpr hafter⟩
  · rintro ⟨attempt, hlimit, rfl, ⟨hfree, hfirst⟩, htakes⟩
    exact ⟨⟨attempt, hlimit, rfl, hfree, hfirst⟩, (takes_iff hfree).mp htakes⟩

theorem assignName_eq_error_iff {fault : Fault} : registry.assignName policy r key = .error fault ↔
    (∀ attempt ≤ variantLimit,
      registry.BelongsToOther key (candidate policy (policy.name r) attempt)) ∧
      fault = .namingConflict
        ("no free variant of '" ++ (policy.name r).display ++ "' for " ++ key) := by
  have hnone := @firstFree_eq_none_iff (registry.isTaken key) (candidate policy (policy.name r))
    (variantLimit + 1) 0
  simp only [isTaken_eq_true_iff, Nat.zero_add, Nat.lt_succ_iff] at hnone
  rw [← hnone]
  unfold assignName
  dsimp only
  split
  · rename_i hsearch
    rw [Except.error.injEq, eq_comm]
    exact (and_iff_right hsearch).symm
  · rename_i hsearch
    simp [hsearch]

/-- If the candidates are all different, they cannot all be among fewer names. -/
theorem exists_free_of_injective (hinjective : Function.Injective candidates) {limit : Nat}
    (hlength : registry.names.length ≤ limit) (key : String) :
    ∃ attempt ≤ limit, ¬ registry.BelongsToOther key (candidates attempt) := by
  by_contra hall
  have htaken : (List.range (limit + 1)).map candidates ⊆ registry.names.keys := by
    intro name hname
    obtain ⟨attempt, hattempt, rfl⟩ := List.mem_map.mp hname
    have hlimit := Nat.lt_succ_iff.mp (List.mem_range.mp hattempt)
    obtain ⟨owner, howner, -⟩ := by_contra fun hfree => hall ⟨attempt, hlimit, hfree⟩
    exact List.mem_map_of_mem (OrderedMap.mem_of_get? howner)
  have hnodup : ((List.range (limit + 1)).map candidates).Nodup :=
    List.nodup_range.map hinjective
  have hle := (List.subperm_of_subset hnodup htaken).length_le
  simp only [List.length_map, List.length_range, OrderedMap.keys] at hle
  omega

/-- A name is found as long as fewer names are taken than there are candidates. -/
theorem exists_assignName_of_numbered (hvariant : policy.variant = ModelName.numbered)
    (hlength : registry.names.length ≤ variantLimit) (r : Reference) (key : String) :
    ∃ name after, registry.assignName policy r key = .ok (name, after) := by
  obtain ⟨attempt, hlimit, hfree⟩ :=
    exists_free_of_injective (candidate_injective hvariant (policy.name r)) hlength key
  cases hassign : registry.assignName policy r key with
  | ok found => exact ⟨found.1, found.2, rfl⟩
  | error fault => exact absurd ((assignName_eq_error_iff.mp hassign).1 attempt hlimit) hfree

/-- In every registry, whatever the policy, a reference known by any key is given the first of the
preferred name and its 10000 variants that belongs to no other reference, in the order of their
numbers.  That name is then its own, every other name belongs to whom it did, and all else in the
registry is as before.  If each of the 10001 names belongs to another reference, and only then,
there is a naming conflict, after which a session goes on with the registry that it had.  Candidates
that are numbered are all different, so that the built-in policies find a name in every registry
with no more than 10000 taken names. -/
theorem names_are_first_free (registry : Registry) (r : Reference) (key : String) :
    (∀ (policy : NamingPolicy) preferred, candidate policy preferred 0 = preferred ∧
      ∀ attempt ≠ 0, candidate policy preferred attempt = policy.variant preferred attempt) ∧
    (∀ policy name after, registry.assignName policy r key = .ok (name, after) ↔
      ∃ attempt ≤ 10000, name = candidate policy (policy.name r) attempt ∧
        registry.IsFirstFree key (candidate policy (policy.name r)) attempt ∧
          registry.Takes key name after) ∧
    (∀ name after, registry.Takes key name after → after.names.get? name = some key ∧
      ∀ other, other ≠ name → after.names.get? other = registry.names.get? other) ∧
    (∀ policy fault, registry.assignName policy r key = .error fault ↔
      (∀ attempt ≤ 10000,
        registry.BelongsToOther key (candidate policy (policy.name r) attempt)) ∧
        fault = .namingConflict
          ("no free variant of '" ++ (policy.name r).display ++ "' for " ++ key)) ∧
    (∀ session fault final, (Session.known r session = .error fault final ∨
      ∃ policy type, Session.declare r policy type session = .error fault final) →
        final = session) ∧
    (∀ policy : NamingPolicy, policy.variant = ModelName.numbered → ∀ preferred,
      Function.Injective (candidate policy preferred)) ∧
    (registry.names.length ≤ 10000 → ∀ policy : NamingPolicy, policy.IsBuiltIn →
      ∃ name after, registry.assignName policy r key = .ok (name, after)) := by
  refine ⟨fun _ _ => ⟨if_pos rfl, fun _ hvariant => if_neg hvariant⟩,
    fun _ _ _ => assignName_eq_ok_iff, fun name after htakes => ⟨?_, fun other hother => ?_⟩,
    fun _ _ => assignName_eq_error_iff, fun session fault final hfails => ?_,
    fun _ hvariant => candidate_injective hvariant,
    fun hlength _ hpolicy => exists_assignName_of_numbered hpolicy.variant_eq hlength r key⟩
  · rw [htakes.get?_eq, if_pos rfl]
  · rw [htakes.get?_eq, if_neg hother.symm]
  · rcases hfails with hknown | ⟨policy, type, hdeclare⟩
    · unfold Session.known at hknown
      split at hknown
      · cases hknown
      · split at hknown
        · cases hknown
        · split at hknown
          · cases hknown
            rfl
          · cases hknown
          · cases hknown
    · unfold Session.declare at hdeclare
      split at hdeclare
      · split at hdeclare
        · cases hdeclare
          rfl
        · cases hdeclare
      · cases hdeclare

/-- A registry in which a name and its first variant are taken. -/
def crowded : Registry :=
  { Registry.empty with
    names := [(.inLocal "Pet", "a.yaml#/components/schemas/Pet"),
      (.inLocal "Pet2", "a.yaml#/definitions/Pet")] }

/-- A policy whose variants are all the preferred name. -/
def stubborn : NamingPolicy := ⟨fun _ => .inLocal "Pet", fun preferred _ => preferred⟩

/-- The next reference that prefers the name gets its second variant.  If there are no variants it
gets none, and the session stays as it is. -/
theorem names_are_first_free_crowded :
    let r : Reference := ⟨"b.yaml", ["Pet"]⟩
    (∃ after, crowded.assignName .component r r.canonical = .ok (.inLocal "Pet3", after) ∧
      crowded.Takes r.canonical (.inLocal "Pet3") after ∧
      after.names.get? (.inLocal "Pet3") = some r.canonical ∧
      after.names.get? (.inLocal "Pet") = some "a.yaml#/components/schemas/Pet") ∧
    (∀ attempt ≤ 10000, crowded.BelongsToOther r.canonical
      (candidate stubborn (stubborn.name r) attempt)) ∧
    (let session : Session := ⟨"b.yaml", .empty, .standard, "b.yaml", crowded⟩
      ∃ fault final, Session.declare r stubborn (.record []) session = .error fault final ∧
        final = session) ∧
    (NamingPolicy.component.variant = ModelName.numbered ∧
      candidate .component (.inLocal "Pet") 1 ≠ candidate .component (.inLocal "Pet") 10000) ∧
    (NamingPolicy.shared "Schema").IsBuiltIn ∧ crowded.names.length ≤ 10000 ∧
      ∃ name after, crowded.assignName (.shared "Schema") r r.canonical = .ok (name, after) := by
  intro r
  obtain ⟨-, hok, htakes, herror, hsession, hdiffer, hfound⟩ :=
    names_are_first_free crowded r r.canonical
  have hlength : crowded.names.length ≤ 10000 := by decide
  have hnone : ∀ attempt ≤ 10000, crowded.BelongsToOther r.canonical
      (candidate stubborn (stubborn.name r) attempt) := by
    intro attempt _
    have hsame : candidate stubborn (stubborn.name r) attempt = .inLocal "Pet" := ite_self _
    exact ⟨"a.yaml#/components/schemas/Pet", by rw [hsame]; rfl, by decide +kernel⟩
  refine ⟨?_, hnone, ?_, ⟨rfl, fun h => ?_⟩, .shared "Schema", hlength,
    hfound hlength _ (.shared "Schema")⟩
  · have hnew : crowded.Takes r.canonical (.inLocal "Pet3")
        { crowded with names := crowded.names ++ [(.inLocal "Pet3", r.canonical)] } :=
      ⟨rfl, Or.inr ⟨by decide, rfl⟩⟩
    obtain ⟨hown, hothers⟩ := htakes _ _ hnew
    refine ⟨_, (hok _ _ _).mpr ⟨2, by decide, by decide +kernel, ⟨?_, ?_⟩, hnew⟩, hnew, hown, ?_⟩
    · rw [← isTaken_eq_false_iff]
      decide +kernel
    · intro earlier hearlier
      rw [← isTaken_eq_true_iff]
      have hboth : ∀ attempt < 2, crowded.isTaken r.canonical
          (candidate .component (NamingPolicy.component.name r) attempt) = true := by
        decide +kernel
      exact hboth earlier hearlier
    · rw [hothers _ (by decide)]
      rfl
  · have hconflict := (herror stubborn _).mpr ⟨hnone, rfl⟩
    have hfails := Session.declare_eq_error (.record [])
      ⟨"b.yaml", .empty, .standard, "b.yaml", crowded⟩ rfl hconflict
    exact ⟨_, _, hfails, hsession _ _ _ (Or.inr ⟨_, _, hfails⟩)⟩
  · exact absurd (hdiffer .component rfl _ h) (by decide)

end Registry

end SchemaTypes
