import SchemaTypes.Proofs.Registry.Growth

set_option autoImplicit false

/-!
# Taken names

Every taken name is the name of exactly one declaration, or has been given to exactly one reference
that is still open; nothing else has a name.  When such a reference is closed, the name that it was
given becomes the name of its declaration.
-/

namespace SchemaTypes

/-! ## Names of open references -/

/-- The names that open references have been given, with their references. -/
def reservedNames (pending : OrderedMap String Pending) : List (ModelName × String) :=
  pending.filterMap fun entry => entry.2.reserved.map fun name => (name, entry.1)

section Reserved

variable {pending : OrderedMap String Pending} {key : String} {policy : NamingPolicy}
  {name : ModelName}

theorem mem_reservedNames {pair : ModelName × String} : pair ∈ reservedNames pending ↔
    ∃ entry, (pair.2, entry) ∈ pending ∧ entry.reserved = some pair.1 := by
  obtain ⟨name, key⟩ := pair
  constructor
  · intro h
    obtain ⟨⟨k, entry⟩, hentry, hname⟩ := List.mem_filterMap.mp h
    obtain ⟨n, hreserved, heq⟩ := Option.map_eq_some_iff.mp hname
    cases heq
    exact ⟨entry, hentry, hreserved⟩
  · rintro ⟨entry, hentry, hreserved⟩
    exact List.mem_filterMap.mpr ⟨(key, entry), hentry, by simp [hreserved]⟩

/-- The name that an open reference gets is one more. -/
theorem reservedNames_insert (h : pending.get? key = some ⟨policy, none⟩) (name : ModelName) :
    (reservedNames (pending.insert key ⟨policy, some name⟩)).Perm
      (reservedNames pending ++ [(name, key)]) := by
  induction pending with
  | nil => simp at h
  | cons entry rest ih =>
    obtain ⟨k, old⟩ := entry
    rw [OrderedMap.get?_cons] at h
    by_cases hk : k = key
    · rw [if_pos hk] at h
      cases h
      subst hk
      simp only [OrderedMap.insert, if_true]
      exact (List.perm_append_singleton (name, k) (reservedNames rest)).symm
    · rw [if_neg hk] at h
      simp only [OrderedMap.insert, if_neg hk]
      have hrest := ih h
      cases hreserved : old.reserved with
      | none => simpa [reservedNames, hreserved] using hrest
      | some other => simpa [reservedNames, hreserved] using hrest

/-- A closed reference without a name takes none away. -/
theorem reservedNames_erase_unnamed (h : pending.get? key = some ⟨policy, none⟩) :
    reservedNames (pending.erase key) = reservedNames pending := by
  induction pending with
  | nil => simp at h
  | cons entry rest ih =>
    obtain ⟨k, old⟩ := entry
    rw [OrderedMap.get?_cons] at h
    by_cases hk : k = key
    · rw [if_pos hk] at h
      cases h
      simp [OrderedMap.erase, hk, reservedNames]
    · rw [if_neg hk] at h
      simp only [OrderedMap.erase, if_neg hk, reservedNames, List.filterMap_cons]
      rw [← reservedNames, ← reservedNames, ih h]

/-- A closed reference takes its name away. -/
theorem reservedNames_erase_named (h : pending.get? key = some ⟨policy, some name⟩) :
    (reservedNames pending).Perm ((name, key) :: reservedNames (pending.erase key)) := by
  induction pending with
  | nil => simp at h
  | cons entry rest ih =>
    obtain ⟨k, old⟩ := entry
    rw [OrderedMap.get?_cons] at h
    by_cases hk : k = key
    · rw [if_pos hk] at h
      cases h
      subst hk
      simp [OrderedMap.erase, reservedNames]
    · rw [if_neg hk] at h
      have hrest := ih h
      cases hreserved : old.reserved with
      | none => simpa [OrderedMap.erase, hk, reservedNames, hreserved] using hrest
      | some other =>
        have hcons := hrest.cons (other, k)
        have hswap := hcons.trans (List.Perm.swap (name, key) (other, k) _)
        simpa [OrderedMap.erase, hk, reservedNames, hreserved] using hswap

end Reserved

namespace Registry

/-- The names of declarations, with their references. -/
def declaredNames (registry : Registry) : List (ModelName × String) :=
  registry.models.map fun entry => (entry.2.modelName, entry.1)

theorem declaredNames_declaring (registry : Registry) (r : Reference) (name : ModelName)
    (declaration : TypeExpr) : (registry.declaring r name declaration).declaredNames =
      registry.declaredNames ++ [(name, r.canonical)] := by
  unfold declaredNames declaring
  rw [List.map_append]
  rfl

theorem names_takeName {registry : Registry} {key : String} {name : ModelName}
    (h : registry.names.get? name = none) :
    (registry.takeName key name).names = registry.names ++ [(name, key)] :=
  OrderedMap.insert_eq_append _ _ _ h

/-! ## The invariant -/

/-- Names belong to declarations and to open references, one to each that has one. -/
structure Named (registry : Registry) : Prop where
  perm : registry.names.Perm (registry.declaredNames ++ reservedNames registry.pending)
  names_nodup : registry.names.keys.Nodup
  models_nodup : registry.models.keys.Nodup
  pending_nodup : registry.pending.keys.Nodup

namespace Named

variable {registry : Registry} {r : Reference} {policy : NamingPolicy} {name : ModelName}

theorem of_empty : Registry.empty.Named :=
  ⟨List.Perm.nil, List.nodup_nil, List.nodup_nil, List.nodup_nil⟩

/-- A reference that is not declared, and not open with a name, owns no name. -/
theorem not_mem_names (h : registry.Named) {key : String}
    (hmodels : registry.models.get? key = none)
    (hunnamed : (registry.pending.get? key).bind Pending.reserved = none) (name : ModelName) :
    (name, key) ∉ registry.names := by
  intro hmem
  rcases List.mem_append.mp (h.perm.mem_iff.mp hmem) with hdeclared | hreserved
  · obtain ⟨entry, hentry, heq⟩ := List.mem_map.mp hdeclared
    cases heq
    exact (OrderedMap.get?_eq_none_iff _ _).mp hmodels (List.mem_map_of_mem hentry)
  · obtain ⟨entry, hentry, hname⟩ := mem_reservedNames.mp hreserved
    rw [OrderedMap.get?_of_mem h.pending_nodup hentry] at hunnamed
    have hnone : entry.reserved = none := hunnamed
    rw [hnone] at hname
    cases hname

/-- The name of a declaration belongs to its reference. -/
theorem mem_names_of_declared (h : registry.Named) {key : String} {model : Model}
    (hmodel : registry.models.get? key = some model) : (model.modelName, key) ∈ registry.names := by
  refine h.perm.mem_iff.mpr (List.mem_append_left _ ?_)
  exact List.mem_map_of_mem (f := fun entry => (entry.2.modelName, entry.1))
    (OrderedMap.mem_of_get? hmodel)

theorem mem_names_of_reserved (h : registry.Named) {key : String} {entry : Pending}
    (hopen : registry.pending.get? key = some entry) (hreserved : entry.reserved = some name) :
    (name, key) ∈ registry.names := by
  refine h.perm.mem_iff.mpr (List.mem_append_right _ ?_)
  exact mem_reservedNames.mpr ⟨entry, OrderedMap.mem_of_get? hopen, hreserved⟩

/-- A name belongs to one reference. -/
theorem key_eq (h : registry.Named) {key other : String} (hkey : (name, key) ∈ registry.names)
    (hother : (name, other) ∈ registry.names) : key = other :=
  Option.some.inj ((OrderedMap.get?_of_mem h.names_nodup hkey).symm.trans
    (OrderedMap.get?_of_mem h.names_nodup hother))

/-- An answer is the identifier of a name that belongs to the reference, or its inlined type. -/
theorem answer_eq (h : registry.Named) {key : String} {type : TypeExpr}
    (hanswer : registry.answer? key = some type) :
    (∃ name, type = name.identifier ∧ (name, key) ∈ registry.names) ∨
      registry.inlined.get? key = some type := by
  unfold answer? at hanswer
  split at hanswer
  · rename_i model hmodel
    cases hanswer
    exact Or.inl ⟨model.modelName, rfl, h.mem_names_of_declared hmodel⟩
  · split at hanswer
    · rename_i hinlined
      cases hanswer
      exact Or.inr hinlined
    · obtain ⟨name, hname, rfl⟩ := Option.map_eq_some_iff.mp hanswer
      obtain ⟨entry, hopen, hreserved⟩ := Option.bind_eq_some_iff.mp hname
      exact Or.inl ⟨name, rfl, h.mem_names_of_reserved hopen hreserved⟩

/-- A name that is free for such a reference belongs to nobody. -/
theorem get?_of_free (h : registry.Named) (hmodels : registry.models.get? r.canonical = none)
    (hunnamed : (registry.pending.get? r.canonical).bind Pending.reserved = none)
    (hfree : registry.freeName? policy r = some name) : registry.names.get? name = none := by
  rcases get?_names_of_freeName? hfree with hnone | hown
  · exact hnone
  · exact absurd (OrderedMap.mem_of_get? hown) (h.not_mem_names hmodels hunnamed name)

/-- Inlined types and helpers have no names. -/
theorem of_eq (h : registry.Named) {after : Registry} (hmodels : after.models = registry.models)
    (hnames : after.names = registry.names) (hpending : after.pending = registry.pending) :
    after.Named := by
  have hdeclared : after.declaredNames = registry.declaredNames := by
    unfold declaredNames
    rw [hmodels]
  refine ⟨?_, ?_, ?_, ?_⟩
  · rw [hnames, hdeclared, hpending]
    exact h.perm
  · rw [hnames]
    exact h.names_nodup
  · rw [hmodels]
    exact h.models_nodup
  · rw [hpending]
    exact h.pending_nodup

/-- The name that an open reference gets is its name. -/
theorem fixName (h : registry.Named) (hmodels : registry.models.get? r.canonical = none)
    (hopen : registry.pending.get? r.canonical = some ⟨policy, none⟩)
    (hfree : registry.freeName? policy r = some name) :
    (registry.fixName r.canonical policy name).Named := by
  have hnone := h.get?_of_free hmodels (by rw [hopen]; rfl) hfree
  have hnames : (registry.fixName r.canonical policy name).names =
      registry.names ++ [(name, r.canonical)] := names_takeName hnone
  refine ⟨?_, ?_, h.models_nodup, ?_⟩
  · rw [hnames]
    have hlonger := h.perm.append_right [(name, r.canonical)]
    rw [List.append_assoc] at hlonger
    exact hlonger.trans ((reservedNames_insert hopen name).symm.append_left _)
  · rw [hnames]
    exact OrderedMap.nodup_keys_append_singleton h.names_nodup hnone _
  · have hkeys := (StillOpen.insert_reserved hopen name).keys_eq
    have hnodup := h.pending_nodup
    rw [← hkeys] at hnodup
    exact hnodup

/-- An opened reference has no name yet. -/
theorem begin (h : registry.Named) {key : String} (hnew : registry.New key)
    (policy : NamingPolicy) : (registry.begin key policy).Named := by
  rw [begin_of_new hnew]
  refine ⟨?_, h.names_nodup, h.models_nodup,
    OrderedMap.nodup_keys_append_singleton h.pending_nodup hnew.pending _⟩
  have hreserved : reservedNames (registry.pending ++ [(key, ⟨policy, none⟩)]) =
      reservedNames registry.pending := by
    simp [reservedNames]
  simp only [hreserved]
  exact h.perm

/-- Closing a reference that has no name. -/
theorem closing (h : registry.Named) {key : String}
    (hopen : registry.pending.get? key = some ⟨policy, none⟩) : (registry.closing key).Named := by
  refine ⟨?_, h.names_nodup, h.models_nodup,
    h.pending_nodup.sublist (OrderedMap.keys_erase_sublist _ _)⟩
  have hsame : reservedNames (registry.pending.erase key) = reservedNames registry.pending :=
    reservedNames_erase_unnamed hopen
  simp only [Registry.closing, hsame]
  exact h.perm

/-- A declaration under a name that belonged to nobody. -/
theorem declaring (h : registry.Named) (hmodels : registry.models.get? r.canonical = none)
    (hnone : registry.names.get? name = none) (declaration : TypeExpr) :
    ((registry.takeName r.canonical name).declaring r name declaration).Named := by
  have hnames : (registry.takeName r.canonical name).names =
      registry.names ++ [(name, r.canonical)] := names_takeName hnone
  refine ⟨?_, ?_, OrderedMap.nodup_keys_append_singleton h.models_nodup hmodels _,
    h.pending_nodup⟩
  · have hlonger := h.perm.append_right [(name, r.canonical)]
    rw [List.append_assoc] at hlonger
    have hswap : (registry.declaredNames ++
          (reservedNames registry.pending ++ [(name, r.canonical)])).Perm
        (registry.declaredNames ++ [(name, r.canonical)] ++ reservedNames registry.pending) := by
      rw [List.append_assoc]
      exact List.perm_append_comm.append_left _
    rw [declaredNames_declaring]
    simp only [Registry.declaring, hnames]
    exact hlonger.trans hswap
  · simp only [Registry.declaring, hnames]
    exact OrderedMap.nodup_keys_append_singleton h.names_nodup hnone _

/-- A closed reference has the name of its declaration, or none. -/
theorem closes {after : Registry} {type answer : TypeExpr} (h : registry.Named)
    (hmodels : registry.models.get? r.canonical = none)
    (hcloses : registry.Closes r type answer after) : after.Named := by
  cases hcloses with
  | @recursive _ name opened =>
    refine ⟨?_, h.names_nodup, OrderedMap.nodup_keys_append_singleton h.models_nodup hmodels _,
      h.pending_nodup.sublist (OrderedMap.keys_erase_sublist _ _)⟩
    have hmoved := h.perm.trans ((reservedNames_erase_named opened).append_left _)
    rw [List.append_cons] at hmoved
    rw [declaredNames_declaring]
    exact hmoved
  | @declared _ name opened _ free =>
    have hnone := h.get?_of_free hmodels (by rw [opened]; rfl) free
    exact (h.closing opened).declaring hmodels hnone type
  | inlined opened => exact (h.closing opened).of_eq rfl rfl rfl

/-! ## Where nothing is open -/

theorem perm_of_quiet (h : registry.Named) (hquiet : registry.pending = []) :
    registry.names.Perm registry.declaredNames := by
  have hperm := h.perm
  rw [hquiet] at hperm
  simpa [reservedNames] using hperm

/-- Where nothing is open, a taken name is the name of the declaration of its reference. -/
theorem declared_of_mem (h : registry.Named) (hquiet : registry.pending = []) {key : String}
    (hmem : (name, key) ∈ registry.names) :
    ∃ model, registry.models.get? key = some model ∧ model.modelName = name := by
  obtain ⟨entry, hentry, heq⟩ := List.mem_map.mp ((h.perm_of_quiet hquiet).mem_iff.mp hmem)
  cases heq
  exact ⟨entry.2, OrderedMap.get?_of_mem h.models_nodup hentry, rfl⟩

/-- Where nothing is open, a taken name is the name of exactly one declaration. -/
theorem count_eq_one (h : registry.Named) (hquiet : registry.pending = [])
    (hname : name ∈ registry.names.keys) :
    (registry.models.values.map Model.modelName).count name = 1 := by
  have hperm : registry.names.keys.Perm (registry.models.values.map Model.modelName) := by
    have hnames : registry.declaredNames.map Prod.fst =
        registry.models.values.map Model.modelName := by
      unfold declaredNames OrderedMap.values
      rw [List.map_map, List.map_map]
      rfl
    rw [← hnames]
    exact (h.perm_of_quiet hquiet).map Prod.fst
  have hnodup := hperm.nodup_iff.mp h.names_nodup
  exact List.count_eq_one_of_mem hnodup (hperm.mem_iff.mp hname)

end Named

end Registry

end SchemaTypes
