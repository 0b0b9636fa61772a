import SchemaTypes.Proofs.Registry.Answers
import SchemaTypes.Proofs.Registry.Pending
import SchemaTypes.Resolve

set_option autoImplicit false

/-!
# Growing registries

Between the opening of a reference and its closing a registry only grows: declarations, inlined
types and names are added at the end, the open references stay open, and nothing is added for a
reference that is open or inlined already.  That makes taking back what a failing reference has left
behind a matter of cutting each table to its former size.
-/

namespace SchemaTypes.Registry

/-! ## Taking names -/

/-- The first name that is free for a reference. -/
def freeName? (registry : Registry) (policy : NamingPolicy) (r : Reference) : Option ModelName :=
  firstFree (registry.isTaken r.canonical) (candidate policy (policy.name r)) (variantLimit + 1) 0

/-- The registry in which a name belongs to a reference. -/
def takeName (registry : Registry) (key : String) (name : ModelName) : Registry :=
  { registry with names := registry.names.insert name key }

theorem assignName_eq (registry : Registry) (policy : NamingPolicy) (r : Reference) :
    registry.assignName policy r r.canonical =
      match registry.freeName? policy r with
      | none => .error (.namingConflict
          ("no free variant of '" ++ (policy.name r).display ++ "' for " ++ r.canonical))
      | some name => .ok (name, registry.takeName r.canonical name) := rfl

theorem firstFree_not_taken {taken : ModelName → Bool} {candidates : Nat → ModelName}
    {remaining attempt : Nat} {name : ModelName}
    (h : firstFree taken candidates remaining attempt = some name) : taken name = false := by
  induction remaining generalizing attempt with
  | zero => simp [firstFree] at h
  | succ remaining ih =>
    rw [firstFree] at h
    split at h
    · exact ih h
    · rename_i hfree
      cases h
      simpa using hfree

/-- A free name belongs to nobody, or to the reference itself. -/
theorem get?_names_of_freeName? {registry : Registry} {policy : NamingPolicy} {r : Reference}
    {name : ModelName} (h : registry.freeName? policy r = some name) :
    registry.names.get? name = none ∨ registry.names.get? name = some r.canonical := by
  have hfree := firstFree_not_taken h
  unfold isTaken at hfree
  cases howner : registry.names.get? name with
  | none => exact Or.inl rfl
  | some owner =>
    rw [howner] at hfree
    have heq : owner = r.canonical := by simpa using hfree
    rw [heq]
    exact Or.inr rfl

theorem names_prefix_takeName {registry : Registry} {policy : NamingPolicy} {r : Reference}
    {name : ModelName} (h : registry.freeName? policy r = some name) :
    registry.names <+: (registry.takeName r.canonical name).names :=
  OrderedMap.prefix_insert (get?_names_of_freeName? h)

/-! ## Growth -/

/-- A registry some steps later, when what was opened in between has been closed again. -/
structure Grows (before after : Registry) : Prop where
  models : before.models <+: after.models
  inlined : before.inlined <+: after.inlined
  names : before.names <+: after.names
  pending : StillOpen before.pending after.pending
  /-- Nothing that is open or inlined gets a declaration. -/
  undeclared : ∀ key, (∃ entry, before.pending.get? key = some entry) ∨
    (∃ type, before.inlined.get? key = some type) →
      after.models.get? key = before.models.get? key
  /-- Nothing that is open gets inlined. -/
  uninlined : ∀ key, (∃ entry, before.pending.get? key = some entry) →
    after.inlined.get? key = before.inlined.get? key
  helpers : ∀ path name, before.Notes path name → after.Notes path name

namespace Grows

variable {before middle after : Registry}

theorem refl (registry : Registry) : registry.Grows registry :=
  ⟨List.prefix_rfl, List.prefix_rfl, List.prefix_rfl, .refl _, fun _ _ => rfl, fun _ _ => rfl,
    fun _ _ h => h⟩

theorem trans (first : before.Grows middle) (second : middle.Grows after) :
    before.Grows after where
  models := first.models.trans second.models
  inlined := first.inlined.trans second.inlined
  names := first.names.trans second.names
  pending := first.pending.trans second.pending
  undeclared := by
    intro key h
    rw [← first.undeclared key h]
    apply second.undeclared key
    rcases h with ⟨entry, hopen⟩ | ⟨type, hinlined⟩
    · obtain ⟨later, hlater, -⟩ := first.pending.get?_some hopen
      exact Or.inl ⟨later, hlater⟩
    · exact Or.inr ⟨type, OrderedMap.get?_of_prefix first.inlined hinlined⟩
  uninlined := by
    rintro key ⟨entry, hopen⟩
    obtain ⟨later, hlater, -⟩ := first.pending.get?_some hopen
    rw [← first.uninlined key ⟨entry, hopen⟩]
    exact second.uninlined key ⟨later, hlater⟩
  helpers := fun path name h => second.helpers path name (first.helpers path name h)

/-- Growing keeps what was answered. -/
theorem keeps (h : before.Grows after) : before.Keeps after := by
  refine ⟨fun key type hanswer => ?_, h.helpers⟩
  unfold answer? at hanswer
  split at hanswer
  · rename_i model hmodel
    cases hanswer
    exact answer?_of_model (OrderedMap.get?_of_prefix h.models hmodel)
  · rename_i hmodels
    split at hanswer
    · rename_i hknown
      cases hanswer
      have hnot := h.undeclared key (Or.inr ⟨_, hknown⟩)
      exact answer?_of_inlined (hnot.trans hmodels) (OrderedMap.get?_of_prefix h.inlined hknown)
    · rename_i hinlined
      obtain ⟨name, hname, rfl⟩ := Option.map_eq_some_iff.mp hanswer
      obtain ⟨entry, hopen, hreserved⟩ := Option.bind_eq_some_iff.mp hname
      obtain ⟨later, hlater, hbecomes⟩ := h.pending.get?_some hopen
      rw [answer?_of_pending ((h.undeclared key (Or.inl ⟨entry, hopen⟩)).trans hmodels)
        ((h.uninlined key ⟨entry, hopen⟩).trans hinlined), hlater]
      exact congrArg (Option.map _) (hbecomes.reserved name hreserved)

end Grows

/-! ## Open references that get their names -/

/-- The registry in which the name of an open reference is fixed. -/
def fixName (registry : Registry) (key : String) (policy : NamingPolicy) (name : ModelName) :
    Registry :=
  { registry.takeName key name with
    pending := registry.pending.insert key ⟨policy, some name⟩ }

theorem grows_fixName {registry : Registry} {r : Reference} {policy : NamingPolicy}
    {name : ModelName} (hopen : registry.pending.get? r.canonical = some ⟨policy, none⟩)
    (hfree : registry.freeName? policy r = some name) :
    registry.Grows (registry.fixName r.canonical policy name) :=
  { Grows.refl registry with
    names := names_prefix_takeName hfree
    pending := StillOpen.insert_reserved hopen name }

theorem answer?_fixName {registry : Registry} {key : String}
    (hmodels : registry.models.get? key = none) (hinlined : registry.inlined.get? key = none)
    (policy : NamingPolicy) (name : ModelName) :
    (registry.fixName key policy name).answer? key = some name.identifier := by
  have hopen : (registry.fixName key policy name).pending.get? key = some ⟨policy, some name⟩ := by
    unfold fixName
    rw [OrderedMap.get?_insert, if_pos rfl]
  have hreserved : (registry.fixName key policy name).answer? key = _ :=
    answer?_of_pending hmodels hinlined
  rw [hreserved, hopen]
  rfl

/-! ## Opening and closing -/

/-- A reference of which the registry knows nothing. -/
structure New (registry : Registry) (key : String) : Prop where
  models : registry.models.get? key = none
  inlined : registry.inlined.get? key = none
  pending : registry.pending.get? key = none

/-- A new reference is opened after all others. -/
theorem begin_of_new {registry : Registry} {key : String} (h : registry.New key)
    (policy : NamingPolicy) : registry.begin key policy =
      { registry with pending := registry.pending ++ [(key, ⟨policy, none⟩)] } := by
  unfold begin
  rw [OrderedMap.insert_eq_append _ _ _ h.pending]

theorem get?_pending_begin {registry : Registry} {key : String} (h : registry.New key)
    (policy : NamingPolicy) :
    (registry.begin key policy).pending.get? key = some ⟨policy, none⟩ := by
  rw [begin_of_new h]
  exact OrderedMap.get?_append_singleton h.pending _

/-- Opening a new reference keeps what was answered. -/
theorem keeps_begin {registry : Registry} {key : String} (h : registry.New key)
    (policy : NamingPolicy) : registry.Keeps (registry.begin key policy) := by
  refine ⟨fun other type hanswer => ?_, fun path name hnotes => hnotes⟩
  have hne : other ≠ key := by
    rintro rfl
    rw [answer?_of_pending h.models h.inlined, h.pending] at hanswer
    cases hanswer
  unfold answer? begin at *
  rw [OrderedMap.get?_insert, if_neg (Ne.symm hne)]
  exact hanswer

/-- A declaration for a reference. -/
def declaring (registry : Registry) (r : Reference) (name : ModelName) (declaration : TypeExpr) :
    Registry :=
  { registry with
    models := registry.models ++
      [(r.canonical, ⟨r, name.name, declaration, name.importPath⟩)] }

theorem get?_models_declaring {registry : Registry} {r : Reference}
    (h : registry.models.get? r.canonical = none) (name : ModelName) (declaration : TypeExpr) :
    (registry.declaring r name declaration).models.get? r.canonical =
      some ⟨r, name.name, declaration, name.importPath⟩ :=
  OrderedMap.get?_append_singleton h _

theorem answer?_declaring {registry : Registry} {r : Reference}
    (h : registry.models.get? r.canonical = none) (name : ModelName) (declaration : TypeExpr) :
    (registry.declaring r name declaration).answer? r.canonical = some name.identifier := by
  rw [answer?_of_model (get?_models_declaring h name declaration)]
  rfl

/-- The registry without an open reference. -/
def closing (registry : Registry) (key : String) : Registry :=
  { registry with pending := registry.pending.erase key }

/-- The ways in which an open reference is closed, once its target has been read as `type`: what it
is answered with, and the registry afterwards. -/
inductive Closes (before : Registry) (r : Reference) (type : TypeExpr) :
    TypeExpr → Registry → Prop
  /-- Its name was fixed: its declaration refers to itself. -/
  | recursive {policy : NamingPolicy} {name : ModelName}
      (opened : before.pending.get? r.canonical = some ⟨policy, some name⟩)
      (productive : Session.isUnproductive name.identifier type = false) :
      Closes before r type name.identifier
        ((before.closing r.canonical).declaring r name (.recursive name.name type))
  /-- Its type is complex enough for a declaration. -/
  | declared {policy : NamingPolicy} {name : ModelName}
      (opened : before.pending.get? r.canonical = some ⟨policy, none⟩)
      (qualifies : type.qualifies = true)
      (free : before.freeName? policy r = some name) :
      Closes before r type name.identifier
        (((before.closing r.canonical).takeName r.canonical name).declaring r name type)
  /-- Its type stands for itself. -/
  | inlined {policy : NamingPolicy}
      (opened : before.pending.get? r.canonical = some ⟨policy, none⟩)
      (simple : type.qualifies = false) :
      Closes before r type type
        { before.closing r.canonical with
          inlined := before.inlined ++ [(r.canonical, type)] }

namespace Closes

variable {before after : Registry} {r : Reference} {type answer : TypeExpr}

theorem pending_eq (h : before.Closes r type answer after) :
    after.pending = before.pending.erase r.canonical := by
  cases h <;> rfl

theorem helpers_eq (h : before.Closes r type answer after) : after.helpers = before.helpers := by
  cases h <;> rfl

theorem names_prefix (h : before.Closes r type answer after) : before.names <+: after.names := by
  cases h with
  | recursive => exact List.prefix_rfl
  | declared _ _ free => exact names_prefix_takeName free
  | inlined => exact List.prefix_rfl

/-- What is declared besides belongs to the reference. -/
theorem models_eq (h : before.Closes r type answer after) :
    ∃ added, after.models = before.models ++ added ∧ ∀ entry ∈ added, entry.1 = r.canonical := by
  cases h with
  | recursive => exact ⟨_, rfl, by simp⟩
  | declared => exact ⟨_, rfl, by simp⟩
  | inlined => exact ⟨[], (List.append_nil _).symm, by simp⟩

/-- What is inlined besides belongs to the reference. -/
theorem inlined_eq (h : before.Closes r type answer after) :
    ∃ added, after.inlined = before.inlined ++ added ∧
      ∀ entry ∈ added, entry.1 = r.canonical := by
  cases h with
  | recursive => exact ⟨[], (List.append_nil _).symm, by simp⟩
  | declared => exact ⟨[], (List.append_nil _).symm, by simp⟩
  | inlined => exact ⟨_, rfl, by simp⟩

/-- Entries under one key are not found under another. -/
theorem get?_append_of_keys {α : Type} {map added : OrderedMap String α} {key other : String}
    (hadded : ∀ entry ∈ added, entry.1 = other) (hne : key ≠ other) :
    OrderedMap.get? (map ++ added) key = map.get? key := by
  have hnone : added.get? key = none := by
    rw [OrderedMap.get?_eq_none_iff]
    intro hmem
    obtain ⟨entry, hentry, rfl⟩ := List.mem_map.mp hmem
    exact hne (hadded entry hentry)
  rw [OrderedMap.get?_append, hnone, Option.or_none]

/-- A closed reference is answered with what it was closed with. -/
theorem answer?_eq (h : before.Closes r type answer after)
    (hmodels : before.models.get? r.canonical = none)
    (hinlined : before.inlined.get? r.canonical = none) :
    after.answer? r.canonical = some answer := by
  cases h with
  | recursive =>
    apply answer?_declaring
    exact hmodels
  | declared =>
    apply answer?_declaring
    exact hmodels
  | inlined =>
    exact answer?_of_inlined hmodels (OrderedMap.get?_append_singleton hinlined _)

/-- Closing a reference changes the answers of no other. -/
theorem answer?_of_ne (h : before.Closes r type answer after) {key : String}
    (hkey : key ≠ r.canonical) : after.answer? key = before.answer? key := by
  obtain ⟨declared, hdeclared, hkeys⟩ := h.models_eq
  obtain ⟨inlined, hinline, hinlinedKeys⟩ := h.inlined_eq
  unfold answer?
  rw [hdeclared, hinline, h.pending_eq, get?_append_of_keys hkeys hkey,
    get?_append_of_keys hinlinedKeys hkey, OrderedMap.get?_erase_of_ne hkey]

/-- Closing a reference keeps what was answered: a name that it had is the name of its
declaration. -/
theorem keeps (h : before.Closes r type answer after)
    (hmodels : before.models.get? r.canonical = none)
    (hinlined : before.inlined.get? r.canonical = none) : before.Keeps after := by
  refine ⟨fun key given hgiven => ?_, fun path name hnotes => ?_⟩
  · by_cases hkey : key = r.canonical
    · subst hkey
      rw [answer?_of_pending hmodels hinlined] at hgiven
      rw [h.answer?_eq hmodels hinlined]
      cases h with
      | recursive opened =>
        rw [opened] at hgiven
        exact hgiven
      | declared opened =>
        rw [opened] at hgiven
        cases hgiven
      | inlined opened =>
        rw [opened] at hgiven
        cases hgiven
    · rw [h.answer?_of_ne hkey]
      exact hgiven
  · unfold Notes at hnotes ⊢
    rw [h.helpers_eq]
    exact hnotes

end Closes

/-- A new reference that was opened and is closed again: on the whole the registry has grown. -/
theorem Grows.closes {before middle after : Registry} {r : Reference} {policy : NamingPolicy}
    {type answer : TypeExpr} (new : before.New r.canonical)
    (grows : (before.begin r.canonical policy).Grows middle)
    (closes : middle.Closes r type answer after) : before.Grows after := by
  rw [begin_of_new new] at grows
  obtain ⟨declared, hmodels, hdeclared⟩ := closes.models_eq
  obtain ⟨inlined, hinlined, hkeys⟩ := closes.inlined_eq
  have hne : ∀ key, (∃ entry, before.pending.get? key = some entry) ∨
      (∃ type, before.inlined.get? key = some type) → key ≠ r.canonical := by
    rintro key (⟨entry, hopen⟩ | ⟨type, hinline⟩) rfl
    · rw [new.pending] at hopen
      cases hopen
    · rw [new.inlined] at hinline
      cases hinline
  have hopen : ∀ key, (∃ entry, before.pending.get? key = some entry) →
      ∃ entry, OrderedMap.get? (before.pending ++ [(r.canonical, ⟨policy, none⟩)]) key
        = some entry := by
    rintro key ⟨entry, h⟩
    exact ⟨entry, OrderedMap.get?_of_prefix (List.prefix_append _ _) h⟩
  exact {
    models := grows.models.trans (hmodels ▸ List.prefix_append _ _)
    inlined := grows.inlined.trans (hinlined ▸ List.prefix_append _ _)
    names := grows.names.trans closes.names_prefix
    pending := by
      rw [closes.pending_eq]
      exact grows.pending.erase_last new.pending
    undeclared := by
      intro key h
      rw [hmodels, Closes.get?_append_of_keys hdeclared (hne key h)]
      exact grows.undeclared key (h.imp_left (hopen key))
    uninlined := by
      intro key h
      rw [hinlined, Closes.get?_append_of_keys hkeys (hne key (Or.inl h))]
      exact grows.uninlined key (hopen key h)
    helpers := by
      intro path name h
      have hnoted := grows.helpers path name h
      unfold Notes at hnoted ⊢
      rw [closes.helpers_eq]
      exact hnoted }

/-! ## Rolling back -/

/-- A registry after a fault: only names of open references may have been fixed, and helpers
noted. -/
structure Restores (before after : Registry) : Prop where
  models : after.models = before.models
  inlined : after.inlined = before.inlined
  names : after.names = before.names
  pending : StillOpen before.pending after.pending
  helpers : ∀ path name, before.Notes path name → after.Notes path name

namespace Restores

variable {before middle after : Registry}

theorem refl (registry : Registry) : registry.Restores registry :=
  ⟨rfl, rfl, rfl, .refl _, fun _ _ h => h⟩

theorem grows (h : before.Restores after) : before.Grows after where
  models := h.models ▸ List.prefix_rfl
  inlined := h.inlined ▸ List.prefix_rfl
  names := h.names ▸ List.prefix_rfl
  pending := h.pending
  undeclared := fun key _ => by rw [h.models]
  uninlined := fun key _ => by rw [h.inlined]
  helpers := h.helpers

end Restores

/-- Noting a helper changes nothing else. -/
theorem restores_recordHelper (registry : Registry) (path name : String) :
    registry.Restores (registry.recordHelper path name) :=
  { Restores.refl registry with helpers := fun _ _ h => h.recordHelper path name }

/-- Cutting a continued list to its former length. -/
theorem take_length_of_prefix {α : Type} {before after : List α} (h : before <+: after) :
    after.take before.length = before := (List.prefix_iff_eq_take.mp h).symm

/-- Rolling back to the mark from before undoes growth, with a reference opened in between or
not. -/
theorem restores_rollback {before after : Registry} {added : OrderedMap String Pending}
    (models : before.models <+: after.models) (inlined : before.inlined <+: after.inlined)
    (names : before.names <+: after.names)
    (pending : StillOpen (before.pending ++ added) after.pending)
    (helpers : ∀ path name, before.Notes path name → after.Notes path name) :
    before.Restores (after.rollback before.mark) where
  models := take_length_of_prefix models
  inlined := take_length_of_prefix inlined
  names := take_length_of_prefix names
  pending := pending.take_length
  helpers := helpers

end SchemaTypes.Registry
