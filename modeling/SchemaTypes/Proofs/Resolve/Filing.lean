import SchemaTypes.Proofs.Resolve.Coherence
import SchemaTypes.Proofs.TypeExpr.Embedded
import SchemaTypes.Proofs.TypeExpr.Normal

set_option autoImplicit false

/-!
# What is filed

What was read for a reference is filed when the reference is closed: under its own name if it refers
to itself, as a declaration if it is complex enough, as the inlined type of the reference otherwise.
A property that types inherit from their parts therefore holds of everything that is filed and of
everything that is given.  That no type which stands for a reference contains a declaration is one
instance, and that all types are in normal form is another.
-/

namespace SchemaTypes

/-- The declaration is a type with a property, as it is or under the declaration's own name. -/
inductive Model.Declares (P : TypeExpr → Prop) (m : Model) : Prop
  /-- It refers to itself. -/
  | recursive {body : TypeExpr} (declares : m.declaration = .recursive m.name body)
      (holds : P body)
  /-- It is complex enough. -/
  | plain (qualifies : m.declaration.qualifies = true) (holds : P m.declaration)

namespace Registry

/-! ## Filed types -/

/-- All that has been read has a property, and each of it is filed once. -/
structure Filed (P : TypeExpr → Prop) (registry : Registry) : Prop where
  declared : ∀ entry ∈ registry.models, entry.2.Declares P
  inlined : ∀ entry ∈ registry.inlined, P entry.2
  /-- What is inlined is not complex enough for a declaration. -/
  simple : ∀ entry ∈ registry.inlined, entry.2.qualifies = false
  apart : ∀ key, registry.models.get? key = none ∨ registry.inlined.get? key = none

namespace Filed

variable {P : TypeExpr → Prop} {registry after : Registry} {r : Reference}
  {type given : TypeExpr}

theorem of_empty : Registry.empty.Filed P where
  declared _ hentry := absurd hentry List.not_mem_nil
  inlined _ hentry := absurd hentry List.not_mem_nil
  simple _ hentry := absurd hentry List.not_mem_nil
  apart _ := Or.inl rfl

/-- Only declarations and inlined types matter. -/
theorem of_eq (h : registry.Filed P) (hmodels : after.models = registry.models)
    (hinlined : after.inlined = registry.inlined) : after.Filed P where
  declared := by
    rw [hmodels]
    exact h.declared
  inlined := by
    rw [hinlined]
    exact h.inlined
  simple := by
    rw [hinlined]
    exact h.simple
  apart := by
    rw [hmodels, hinlined]
    exact h.apart

/-- An answer is an identifier, or it has been filed. -/
theorem answer (h : registry.Filed P)
    (hidentifier : ∀ name importPath, P (.identifier name importPath)) {key : String}
    (hanswer : registry.answer? key = some type) :
    P type ∧ type.qualifies = false := by
  unfold Registry.answer? at hanswer
  split at hanswer
  · cases hanswer
    exact ⟨hidentifier _ _, rfl⟩
  · split at hanswer
    · rename_i hinlined
      cases hanswer
      have hentry := OrderedMap.mem_of_get? hinlined
      exact ⟨h.inlined _ hentry, h.simple _ hentry⟩
    · obtain ⟨name, -, rfl⟩ := Option.map_eq_some_iff.mp hanswer
      exact ⟨hidentifier _ _, rfl⟩

/-- A closed reference is filed in one place only. -/
theorem apart_of_closes (h : registry.Filed P)
    (hmodels : registry.models.get? r.canonical = none)
    (hinlined : registry.inlined.get? r.canonical = none)
    (hcloses : registry.Closes r type given after) (key : String) :
    after.models.get? key = none ∨ after.inlined.get? key = none := by
  by_cases hkey : key = r.canonical
  · subst hkey
    cases hcloses with
    | recursive => exact Or.inr hinlined
    | declared => exact Or.inr hinlined
    | inlined => exact Or.inl hmodels
  · obtain ⟨declared, hdeclared, hdeclaredKeys⟩ := hcloses.models_eq
    obtain ⟨inlined, hinline, hinlineKeys⟩ := hcloses.inlined_eq
    rw [hdeclared, hinline, Closes.get?_append_of_keys hdeclaredKeys hkey,
      Closes.get?_append_of_keys hinlineKeys hkey]
    exact h.apart key

/-- A reference is closed: what was read is filed. -/
theorem closes (h : registry.Filed P) (hmodels : registry.models.get? r.canonical = none)
    (hinlined : registry.inlined.get? r.canonical = none)
    (hcloses : registry.Closes r type given after) (htype : P type) : after.Filed P := by
  have hapart := h.apart_of_closes hmodels hinlined hcloses
  cases hcloses with
  | recursive =>
    refine ⟨?_, h.inlined, h.simple, hapart⟩
    intro entry hentry
    rcases List.mem_append.mp hentry with hold | hnew
    · exact h.declared entry hold
    · obtain rfl := List.mem_singleton.mp hnew
      exact .recursive rfl htype
  | declared _ qualifies =>
    refine ⟨?_, h.inlined, h.simple, hapart⟩
    intro entry hentry
    rcases List.mem_append.mp hentry with hold | hnew
    · exact h.declared entry hold
    · obtain rfl := List.mem_singleton.mp hnew
      exact .plain qualifies htype
  | inlined _ simple =>
    refine ⟨h.declared, ?_, ?_, hapart⟩
    · intro entry hentry
      rcases List.mem_append.mp hentry with hold | hnew
      · exact h.inlined entry hold
      · obtain rfl := List.mem_singleton.mp hnew
        exact htype
    · intro entry hentry
      rcases List.mem_append.mp hentry with hold | hnew
      · exact h.simple entry hold
      · obtain rfl := List.mem_singleton.mp hnew
        exact simple

end Filed

end Registry

namespace Session

/-! ## Resolutions -/

section Resolving

variable {P : TypeExpr → Prop} {resolve : Reference → Run TypeExpr} {session final : Session}
  {r : Reference} {answer : TypeExpr}

/-- Elaborations keep what is filed, and their types have the property. -/
theorem carries_filed (hP : TypeExpr.Inherited P) (hgrows : ∀ r, (resolve r).Obeys Grows)
    (hfiled : ∀ r session answer final, resolve r session = .ok answer final →
      session.registry.Filed P → final.registry.Filed P ∧ P answer ∧ answer.qualifies = false) :
    Carries resolve (fun session => session.registry.Filed P) fun _ type => P type := by
  refine .of_inherited hP hgrows ?_ ?_
  · intro session path name h
    exact h.of_eq rfl rfl
  · intro r session type final hresolve h
    obtain ⟨hfinal, htype, -⟩ := hfiled r session type final hresolve h
    exact ⟨hfinal, htype⟩

theorem Resolves.filed (hP : TypeExpr.Inherited P) (hgrows : ∀ r, (resolve r).Obeys Grows)
    (hfiled : ∀ r session answer final, resolve r session = .ok answer final →
      session.registry.Filed P → final.registry.Filed P ∧ P answer ∧ answer.qualifies = false)
    (h : Resolves resolve r session answer final) (hsession : session.registry.Filed P) :
    final.registry.Filed P ∧ P answer ∧ answer.qualifies = false := by
  have hanswer := h.answered_after
  have hfinal : final.registry.Filed P := by
    cases h with
    | answered => exact hsession
    | named => exact hsession.of_eq rfl rfl
    | @read policy node type answer read after new found elaborated grows closes =>
      obtain ⟨hmodels, hinlined, -⟩ := open_of_grows new grows
      have hopened : (session.registry.begin r.canonical policy).Filed P :=
        hsession.of_eq rfl rfl
      obtain ⟨hread, htype⟩ :=
        (carries_filed hP hgrows hfiled).elaborate (Schema.ofJson_plain r node) elaborated hopened
      exact hread.closes hmodels hinlined closes htype
  exact ⟨hfinal, hfinal.answer hP.identifier hanswer⟩

/-- What a reference is resolved to has the property and is not complex enough for a
declaration. -/
theorem resolveWithin_filed (hP : TypeExpr.Inherited P) {bound : Nat}
    {policy : Option NamingPolicy} (h : resolveWithin bound policy r session = .ok answer final)
    (hsession : session.registry.Filed P) :
    final.registry.Filed P ∧ P answer ∧ answer.qualifies = false :=
  resolveWithin_induct
    (P := fun _ session answer final => session.registry.Filed P →
      final.registry.Filed P ∧ P answer ∧ answer.qualifies = false)
    (fun _ hnested hfiled _ _ _ _ h => h.filed hP hnested.grows hfiled) bound policy h hsession

end Resolving

/-! ## Runs -/

section Runs

variable {P : TypeExpr → Prop} (hP : TypeExpr.Inherited P)

include hP

theorem obeys_filed : Request.Obeys fun before after =>
    before.registry.Filed P → after.registry.Filed P :=
  obeys_of_invariant
    (fun hrestores h => h.of_eq hrestores.registry.models hrestores.registry.inlined)
    (fun hresolve h => (resolveWithin_filed hP hresolve h).1) fun _ _ h => h

/-- What requests give for references has the property and is not complex enough for a
declaration. -/
theorem answers_filed : Request.Answers (fun session => session.registry.Filed P)
    fun _ type => P type ∧ type.qualifies = false where
  obeys := obeys_filed hP
  mono _ h := h
  resolved h hsession := (resolveWithin_filed hP h hsession).2

/-- All types that requests give have the property. -/
theorem gives_filed : Request.Gives (fun session => session.registry.Filed P)
    fun _ type => P type where
  obeys := obeys_filed hP
  mono _ h := h
  resolved h hsession := (resolveWithin_filed hP h hsession).2.1
  elaborated hplain h hsession :=
    ((carries_filed hP (fun r => resolveWithin_obeys _ none r)
      fun _ _ _ _ hresolve => resolveWithin_filed hP hresolve).elaborate hplain h hsession).2

/-- After any requests to a fresh session all that is remembered has been filed. -/
theorem filed_of_start {store : Store} {root : String} {config : Config} {start : Session}
    (hstart : Session.start store root config = .ok start) (requests : List Request) :
    (Request.performAll requests start).2.registry.Filed P := by
  refine (obeys_filed hP).performAll requests start ?_
  rw [registry_of_start hstart]
  exact .of_empty

end Runs

/-- Whatever was requested of a session that started fresh: no type that is given for a reference
and no inlined type contains a record or a recursive declaration.  A declaration either is recursive
under its own name, with a body that contains no recursive declaration, or it contains a record and
no recursive declaration.  And no reference is both declared and inlined. -/
theorem declarations_are_not_embedded {store : Store} {root : String} {config : Config}
    {start : Session} (hstart : Session.start store root config = .ok start)
    (requests : List Request) :
    let session := (Request.performAll requests start).2
    (∀ request : Request, (∀ node location, request ≠ .parse node location) →
      ∀ type ∈ (request.perform session).1, type.Embeddable) ∧
    (∀ entry ∈ session.registry.inlined, entry.2.Embeddable) ∧
    (∀ entry ∈ session.registry.models,
      (∃ body, entry.2.declaration = .recursive entry.2.name body ∧ body.Unfolded) ∨
      (entry.2.declaration.Unfolded ∧
        ∃ fields, .record fields ∈ entry.2.declaration.occurrences)) ∧
    ∀ key, session.registry.models.get? key = none ∨ session.registry.inlined.get? key = none := by
  intro session
  have hfiled : session.registry.Filed TypeExpr.Unfolded :=
    filed_of_start TypeExpr.inherited_unfolded hstart requests
  refine ⟨?_, ?_, ?_, hfiled.apart⟩
  · intro request hrequest type htype
    obtain ⟨hunfolded, hsimple⟩ :=
      (answers_filed TypeExpr.inherited_unfolded).perform hrequest hfiled type htype
    exact TypeExpr.embeddable_of_qualifies hunfolded hsimple
  · intro entry hentry
    exact TypeExpr.embeddable_of_qualifies (hfiled.inlined entry hentry)
      (hfiled.simple entry hentry)
  · intro entry hentry
    cases hfiled.declared entry hentry with
    | @recursive body declares holds => exact Or.inl ⟨body, declares, holds⟩
    | plain qualifies holds =>
      exact Or.inr ⟨holds, (TypeExpr.qualifies_iff _).mp qualifies⟩

/-- After everything has been generated, a pair of chains is given by its identifier, and what is
filed of a node of a chain is a declaration. -/
theorem declarations_are_not_embedded_sample :
    let request : Request := .resolve (sampleReference "Pair") none
    (∃ type ∈ (request.perform generatedSample).1, type.Embeddable) ∧
    ∃ entry ∈ generatedSample.registry.models, entry.2.name = "Node" ∧
      ((∃ body, entry.2.declaration = .recursive entry.2.name body ∧ body.Unfolded) ∨
        (entry.2.declaration.Unfolded ∧
          ∃ fields, .record fields ∈ entry.2.declaration.occurrences)) := by
  unfold generatedSample
  intro request
  obtain ⟨hgiven, -, hdeclared, -⟩ := declarations_are_not_embedded start_sample [.everything]
  have hlength : (request.perform (Request.performAll [.everything] sample).2).1.length = 1 := by
    decide +kernel
  obtain ⟨type, htype⟩ := List.length_eq_one_iff.mp hlength
  have hmem := htype ▸ List.mem_singleton_self type
  have hrequest : ∀ node location, request ≠ .parse node location := by
    intro node location
    simp [request]
  have hnode : ∃ entry ∈ (Request.performAll [.everything] sample).2.registry.models,
      entry.2.name = "Node" := by
    decide +kernel
  obtain ⟨entry, hentry, hname⟩ := hnode
  exact ⟨⟨type, hmem, hgiven request hrequest type hmem⟩, entry, hentry, hname,
    hdeclared entry hentry⟩

/-- Whatever was requested of a session that started fresh: all types that were given, all inlined
types and all declarations are in normal form. -/
theorem types_are_in_normal_form {store : Store} {root : String} {config : Config}
    {start : Session} (hstart : Session.start store root config = .ok start)
    (requests : List Request) :
    let types := (Request.performAll requests start).1
    let registry := (Request.performAll requests start).2.registry
    (∀ type ∈ types, type.InNormalForm) ∧
    (∀ entry ∈ registry.inlined, entry.2.InNormalForm) ∧
    ∀ entry ∈ registry.models, entry.2.declaration.InNormalForm := by
  intro types registry
  have hinherited := TypeExpr.inherited_inNormalForm
  have hfresh : start.registry.Filed TypeExpr.InNormalForm := filed_of_start hinherited hstart []
  have hfiled : registry.Filed TypeExpr.InNormalForm := filed_of_start hinherited hstart requests
  refine ⟨(gives_filed hinherited).performAll requests hfresh, hfiled.inlined, ?_⟩
  intro entry hentry
  cases hfiled.declared entry hentry with
  | recursive declares holds =>
    rw [declares]
    exact holds.recursive _
  | plain _ holds => exact holds

/-- Listed values and types overlap: a value, a type and `null` are named twice. -/
def overlapping : Json :=
  .object
    [("oneOf", .array
        [.object [("enum", .array [.string "a", .number (.integer 1), .null, .string "a"])],
          .object [("type", .array [.string "string", .string "null"])]]),
      ("nullable", .bool true)]

/-- The two values, `null` and the type of strings are left, in one union. -/
theorem types_are_in_normal_form_overlapping :
    let requests : List Request := [.parse overlapping (Reference.root "api.json")]
    ∃ type, (Request.performAll requests sample).1 = [type] ∧
      type.unionMembers.length = 4 ∧ type.InNormalForm := by
  intro requests
  have hlength : (Request.performAll requests sample).1.length = 1 := by decide +kernel
  have hmembers : ∀ type ∈ (Request.performAll requests sample).1,
      type.unionMembers.length = 4 := by
    decide +kernel
  obtain ⟨type, htype⟩ := List.length_eq_one_iff.mp hlength
  have hmem := htype ▸ List.mem_singleton_self type
  exact ⟨type, htype, hmembers type hmem,
    (types_are_in_normal_form start_sample requests).1 type hmem⟩

end Session

end SchemaTypes
