import SchemaTypes.Proofs.Reference
import SchemaTypes.Proofs.Registry.Names
import SchemaTypes.Proofs.Session.Undo

set_option autoImplicit false

/-!
# Names between calls

Between calls nothing is open, and so the taken names are the names of the declarations, one for
each.  This does not rest on what types mention: a type made elsewhere may well name declarations
that do not exist, and is declared or inlined as any other.
-/

namespace SchemaTypes

/-! ## Booked registries -/

/-- Names belong to declarations and to open references, and every declaration stands under the
canonical form of its reference. -/
structure Registry.Booked (registry : Registry) : Prop where
  named : registry.Named
  keyed : ∀ entry ∈ registry.models, entry.1 = entry.2.reference.canonical

namespace Registry.Booked

variable {registry after : Registry} {r : Reference} {type answer : TypeExpr}

theorem of_empty : Registry.empty.Booked :=
  ⟨.of_empty, fun _ hentry => absurd hentry List.not_mem_nil⟩

/-- Where nothing is declared in between, names are all that matters. -/
theorem mono (h : registry.Booked) (hnamed : after.Named)
    (hmodels : after.models = registry.models) : after.Booked := by
  refine ⟨hnamed, ?_⟩
  rw [hmodels]
  exact h.keyed

/-- A declaration under a name that belonged to nobody. -/
theorem declaring (h : registry.Booked) {name : ModelName}
    (hmodels : registry.models.get? r.canonical = none)
    (hnone : registry.names.get? name = none) (declaration : TypeExpr) :
    ((registry.takeName r.canonical name).declaring r name declaration).Booked := by
  refine ⟨h.named.declaring hmodels hnone declaration, fun entry hentry => ?_⟩
  rcases List.mem_append.mp hentry with hold | hnew
  · exact h.keyed entry hold
  · rw [List.mem_singleton.mp hnew]

theorem closes (h : registry.Booked) (hmodels : registry.models.get? r.canonical = none)
    (hcloses : registry.Closes r type answer after) : after.Booked := by
  refine ⟨h.named.closes hmodels hcloses, fun entry hentry => ?_⟩
  cases hcloses with
  | inlined => exact h.keyed entry hentry
  | _ =>
    rcases List.mem_append.mp hentry with hold | hnew
    · exact h.keyed entry hold
    · rw [List.mem_singleton.mp hnew]

/-- Where nothing is open, the taken names are those of the declarations. -/
theorem names_perm (h : registry.Booked) (hquiet : registry.pending = []) :
    registry.names.Perm
      (registry.models.values.map fun m => (m.modelName, m.reference.canonical)) := by
  have hsame : registry.declaredNames =
      registry.models.values.map fun m => (m.modelName, m.reference.canonical) := by
    unfold declaredNames OrderedMap.values
    rw [List.map_map]
    refine List.map_congr_left fun entry hentry => ?_
    rw [Function.comp_apply, ← h.keyed entry hentry]
  rw [← hsame]
  exact h.named.perm_of_quiet hquiet

/-- A reference is the one that its declaration was made for. -/
theorem reference_of_lookup (h : registry.Booked) {model : Model}
    (hmodel : registry.lookup r = some model) : model.reference = r := by
  have hkey := h.keyed _ (OrderedMap.mem_of_get? hmodel)
  exact (Reference.eq_of_canonical_eq hkey).symm

/-- Where nothing is open, the name of a declaration leads to its reference. -/
theorem get?_names (h : registry.Booked) (hquiet : registry.pending = []) {model : Model}
    (hmodel : registry.lookup r = some model) :
    registry.names.get? model.modelName = some r.canonical := by
  have hmem : (model.modelName, r.canonical) ∈ registry.declaredNames :=
    List.mem_map_of_mem (f := fun entry => (entry.2.modelName, entry.1))
      (OrderedMap.mem_of_get? hmodel)
  exact OrderedMap.get?_of_mem h.named.names_nodup
    ((h.named.perm_of_quiet hquiet).mem_iff.mpr hmem)

/-- Where nothing is open, two references with declarations of one name are the same. -/
theorem eq_of_modelName_eq (h : registry.Booked) (hquiet : registry.pending = []) {s : Reference}
    {first second : Model} (hfirst : registry.lookup r = some first)
    (hsecond : registry.lookup s = some second) (hname : first.modelName = second.modelName) :
    r = s := by
  have howner := h.get?_names hquiet hfirst
  rw [hname, h.get?_names hquiet hsecond] at howner
  exact (Reference.eq_of_canonical_eq (Option.some.inj howner)).symm

end Registry.Booked

namespace Session

/-! ## Resolutions -/

section Resolving

variable {resolve : Reference → Run TypeExpr} {session final : Session} {r : Reference}
  {answer : TypeExpr}

/-- Elaborations keep registries booked. -/
theorem carries_booked (hgrows : ∀ r, (resolve r).Obeys Grows)
    (hbooked : ∀ r session answer final, resolve r session = .ok answer final →
      session.registry.Booked → final.registry.Booked) :
    Carries resolve (fun session => session.registry.Booked) fun _ _ => True where
  grows := hgrows
  mono _ h := h
  constant _ _ _ := trivial
  string _ := trivial
  provided _ _ _ := trivial
  combines _ _ := trivial
  noted _ _ h := h.mono (h.named.of_eq rfl rfl rfl) rfl
  resolved hresolve h := ⟨hbooked _ _ _ _ hresolve h, trivial⟩

/-- A resolution that succeeds keeps the registry booked if those in its target do. -/
theorem Resolves.booked (hgrows : ∀ r, (resolve r).Obeys Grows)
    (hbooked : ∀ r session answer final, resolve r session = .ok answer final →
      session.registry.Booked → final.registry.Booked)
    (h : Resolves resolve r session answer final) (hsession : session.registry.Booked) :
    final.registry.Booked := by
  cases h with
  | answered => exact hsession
  | named undeclared uninlined opened free =>
    exact hsession.mono (hsession.named.fixName undeclared opened free) rfl
  | @read policy node type answer read after new found elaborated grows closes =>
    have hopened : (session.registry.begin r.canonical policy).Booked :=
      hsession.mono (hsession.named.begin new policy) rfl
    obtain ⟨hmodels, -, -⟩ := open_of_grows new grows
    obtain ⟨hread, -⟩ := (carries_booked hgrows hbooked).elaborate (Schema.ofJson_plain r node)
      elaborated hopened
    exact hread.closes hmodels closes

theorem resolveWithin_booked {bound : Nat} {policy : Option NamingPolicy}
    (h : resolveWithin bound policy r session = .ok answer final)
    (hsession : session.registry.Booked) : final.registry.Booked :=
  resolveWithin_induct
    (P := fun _ session _ final => session.registry.Booked → final.registry.Booked)
    (fun _ hnested hbooked _ _ _ _ h => h.booked hnested.grows hbooked) bound policy h hsession

end Resolving

/-! ## Calls -/

/-- Where nothing is open, a type made elsewhere gets a name that belongs to nobody. -/
theorem declare_booked {session : Session} (hquiet : session.Quiet)
    (h : session.registry.Booked) {r : Reference} (hmodels : session.registry.lookup r = none)
    (policy : NamingPolicy) (type : TypeExpr) :
    ((declare r policy type).after session).registry.Booked := by
  unfold Run.after declare
  cases type.qualifies with
  | false => exact h.mono (h.named.of_eq rfl rfl rfl) rfl
  | true =>
    simp only [if_true, Registry.assignName_eq]
    cases hfree : session.registry.freeName? policy r with
    | none => exact h
    | some name =>
      have hunnamed : (session.registry.pending.get? r.canonical).bind Pending.reserved = none := by
        rw [hquiet]
        rfl
      have hnone := h.named.get?_of_free hmodels hunnamed hfree
      have hbooked := h.declaring hmodels hnone type
      rwa [← addModel_of_undeclared (session.registry.takeName r.canonical name) hmodels]
        at hbooked

theorem materialize_booked {session : Session} (hquiet : session.Quiet)
    (h : session.registry.Booked) (r : Reference) (type : TypeExpr) :
    ((materialize r type).after session).registry.Booked := by
  cases hmodels : session.registry.lookup r with
  | some model =>
    unfold Run.after materialize
    simp only [hmodels]
    exact h
  | none =>
    have hdeclare := declare_booked hquiet h hmodels (session.defaultPolicy r) type
    unfold Run.after at hdeclare ⊢
    rwa [materialize_of_quiet hquiet hmodels]

/-- Where nothing is open, rolling back leaves names and declarations alone. -/
theorem Restores.booked {before after : Session} (hquiet : before.Quiet)
    (h : before.Restores after) (hbooked : before.registry.Booked) : after.registry.Booked := by
  have hpending : after.registry.pending = before.registry.pending :=
    (hquiet.of_grows h.registry.grows).trans hquiet.symm
  exact hbooked.mono (hbooked.named.of_eq h.registry.models h.registry.names hpending)
    h.registry.models

/-- However requests come out, registries stay booked. -/
theorem obeys_booked : Request.Obeys fun before after =>
    before.Quiet ∧ before.registry.Booked → after.Quiet ∧ after.registry.Booked :=
  obeys_of_kept (fun hquiet hrestores h => hrestores.booked hquiet h) resolveWithin_booked
    fun _ _ h => h

theorem call_booked {session : Session} (h : session.Quiet ∧ session.registry.Booked)
    (call : Call) : (call.perform session).Quiet ∧ (call.perform session).registry.Booked := by
  cases call with
  | request request => exact obeys_booked.perform request session h
  | materialize r type => exact ⟨materialize_quiet h.1 r type, materialize_booked h.1 h.2 r type⟩

/-- Registries are booked between calls. -/
theorem calls_booked {session : Session} (h : session.Quiet ∧ session.registry.Booked)
    (calls : List Call) :
    (Call.performAll calls session).Quiet ∧ (Call.performAll calls session).registry.Booked := by
  induction calls generalizing session with
  | nil => exact h
  | cons call rest ih => exact ih (call_booked h call)

/-- Whatever was called on a session that started fresh, with whatever policies, documents, types
made elsewhere and faults: nothing is open; the taken names are those of the declarations, one entry
for each, which leads to the reference that the declaration was made for; no two references have
declarations of one name and import path; and a reference without a declaration keeps no name. -/
theorem names_belong_to_declarations {store : Store} {root : String} {config : Config}
    {start : Session} (hstart : Session.start store root config = .ok start)
    (calls : List Call) :
    let registry := (Call.performAll calls start).registry
    registry.pending = [] ∧
    (registry.names.Perm
        (registry.models.values.map fun m => (m.modelName, m.reference.canonical)) ∧
      registry.names.keys.Nodup ∧ registry.models.keys.Nodup) ∧
    (∀ r model, registry.lookup r = some model →
      model.reference = r ∧ registry.names.get? model.modelName = some r.canonical) ∧
    (∀ r s first second, registry.lookup r = some first → registry.lookup s = some second →
      first.modelName = second.modelName → r = s) ∧
    ∀ r, registry.lookup r = none → ∀ name, (name, r.canonical) ∉ registry.names := by
  intro registry
  have hempty := registry_of_start hstart
  have hfresh : start.Quiet ∧ start.registry.Booked := by
    refine ⟨.of_empty hempty, ?_⟩
    rw [hempty]
    exact .of_empty
  obtain ⟨hquiet, hbooked⟩ := calls_booked hfresh calls
  refine ⟨hquiet, ⟨hbooked.names_perm hquiet, hbooked.named.names_nodup,
    hbooked.named.models_nodup⟩, fun r model hmodel => ?_, fun r s first second => ?_,
    fun r hmodels name => ?_⟩
  · exact ⟨hbooked.reference_of_lookup hmodel, hbooked.get?_names hquiet hmodel⟩
  · exact hbooked.eq_of_modelName_eq hquiet
  · refine hbooked.named.not_mem_names hmodels ?_ name
    have hnone : registry.pending = [] := hquiet
    rw [hnone]
    rfl

/-- A type made elsewhere takes the name of a node before nodes are generated; the broken schema of
the sample, which fails after it has declared a pair, keeps no name. -/
theorem names_belong_to_declarations_sample :
    let elsewhere : TypeExpr := .record [(⟨"ghost", false⟩, .identifier "Ghost" none)]
    let registry := (Call.performAll
      [.materialize ⟨"api.json", ["Node"]⟩ elsewhere, .request .everything] sample).registry
    (∃ first second, registry.lookup ⟨"api.json", ["Node"]⟩ = some first ∧
      registry.lookup (sampleReference "Node") = some second ∧
      registry.names.get? first.modelName = some "api.json#/Node" ∧
      first.modelName ≠ second.modelName) ∧
    registry.lookup (sampleReference "Broken") = none ∧
    ∀ name, (name, (sampleReference "Broken").canonical) ∉ registry.names := by
  intro elsewhere registry
  obtain ⟨-, -, howned, hdistinct, hunowned⟩ := names_belong_to_declarations start_sample
    [.materialize ⟨"api.json", ["Node"]⟩ elsewhere, .request .everything]
  have hfirst : (registry.lookup ⟨"api.json", ["Node"]⟩).isSome = true := by decide +kernel
  have hsecond : (registry.lookup (sampleReference "Node")).isSome = true := by decide +kernel
  have hbroken : (registry.lookup (sampleReference "Broken")).isNone = true := by decide +kernel
  obtain ⟨first, hfirst⟩ := Option.isSome_iff_exists.mp hfirst
  obtain ⟨second, hsecond⟩ := Option.isSome_iff_exists.mp hsecond
  have hnone := Option.isNone_iff_eq_none.mp hbroken
  refine ⟨⟨first, second, hfirst, hsecond, (howned _ _ hfirst).2, fun hname => ?_⟩, hnone,
    hunowned _ hnone⟩
  exact absurd (hdistinct _ _ first second hfirst hsecond hname) (by decide)

end Session

end SchemaTypes
