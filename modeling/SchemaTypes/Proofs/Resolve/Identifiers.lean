import SchemaTypes.Proofs.Registry.Identifiers
import SchemaTypes.Proofs.Session.Requests

set_option autoImplicit false

/-!
# Identifiers stand for declarations

Elaborations and resolutions keep registries tidy, and the types that come out mention taken names
only.  Between requests nothing is open, so that taken names are the names of declarations: every
identifier that was handed out stands for exactly one of them, and no fault leaves one dangling.
-/

namespace SchemaTypes

namespace Session

/-! ## Resolutions -/

section Resolving

variable {resolve : Reference → Run TypeExpr} {session final : Session} {r : Reference}
  {answer : TypeExpr}

/-- Elaborations mention taken names only. -/
theorem carries_tidy (hgrows : ∀ r, (resolve r).Obeys Grows)
    (hmentions : ∀ r session answer final, resolve r session = .ok answer final →
      session.registry.Tidy → final.registry.Tidy ∧ final.registry.Knows answer) :
    Carries resolve (fun session => session.registry.Tidy)
      fun session type => session.registry.Knows type where
  grows := hgrows
  mono hlater h := h.mono hlater.registry.names
  constant _ _ h := by
    intro n hn
    rw [h.identifiers_eq_nil] at hn
    cases hn
  string _ := fun n hn => absurd hn List.not_mem_nil
  provided _ display backing := fun n hn => absurd hn List.not_mem_nil
  combines h hcombines := by
    intro n hn
    obtain ⟨part, hpart, hin⟩ := hcombines.mem_identifiers.mp hn
    exact h part hpart n hin
  noted path name h := h.mono (h.named.of_eq rfl rfl rfl) rfl rfl List.prefix_rfl
  resolved hresolve h := hmentions _ _ _ _ hresolve h

/-- A resolution that succeeds mentions taken names only if those in its target do. -/
theorem Resolves.tidy (hgrows : ∀ r, (resolve r).Obeys Grows)
    (hmentions : ∀ r session answer final, resolve r session = .ok answer final →
      session.registry.Tidy → final.registry.Tidy ∧ final.registry.Knows answer)
    (h : Resolves resolve r session answer final) (htidy : session.registry.Tidy) :
    final.registry.Tidy ∧ final.registry.Knows answer := by
  have hanswer := h.answered_after
  have hafter : final.registry.Tidy := by
    cases h with
    | answered => exact htidy
    | named undeclared uninlined opened free =>
      exact htidy.mono (htidy.named.fixName undeclared opened free) rfl rfl
        (Registry.names_prefix_takeName free)
    | @read policy node type answer read after new found elaborated grows closes =>
      obtain ⟨hmodels, -, -⟩ := open_of_grows new grows
      have hopened := htidy.begin new policy
      obtain ⟨hread, hknows⟩ := (carries_tidy hgrows hmentions).elaborate
        (Schema.ofJson_plain r node) elaborated hopened
      exact hread.closes hmodels closes hknows
  exact ⟨hafter, hafter.knows_answer hanswer⟩

theorem resolveWithin_tidy {bound : Nat} {policy : Option NamingPolicy}
    (h : resolveWithin bound policy r session = .ok answer final)
    (htidy : session.registry.Tidy) : final.registry.Tidy ∧ final.registry.Knows answer :=
  resolveWithin_induct
    (P := fun _ session answer final =>
      session.registry.Tidy → final.registry.Tidy ∧ final.registry.Knows answer)
    (fun _ hnested hmentions _ _ _ _ h => h.tidy hnested.grows hmentions) bound policy h htidy

end Resolving

/-! ## Runs -/

/-- Nothing is open, and identifiers mention taken names only. -/
structure Settled (session : Session) : Prop where
  quiet : session.registry.pending = []
  tidy : session.registry.Tidy

namespace Settled

variable {session : Session}

theorem of_empty (h : session.registry = Registry.empty) : session.Settled := by
  refine ⟨Quiet.of_empty h, ?_⟩
  rw [h]
  exact .of_empty

/-- Where nothing is open, rolling back leaves names, declarations and inlined types alone. -/
theorem restores (h : session.Settled) {after : Session} (hafter : session.Restores after) :
    after.Settled := by
  have hquiet : after.registry.pending = [] := Quiet.of_grows h.quiet hafter.registry.grows
  refine ⟨hquiet, h.tidy.mono ?_ hafter.registry.models hafter.registry.inlined ?_⟩
  · exact h.tidy.named.of_eq hafter.registry.models hafter.registry.names
      (hquiet.trans h.quiet.symm)
  · exact ⟨[], by rw [List.append_nil, hafter.registry.names]⟩

theorem resolved (h : session.Settled) {bound : Nat} {policy : Option NamingPolicy} {r : Reference}
    {answer : TypeExpr} {final : Session}
    (hresolve : resolveWithin bound policy r session = .ok answer final) : final.Settled :=
  ⟨Quiet.of_resolved h.quiet hresolve, (resolveWithin_tidy hresolve h.tidy).1⟩

theorem moved (h : session.Settled) (document : String) :
    Settled { session with current := document } :=
  ⟨h.quiet, h.tidy⟩

end Settled

/-- However requests come out, sessions stay settled. -/
theorem obeys_settled : Request.Obeys fun before after => before.Settled → after.Settled :=
  obeys_of_invariant (fun hrestores h => h.restores hrestores)
    (fun hresolve h => h.resolved hresolve) fun _ document h => h.moved document

/-- The types that requests give mention taken names only. -/
theorem gives_known :
    Request.Gives Settled fun session type => session.registry.Knows type where
  obeys := obeys_settled
  mono hgrows h := h.mono hgrows.names
  elaborated hplain h hsettled :=
    ((carries_tidy (fun r => resolveWithin_obeys _ none r)
      fun _ _ _ _ hresolve => resolveWithin_tidy hresolve).elaborate hplain h hsettled.tidy).2
  resolved h hsettled := (resolveWithin_tidy h hsettled.tidy).2

/-- Whatever was requested of a session that started fresh, with whatever policies, documents and
faults: every identifier in a declaration, in an inlined type or in a type that was given is the
name of exactly one declaration, and every taken name is the name of the declaration of the
reference that it was given to. -/
theorem identifiers_are_declared {store : Store} {root : String} {config : Config}
    {start : Session} (hstart : Session.start store root config = .ok start)
    (requests : List Request) :
    let types := (Request.performAll requests start).1
    let registry := (Request.performAll requests start).2.registry
    (∀ n, ((∃ entry ∈ registry.models, n ∈ entry.2.declaration.identifiers) ∨
        (∃ entry ∈ registry.inlined, n ∈ entry.2.identifiers) ∨
        ∃ type ∈ types, n ∈ type.identifiers) →
      (registry.models.values.map Model.modelName).count n = 1) ∧
    ∀ n key, (n, key) ∈ registry.names →
      ∃ model, registry.models.get? key = some model ∧ model.modelName = n := by
  intro types registry
  have hfresh : start.Settled := .of_empty (registry_of_start hstart)
  obtain ⟨hquiet, htidy⟩ := obeys_settled.performAll requests start hfresh
  refine ⟨fun n hn => ?_, fun n key hmem => htidy.named.declared_of_mem hquiet hmem⟩
  refine htidy.named.count_eq_one hquiet ?_
  rcases hn with ⟨entry, hentry, hn⟩ | ⟨entry, hentry, hn⟩ | ⟨type, htype, hn⟩
  · exact htidy.closed.declared entry hentry n hn
  · exact htidy.closed.inlined entry hentry n hn
  · exact gives_known.performAll requests hfresh type htype n hn

/-- The name of a node was taken while the node was open, inside itself and inside a pair. -/
theorem identifiers_are_declared_sample :
    (∃ entry ∈ generatedSample.registry.models,
      ⟨"Node", none⟩ ∈ entry.2.declaration.identifiers) ∧
    (generatedSample.registry.models.values.map Model.modelName).count ⟨"Node", none⟩ = 1 := by
  unfold generatedSample
  have hmentioned : ∃ entry ∈ (Request.performAll [.everything] sample).2.registry.models,
      ⟨"Node", none⟩ ∈ entry.2.declaration.identifiers := by
    decide +kernel
  have hdeclared := identifiers_are_declared start_sample [.everything]
  exact ⟨hmentioned, hdeclared.1 ⟨"Node", none⟩ (Or.inl hmentioned)⟩

end Session

end SchemaTypes
