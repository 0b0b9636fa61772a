import SchemaTypes.Proofs.Resolve.Dates
import SchemaTypes.Proofs.Session.Requests

set_option autoImplicit false

/-!
# Helpers in use

Where nothing fails, helpers are listed exactly for what is in use.  A resolution that succeeds
accounts for every helper that it lists besides: the type that it gives or a declaration needs it.
And whatever type has been declared, remembered or given, the helpers behind it are listed: they are
those of the configured date type, and they have been noted.
-/

namespace SchemaTypes

namespace Registry

/-- A closed reference keeps in use what its type needs: its declaration has the same body, or the
type stands for itself. -/
theorem Closes.uses {before after : Registry} {r : Reference} {type answer : TypeExpr}
    {backing : String} (h : before.Closes r type answer after)
    (huses : before.Uses [type] backing) : after.Uses [answer] backing := by
  rcases huses with ⟨entry, hentry, hmem⟩ | ⟨t, ht, hmem⟩
  · obtain ⟨added, hadded, -⟩ := h.models_eq
    refine Or.inl ⟨entry, ?_, hmem⟩
    change entry ∈ after.models
    rw [hadded]
    exact List.mem_append_left _ hentry
  · obtain rfl := List.mem_singleton.mp ht
    cases h with
    | recursive => exact Or.inl ⟨_, List.mem_append_right _ (List.mem_singleton_self _), hmem⟩
    | declared => exact Or.inl ⟨_, List.mem_append_right _ (List.mem_singleton_self _), hmem⟩
    | inlined => exact Or.inr ⟨_, List.mem_singleton_self _, hmem⟩

/-- The helpers behind a type are that of the date type, and it has been noted. -/
def Supports (registry : Registry) (date : ProvidedType) (type : TypeExpr) : Prop :=
  ∀ backing ∈ type.backings, backing = date.backingName ∧ registry.Notes date.importPath backing

namespace Supports

variable {registry later : Registry} {date : ProvidedType} {type : TypeExpr}

theorem mono (h : registry.Supports date type)
    (hnotes : ∀ path name, registry.Notes path name → later.Notes path name) :
    later.Supports date type :=
  fun backing hmem => ⟨(h backing hmem).1, hnotes _ _ (h backing hmem).2⟩

theorem of_backings_eq_nil (h : type.backings = []) : registry.Supports date type := by
  intro backing hmem
  rw [h] at hmem
  cases hmem

theorem identifier (name : ModelName) : registry.Supports date name.identifier :=
  of_backings_eq_nil rfl

theorem string : registry.Supports date .string := of_backings_eq_nil rfl

theorem constant (h : type.Constant) : registry.Supports date type := by
  refine of_backings_eq_nil ?_
  unfold TypeExpr.backings
  rw [h.mentions_eq_nil]
  rfl

theorem provided {display : String} (h : registry.Notes date.importPath date.backingName) :
    registry.Supports date (.provided display date.backingName) := by
  intro backing hmem
  obtain rfl := List.mem_singleton.mp hmem
  exact ⟨rfl, h⟩

theorem combines {types : List TypeExpr} (h : ∀ part ∈ types, registry.Supports date part)
    (hcombines : TypeExpr.Combines types type) : registry.Supports date type := by
  intro backing hmem
  obtain ⟨part, hpart, hin⟩ := hcombines.mem_backings.mp hmem
  exact h part hpart backing hin

end Supports

end Registry

namespace Session

/-! ## Listed helpers are in use -/

/-- A session has grown, and what is listed besides is needed by one of the types or by a
declaration. -/
structure Accounts (before : Session) (types : List TypeExpr) (after : Session) : Prop where
  grows : before.Grows after
  listed : ∀ path backing, after.registry.Lists path backing →
    before.registry.Lists path backing ∨ after.registry.Uses types backing

namespace Accounts

variable {before middle after : Session} {type : TypeExpr} {types : List TypeExpr}

theorem of_same (hgrows : before.Grows after)
    (hhelpers : after.registry.helpers = before.registry.helpers) (types : List TypeExpr) :
    before.Accounts types after := by
  refine ⟨hgrows, fun path backing hlisted => Or.inl ?_⟩
  unfold Registry.Lists Registry.dump at *
  rwa [hhelpers] at hlisted

theorem refl (session : Session) (types : List TypeExpr) : session.Accounts types session :=
  of_same (.refl session) rfl types

theorem cons (first : before.Accounts [type] middle) (rest : middle.Accounts types after) :
    before.Accounts (type :: types) after := by
  refine ⟨first.grows.trans rest.grows, fun path backing hlisted => ?_⟩
  rcases rest.listed path backing hlisted with hmiddle | huses
  · refine (first.listed path backing hmiddle).imp_right fun huses => ?_
    exact huses.mono rest.grows.registry.models fun t ht =>
      List.mem_cons.mpr (Or.inl (List.mem_singleton.mp ht))
  · exact Or.inr (huses.mono List.prefix_rfl fun t ht => List.mem_cons_of_mem _ ht)

theorem combines (h : before.Accounts types after) (hcombines : TypeExpr.Combines types type) :
    before.Accounts [type] after := by
  refine ⟨h.grows, fun path backing hlisted => (h.listed path backing hlisted).imp_right ?_⟩
  rintro (hdeclared | hgiven)
  · exact Or.inl hdeclared
  · exact Or.inr ⟨type, List.mem_singleton_self _, hcombines.mem_backings.mpr hgiven⟩

end Accounts

section Resolving

variable {resolve : Reference → Run TypeExpr} {session final : Session} {r : Reference}
  {answer : TypeExpr}

/-- Elaborations account for what they list if the resolutions in them do. -/
theorem yields_accounts
    (hresolve : ∀ r session answer final, resolve r session = .ok answer final →
      session.Accounts [answer] final) :
    Schema.Yields resolve (fun before type after => before.Accounts [type] after)
      fun before types after => before.Accounts types after where
  nil session := .refl session []
  cons first rest := first.cons rest
  combines h hcombines := h.combines hcombines
  constant _ := .refl _ _
  text := by
    intro format before type after htext
    have hgrows := textType_obeys format before
    rw [Run.after_of_ok htext] at hgrows
    rcases Schema.textType_ok htext with ⟨rfl, rfl⟩ | ⟨display, backing, path, rfl, rfl⟩
    · exact .refl _ _
    · refine ⟨hgrows, fun path' backing' hlisted => ?_⟩
      refine (Registry.lists_recordHelper.mp hlisted).imp_right fun hnew => Or.inr ?_
      rw [hnew.2]
      exact ⟨_, List.mem_singleton_self _, List.mem_singleton_self _⟩
  resolved := hresolve _ _ _ _

/-- A resolution that succeeds accounts for what it lists if those in its target do. -/
theorem Resolves.accounts
    (hresolve : ∀ r session answer final, resolve r session = .ok answer final →
      session.Accounts [answer] final)
    (h : Resolves resolve r session answer final) : session.Accounts [answer] final := by
  have hgrows := h.grows
  cases h with
  | answered => exact .refl session _
  | named => exact .of_same hgrows rfl _
  | @read policy node type answer read after new found elaborated grows closes =>
    have hread := (yields_accounts hresolve).elaborate _ (Schema.ofJson_plain r node) _ _ _
      elaborated
    refine ⟨hgrows, fun path backing hlisted => ?_⟩
    unfold Registry.Lists Registry.dump at hlisted
    rw [closes.helpers_eq] at hlisted
    exact (hread.listed path backing hlisted).imp_right closes.uses

theorem resolveWithin_accounts {bound : Nat} {policy : Option NamingPolicy}
    (h : resolveWithin bound policy r session = .ok answer final) :
    session.Accounts [answer] final :=
  resolveWithin_induct (P := fun _ session answer final => session.Accounts [answer] final)
    (fun _ _ hresolve _ _ _ _ h => h.accounts hresolve) bound policy h

/-- An elaboration that succeeds accounts for what it lists. -/
theorem elaborate_accounts {bound : Nat} {schema : Schema} (hplain : schema.Plain)
    (h : schema.elaborate (resolveWithin bound none) session = .ok answer final) :
    session.Accounts [answer] final :=
  (yields_accounts fun _ _ _ _ => resolveWithin_accounts).elaborate schema hplain _ _ _ h

end Resolving

/-! ## Helpers in use are listed -/

/-- With this date type, the helpers behind all declarations and inlined types are noted. -/
structure Supported (date : ProvidedType) (session : Session) : Prop where
  config : session.config.dateType = date
  declared : ∀ entry ∈ session.registry.models, session.registry.Supports date entry.2.declaration
  inlined : ∀ entry ∈ session.registry.inlined, session.registry.Supports date entry.2

namespace Supported

variable {date : ProvidedType} {session after : Session}

theorem of_empty (h : session.registry = Registry.empty) :
    session.Supported session.config.dateType := by
  refine ⟨rfl, ?_, ?_⟩ <;> rw [h] <;> exact fun _ hmem => absurd hmem List.not_mem_nil

/-- Where declarations and inlined types stay, their helpers stay noted. -/
theorem mono (h : session.Supported date) (hconfig : after.config = session.config)
    (hmodels : after.registry.models = session.registry.models)
    (hinlined : after.registry.inlined = session.registry.inlined)
    (hnotes : ∀ path name, session.registry.Notes path name → after.registry.Notes path name) :
    after.Supported date := by
  refine ⟨by rw [hconfig]; exact h.config, ?_, ?_⟩
  · rw [hmodels]
    exact fun entry hentry => (h.declared entry hentry).mono hnotes
  · rw [hinlined]
    exact fun entry hentry => (h.inlined entry hentry).mono hnotes

theorem restores (h : session.Supported date) (hrestores : session.Restores after) :
    after.Supported date :=
  h.mono (by rw [hrestores.same]) hrestores.registry.models hrestores.registry.inlined
    hrestores.registry.grows.helpers

/-- What is answered is the name of a declaration, or an inlined type. -/
theorem answer (h : session.Supported date) {key : String} {type : TypeExpr}
    (hanswer : session.registry.answer? key = some type) : session.registry.Supports date type := by
  unfold Registry.answer? at hanswer
  split at hanswer
  · cases hanswer
    exact .identifier _
  · split at hanswer
    · rename_i hinlined
      cases hanswer
      exact h.inlined _ (OrderedMap.mem_of_get? hinlined)
    · obtain ⟨name, -, rfl⟩ := Option.map_eq_some_iff.mp hanswer
      exact .identifier _

/-- A closed reference is declared or inlined with what its type needs. -/
theorem closes (h : session.Supported date) {registry : Registry} {r : Reference}
    {type answer : TypeExpr} (hcloses : session.registry.Closes r type answer registry)
    (htype : session.registry.Supports date type) :
    Supported date { session with registry := registry } := by
  have hnotes : ∀ path name, session.registry.Notes path name → registry.Notes path name := by
    intro path name hnoted
    unfold Registry.Notes at *
    rwa [hcloses.helpers_eq]
  have hold := fun entry hentry => (h.declared entry hentry).mono hnotes
  have hinlined := fun entry hentry => (h.inlined entry hentry).mono hnotes
  refine ⟨h.config, ?_, ?_⟩
  · cases hcloses with
    | recursive =>
      exact List.forall_mem_append.mpr ⟨hold, List.forall_mem_singleton.mpr (htype.mono hnotes)⟩
    | declared =>
      exact List.forall_mem_append.mpr ⟨hold, List.forall_mem_singleton.mpr (htype.mono hnotes)⟩
    | inlined => exact hold
  · cases hcloses with
    | recursive => exact hinlined
    | declared => exact hinlined
    | inlined =>
      exact List.forall_mem_append.mpr
        ⟨hinlined, List.forall_mem_singleton.mpr (htype.mono hnotes)⟩

end Supported

section Resolving

variable {resolve : Reference → Run TypeExpr} {date : ProvidedType} {session final : Session}
  {r : Reference} {answer : TypeExpr}

/-- Elaborations note the helpers behind the types that come out. -/
theorem conveys_supported (hgrows : ∀ r, (resolve r).Obeys Grows)
    (hresolve : ∀ r session answer final, resolve r session = .ok answer final →
      session.Supported date → final.Supported date ∧ final.registry.Supports date answer) :
    Conveys resolve (Supported date) fun session type => session.registry.Supports date type where
  grows := hgrows
  mono hlater h := h.mono hlater.registry.helpers
  constant _ _ h := .constant h
  combines h hcombines := .combines h hcombines
  text := by
    intro format before type after htext h
    unfold Schema.textType at htext
    cases format with
    | none =>
      cases htext
      exact ⟨h, .string⟩
    | some format =>
      cases htemporal : before.config.isTemporal format with
      | false =>
        simp only [htemporal, Bool.false_eq_true, if_false] at htext
        cases htext
        exact ⟨h, .string⟩
      | true =>
        simp only [htemporal, if_true] at htext
        cases htext
        refine ⟨h.mono rfl rfl rfl fun _ _ hnoted => hnoted.recordHelper _ _, ?_⟩
        rw [← h.config]
        exact .provided (Registry.notes_recordHelper _ _ _)
  resolved hok h := hresolve _ _ _ _ hok h

/-- A resolution notes the helpers behind what it gives and declares if those in its target do. -/
theorem Resolves.supported (hgrows : ∀ r, (resolve r).Obeys Grows)
    (hresolve : ∀ r session answer final, resolve r session = .ok answer final →
      session.Supported date → final.Supported date ∧ final.registry.Supports date answer)
    (h : Resolves resolve r session answer final) (hsession : session.Supported date) :
    final.Supported date ∧ final.registry.Supports date answer := by
  have hanswer := h.answered_after
  have hfinal : final.Supported date := by
    cases h with
    | answered => exact hsession
    | named => exact hsession.mono rfl rfl rfl fun _ _ hnoted => hnoted
    | @read policy node type answer read after new found elaborated grows closes =>
      have hopened : Supported date { session with
          current := r.document
          registry := session.registry.begin r.canonical policy } :=
        hsession.mono rfl rfl rfl fun _ _ hnoted => hnoted
      obtain ⟨hread, htype⟩ := (conveys_supported hgrows hresolve).elaborate
        (Schema.ofJson_plain r node) elaborated hopened
      exact (hread.closes closes htype).mono rfl rfl rfl fun _ _ hnoted => hnoted
  exact ⟨hfinal, hfinal.answer hanswer⟩

theorem resolveWithin_supported {bound : Nat} {policy : Option NamingPolicy}
    (h : resolveWithin bound policy r session = .ok answer final)
    (hsession : session.Supported date) :
    final.Supported date ∧ final.registry.Supports date answer :=
  resolveWithin_induct
    (P := fun _ session answer final => session.Supported date →
      final.Supported date ∧ final.registry.Supports date answer)
    (fun _ hnested hresolve _ _ _ _ h => h.supported hnested.grows hresolve) bound policy h hsession

end Resolving

end Session

end SchemaTypes
