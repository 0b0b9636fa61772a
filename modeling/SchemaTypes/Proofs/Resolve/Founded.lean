import SchemaTypes.Proofs.Resolve.Order
import SchemaTypes.Proofs.Resolve.Recall

set_option autoImplicit false

/-!
# Inlined references are founded

A reference is inlined when all references in its target have answers.  Those without a name have
been inlined before it.  So inlined references stand on others that have names: following references
from an inlined one, and stopping at those that have a name, always comes to an end.
-/

namespace SchemaTypes

namespace Registry

/-! ## References that have names -/

/-- Whether a name belongs to a reference. -/
def HasName (registry : Registry) (r : Reference) : Prop :=
  ∃ name, (name, r.canonical) ∈ registry.names

theorem HasName.mono {before after : Registry} {r : Reference} (h : before.HasName r)
    (hnames : before.names <+: after.names) : after.HasName r :=
  h.imp fun _ hmem => hnames.subset hmem

/-- Following references from one, and stopping at those that have a name, comes to an end. -/
def Founded (s : Surroundings) (registry : Registry) : Reference → Prop :=
  Acc fun inner r => inner ∈ s.links r ∧ ¬ registry.HasName inner

/-- Where more references have names, fewer are followed. -/
theorem Founded.mono {s : Surroundings} {before after : Registry} {r : Reference}
    (h : before.Founded s r) (hnames : before.names <+: after.names) : after.Founded s r :=
  Subrelation.accessible (fun hstep => ⟨hstep.1, fun hname => hstep.2 (hname.mono hnames)⟩) h

end Registry

namespace Session

/-! ## The invariant -/

/-- All inlined references are founded, besides what is known of the order of declarations. -/
structure Founded (session : Session) : Prop where
  kept : session.Kept
  inlined : ∀ r type, session.registry.inlined.get? r.canonical = some type →
    session.registry.Founded session.surroundings r

namespace Founded

variable {session after : Session} {r : Reference}

theorem of_empty (h : session.registry = Registry.empty) : session.Founded := by
  refine ⟨.of_empty h, fun r type htype => ?_⟩
  rw [h] at htype
  cases htype

/-- Where nothing is inlined in between, what is inlined is still founded. -/
theorem mono (h : session.Founded) (hkept : after.Kept)
    (hsurroundings : after.surroundings = session.surroundings)
    (hinlined : after.registry.inlined = session.registry.inlined)
    (hnames : session.registry.names <+: after.registry.names) : after.Founded := by
  refine ⟨hkept, fun r type htype => ?_⟩
  rw [hinlined] at htype
  rw [hsurroundings]
  exact (h.inlined r type htype).mono hnames

/-- What has an answer has a name, or is founded. -/
theorem of_answer (h : session.Founded) {type : TypeExpr}
    (hanswer : session.registry.answer? r.canonical = some type) :
    session.registry.HasName r ∨ session.registry.Founded session.surroundings r := by
  rcases h.kept.tidy.named.answer_eq hanswer with ⟨name, -, hmem⟩ | hinlined
  · exact Or.inl ⟨name, hmem⟩
  · exact Or.inr (h.inlined r type hinlined)

/-- A target that is read again has only references in it that have a name or are founded. -/
theorem of_rereads (h : session.Founded) {type : TypeExpr} (hreads : session.Rereads r type) :
    session.registry.Founded session.surroundings r := by
  refine Acc.intro r fun inner ⟨hlink, hunnamed⟩ => ?_
  obtain ⟨answer, hanswer⟩ :=
    (Surroundings.readable_of_targetType hreads.targetType).2 inner hlink
  exact (h.of_answer (Registry.recalled_eq_ok.mp hanswer)).resolve_left hunnamed

end Founded

/-! ## Resolutions -/

section Resolving

variable {resolve : Reference → Run TypeExpr} {session final : Session} {r : Reference}
  {answer : TypeExpr}

/-- A resolution keeps inlined references founded if the resolutions in its target do. -/
theorem Resolves.founded (hnested : Nested resolve)
    (hfounded : ∀ r session answer final, resolve r session = .ok answer final →
      session.Founded → final.Founded)
    (h : Resolves resolve r session answer final) (hsession : session.Founded) :
    final.Founded := by
  have hkept : final.Kept := h.kept hnested hnested.kept hsession.kept
  cases h with
  | answered => exact hsession
  | named _ _ _ free => exact hsession.mono hkept rfl rfl (Registry.names_prefix_takeName free)
  | @read policy node type answer read after new found elaborated grows closes =>
    have hopened := hsession.mono (hsession.kept.begin new r.document policy) rfl rfl
      List.prefix_rfl
    obtain ⟨hread, -⟩ := (hnested.carries_of_coherent (fun h => h.kept.coherent)
      (fun path name h => h.mono (h.kept.recordHelper path name) rfl rfl List.prefix_rfl)
      hfounded).elaborate (Schema.ofJson_plain r node) elaborated hopened
    have hreads := hnested.rereads found elaborated
    obtain ⟨added, hadded, hkeys⟩ := closes.inlined_eq
    refine ⟨hkept, fun other inlined hinlined => ?_⟩
    by_cases hkey : other.canonical = r.canonical
    · obtain rfl := Reference.eq_of_canonical_eq hkey
      exact (hread.of_rereads hreads).mono closes.names_prefix
    · simp only [hadded, Registry.Closes.get?_append_of_keys hkeys hkey] at hinlined
      exact (hread.inlined other inlined hinlined).mono closes.names_prefix

theorem resolveWithin_founded {bound : Nat} {policy : Option NamingPolicy}
    (h : resolveWithin bound policy r session = .ok answer final) (hsession : session.Founded) :
    final.Founded :=
  resolveWithin_induct (P := fun _ session _ final => session.Founded → final.Founded)
    (fun _ hnested hfounded _ _ _ _ h => h.founded hnested hfounded) bound policy h hsession

end Resolving

/-! ## Between requests -/

/-- A session in given surroundings between two requests: nothing is open, and all inlined
references are founded. -/
structure Idle (s : Surroundings) (session : Session) : Prop where
  surroundings : session.surroundings = s
  quiet : session.Quiet
  founded : session.Founded

namespace Idle

variable {s : Surroundings} {session final : Session}

theorem of_start {store : Store} {root : String} {config : Config}
    (h : start store root config = .ok session) : session.Idle session.surroundings :=
  ⟨rfl, .of_empty (registry_of_start h), .of_empty (registry_of_start h)⟩

theorem restores (h : session.Idle s) (hrestores : session.Restores final) : final.Idle s where
  surroundings := hrestores.grows.surroundings_eq.trans h.surroundings
  quiet := h.quiet.of_grows hrestores.registry.grows
  founded := h.founded.mono (h.founded.kept.restores h.quiet hrestores)
    hrestores.grows.surroundings_eq hrestores.registry.inlined
    (hrestores.registry.names ▸ List.prefix_rfl)

theorem resolved {bound : Nat} {policy : Option NamingPolicy} {r : Reference} {answer : TypeExpr}
    (h : session.Idle s) (hresolve : resolveWithin bound policy r session = .ok answer final) :
    final.Idle s := by
  have hgrows := resolveWithin_obeys bound policy r session
  rw [Run.after_of_ok hresolve] at hgrows
  exact ⟨hgrows.surroundings_eq.trans h.surroundings, h.quiet.of_resolved hresolve,
    resolveWithin_founded hresolve h.founded⟩

theorem moved (h : session.Idle s) (document : String) :
    { session with current := document }.Idle s where
  surroundings := h.surroundings
  quiet := h.quiet
  founded := h.founded.mono (h.founded.kept.moved document) rfl rfl List.prefix_rfl

end Idle

/-- However requests come out, inlined references stay founded. -/
theorem obeys_idle (s : Surroundings) :
    Request.Obeys fun before after => before.Idle s → after.Idle s :=
  obeys_of_invariant (fun hrestores h => h.restores hrestores)
    (fun hresolve h => h.resolved hresolve) fun _ document h => h.moved document

/-! ## Where nothing is open -/

section Quiet

variable {session : Session} {r inner : Reference}

/-- Where nothing is open, what has an answer is remembered. -/
theorem Quiet.remembers (h : session.Quiet) {type : TypeExpr}
    (hanswer : session.registry.answer? r.canonical = some type) :
    session.registry.Remembers r := by
  cases hmodels : session.registry.models.get? r.canonical with
  | some model => exact Or.inl ⟨model, hmodels⟩
  | none =>
    cases hinlined : session.registry.inlined.get? r.canonical with
    | some inlined => exact Or.inr ⟨inlined, hinlined⟩
    | none =>
      rw [Registry.answer?_of_pending hmodels hinlined, h] at hanswer
      cases hanswer

/-- Where nothing is open, all references that a remembered one leads to are remembered, and all
their targets can be read. -/
theorem Coherent.leadsTo (h : session.Coherent) (hquiet : session.Quiet)
    (hremembers : session.registry.Remembers r) (hleads : session.surroundings.LeadsTo r inner) :
    session.registry.Remembers inner ∧ session.surroundings.Readable inner := by
  have hreads : ∀ r, session.registry.Remembers r → session.surroundings.Readable r ∧
      ∀ inner ∈ session.surroundings.links r, session.registry.Remembers inner := by
    intro r hremembers
    obtain ⟨type, htype⟩ := h.targetType hremembers
    obtain ⟨hreadable, hlinks⟩ := Surroundings.readable_of_targetType htype
    refine ⟨hreadable, fun inner hinner => ?_⟩
    obtain ⟨answer, hanswer⟩ := hlinks inner hinner
    exact hquiet.remembers (Registry.recalled_eq_ok.mp hanswer)
  have hinner : session.registry.Remembers inner := by
    induction hleads with
    | refl => exact hremembers
    | tail _ hlink ih => exact (hreads _ ih).2 _ hlink
  exact ⟨hinner, (hreads inner hinner).1⟩

end Quiet

end Session

end SchemaTypes
