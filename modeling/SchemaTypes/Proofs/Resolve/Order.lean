import SchemaTypes.Dump
import SchemaTypes.Proofs.Registry.Order
import SchemaTypes.Proofs.Resolve.Coherence
import SchemaTypes.Proofs.Resolve.Identifiers

set_option autoImplicit false

/-!
# Declarations in order

Declarations are complete in the order in which they are handed over: whatever a declaration
mentions comes before it, unless it is recursive.  And what is declared recursive lies on a cycle.
The second part needs to know, of every resolution, that an open reference whose name was fixed in
between is met again from the answer: the identifier that was handed out is in the type that was
being read then, and every answer on the way back leads to the type that it answers for.
-/

namespace SchemaTypes

namespace Session

/-! ## Meeting open references -/

/-- Every open reference whose name was fixed in between is met again from the type. -/
structure Meets (before : Session) (type : TypeExpr) (after : Session) : Prop where
  grows : before.Grows after
  met : ∀ key name, Fixes before.registry.pending after.registry.pending key name →
    Reaches after.registry.models type name

section Meets

variable {resolve : Reference → Run TypeExpr} {session final : Session} {r : Reference}
  {type answer : TypeExpr}

/-- The type of a schema meets what the answers in it meet. -/
theorem elaborate_meets
    (hmeets : ∀ r session answer final, resolve r session = .ok answer final →
      Meets session answer final)
    {schema : Schema} (hplain : schema.Plain)
    (h : schema.elaborate resolve session = .ok type final) : Meets session type final := by
  have hyields : Schema.Yields resolve Meets (fun before types after => before.Grows after ∧
      ∀ key name, Fixes before.registry.pending after.registry.pending key name →
        ∃ type ∈ types, Reaches after.registry.models type name) := {
    nil := fun _ => ⟨.refl _, fun _ _ hfixes => absurd hfixes Fixes.irrefl⟩
    cons := by
      rintro before middle after type types hfirst ⟨hrest, hall⟩
      refine ⟨hfirst.grows.trans hrest, fun key name hfixes => ?_⟩
      rcases hfixes.split hfirst.grows.registry.pending hrest.registry.pending with
        hearly | hlate
      · have hreaches := (hfirst.met key name hearly).mono hrest.registry.models
        exact ⟨type, List.mem_cons_self, hreaches⟩
      · obtain ⟨other, hother, hreaches⟩ := hall key name hlate
        exact ⟨other, List.mem_cons_of_mem _ hother, hreaches⟩
    combines := by
      rintro before after type types ⟨hgrows, hall⟩ hcombines
      refine ⟨hgrows, fun key name hfixes => ?_⟩
      obtain ⟨part, hpart, hreaches⟩ := hall key name hfixes
      exact hreaches.combines hcombines hpart
    constant := fun _ => ⟨.refl _, fun _ _ hfixes => absurd hfixes Fixes.irrefl⟩
    text := by
      intro format before type after htext
      have hgrows := textType_obeys format before
      rw [Run.after_of_ok htext] at hgrows
      refine ⟨hgrows, fun key name hfixes => ?_⟩
      rcases Schema.textType_ok htext with ⟨-, rfl⟩ | ⟨display, backing, path, -, rfl⟩
      · exact absurd hfixes Fixes.irrefl
      · exact absurd hfixes Fixes.irrefl
    resolved := fun hresolve => hmeets _ _ _ _ hresolve }
  exact hyields.elaborate schema hplain session type final h

/-- What was fixed while the target of a new reference was read, other than its own name, was open
before. -/
theorem fixes_of_closed {before read after : Registry} {policy : NamingPolicy} {key : String}
    {name : ModelName} (hnew : before.New r.canonical) (hcloses : read.Closes r type answer after)
    (h : Fixes before.pending after.pending key name) :
    Fixes (before.begin r.canonical policy).pending read.pending key name := by
  obtain ⟨⟨chosen, hopen⟩, entry, hentry, hreserved⟩ := h
  have hne : key ≠ r.canonical := by
    rintro rfl
    rw [hnew.pending] at hopen
    cases hopen
  rw [hcloses.pending_eq, OrderedMap.get?_erase_of_ne hne] at hentry
  refine ⟨⟨chosen, ?_⟩, entry, hentry, hreserved⟩
  rw [Registry.begin_of_new hnew]
  exact OrderedMap.get?_of_prefix (List.prefix_append _ _) hopen

/-- A resolution meets what the resolutions in its target meet. -/
theorem Resolves.meets
    (hmeets : ∀ r session answer final, resolve r session = .ok answer final →
      Meets session answer final)
    (h : Resolves resolve r session answer final) : Meets session answer final := by
  refine ⟨h.grows, fun key name hfixes => ?_⟩
  cases h with
  | answered => exact absurd hfixes Fixes.irrefl
  | named =>
    obtain rfl := hfixes.of_insert
    exact .mention (List.mem_singleton_self _)
  | @read policy node type answer read after new found elaborated grows closes =>
    have hread := elaborate_meets hmeets (Schema.ofJson_plain r node) elaborated
    exact closes.reaches (hread.met key name (fixes_of_closed new closes hfixes))

theorem resolveWithin_meets {bound : Nat} {policy : Option NamingPolicy}
    (h : resolveWithin bound policy r session = .ok answer final) :
    Meets session answer final :=
  resolveWithin_induct (P := fun _ => Meets)
    (fun _ _ hmeets _ _ _ _ h => h.meets hmeets) bound policy h

end Meets

/-! ## The invariant -/

/-- Declarations are in order, and the recursive ones lie on cycles. -/
structure Orderly (session : Session) : Prop where
  inOrder : DeclaredInOrder session.registry.models
  looped : Looped session.registry.models

namespace Orderly

variable {session : Session}

theorem of_empty (h : session.registry = Registry.empty) : session.Orderly := by
  refine ⟨?_, ?_⟩
  · rw [h]
    exact ⟨List.Pairwise.nil, fun _ hentry => absurd hentry List.not_mem_nil⟩
  · rw [h]
    exact fun _ hentry => absurd hentry List.not_mem_nil

theorem of_models_eq (h : session.Orderly) {after : Session}
    (hmodels : after.registry.models = session.registry.models) : after.Orderly := by
  refine ⟨?_, ?_⟩
  · rw [hmodels]
    exact h.inOrder
  · rw [hmodels]
    exact h.looped

end Orderly

/-! ## Resolutions -/

namespace Nested

variable {resolve : Reference → Run TypeExpr} (hnested : Nested resolve)

include hnested

theorem tidy : ∀ r session answer final, resolve r session = .ok answer final →
    session.registry.Tidy → final.registry.Tidy ∧ final.registry.Knows answer :=
  hnested.holds fun _ _ _ _ _ h => resolveWithin_tidy h

theorem found : ∀ r session answer final, resolve r session = .ok answer final →
    Found r session answer final := hnested.holds fun _ _ _ _ _ h => resolveWithin_found h

theorem meets : ∀ r session answer final, resolve r session = .ok answer final →
    Meets session answer final := hnested.holds fun _ _ _ _ _ h => resolveWithin_meets h

theorem carries_tidy : Carries resolve (fun session => session.registry.Tidy)
    fun session type => session.registry.Knows type :=
  Session.carries_tidy hnested.grows hnested.tidy

theorem carries_coherent : Carries resolve Coherent fun _ type => type.Unfolded :=
  Session.carries_coherent hnested.grows hnested.found

/-- A target that has been elaborated is read again. -/
theorem rereads {session : Session} {r : Reference} {node : Json} {opened read : Registry}
    {type : TypeExpr} (hnode : session.store.resolve r = .ok node)
    (h : (Schema.ofJson r node).elaborate resolve
        { session with current := r.document, registry := opened } =
      .ok type { session with current := r.document, registry := read }) :
    { session with current := r.document, registry := read }.Rereads r type :=
  rereads_of_elaborate hnested.grows
    (fun r session answer final h => (hnested.found r session answer final h).answered) hnode h

/-- An invariant of coherent sessions that resolutions keep is kept by elaborations. -/
theorem carries_of_coherent {Inv : Session → Prop}
    (hcoherent : ∀ {session}, Inv session → session.Coherent)
    (hnoted : ∀ {session} path name, Inv session →
      Inv { session with registry := session.registry.recordHelper path name })
    (hinv : ∀ r session answer final, resolve r session = .ok answer final →
      Inv session → Inv final) :
    Carries resolve Inv fun _ type => type.Unfolded :=
  { hnested.carries_coherent with
    noted := hnoted
    resolved := fun hresolve h =>
      ⟨hinv _ _ _ _ hresolve h,
        (hnested.carries_coherent.resolved hresolve (hcoherent h)).2⟩ }

end Nested

/-- All that the order of declarations rests on. -/
structure Kept (session : Session) : Prop where
  tidy : session.registry.Tidy
  coherent : session.Coherent
  orderly : session.Orderly

namespace Kept

variable {session after : Session}

theorem of_empty (h : session.registry = Registry.empty) : session.Kept :=
  ⟨(Settled.of_empty h).tidy, .of_empty h, .of_empty h⟩

/-- Opening a new reference in its document. -/
theorem begin (h : session.Kept) {key : String} (hnew : session.registry.New key)
    (document : String) (policy : NamingPolicy) :
    { session with
      current := document
      registry := session.registry.begin key policy }.Kept :=
  ⟨h.tidy.begin hnew policy, h.coherent.begin hnew document policy, h.orderly.of_models_eq rfl⟩

/-- A fault takes nothing away as long as nothing is open. -/
theorem restores (h : session.Kept) (hquiet : session.Quiet) (hafter : session.Restores after) :
    after.Kept :=
  ⟨(Settled.restores ⟨hquiet, h.tidy⟩ hafter).tidy, h.coherent.restores hafter,
    h.orderly.of_models_eq hafter.registry.models⟩

theorem recordHelper (h : session.Kept) (path name : String) :
    { session with registry := session.registry.recordHelper path name }.Kept :=
  ⟨h.tidy.mono (h.tidy.named.of_eq rfl rfl rfl) rfl rfl List.prefix_rfl,
    h.coherent.restores ⟨rfl, Registry.restores_recordHelper _ path name⟩,
    h.orderly.of_models_eq rfl⟩

theorem moved (h : session.Kept) (document : String) :
    { session with current := document }.Kept :=
  ⟨h.tidy, obeys_coherent.moved session document h.coherent, h.orderly.of_models_eq rfl⟩

end Kept

section Resolving

variable {resolve : Reference → Run TypeExpr} {session final : Session} {r : Reference}
  {type answer : TypeExpr}

/-- Elaborations keep declarations in order. -/
theorem carries_kept (hnested : Nested resolve)
    (hkept : ∀ r session answer final, resolve r session = .ok answer final →
      session.Kept → final.Kept) :
    Carries resolve Kept fun session type => session.registry.Knows type ∧ type.Unfolded where
  grows := hnested.grows
  mono hgrows h := ⟨h.1.mono hgrows.registry.names, h.2⟩
  constant session _ h := ⟨hnested.carries_tidy.constant session h, h.unfolded⟩
  string session :=
    ⟨hnested.carries_tidy.string session, hnested.carries_coherent.string session⟩
  provided session display backing :=
    ⟨hnested.carries_tidy.provided session display backing,
      TypeExpr.unfolded_provided display backing⟩
  combines h hcombines :=
    ⟨hnested.carries_tidy.combines (fun part hpart => (h part hpart).1) hcombines,
      hcombines.unfolded fun part hpart => (h part hpart).2⟩
  noted path name h := h.recordHelper path name
  resolved hresolve h :=
    ⟨hkept _ _ _ _ hresolve h, (hnested.carries_tidy.resolved hresolve h.tidy).2,
      (hnested.carries_coherent.resolved hresolve h.coherent).2⟩

/-- A resolution keeps declarations in order if the resolutions in its target do. -/
theorem Resolves.kept (hnested : Nested resolve)
    (hkept : ∀ r session answer final, resolve r session = .ok answer final →
      session.Kept → final.Kept)
    (h : Resolves resolve r session answer final) (hsession : session.Kept) : final.Kept := by
  have htidy := (h.tidy hnested.grows hnested.tidy hsession.tidy).1
  have hcoherent := (h.found hnested.grows hnested.found).coherent hsession.coherent
  refine ⟨htidy, hcoherent, ?_⟩
  cases h with
  | answered => exact hsession.orderly
  | named => exact hsession.orderly.of_models_eq rfl
  | @read policy node type answer read after new found elaborated grows closes =>
    have hplain := Schema.ofJson_plain r node
    obtain ⟨hread, hknows, hunfolded⟩ := (carries_kept hnested hkept).elaborate hplain elaborated
      (hsession.begin new r.document policy)
    have hmeets := elaborate_meets hnested.meets hplain elaborated
    obtain ⟨hmodels, -, -⟩ := open_of_grows new grows
    refine ⟨closes.declaredInOrder hread.tidy hmodels hknows hread.orderly.inOrder, ?_⟩
    refine closes.looped hunfolded (fun chosen name hopen => ?_) hread.orderly.looped
    have hfixes : Fixes (session.registry.begin r.canonical policy).pending read.pending
        r.canonical name :=
      ⟨⟨policy, Registry.get?_pending_begin new policy⟩, _, hopen, rfl⟩
    exact hmeets.met r.canonical name hfixes

theorem resolveWithin_kept {bound : Nat} {policy : Option NamingPolicy}
    (h : resolveWithin bound policy r session = .ok answer final) (hsession : session.Kept) :
    final.Kept :=
  resolveWithin_induct (P := fun _ session _ final => session.Kept → final.Kept)
    (fun _ hnested hkept _ _ _ _ h => h.kept hnested hkept) bound policy h hsession

theorem Nested.kept (hnested : Nested resolve) : ∀ r session answer final,
    resolve r session = .ok answer final → session.Kept → final.Kept :=
  hnested.holds fun _ _ _ _ _ h => resolveWithin_kept h

end Resolving

/-! ## Runs -/

/-- However requests come out, declarations stay in order. -/
theorem obeys_kept : Request.Obeys fun before after =>
    before.Settled ∧ before.Kept → after.Settled ∧ after.Kept :=
  obeys_of_invariant
    (fun hrestores h => ⟨h.1.restores hrestores, h.2.restores h.1.quiet hrestores⟩)
    (fun hresolve h => ⟨h.1.resolved hresolve, resolveWithin_kept hresolve h.2⟩)
    fun _ document h => ⟨h.1.moved document, h.2.moved document⟩

/-- Whatever was requested of a session that started fresh, with whatever policies, documents and
faults: in the order of the dump every declaration comes after all that it mentions, apart from
recursive ones, so that every cycle contains one of these; and from the body of every recursive
declaration its own identifier is met. -/
theorem dump_is_ordered {store : Store} {root : String} {config : Config} {start : Session}
    (hstart : Session.start store root config = .ok start) (requests : List Request) :
    let models := (Request.performAll requests start).2.registry.dump.models
    (∀ (i j : Nat) (entry next : String × Model),
      models[i]? = some entry → models[j]? = some next →
      next.2.modelName ∈ entry.2.declaration.identifiers →
        j < i ∨ next.2.declaration.isRecursive = true) ∧
    (∀ entry, ¬ Relation.TransGen (MentionsPlain models) entry entry) ∧
    ∀ entry ∈ models, ∀ name body, entry.2.declaration = .recursive name body →
      Reaches models body entry.2.modelName := by
  intro models
  have hempty := registry_of_start hstart
  have hsettled : start.Settled := .of_empty hempty
  have hkept : start.Kept := ⟨hsettled.tidy, .of_empty hempty, .of_empty hempty⟩
  obtain ⟨-, hafter⟩ := obeys_kept.performAll requests start ⟨hsettled, hkept⟩
  refine ⟨fun i j entry next hi hj hmentions => ?_, hafter.orderly.inOrder.acyclic,
    hafter.orderly.looped⟩
  exact hafter.orderly.inOrder.lt_or_isRecursive hi hj hmentions

/-- The first declaration of the sample is that of a node, which mentions itself. -/
theorem dump_is_ordered_sample :
    ∃ node, generatedSample.registry.dump.models[0]? = some node ∧
      node.2.modelName ∈ node.2.declaration.identifiers ∧
      ∃ name body, node.2.declaration = .recursive name body ∧
        Reaches generatedSample.registry.dump.models body node.2.modelName := by
  unfold generatedSample
  have hnode : ((Request.performAll [.everything] sample).2.registry.dump.models[0]?.any
      fun node => node.2.modelName ∈ node.2.declaration.identifiers) = true := by
    decide +kernel
  obtain ⟨node, hfirst, hmentions⟩ := (Option.any_eq_true _ _).mp hnode
  have hmentions := of_decide_eq_true hmentions
  obtain ⟨hinOrder, -, hlooped⟩ := dump_is_ordered start_sample [.everything]
  have hrecursive : node.2.declaration.isRecursive = true := by
    rcases hinOrder 0 0 node node hfirst hfirst hmentions with hlt | hrecursive
    · exact absurd hlt (Nat.lt_irrefl 0)
    · exact hrecursive
  obtain ⟨name, body, hdeclaration⟩ := TypeExpr.isRecursive_iff.mp hrecursive
  have hreaches := hlooped node (List.mem_of_getElem? hfirst) name body hdeclaration
  exact ⟨node, hfirst, hmentions, name, body, hdeclaration, hreaches⟩

end Session

end SchemaTypes
