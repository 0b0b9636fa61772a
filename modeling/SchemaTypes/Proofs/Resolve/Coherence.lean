import SchemaTypes.Proofs.Reference
import SchemaTypes.Proofs.Session.Requests
import SchemaTypes.Proofs.TypeExpr.Occurrences

set_option autoImplicit false

/-!
# Coherence

What is remembered of a reference was found out while enclosing references were still open.  It is
what reading its target gives at any later time: every reference in the target has been answered by
then, and answers are kept, so that the later reading meets the same answers and changes nothing.
The invariant speaks of all later registries that keep the answers of the present one, which makes
it survive nested resolutions, recursive ones and faults alike.
-/

namespace SchemaTypes

/-- What was read for a declaration: the body if it is recursive. -/
def Model.body (m : Model) : TypeExpr :=
  match m.declaration with
  | .recursive _ body => body
  | declaration => declaration

/-! ## What a closed reference leaves behind -/

namespace Registry.Closes

variable {before after : Registry} {r : Reference} {type answer : TypeExpr}

/-- The declaration that closes a reference has what was read as its body. -/
theorem body_eq (h : before.Closes r type answer after) (hunfolded : type.Unfolded)
    (hmodels : before.models.get? r.canonical = none) {model : Model}
    (hmodel : after.models.get? r.canonical = some model) : model.body = type := by
  cases h with
  | recursive =>
    rw [get?_models_declaring] at hmodel
    · cases hmodel
      rfl
    · exact hmodels
  | declared =>
    rw [get?_models_declaring] at hmodel
    · cases hmodel
      unfold Model.body
      split
      · rename_i name body hdeclaration
        obtain rfl : type = .recursive name body := hdeclaration
        exact absurd (TypeExpr.mem_occurrences_self _) (hunfolded name body)
      · rfl
    · exact hmodels
  | inlined =>
    have hnone : before.models.get? r.canonical = some model := hmodel
    rw [hmodels] at hnone
    cases hnone

/-- What a closed reference is inlined as is what was read. -/
theorem inlined_type_eq (h : before.Closes r type answer after)
    (hinlined : before.inlined.get? r.canonical = none) {found : TypeExpr}
    (hfound : after.inlined.get? r.canonical = some found) : found = type := by
  cases h with
  | recursive =>
    have hnone : before.inlined.get? r.canonical = some found := hfound
    rw [hinlined] at hnone
    cases hnone
  | declared =>
    have hnone : before.inlined.get? r.canonical = some found := hfound
    rw [hinlined] at hnone
    cases hnone
  | inlined =>
    have hlast : OrderedMap.get? (before.inlined ++ [(r.canonical, type)]) r.canonical =
        some found := hfound
    rw [OrderedMap.get?_append_singleton hinlined] at hlast
    exact (Option.some.inj hlast).symm

end Registry.Closes

namespace Session

/-! ## Later sessions -/

/-- A later session in the same document, which gives the same answers. -/
structure Keeps (before after : Session) : Prop where
  same : after = { before with registry := after.registry }
  registry : before.registry.Keeps after.registry

theorem Keeps.refl (session : Session) : session.Keeps session := ⟨rfl, .refl _⟩

theorem Keeps.trans ⦃before middle after : Session⦄ (first : before.Keeps middle)
    (second : middle.Keeps after) : before.Keeps after := by
  refine ⟨?_, first.registry.trans second.registry⟩
  rw [second.same, first.same]

theorem Grows.keepsAnswers {before after : Session} (h : before.Grows after) :
    before.Keeps after := ⟨h.same, h.registry.keeps⟩

/-- What has been answered is answered again, however deep references may nest. -/
theorem resolveWithin_of_answer {session : Session} {r : Reference} {type : TypeExpr}
    (h : session.registry.answer? r.canonical = some type) (bound : Nat)
    (policy : Option NamingPolicy) :
    resolveWithin bound policy r session = .ok type session := by
  have hknown := known_of_answer h
  cases bound with
  | zero =>
    unfold resolveWithin
    exact knownOr_of_known hknown _
  | succ bound =>
    unfold resolveWithin
    exact knownOr_of_known hknown _

/-- A written reference is read again in the same document. -/
theorem readReference_settled (target : String) :
    (Schema.readReference target).SettledBy Keeps (Schema.readReference target) := by
  intro session r final h
  obtain ⟨hr, rfl⟩ := Schema.readReference_ok h
  refine ⟨.refl _, fun later hlater => ?_⟩
  have hsame : later.reference target = .ok r := by
    rw [hlater.same]
    exact hr
  unfold Schema.readReference
  rw [hsame]

/-- A helper that a string of a format needs has been noted the first time. -/
theorem textType_settled (format : Option String) :
    (Schema.textType format).SettledBy Keeps (Schema.textType format) := by
  intro session type final h
  have hkeeps := (textType_obeys format session).keepsAnswers
  rw [Run.after_of_ok h] at hkeeps
  refine ⟨hkeeps, fun later hlater => ?_⟩
  have hconfig : later.config = session.config := by
    rw [hlater.same, hkeeps.same]
  unfold Schema.textType at h ⊢
  cases format with
  | none =>
    cases h
    rfl
  | some format =>
    rw [hconfig]
    by_cases htemporal : session.config.isTemporal format = true
    · simp only [htemporal, if_true] at h ⊢
      cases h
      have hnotes := hlater.registry.helpers _ _ (Registry.notes_recordHelper session.registry
        session.config.dateType.importPath session.config.dateType.backingName)
      rw [hnotes.recordHelper_eq, ← hconfig]
    · simp only [htemporal, Bool.false_eq_true, if_false] at h ⊢
      cases h
      rfl

/-- If what is resolved is answered from then on, the type of a schema is given again at any later
time, without any change. -/
theorem elaborate_settled {resolve : Reference → Run TypeExpr}
    (hgrows : ∀ r, (resolve r).Obeys Grows)
    (hanswered : ∀ r session answer final, resolve r session = .ok answer final →
      final.registry.answer? r.canonical = some answer) (bound : Nat) (schema : Schema) :
    (schema.elaborate resolve).SettledBy Keeps
      (schema.elaborate (resolveWithin bound none)) := by
  refine Schema.SettledBy.elaborate
    ⟨Keeps.refl, Keeps.trans, readReference_settled, textType_settled, fun r => ?_⟩ schema
  intro session answer final h
  have hkeeps := (hgrows r session).keepsAnswers
  rw [Run.after_of_ok h] at hkeeps
  refine ⟨hkeeps, fun later hlater => ?_⟩
  exact resolveWithin_of_answer
    (hlater.registry.answers _ _ (hanswered r session answer final h)) bound none

/-! ## Reading a target again -/

/-- Reading the target of `r` gives `type`, in any registry that keeps the answers of the present
one, without any change, and however deep references may nest. -/
def Rereads (session : Session) (r : Reference) (type : TypeExpr) : Prop :=
  ∃ node, session.store.resolve r = .ok node ∧
    ∀ registry bound, session.registry.Keeps registry →
      (Schema.ofJson r node).elaborate (resolveWithin bound none)
          { session with current := r.document, registry := registry } =
        .ok type { session with current := r.document, registry := registry }

section Rereads

variable {session : Session} {r : Reference} {type : TypeExpr}

/-- What is read again now is read again later. -/
theorem Rereads.mono (h : session.Rereads r type) (current : String) {registry : Registry}
    (hkeeps : session.registry.Keeps registry) :
    { session with current := current, registry := registry }.Rereads r type := by
  obtain ⟨node, hnode, hread⟩ := h
  exact ⟨node, hnode, fun later bound hlater => hread later bound (hkeeps.trans hlater)⟩

/-- What is read again is read again at once. -/
theorem Rereads.readTarget (h : session.Rereads r type) (bound : Nat) :
    readTarget (resolveWithin bound none) r session = .ok type session := by
  obtain ⟨node, hnode, hread⟩ := h
  have hnow := hread session.registry bound (.refl _)
  unfold Session.readTarget Run.inDocument
  simp only [hnode, hnow]

end Rereads

/-! ## The invariant -/

/-- All that is remembered is read again. -/
structure Coherent (session : Session) : Prop where
  declared : ∀ r model, session.registry.models.get? r.canonical = some model →
    session.Rereads r model.body
  inlined : ∀ r type, session.registry.inlined.get? r.canonical = some type →
    session.Rereads r type
  unfolded : ∀ key type, session.registry.inlined.get? key = some type → type.Unfolded

namespace Coherent

variable {session : Session}

/-- Where nothing is declared and nothing inlined, there is nothing to read again. -/
theorem of_empty (h : session.registry = Registry.empty) : session.Coherent := by
  refine ⟨fun r model hmodel => ?_, fun r type htype => ?_, fun key type htype => ?_⟩
  · rw [h] at hmodel
    cases hmodel
  · rw [h] at htype
    cases htype
  · rw [h] at htype
    cases htype

/-- Where nothing is declared or inlined in between, what is remembered is still read again. -/
theorem mono (h : session.Coherent) (current : String) {registry : Registry}
    (hkeeps : session.registry.Keeps registry)
    (hmodels : registry.models = session.registry.models)
    (hinlined : registry.inlined = session.registry.inlined) :
    { session with current := current, registry := registry }.Coherent where
  declared r model hmodel := by
    simp only [hmodels] at hmodel
    exact (h.declared r model hmodel).mono current hkeeps
  inlined r type htype := by
    simp only [hinlined] at htype
    exact (h.inlined r type htype).mono current hkeeps
  unfolded key type htype := by
    simp only [hinlined] at htype
    exact h.unfolded key type htype

theorem restores {after : Session} (h : session.Coherent) (hafter : session.Restores after) :
    after.Coherent := by
  rw [hafter.same]
  exact h.mono session.current hafter.registry.grows.keeps hafter.registry.models
    hafter.registry.inlined

/-- Opening a new reference in order to read its target in its document. -/
theorem begin (h : session.Coherent) {key : String} (hnew : session.registry.New key)
    (document : String) (policy : NamingPolicy) :
    { session with
      current := document
      registry := session.registry.begin key policy }.Coherent :=
  h.mono document (Registry.keeps_begin hnew policy) rfl rfl

/-- No answer contains a recursive declaration. -/
theorem answer_unfolded (h : session.Coherent) {key : String} {type : TypeExpr}
    (hanswer : session.registry.answer? key = some type) : type.Unfolded := by
  unfold Registry.answer? at hanswer
  split at hanswer
  · cases hanswer
    exact TypeExpr.unfolded_identifier _ _
  · split at hanswer
    · rename_i hinlined
      cases hanswer
      exact h.unfolded key type hinlined
    · obtain ⟨name, -, rfl⟩ := Option.map_eq_some_iff.mp hanswer
      exact TypeExpr.unfolded_identifier _ _

/-- A reference is closed: what is remembered of it is what was read, and that is read again. -/
theorem closes {r : Reference} {read after : Registry} {type answer : TypeExpr}
    (h : { session with current := r.document, registry := read }.Coherent)
    (hmodels : read.models.get? r.canonical = none)
    (hinlined : read.inlined.get? r.canonical = none)
    (hcloses : read.Closes r type answer after) (hunfolded : type.Unfolded)
    (hreads : { session with current := r.document, registry := read }.Rereads r type) :
    { session with registry := after }.Coherent := by
  have hkeeps := hcloses.keeps hmodels hinlined
  obtain ⟨declared, hdeclared, hdeclaredKeys⟩ := hcloses.models_eq
  obtain ⟨inline, hinline, hinlineKeys⟩ := hcloses.inlined_eq
  refine ⟨fun s model hmodel => ?_, fun s found hfound => ?_, fun key found hfound => ?_⟩
  · by_cases hkey : s.canonical = r.canonical
    · obtain rfl := Reference.eq_of_canonical_eq hkey
      rw [hcloses.body_eq hunfolded hmodels hmodel]
      exact hreads.mono session.current hkeeps
    · simp only [hdeclared, Registry.Closes.get?_append_of_keys hdeclaredKeys hkey] at hmodel
      exact (h.declared s model hmodel).mono session.current hkeeps
  · by_cases hkey : s.canonical = r.canonical
    · obtain rfl := Reference.eq_of_canonical_eq hkey
      rw [hcloses.inlined_type_eq hinlined hfound]
      exact hreads.mono session.current hkeeps
    · simp only [hinline, Registry.Closes.get?_append_of_keys hinlineKeys hkey] at hfound
      exact (h.inlined s found hfound).mono session.current hkeeps
  · by_cases hkey : key = r.canonical
    · subst hkey
      rw [hcloses.inlined_type_eq hinlined hfound]
      exact hunfolded
    · simp only [hinline, Registry.Closes.get?_append_of_keys hinlineKeys hkey] at hfound
      exact h.unfolded key found hfound

end Coherent

/-! ## Resolutions -/

section Resolving

variable {resolve : Reference → Run TypeExpr} {session final : Session} {r : Reference}
  {answer : TypeExpr}

/-- What is known of a resolution that succeeded. -/
structure Found (r : Reference) (session : Session) (answer : TypeExpr) (final : Session) :
    Prop where
  answered : final.registry.answer? r.canonical = some answer
  coherent : session.Coherent → final.Coherent

/-- Elaborations keep everything coherent, and their types contain no recursive declarations. -/
theorem carries_coherent (hgrows : ∀ r, (resolve r).Obeys Grows)
    (hfound : ∀ r session answer final, resolve r session = .ok answer final →
      Found r session answer final) :
    Carries resolve Coherent fun _ type => type.Unfolded := by
  refine .of_inherited TypeExpr.inherited_unfolded hgrows ?_ ?_
  · intro session path name h
    exact h.restores ⟨rfl, Registry.restores_recordHelper _ path name⟩
  · intro r session type final hresolve h
    have hresult := hfound _ _ _ _ hresolve
    have hafter := hresult.coherent h
    exact ⟨hafter, hafter.answer_unfolded hresult.answered⟩

/-- A target that has been elaborated is read again. -/
theorem rereads_of_elaborate (hgrows : ∀ r, (resolve r).Obeys Grows)
    (hanswered : ∀ r session answer final, resolve r session = .ok answer final →
      final.registry.answer? r.canonical = some answer)
    {node : Json} {opened read : Registry} {type : TypeExpr}
    (hnode : session.store.resolve r = .ok node)
    (h : (Schema.ofJson r node).elaborate resolve
        { session with current := r.document, registry := opened } =
      .ok type { session with current := r.document, registry := read }) :
    { session with current := r.document, registry := read }.Rereads r type :=
  ⟨node, hnode, fun _ bound hlater =>
    (elaborate_settled hgrows hanswered bound (Schema.ofJson r node) _ type _ h).2 _ ⟨rfl, hlater⟩⟩

/-- A resolution that succeeds keeps everything coherent if those in its target do. -/
theorem Resolves.found (hgrows : ∀ r, (resolve r).Obeys Grows)
    (hfound : ∀ r session answer final, resolve r session = .ok answer final →
      Found r session answer final)
    (h : Resolves resolve r session answer final) : Found r session answer final := by
  refine ⟨h.answered_after, fun hcoherent => ?_⟩
  cases h with
  | answered => exact hcoherent
  | named undeclared uninlined opened free =>
    exact hcoherent.mono session.current (Registry.grows_fixName opened free).keeps rfl rfl
  | @read policy node type answer read after new found elaborated grows closes =>
    obtain ⟨hmodels, hinlined, -⟩ := open_of_grows new grows
    have hopened := hcoherent.begin new r.document policy
    obtain ⟨hread, hunfolded⟩ :=
      (carries_coherent hgrows hfound).elaborate (Schema.ofJson_plain r node) elaborated hopened
    refine hread.closes hmodels hinlined closes hunfolded ?_
    exact rereads_of_elaborate hgrows
      (fun r session answer final h => (hfound r session answer final h).answered) found elaborated

theorem resolveWithin_found {bound : Nat} {policy : Option NamingPolicy}
    (h : resolveWithin bound policy r session = .ok answer final) :
    Found r session answer final :=
  resolveWithin_induct (fun _ hnested hfound _ _ _ _ h => h.found hnested.grows hfound) bound policy
    h

end Resolving

/-! ## Runs -/

/-- However requests come out, everything that is remembered stays coherent. -/
theorem obeys_coherent :
    Request.Obeys fun before after => before.Coherent → after.Coherent :=
  obeys_of_invariant (fun hrestores h => h.restores hrestores)
    (fun hresolve h => (resolveWithin_found hresolve).coherent h)
    fun _ document h => h.mono document (.refl _) rfl rfl

/-- Whatever was requested of a session that started fresh, with whatever policies, documents and
faults: reading the target of any declared reference again gives the body of its declaration, and
reading that of any inlined reference gives its type.  Neither changes anything. -/
theorem memory_is_coherent {store : Store} {root : String} {config : Config} {start : Session}
    (hstart : Session.start store root config = .ok start) (requests : List Request) (r : Reference)
    (bound : Nat) :
    let final := (Request.performAll requests start).2
    (∀ model, final.registry.models.get? r.canonical = some model →
      readTarget (resolveWithin bound none) r final = .ok model.body final) ∧
    ∀ type, final.registry.inlined.get? r.canonical = some type →
      readTarget (resolveWithin bound none) r final = .ok type final := by
  intro final
  have hcoherent : final.Coherent :=
    obeys_coherent.performAll requests start (.of_empty (registry_of_start hstart))
  constructor
  · intro model hmodel
    exact (hcoherent.declared r model hmodel).readTarget bound
  · intro type htype
    exact (hcoherent.inlined r type htype).readTarget bound

/-- The node of a chain was read while it was open itself, and its label was inlined. -/
theorem memory_is_coherent_sample :
    (∃ model,
      generatedSample.registry.models.get? (sampleReference "Node").canonical = some model ∧
      readTarget (resolveWithin 1 none) (sampleReference "Node") generatedSample =
        .ok model.body generatedSample) ∧
    ∃ type,
      generatedSample.registry.inlined.get? (sampleReference "Label").canonical = some type ∧
      readTarget (resolveWithin 1 none) (sampleReference "Label") generatedSample =
        .ok type generatedSample := by
  unfold generatedSample
  have hdeclared : ((Request.performAll [.everything] sample).2.registry.models.get?
      (sampleReference "Node").canonical).isSome = true := by
    decide +kernel
  have hinlined : ((Request.performAll [.everything] sample).2.registry.inlined.get?
      (sampleReference "Label").canonical).isSome = true := by
    decide +kernel
  obtain ⟨model, hmodel⟩ := Option.isSome_iff_exists.mp hdeclared
  obtain ⟨type, htype⟩ := Option.isSome_iff_exists.mp hinlined
  have hnode := memory_is_coherent start_sample [.everything] (sampleReference "Node") 1
  have hlabel := memory_is_coherent start_sample [.everything] (sampleReference "Label") 1
  exact ⟨⟨model, hmodel, hnode.1 model hmodel⟩, ⟨type, htype, hlabel.2 type htype⟩⟩

end Session

end SchemaTypes
