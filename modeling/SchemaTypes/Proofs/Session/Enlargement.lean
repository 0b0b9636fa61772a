import SchemaTypes.Dump
import SchemaTypes.Proofs.Resolve.Bookkeeping
import SchemaTypes.Proofs.Resolve.Nesting
import SchemaTypes.Proofs.Schema.Questions
import SchemaTypes.Proofs.Session.Documents
import SchemaTypes.Proofs.Store.Keys

set_option autoImplicit false

/-!
# More documents

A resolution looks up documents only in order to find the nodes that its references name.  What
succeeds over a store therefore succeeds over every larger one, where each of these nodes is found
again, and comes to the same types and the same registry.  Only the bound on nesting depends on the
whole store; but it is never reached, so both runs may be taken under a common one.
-/

namespace SchemaTypes

/-! ## Larger stores -/

namespace Store

/-- Every document of the one store is in the other, under the same id. -/
def Within (small large : Store) : Prop :=
  ∀ id document, small.get? id = some document → large.get? id = some document

theorem Within.contains {small large : Store} (h : small.Within large) {id : String}
    (hid : small.contains id = true) : large.contains id = true := by
  obtain ⟨document, hdocument⟩ := Option.isSome_iff_exists.mp hid
  unfold Store.contains
  rw [h id document hdocument]
  rfl

/-- A node that is found is found in a larger store. -/
theorem Within.resolve {small large : Store} (h : small.Within large) {r : Reference} {node : Json}
    (hnode : small.resolve r = .ok node) : large.resolve r = .ok node := by
  obtain ⟨document, hdocument, hwalk⟩ := resolve_eq_ok_iff.mp hnode
  exact resolve_eq_ok_iff.mpr ⟨document, h _ _ hdocument, hwalk⟩

/-- To register a document makes a store larger. -/
theorem within_of_insert {store after : Store} {id key : String} {document : Json}
    (h : store.insert id document = .ok (key, after)) : store.Within after := by
  intro other known hknown
  unfold insert at h
  split at h
  · cases h
  · rename_i spelling _
    split at h
    · cases h
    · rename_i hnew
      cases h
      have hnone : OrderedMap.get? store.documents key = none :=
        Option.not_isSome_iff_eq_none.mp hnew
      have hne : key ≠ other := by
        rintro rfl
        exact absurd (hnone.symm.trans hknown) (by simp)
      exact (get?_place hnone document other).trans ((if_neg hne).trans hknown)

end Store

/-! ## Steps over a larger store -/

namespace Run

variable {α β : Type} {larger : Store}

/-- What the one step comes to, the other one comes to over a larger store. -/
def CarriesOver (larger : Store) (α : Type) (step again : Run α) : Prop :=
  ∀ session value final, session.store.Within larger → step session = .ok value final →
    final.store = session.store ∧
      again { session with store := larger } = .ok value { final with store := larger }

theorem CarriesOver.bind {step again : Run α} {next nextAgain : α → Run β}
    (hstep : CarriesOver larger α step again)
    (hnext : ∀ value, CarriesOver larger β (next value) (nextAgain value)) :
    CarriesOver larger β (step >>= next) (again >>= nextAgain) := by
  intro session value final hwithin h
  obtain ⟨first, middle, hfirst, hsecond⟩ := bind_ok h
  obtain ⟨hmiddle, hagain⟩ := hstep session first middle hwithin hfirst
  rw [← hmiddle] at hwithin
  obtain ⟨hfinal, hnextAgain⟩ := hnext first middle value final hwithin hsecond
  rw [bind_of_ok hagain]
  exact ⟨hfinal.trans hmiddle, hnextAgain⟩

/-- Types are put together over a larger store as they are over a smaller one. -/
theorem relates_carriesOver : Schema.Relates (CarriesOver larger) where
  pure value := by
    intro session other final _ h
    obtain ⟨rfl, rfl⟩ := pure_ok h
    exact ⟨rfl, rfl⟩
  bind := CarriesOver.bind

theorem CarriesOver.throw (fault : Fault) :
    CarriesOver larger α (throw fault) (throw fault) := by
  intro session value final _ h
  cases h

theorem IsBookkeeping.carriesOver {step : Run α} (h : step.IsBookkeeping) :
    CarriesOver larger α step step := by
  intro session value final _ hstep
  exact h.over hstep larger

theorem CarriesOver.inDocument {step again : Run α} (h : CarriesOver larger α step again)
    (document : String) :
    CarriesOver larger α (inDocument document step) (inDocument document again) := by
  intro session value final hwithin hstep
  unfold Run.inDocument at hstep ⊢
  cases hinner : step { session with current := document } with
  | error fault after =>
    rw [hinner] at hstep
    cases hstep
  | ok other after =>
    rw [hinner] at hstep
    cases hstep
    obtain ⟨hstore, hagain⟩ := h { session with current := document } value after hwithin hinner
    refine ⟨hstore, ?_⟩
    simp only [hagain]

theorem CarriesOver.undoOnFault {step again : Run α} (h : CarriesOver larger α step again) :
    CarriesOver larger α (undoOnFault step) (undoOnFault again) := by
  intro session value final hwithin hstep
  unfold Run.undoOnFault at hstep ⊢
  cases hinner : step session with
  | error fault after =>
    rw [hinner] at hstep
    cases hstep
  | ok other after =>
    rw [hinner] at hstep
    cases hstep
    obtain ⟨hstore, hagain⟩ := h session value final hwithin hinner
    refine ⟨hstore, ?_⟩
    simp only [hagain]

end Run

/-! ## Resolving over a larger store -/

namespace Session

open Run

variable {larger : Store} {resolve again : Reference → Run TypeExpr}

/-- To read a written reference takes nothing but the current document. -/
theorem readReference_carriesOver (target : String) :
    CarriesOver larger Reference (Schema.readReference target) (Schema.readReference target) := by
  intro session r final _ h
  obtain ⟨hread, rfl⟩ := Schema.readReference_ok h
  exact ⟨rfl, Schema.readReference_of_ok hread⟩

theorem elaborate_carriesOver (h : ∀ r, CarriesOver larger TypeExpr (resolve r) (again r))
    (schema : Schema) :
    CarriesOver larger TypeExpr (schema.elaborate resolve) (schema.elaborate again) := by
  rw [Schema.elaborate_eq_typeBy, Schema.elaborate_eq_typeBy]
  apply relates_carriesOver.typeBy schema
  intro question _
  cases question with
  | malformed location reason => exact .throw _
  | reference target => exact (readReference_carriesOver target).bind h
  | text format => exact (isBookkeeping_textType format).carriesOver

theorem readTarget_carriesOver (h : ∀ r, CarriesOver larger TypeExpr (resolve r) (again r))
    (r : Reference) :
    CarriesOver larger TypeExpr (readTarget resolve r) (readTarget again r) := by
  intro session type final hwithin hread
  unfold readTarget at hread ⊢
  cases hnode : session.store.resolve r with
  | error fault =>
    rw [hnode] at hread
    cases hread
  | ok node =>
    rw [hnode] at hread
    simp only [hwithin.resolve hnode]
    exact (elaborate_carriesOver h _).inDocument r.document session type final hwithin hread

theorem resolveTarget_carriesOver (h : ∀ r, CarriesOver larger TypeExpr (resolve r) (again r))
    (policy : Option NamingPolicy) (r : Reference) :
    CarriesOver larger TypeExpr (resolveTarget resolve policy r)
      (resolveTarget again policy r) := by
  -- The reference is opened under the same policy: neither root nor configuration has changed.
  have hopened : ∀ chosen, CarriesOver larger TypeExpr
      (undoOnFault do
        modifyRegistry (Registry.begin · r.canonical chosen)
        let type ← readTarget resolve r
        materialize r type)
      (undoOnFault do
        modifyRegistry (Registry.begin · r.canonical chosen)
        let type ← readTarget again r
        materialize r type) := by
    intro chosen
    apply CarriesOver.undoOnFault
    apply (isBookkeeping_modifyRegistry _).carriesOver.bind
    intro _
    apply (readTarget_carriesOver h r).bind
    intro type
    exact (isBookkeeping_materialize r type).carriesOver
  intro session
  exact hopened (policy.getD (session.defaultPolicy r)) session

theorem knownOr_carriesOver {step other : Run TypeExpr} (r : Reference)
    (h : CarriesOver larger TypeExpr step other) :
    CarriesOver larger TypeExpr (knownOr r step) (knownOr r other) := by
  apply (isBookkeeping_known r).carriesOver.bind
  intro found
  cases found with
  | some type => exact relates_carriesOver.pure type
  | none => exact h

/-- Under one bound, what a reference is resolved to does not depend on further documents. -/
theorem resolveWithin_carriesOver (bound : Nat) (policy : Option NamingPolicy) (r : Reference) :
    CarriesOver larger TypeExpr (resolveWithin bound policy r)
      (resolveWithin bound policy r) := by
  induction bound generalizing policy r with
  | zero => exact knownOr_carriesOver r (.throw _)
  | succ bound ih =>
    exact knownOr_carriesOver r (resolveTarget_carriesOver (fun r => ih none r) policy r)

/-- Between requests a reference is resolved over a larger store as it is over a smaller one. -/
theorem resolveReference_over {session final : Session} (hquiet : session.Quiet)
    (hwithin : session.store.Within larger) {r : Reference} {policy : Option NamingPolicy}
    {type : TypeExpr} (h : resolveReference r policy session = .ok type final) :
    resolveReference r policy { session with store := larger } =
      .ok type { final with store := larger } := by
  have hsmall := hquiet.wellNested.resolves larger.nodeCount policy r
  have hquiet' : Quiet { session with store := larger } := hquiet
  have hlarge := hquiet'.wellNested.resolves session.store.nodeCount policy r
  have hbound : larger.nodeCount + 1 + session.store.nodeCount =
      session.store.nodeCount + 1 + larger.nodeCount := by omega
  rw [h] at hsmall
  rw [← hlarge]
  simp only [hbound]
  exact (resolveWithin_carriesOver _ policy r session type final hwithin hsmall).2

theorem resolveSchema_over {session final : Session} (hquiet : session.Quiet)
    (hwithin : session.store.Within larger) {raw : String} {policy : NamingPolicy}
    {type : TypeExpr} (h : resolveSchema raw policy session = .ok type final) :
    resolveSchema raw policy { session with store := larger } =
      .ok type { final with store := larger } := by
  unfold resolveSchema at h ⊢
  simp only
  cases hraw : Reference.parse raw session.root with
  | error fault =>
    rw [hraw] at h
    cases h
  | ok r =>
    rw [hraw] at h
    exact resolveReference_over hquiet hwithin h

end Session

/-! ## Runs over a larger store -/

namespace Request

/-- The requests for the type of a reference, written or not. -/
inductive IsResolution : Request → Prop
  | resolve (r : Reference) (policy : Option NamingPolicy) : IsResolution (.resolve r policy)
  | written (raw : String) (policy : NamingPolicy) : IsResolution (.resolveWritten raw policy)

/-- Every request of a run gives a type. -/
def AllSucceed : List Request → Session → Prop
  | [], _ => True
  | request :: rest, session =>
    (∃ type, (request.perform session).1 = [type]) ∧ AllSucceed rest (request.perform session).2

variable {session : Session} {larger : Store}

/-- A step that gives a type, and gives it over a larger store as well, comes out the same there. -/
theorem given_over {step : Run TypeExpr}
    (hover : ∀ {type final}, step session = .ok type final →
      step { session with store := larger } = .ok type { final with store := larger })
    (hgiven : ∃ type, step.given session = [type]) :
    step.given { session with store := larger } = step.given session ∧
      step.after { session with store := larger } =
        { step.after session with store := larger } := by
  obtain ⟨type, htype⟩ := hgiven
  have hlarge := hover (Run.mem_given.mp (htype ▸ List.mem_singleton_self type))
  refine ⟨?_, Run.after_of_ok hlarge⟩
  rw [htype]
  unfold Run.given
  rw [hlarge]

/-- A resolution that gives a type gives the same one over a larger store. -/
theorem IsResolution.over {request : Request} (hresolution : request.IsResolution)
    (hquiet : session.Quiet) (hwithin : session.store.Within larger)
    (hsucceeds : ∃ type, (request.perform session).1 = [type]) :
    request.perform { session with store := larger } =
      ((request.perform session).1, { (request.perform session).2 with store := larger }) := by
  cases hresolution with
  | resolve r policy =>
    have hover := given_over (Session.resolveReference_over hquiet hwithin) hsucceeds
    exact Prod.ext hover.1 hover.2
  | written raw policy =>
    have hover := given_over (Session.resolveSchema_over hquiet hwithin) hsucceeds
    exact Prod.ext hover.1 hover.2

/-- A run of resolutions that all give a type comes out the same over a larger store. -/
theorem performAll_over {requests : List Request}
    (hresolutions : ∀ request ∈ requests, request.IsResolution) (hquiet : session.Quiet)
    (hwithin : session.store.Within larger) (hsucceed : AllSucceed requests session) :
    AllSucceed requests { session with store := larger } ∧
      performAll requests { session with store := larger } =
        ((performAll requests session).1,
          { (performAll requests session).2 with store := larger }) := by
  induction requests generalizing session with
  | nil => exact ⟨trivial, rfl⟩
  | cons request rest ih =>
    obtain ⟨hfirst, hrest⟩ := hsucceed
    have hover := (hresolutions request List.mem_cons_self).over hquiet hwithin hfirst
    have hquiet' := hquiet.of_grows (obeys_grows.perform request session)
    have hwithin' : (request.perform session).2.store.Within larger := by
      rw [obeys_same.perform request session]
      exact hwithin
    obtain ⟨hagain, hall⟩ := ih (fun other hmem => hresolutions other (List.mem_cons_of_mem _ hmem))
      hquiet' hwithin' hrest
    unfold AllSucceed performAll
    rw [hover]
    simp only
    rw [hall]
    exact ⟨⟨hfirst, hagain⟩, rfl⟩

end Request

namespace Session

/-- A fresh session over a larger store starts where one over the smaller store does. -/
theorem start_over {store larger : Store} (hwithin : store.Within larger) {root : String}
    {config : Config} {session : Session} (h : start store root config = .ok session) :
    session.store = store ∧ start larger root config = .ok { session with store := larger } := by
  unfold start at h ⊢
  cases hroot : DocumentId.canonical? root with
  | none =>
    rw [hroot] at h
    cases h
  | some id =>
    rw [hroot] at h
    cases hcontains : store.contains id with
    | false =>
      simp only [hcontains, Bool.false_eq_true, if_false] at h
      cases h
    | true =>
      simp only [hcontains, if_true] at h
      cases h
      simp only [hwithin.contains hcontains, if_true, and_self]

/-- Documents that are added never change a resolution that succeeds: requests for references that
all give a type in a fresh session all give the same types in a fresh session over a larger store,
and the dump in the end is the same. -/
theorem resolutions_carry_over {store larger : Store} {root : String} {config : Config}
    {session : Session} {requests : List Request} (hwithin : store.Within larger)
    (hstart : start store root config = .ok session)
    (hresolutions : ∀ request ∈ requests, request.IsResolution)
    (hsucceed : Request.AllSucceed requests session) :
    ∃ again, start larger root config = .ok again ∧ Request.AllSucceed requests again ∧
      (Request.performAll requests again).1 = (Request.performAll requests session).1 ∧
      (Request.performAll requests again).2.registry.dump =
        (Request.performAll requests session).2.registry.dump := by
  obtain ⟨rfl, hagain⟩ := start_over hwithin hstart
  have hquiet : session.Quiet := .of_empty (registry_of_start hstart)
  obtain ⟨hall, hrun⟩ := Request.performAll_over hresolutions hquiet hwithin hsucceed
  refine ⟨_, hagain, hall, ?_, ?_⟩
  · rw [hrun]
  · rw [hrun]

/-- A part is found in another document, and a document that nothing refers to is added. -/
theorem resolutions_carry_over_abroad :
    let requests : List Request :=
      [.resolve (sampleReference "Whole") none,
        .resolveWritten "other.json#/Far" (.external "Other")]
    ∃ larger again, abroad.store.insert "more.json" sampleComponents = .ok ("more.json", larger) ∧
      start larger "api.json" .standard = .ok again ∧ Request.AllSucceed requests again ∧
      (Request.performAll requests again).1 = (Request.performAll requests abroad).1 ∧
      (Request.performAll requests again).2.registry.dump =
        (Request.performAll requests abroad).2.registry.dump := by
  intro requests
  have hkey : DocumentId.canonical? "more.json" = some "more.json" := by decide +kernel
  obtain ⟨larger, hinsert⟩ : ∃ larger,
      abroad.store.insert "more.json" sampleComponents = .ok ("more.json", larger) := by
    unfold Store.insert
    simp only [hkey]
    exact ⟨_, rfl⟩
  have hstart : start abroad.store "api.json" .standard = .ok abroad :=
    start_of_canonical (by decide +kernel) rfl
  have hresolutions : ∀ request ∈ requests, request.IsResolution := by
    intro request hmem
    rcases List.mem_cons.mp hmem with rfl | hrest
    · exact .resolve _ _
    · rw [List.mem_singleton.mp hrest]
      exact .written _ _
  have hsucceed : Request.AllSucceed requests abroad :=
    ⟨List.length_eq_one_iff.mp (by decide +kernel), List.length_eq_one_iff.mp (by decide +kernel),
      trivial⟩
  obtain ⟨again, hagain, hall, htypes, hdump⟩ :=
    resolutions_carry_over (Store.within_of_insert hinsert) hstart hresolutions hsucceed
  exact ⟨larger, again, hinsert, hagain, hall, htypes, hdump⟩

end Session

end SchemaTypes
