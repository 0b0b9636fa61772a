import SchemaTypes.Proofs.Resolve.Failures
import SchemaTypes.Proofs.Resolve.Founded
import SchemaTypes.Proofs.Session.Stability

set_option autoImplicit false

/-!
# Failures that stay

A reference that fails for any cause but a name fails whatever is requested before, with one
exception.  An endless reference is refused only if it is entered in such a way that the name fixed
for it is all that comes back.  Entered otherwise it can come to an end, but then some reference
that it leads to has got a declaration which is not productive: what the declarations of endless
references say are only names of each other.
-/

namespace SchemaTypes

/-! ## Stores that agree -/

namespace Surroundings

variable {s other : Surroundings} {r t : Reference} {fault : Fault}

theorem links_eq (h : other.store.resolve r = s.store.resolve r) : other.links r = s.links r := by
  unfold links
  rw [h]

section Agreeing

variable (hsame : ∀ t, s.LeadsTo r t → other.store.resolve t = s.store.resolve t)

include hsame

/-- A reference leads to the same ones where these have the same targets. -/
theorem LeadsTo.transfer (h : s.LeadsTo r t) : other.LeadsTo r t := by
  induction h with
  | refl => exact .refl
  | tail hpath hlink ih =>
    rw [← links_eq (hsame _ hpath)] at hlink
    exact ih.tail hlink

theorem Endless.transfer (h : s.Endless t) (hleads : s.LeadsTo r t) : other.Endless t := by
  obtain ⟨hollow, endless, hcircles, ht⟩ := h
  refine ⟨fun t => hollow t ∧ s.LeadsTo r t, fun t => endless t ∧ s.LeadsTo r t, ⟨?_, ?_, ?_⟩,
    ht, hleads⟩
  · rintro t ⟨hhollow, hpath⟩
    obtain ⟨node, hnode, honly⟩ := hcircles.reads t hhollow
    refine ⟨node, (hsame t hpath).trans hnode, honly.mono fun q hq ⟨inner, hinner, hgood⟩ => ?_⟩
    have hlink : inner ∈ s.links t := mem_links.mpr ⟨node, hnode, q, hq, hinner⟩
    exact ⟨inner, hinner, hgood, hpath.tail hlink⟩
  · exact fun t h => ⟨hcircles.hollow t h.1, h.2⟩
  · rintro t ⟨hendless, hpath⟩
    obtain ⟨inner, hlink, hinner⟩ := hcircles.goes_on t hendless
    rw [links_eq (hsame t hpath)]
    exact ⟨inner, hlink, hinner, hpath.tail hlink⟩

/-- Why a reference fails is the same where all that it leads to have the same targets. -/
theorem Cause.transfer (h : s.Cause r fault) : other.Cause r fault := by
  cases h with
  | naming reason => exact .naming reason
  | exhausted => exact .exhausted
  | unreadable leads unreadable =>
    refine .unreadable (leads.transfer hsame) fun ⟨node, hnode, hall⟩ => ?_
    exact unreadable ⟨node, (hsame _ leads).symm.trans hnode, hall⟩
  | endless leads endless =>
    exact .endless (leads.transfer hsame) (endless.transfer hsame leads)

end Agreeing

end Surroundings

/-- A declaration leads to nothing but names if its body does. -/
theorem Model.leadsOnly_declaration (m : Model) (names : List ModelName) :
    m.declaration.leadsOnly names = m.body.leadsOnly names := by
  unfold Model.body
  split
  · rename_i name body hdeclaration
    rw [hdeclaration, TypeExpr.leadsOnly]
  · rfl

/-- The names of the declarations of all references with a property. -/
theorem Registry.exists_names (registry : Registry) (P : Reference → Prop) :
    ∃ names : List ModelName, ∀ n, n ∈ names ↔ ∃ r model, P r ∧
      registry.models.get? r.canonical = some model ∧ model.modelName = n := by
  classical
  let Owned (entry : String × Model) : Prop :=
    ∃ r, P r ∧ r.canonical = entry.1 ∧ registry.models.get? r.canonical = some entry.2
  refine ⟨(registry.models.filter (Owned ·)).map (·.2.modelName), fun n => ⟨fun h => ?_, ?_⟩⟩
  · obtain ⟨entry, hentry, rfl⟩ := List.mem_map.mp h
    obtain ⟨r, hr, -, hmodel⟩ := of_decide_eq_true (List.mem_filter.mp hentry).2
    exact ⟨r, entry.2, hr, hmodel, rfl⟩
  · rintro ⟨r, model, hr, hmodel, rfl⟩
    refine List.mem_map.mpr ⟨(r.canonical, model), List.mem_filter.mpr ⟨?_, ?_⟩, rfl⟩
    · exact OrderedMap.mem_of_get? hmodel
    · exact decide_eq_true ⟨r, hr, rfl, hmodel⟩

namespace Session

/-! ## Endless references that are remembered -/

section Endless

variable {session : Session} {hollow endless : Reference → Prop} {names : List ModelName}
  {r : Reference}

/-- If the answers for hollow references are hollow, so are the types of their targets. -/
theorem hollow_targetType (hcircles : session.surroundings.Circles hollow endless)
    (hanswers : ∀ inner ∈ session.surroundings.links r, hollow inner →
      ∀ answer, session.registry.answer? inner.canonical = some answer → answer.Hollow names)
    (hr : hollow r) {type : TypeExpr}
    (htype : session.surroundings.targetType session.registry.recalled r = .ok type) :
    type.Hollow names := by
  obtain ⟨node, hnode, honly⟩ := hcircles.reads r hr
  obtain ⟨found, hfound, htype⟩ := Schema.bind_eq_ok htype
  obtain rfl : found = node := Except.ok.inj (hfound.symm.trans hnode)
  have hasked := honly.mono fun q hq h => And.intro hq h
  refine hasked.hollow (fun q answer ⟨hq, inner, hinner, hgood⟩ hanswer => ?_) htype
  have hlink : inner ∈ session.surroundings.links r :=
    Surroundings.mem_links.mpr ⟨found, hnode, q, hq, hinner⟩
  obtain ⟨target, rfl, hparse⟩ := Schema.Question.mem_references hinner
  simp only [Surroundings.answer, hparse] at hanswer
  exact hanswers inner hlink hgood answer (Registry.recalled_eq_ok.mp hanswer)

variable (h : session.Founded) (hquiet : session.Quiet)
  (hcircles : session.surroundings.Circles hollow endless)

include h hquiet hcircles

/-- Where nothing is open, the answers for hollow references are hollow: they say nothing but `null`
and the names of the declarations of such references. -/
theorem hollow_answer
    (hnames : ∀ r model, hollow r → session.registry.models.get? r.canonical = some model →
      model.modelName ∈ names)
    (hr : hollow r) {answer : TypeExpr}
    (hanswer : session.registry.answer? r.canonical = some answer) : answer.Hollow names := by
  have hnamed : ∀ r, hollow r → session.registry.HasName r → ∀ answer,
      session.registry.answer? r.canonical = some answer → answer.Hollow names := by
    rintro r hr ⟨name, hname⟩ answer hanswer
    obtain ⟨model, hmodel, -⟩ := h.kept.tidy.named.declared_of_mem hquiet hname
    rw [Registry.answer?_of_model hmodel] at hanswer
    cases hanswer
    exact .identifier (hnames r model hr hmodel)
  -- Inlined references are founded, and those that they stand on have names.
  have hinlined : ∀ r, session.registry.Founded session.surroundings r →
      ¬ session.registry.HasName r → hollow r → ∀ answer,
        session.registry.answer? r.canonical = some answer → answer.Hollow names := by
    intro r hfounded
    induction hfounded with
    | intro r _ ih =>
      intro hunnamed hr answer hanswer
      have hfound := (h.kept.tidy.named.answer_eq hanswer).resolve_left
        fun ⟨name, _, hname⟩ => hunnamed ⟨name, hname⟩
      refine hollow_targetType hcircles (fun inner hlink hinner answer hanswer => ?_) hr
        (h.kept.coherent.inlined r answer hfound).targetType
      by_cases hname : session.registry.HasName inner
      · exact hnamed inner hinner hname answer hanswer
      · exact ih inner ⟨hlink, hname⟩ hname hinner answer hanswer
  by_cases hname : session.registry.HasName r
  · exact hnamed r hr hname answer hanswer
  · exact hinlined r ((h.of_answer hanswer).resolve_left hname) hname hr answer hanswer

/-- Where nothing is open, the declarations of hollow references are not productive. -/
theorem not_productive_of_hollow (hr : hollow r) {model : Model}
    (hmodel : session.registry.models.get? r.canonical = some model) :
    ¬ Productive session.registry.models model.declaration := by
  obtain ⟨names, hnames⟩ := session.registry.exists_names hollow
  have hleads : ∀ r model, hollow r → session.registry.models.get? r.canonical = some model →
      model.declaration.leadsOnly names = true := by
    intro r model hr hmodel
    have hbody : model.body.Hollow names :=
      hollow_targetType hcircles
        (fun inner _ hinner answer hanswer => hollow_answer h hquiet hcircles
          (fun r model hr hmodel => (hnames _).mpr ⟨r, model, hr, hmodel, rfl⟩) hinner hanswer)
        hr (h.kept.coherent.declared r model hmodel).targetType
    rw [model.leadsOnly_declaration]
    exact hbody.leadsOnly
  -- A declaration with one of the names is that of a hollow reference, for names are distinct.
  refine not_productive_of_leadsOnly (fun entry hentry hname => ?_) (hleads r model hr hmodel)
  have hnamed := h.kept.tidy.named
  have hdeclared := OrderedMap.get?_of_mem hnamed.models_nodup hentry
  obtain ⟨owner, own, howner, hown, hsame⟩ := (hnames _).mp hname
  have hkey : owner.canonical = entry.1 :=
    hnamed.key_eq (hsame ▸ hnamed.mem_names_of_declared hown)
      (hnamed.mem_names_of_declared hdeclared)
  obtain rfl : own = entry.2 := by
    rw [hkey, hdeclared] at hown
    exact (Option.some.inj hown).symm
  exact hleads owner entry.2 howner hown

omit h hquiet in
/-- From an endless reference that is inlined another one is reached that has a name. -/
theorem exists_named (hr : endless r)
    (hfounded : session.registry.Founded session.surroundings r) :
    ∃ u, session.surroundings.LeadsTo r u ∧ endless u ∧ session.registry.HasName u := by
  induction hfounded with
  | intro r _ ih =>
    obtain ⟨inner, hlink, hinner⟩ := hcircles.goes_on r hr
    by_cases hname : session.registry.HasName inner
    · exact ⟨inner, .single hlink, hinner, hname⟩
    · obtain ⟨u, hpath, hu, hnamed⟩ := ih inner ⟨hlink, hname⟩ hinner
      exact ⟨u, .head hlink hpath, hu, hnamed⟩

end Endless

/-- The fault says that an endless reference was met, but that one leads to a reference that has a
declaration.  This declaration is not productive. -/
def LeavesUnproductive (session : Session) (r : Reference) (fault : Fault) : Prop :=
  ∃ t u model, session.surroundings.LeadsTo r t ∧
    fault = .malformedSchema t.canonical "reference cycle without a concrete type" ∧
    session.surroundings.LeadsTo t u ∧
    session.registry.models.get? u.canonical = some model ∧
    ¬ Productive session.registry.models model.declaration

namespace Idle

variable {s : Surroundings} {session failed : Session} {r : Reference} {fault : Fault}

/-- An endless reference that is remembered leads to a declaration that is not productive. -/
theorem exists_unproductive (h : session.Idle s) (hremembers : session.registry.Remembers r)
    (hendless : s.Endless r) :
    ∃ u model, s.LeadsTo r u ∧ session.registry.models.get? u.canonical = some model ∧
      ¬ Productive session.registry.models model.declaration := by
  obtain ⟨rfl, hquiet, hfounded⟩ := h
  obtain ⟨hollow, endless, hcircles, hr⟩ := hendless
  rcases hremembers with ⟨model, hmodel⟩ | ⟨type, htype⟩
  · exact ⟨r, model, .refl, hmodel,
      not_productive_of_hollow hfounded hquiet hcircles (hcircles.hollow r hr) hmodel⟩
  · obtain ⟨u, hpath, hu, name, hname⟩ := exists_named hcircles hr (hfounded.inlined r type htype)
    obtain ⟨model, hmodel, -⟩ := hfounded.kept.tidy.named.declared_of_mem hquiet hname
    exact ⟨u, model, hpath, hmodel,
      not_productive_of_hollow hfounded hquiet hcircles (hcircles.hollow u hu) hmodel⟩

/-- A reference that is remembered has no cause to fail, unless it leads to an endless one. -/
theorem leavesUnproductive (h : session.Idle s) (hremembers : session.registry.Remembers r)
    (hcause : s.Cause r fault) (hnaming : ∀ reason, fault ≠ .namingConflict reason)
    (hbound : fault ≠ .nestingExhausted) : session.LeavesUnproductive r fault := by
  obtain ⟨rfl, hquiet, hfounded⟩ := h
  cases hcause with
  | naming reason => exact absurd rfl (hnaming reason)
  | exhausted => exact absurd rfl hbound
  | unreadable leads unreadable =>
    exact absurd (hfounded.kept.coherent.leadsTo hquiet hremembers leads).2 unreadable
  | @endless t leads endless =>
    have hinner := (hfounded.kept.coherent.leadsTo hquiet hremembers leads).1
    obtain ⟨u, model, hpath, hmodel, hnot⟩ :=
      exists_unproductive ⟨rfl, hquiet, hfounded⟩ hinner endless
    exact ⟨t, u, model, leads, rfl, hpath, hmodel, hnot⟩

/-- A reference fails for some cause, and that is not the bound on nested references. -/
theorem cause (h : session.Idle s) {policy : Option NamingPolicy}
    (hfault : resolveReference r policy session = .error fault failed) :
    s.Cause r fault ∧ fault ≠ .nestingExhausted := by
  refine ⟨resolveWithin_cause h.surroundings h.founded.kept hfault, ?_⟩
  rintro rfl
  exact h.quiet.wellNested.bounded r policy failed hfault

end Idle

/-! ## Requests that fail -/

/-- A task whose schema was found fails because its reference does, in a session that comes
before. -/
theorem exists_failed {R : Session → Session → Prop} (rules : Request.Obeys R) {tasks : List Task}
    {session : Session} (hnamed : ∀ task ∈ tasks, ∃ policy, task.naming = .ok policy)
    {failure : Failure} (h : failure ∈ (session.generate tasks).1.failures) :
    ∃ policy between failed, R session between ∧
      resolveReference failure.location policy between = .error failure.fault failed := by
  obtain ⟨outcome, houtcome, hfailure⟩ := List.mem_filterMap.mp h
  obtain ⟨fault, hresult, rfl⟩ : ∃ fault, outcome.result = .error fault ∧
      (⟨outcome.location, fault⟩ : Failure) = failure := by
    unfold Outcome.failure? at hfailure
    split at hfailure
    · cases hfailure
    · rename_i fault hresult
      exact ⟨fault, hresult, Option.some.inj hfailure⟩
  clear h hfailure
  induction tasks generalizing session with
  | nil => exact absurd houtcome List.not_mem_nil
  | cons task rest ih =>
    obtain ⟨⟨policy, hpolicy⟩, hrest⟩ := List.forall_mem_cons.mp hnamed
    rcases List.mem_cons.mp houtcome with rfl | hlater
    · exact ⟨some policy, session, _, rules.refl session, task.perform_error hpolicy hresult⟩
    · obtain ⟨given, between, failed, hbetween, hfault⟩ := ih hrest hlater
      exact ⟨given, between, failed, rules.trans (rules.performTask task session) hbetween, hfault⟩

theorem componentTasks_named (session : Session) :
    ∀ task ∈ session.componentTasks, ∃ policy, task.naming = .ok policy := by
  intro task htask
  unfold componentTasks Task.components at htask
  simp only at htask
  split at htask
  · obtain ⟨entry, -, rfl⟩ := List.mem_map.mp htask
    exact ⟨.component, rfl⟩
  · exact absurd htask List.not_mem_nil

/-- Two sessions start fresh at the same root document, and requests are made of each; their stores
agree on all references that a reference leads to.  If resolving it fails in the first one, other
than for want of a name, then it never succeeds in the second one, whatever was requested there,
unless the fault was that an endless reference was met, and that one leads to a declaration which is
not productive.  Nor is there ever a declaration of a component that was reported to have failed,
with the same exception. -/
theorem failures_persist_or_leave_unproductive {store other : Store} {root : String}
    {config : Config} {start again : Session} (hstart : Session.start store root config = .ok start)
    (hagain : Session.start other root config = .ok again) (before : List Request) :
    let session := (Request.performAll before start).2
    (∀ (r : Reference) (policy : Option NamingPolicy) (fault : Fault) (failed : Session),
      (∀ t, start.surroundings.LeadsTo r t → again.store.resolve t = start.store.resolve t) →
      resolveReference r policy session = .error fault failed →
      (∀ reason, fault ≠ .namingConflict reason) →
      ∀ (requests : List Request) (policy : Option NamingPolicy) (answer : TypeExpr)
        (final : Session),
        resolveReference r policy (Request.performAll requests again).2 = .ok answer final →
          final.LeavesUnproductive r fault) ∧
    ∀ more : List Task,
      let final := (session.generate (session.componentTasks ++ more)).2
      ∀ failure ∈ session.generateComponents.1.failures,
        (∀ reason, failure.fault ≠ .namingConflict reason) →
        (∃ model, final.registry.models.get? failure.location.canonical = some model) →
          final.LeavesUnproductive failure.location failure.fault := by
  intro session
  have hsession : session.Idle start.surroundings :=
    (obeys_idle _).performAll before start (.of_start hstart)
  refine ⟨fun r policy fault failed hsame hfault hnaming requests policy answer final
    hresolve => ?_, fun more => ?_⟩
  · obtain ⟨hcause, hbound⟩ := hsession.cause hfault
    have hfinal : final.Idle again.surroundings :=
      ((obeys_idle _).performAll requests again (.of_start hagain)).resolved hresolve
    have hremembers := hfinal.quiet.remembers (resolveWithin_found hresolve).answered
    exact hfinal.leavesUnproductive hremembers (hcause.transfer hsame) hnaming hbound
  · intro final failure hfailure hnaming ⟨model, hmodel⟩
    obtain ⟨policy, between, failed, hbetween, hfault⟩ :=
      exists_failed (obeys_idle start.surroundings) session.componentTasks_named hfailure
    obtain ⟨hcause, hbound⟩ := (hbetween hsession).cause hfault
    have hfinal : final.Idle start.surroundings :=
      (obeys_idle _).performTasks (session.componentTasks ++ more) session hsession
    exact hfinal.leavesUnproductive (Or.inl ⟨model, hmodel⟩) hcause hnaming hbound

/-! ## Two references that name each other -/

/-- In a fresh session the one that also names itself is refused, for what comes back to it is
nothing but the name that was fixed for it. -/
theorem resolve_cross : ∃ failed, resolveReference (sampleReference "X") none cross =
    .error (.malformedSchema (sampleReference "X").canonical
      "reference cycle without a concrete type") failed := by
  refine Run.error_of_fault? ?_
  decide +kernel

/-- A reference that fails at first need not fail for ever: once the other one has been resolved,
this one has a declaration. -/
theorem failures_need_not_persist :
    ¬ ∀ (store : Store) (root : String) (config : Config) (start : Session),
      Session.start store root config = .ok start →
        ∀ (r : Reference) (fault : Fault) (failed : Session),
          resolveReference r none start = .error fault failed →
          (∀ reason, fault ≠ .namingConflict reason) →
          ∀ requests : List Request, ∃ fault failed,
            resolveReference r none (Request.performAll requests start).2 =
              .error fault failed := by
  intro h
  obtain ⟨failed, hfails⟩ := resolve_cross
  have hgiven : ((resolveReference (sampleReference "X") none).given
      (Request.performAll [.resolve (sampleReference "Y") none] cross).2).isEmpty = false := by
    decide +kernel
  obtain ⟨answer, final, hsucceeds⟩ := Run.ok_of_given_isEmpty hgiven
  obtain ⟨fault, other, hagain⟩ := h _ _ _ _ start_cross _ _ failed hfails
    (fun _ hnaming => by cases hnaming) [.resolve (sampleReference "Y") none]
  cases hsucceeds.symm.trans hagain

/-- The two schemas in the other order. -/
def swappedStore : Store :=
  ⟨[("api.json", .object [("components", .object [("schemas", .object
    [("Y", .object [("oneOf", .array [sampleLink "X"])]),
      ("X", .object [("oneOf", .array [sampleLink "Y", sampleLink "X"])])])])])]⟩

/-- A fresh session at these. -/
def swapped : Session := ⟨"api.json", swappedStore, .standard, "api.json", Registry.empty⟩

theorem start_swapped : start swappedStore "api.json" .standard = .ok swapped :=
  start_of_canonical (by decide +kernel) rfl

/-- The two lead to no others, and have the same targets in either order. -/
theorem resolve_swapped {t : Reference} (h : cross.surroundings.LeadsTo (sampleReference "X") t) :
    swapped.store.resolve t = cross.store.resolve t := by
  have hlinks : ∀ r ∈ ["X", "Y"].map sampleReference, ∀ inner ∈ cross.surroundings.links r,
      inner ∈ ["X", "Y"].map sampleReference := by
    decide +kernel
  have hmem : t ∈ ["X", "Y"].map sampleReference := by
    induction h with
    | refl => exact List.mem_cons_self
    | tail _ hlink ih => exact hlinks _ ih _ hlink
  have hcases : t = sampleReference "X" ∨ t = sampleReference "Y" := by simpa using hmem
  rcases hcases with rfl | rfl <;> rfl

/-- The one that was refused succeeds when the components are generated in the other order; and
where all is generated in the first order, it is reported to have failed and declared nonetheless.
In both sessions it leaves an unproductive declaration. -/
theorem failures_persist_or_leave_unproductive_cross :
    (∃ fault failed answer final,
      resolveReference (sampleReference "X") none cross = .error fault failed ∧
      resolveReference (sampleReference "X") none (Request.performAll [.components] swapped).2 =
        .ok answer final ∧
      final.LeavesUnproductive (sampleReference "X") fault) ∧
    ∃ failure ∈ cross.generateComponents.1.failures, failure.location = sampleReference "X" ∧
      cross.generateAll.2.LeavesUnproductive failure.location failure.fault := by
  have hboth := failures_persist_or_leave_unproductive start_cross start_swapped []
  dsimp only [Request.performAll] at hboth
  obtain ⟨hpersist, hreported⟩ := hboth
  have hall : cross.generateAll = cross.generate (cross.componentTasks ++ cross.operationTasks) :=
    rfl
  constructor
  · obtain ⟨failed, hfails⟩ := resolve_cross
    have hgiven : ((resolveReference (sampleReference "X") none).given
        (Request.performAll [.components] swapped).2).isEmpty = false := by
      decide +kernel
    obtain ⟨answer, final, hsucceeds⟩ := Run.ok_of_given_isEmpty hgiven
    exact ⟨_, failed, answer, final, hfails, hsucceeds,
      hpersist _ none _ failed (fun t => resolve_swapped) hfails
        (fun _ hnaming => by cases hnaming) [.components] none answer final hsucceeds⟩
  · have hfailures : cross.generateComponents.1.failures.map (fun f => (f.location, f.fault)) =
        [(sampleReference "X", .malformedSchema (sampleReference "X").canonical
          "reference cycle without a concrete type")] := by
      decide +kernel
    have hdeclared : (cross.generateAll.2.registry.models.get?
        (sampleReference "X").canonical).isSome = true := by
      decide +kernel
    obtain ⟨⟨location, fault⟩, hfailure, hpair⟩ :=
      List.mem_map.mp (hfailures ▸ List.mem_singleton_self _)
    simp only [Prod.mk.injEq] at hpair
    obtain ⟨rfl, rfl⟩ := hpair
    rw [hall] at hdeclared ⊢
    exact ⟨_, hfailure, rfl, hreported cross.operationTasks _ hfailure
      (fun _ hnaming => by cases hnaming) (Option.isSome_iff_exists.mp hdeclared)⟩

end Session

end SchemaTypes
