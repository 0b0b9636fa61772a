import SchemaTypes.Proofs.Resolve.Nesting
import SchemaTypes.Proofs.Schema.Hollow

set_option autoImplicit false

/-!
# Why references fail

If resolving a reference fails, the cause lies in the store, in a target that the reference leads
to: it cannot be read, or it is endless, that is, it says nothing but `null` and other such targets,
and these can be followed forever.  Names and the bound on nested references apart there is no other
cause, and in particular none that depends on what was resolved before.
-/

namespace SchemaTypes

/-! ## Endless references -/

namespace Surroundings

/-- References whose targets say nothing but `null` and other such references, and among them some
that lead on to others of these. -/
structure Circles (s : Surroundings) (hollow endless : Reference → Prop) : Prop where
  reads : ∀ r, hollow r → ∃ node, s.store.resolve r = .ok node ∧
    (Schema.ofJson r node).OnlyAsks fun q => ∃ inner ∈ q.references r.document, hollow inner
  hollow : ∀ r, endless r → hollow r
  goes_on : ∀ r, endless r → ∃ inner ∈ s.links r, endless inner

/-- The target of a reference says nothing but `null` and references, and these can be followed
forever and never say more. -/
def Endless (s : Surroundings) (r : Reference) : Prop :=
  ∃ hollow endless, s.Circles hollow endless ∧ endless r

/-- Why resolving a reference fails with a fault. -/
inductive Cause (s : Surroundings) (r : Reference) : Fault → Prop
  /-- No variant of a name was free. -/
  | naming (reason : String) : Cause s r (.namingConflict reason)
  | exhausted : Cause s r .nestingExhausted
  | unreadable {t : Reference} {fault : Fault} (leads : s.LeadsTo r t)
      (unreadable : ¬ s.Readable t) : Cause s r fault
  | endless {t : Reference} (leads : s.LeadsTo r t) (endless : s.Endless t) :
      Cause s r (.malformedSchema t.canonical "reference cycle without a concrete type")

/-- What a reference fails for, one in the target of which it is written fails for. -/
theorem Cause.outer {s : Surroundings} {r inner : Reference} {fault : Fault}
    (h : s.Cause inner fault) (hlink : inner ∈ s.links r) : s.Cause r fault := by
  cases h with
  | naming reason => exact .naming reason
  | exhausted => exact .exhausted
  | unreadable leads unreadable => exact .unreadable (.head hlink leads) unreadable
  | endless leads endless => exact .endless (.head hlink leads) endless

section Hollow

variable {s : Surroundings} {registry : Registry} {r : Reference} {type : TypeExpr}
  {names : List ModelName}

/-- Only references have answers that lead to nothing but names. -/
theorem exists_reference_of_leadsOnly {document : String} {q : Schema.Question}
    {answer : TypeExpr} (hanswer : s.answer registry.recalled document q = .ok answer)
    (hleads : answer.leadsOnly names = true) :
    ∃ inner ∈ q.references document, registry.answer? inner.canonical = some answer := by
  cases q with
  | malformed location reason => cases hanswer
  | reference target =>
    obtain ⟨inner, hparse, hrecalled⟩ := Schema.bind_eq_ok hanswer
    refine ⟨inner, ?_, Registry.recalled_eq_ok.mp hrecalled⟩
    simp only [Schema.Question.references, hparse, List.mem_singleton]
  | text format =>
    cases hanswer
    unfold Surroundings.textType at hleads
    split at hleads
    · cases hleads
    · split at hleads <;> cases hleads

/-- A target whose type leads to nothing but names asks for nothing else. -/
theorem onlyAsks_of_targetType (h : s.targetType registry.recalled r = .ok type)
    (hleads : type.leadsOnly names = true) : ∃ node, s.store.resolve r = .ok node ∧
      (Schema.ofJson r node).OnlyAsks fun q => ∃ inner ∈ q.references r.document,
        ∃ answer, registry.answer? inner.canonical = some answer ∧
          answer.leadsOnly names = true := by
  obtain ⟨node, hnode, htype⟩ := Schema.bind_eq_ok h
  have honly := Schema.onlyAsks_of_leadsOnly _ (Schema.ofJson_plain r node) htype hleads
  refine ⟨node, hnode, honly.mono fun q _ ⟨answer, hanswer, honlyNames⟩ => ?_⟩
  obtain ⟨inner, hinner, hrecalled⟩ := exists_reference_of_leadsOnly hanswer honlyNames
  exact ⟨inner, hinner, answer, hrecalled, honlyNames⟩

/-- If such a target mentions a name, the answer for a reference in it does. -/
theorem exists_link_of_targetType (h : s.targetType registry.recalled r = .ok type)
    (hleads : type.leadsOnly names = true) {n : ModelName} (hn : n ∈ type.identifiers) :
    ∃ inner ∈ s.links r, ∃ answer, registry.answer? inner.canonical = some answer ∧
      answer.leadsOnly names = true ∧ n ∈ answer.identifiers := by
  obtain ⟨node, hnode, htype⟩ := Schema.bind_eq_ok h
  have honly := Schema.onlyAsks_of_leadsOnly _ (Schema.ofJson_plain r node) htype hleads
  obtain ⟨q, hq, ⟨known, hknown, honlyNames⟩, answer, hanswer, hmention⟩ :=
    honly.exists_mention htype hn
  obtain rfl : known = answer := Except.ok.inj (hknown.symm.trans hanswer)
  obtain ⟨inner, hinner, hrecalled⟩ := exists_reference_of_leadsOnly hanswer honlyNames
  exact ⟨inner, mem_links.mpr ⟨node, hnode, q, hq, hinner⟩, known, hrecalled, honlyNames, hmention⟩

end Hollow

end Surroundings

namespace TypeExpr

/-- A type that is refused for a name leads to nothing else. -/
theorem leadsOnly_of_isUnproductive {name : ModelName} {type : TypeExpr}
    (h : Session.isUnproductive name.identifier type = true) : type.leadsOnly [name] = true := by
  have hown : ∀ t : TypeExpr, t.same name.identifier = true → t.leadsOnly [name] = true := by
    intro t hsame
    rw [leadsOnly_eq_of_same [name] t _ hsame]
    exact List.contains_iff_mem.mpr (List.mem_singleton_self name)
  have hmembers : ∀ members : List TypeExpr,
      (members.all fun m => m.same name.identifier || m.same .null) = true →
        leadOnly [name] members = true := by
    intro members hall
    refine leadOnly_iff.mpr fun m hm => ?_
    rcases Bool.or_eq_true _ _ ▸ List.all_eq_true.mp hall m hm with hsame | hnull
    · exact hown m hsame
    · rw [leadsOnly_eq_of_same [name] m _ hnull]
      rfl
  unfold Session.isUnproductive at h
  split at h
  · exact hmembers _ h
  · exact hmembers _ h
  · exact hown _ h

end TypeExpr

namespace Session

/-! ## Refused targets -/

section Refused

variable {session : Session} {r : Reference} {policy : NamingPolicy} {name : ModelName}
  {type : TypeExpr}

/-- An answer that leads only to the name of an open reference is that name itself, and of that
reference, or else an inlined type.  Either way the target has a type that leads only to the name as
well, and mentions it if the answer does. -/
theorem Kept.exists_targetType (h : session.Kept)
    (hopen : session.registry.pending.get? r.canonical = some ⟨policy, some name⟩)
    (htype : session.surroundings.targetType session.registry.recalled r = .ok type)
    (hleads : type.leadsOnly [name] = true) (hmention : name ∈ type.identifiers)
    {other : Reference} {answer : TypeExpr}
    (hanswer : session.registry.answer? other.canonical = some answer)
    (honly : answer.leadsOnly [name] = true) :
    ∃ body, session.surroundings.targetType session.registry.recalled other = .ok body ∧
      body.leadsOnly [name] = true ∧ (name ∈ answer.identifiers → name ∈ body.identifiers) := by
  rcases h.tidy.named.answer_eq hanswer with ⟨own, rfl, hown⟩ | hfound
  · obtain rfl : own = name := List.mem_singleton.mp (List.contains_iff_mem.mp honly)
    have hname := h.tidy.named.mem_names_of_reserved hopen rfl
    obtain rfl := Reference.eq_of_canonical_eq (h.tidy.named.key_eq hown hname)
    exact ⟨type, htype, hleads, fun _ => hmention⟩
  · exact ⟨answer, (h.coherent.inlined other answer hfound).targetType, honly, id⟩

/-- If the target of an open reference comes to nothing but the name that was fixed for it, the
reference is endless: so does every target that has been read on the way back to it. -/
theorem Kept.endless (h : session.Kept)
    (hopen : session.registry.pending.get? r.canonical = some ⟨policy, some name⟩)
    (hmodels : session.registry.models.get? r.canonical = none)
    (hinlined : session.registry.inlined.get? r.canonical = none)
    (htype : session.surroundings.targetType session.registry.recalled r = .ok type)
    (hleads : type.leadsOnly [name] = true) (hmention : name ∈ type.identifiers) :
    session.surroundings.Endless r := by
  have hself : session.registry.answer? r.canonical = some name.identifier := by
    rw [Registry.answer?_of_pending hmodels hinlined, hopen]
    rfl
  -- Hollow are all references whose answers lead only to the name; those of the endless ones
  -- mention it, so that one of the references in their targets is endless again.
  refine ⟨fun s => ∃ answer, session.registry.answer? s.canonical = some answer ∧
      answer.leadsOnly [name] = true,
    fun s => ∃ answer, session.registry.answer? s.canonical = some answer ∧
      answer.leadsOnly [name] = true ∧ name ∈ answer.identifiers, ⟨?_, ?_, ?_⟩, ?_⟩
  · rintro s ⟨answer, hanswer, honly⟩
    obtain ⟨body, hbody, hbodyLeads, -⟩ :=
      h.exists_targetType hopen htype hleads hmention hanswer honly
    exact Surroundings.onlyAsks_of_targetType hbody hbodyLeads
  · rintro s ⟨answer, hanswer, honly, -⟩
    exact ⟨answer, hanswer, honly⟩
  · rintro s ⟨answer, hanswer, honly, hin⟩
    obtain ⟨body, hbody, hbodyLeads, hbodyMention⟩ :=
      h.exists_targetType hopen htype hleads hmention hanswer honly
    exact Surroundings.exists_link_of_targetType hbody hbodyLeads (hbodyMention hin)
  · exact ⟨name.identifier, hself, List.contains_iff_mem.mpr (List.mem_singleton_self name),
      List.mem_singleton_self name⟩

/-- A type that leads only to the name of an open reference mentions it if it is met there. -/
theorem Kept.mem_of_reaches (h : session.Kept)
    (hopen : session.registry.pending.get? r.canonical = some ⟨policy, some name⟩)
    (hmodels : session.registry.models.get? r.canonical = none)
    (hleads : type.leadsOnly [name] = true) (hmeets : Reaches session.registry.models type name) :
    name ∈ type.identifiers := by
  cases hmeets with
  | mention mentioned => exact mentioned
  | @follow _ entry _ declared mentioned reaches =>
    have hown : entry.2.modelName = name :=
      List.mem_singleton.mp (TypeExpr.mem_of_leadsOnly type hleads _ mentioned)
    have hdeclared : session.registry.models.get? entry.1 = some entry.2 :=
      OrderedMap.get?_of_mem h.tidy.named.models_nodup declared
    have hkey : entry.1 = r.canonical := h.tidy.named.key_eq
      (hown ▸ h.tidy.named.mem_names_of_declared hdeclared)
      (h.tidy.named.mem_names_of_reserved hopen rfl)
    rw [hkey, hmodels] at hdeclared
    cases hdeclared

end Refused

/-! ## Elaborations -/

/-- From kept sessions in given surroundings and a document, a step leads to kept sessions, or it
fails for some reason. -/
def FailsFor (s : Surroundings) (document : String) (reason : Fault → Prop) (α : Type)
    (step : Run α) : Prop :=
  ∀ session, session.surroundings = s → session.current = document → session.Kept →
    (∀ value final, step session = .ok value final → session.Grows final ∧ final.Kept) ∧
      ∀ fault final, step session = .error fault final → reason fault

section FailsFor

variable {s : Surroundings} {resolve : Reference → Run TypeExpr} {r : Reference}

theorem relates_failsFor (document : String) (reason : Fault → Prop) :
    Schema.Relates fun α (_ step : Run α) => FailsFor s document reason α step where
  pure value session _ _ hkept := by
    refine ⟨fun other final h => ?_, fun fault final h => by cases h⟩
    obtain ⟨-, rfl⟩ := Run.pure_ok h
    exact ⟨.refl _, hkept⟩
  bind := by
    intro α β x y f g hfirst hsecond session hs hcurrent hkept
    obtain ⟨hok, herror⟩ := hfirst session hs hcurrent hkept
    have hnext : ∀ value middle, y session = .ok value middle → session.Grows middle ∧
        (∀ result final, g value middle = .ok result final →
          middle.Grows final ∧ final.Kept) ∧
        ∀ fault final, g value middle = .error fault final → reason fault := by
      intro value middle hy
      obtain ⟨hgrows, hmiddle⟩ := hok value middle hy
      have hdocument : middle.current = document := by
        rw [hgrows.same]
        exact hcurrent
      exact ⟨hgrows,
        hsecond value middle (hgrows.surroundings_eq.trans hs) hdocument hmiddle⟩
    refine ⟨fun result final h => ?_, fun fault final h => ?_⟩
    · obtain ⟨value, middle, hy, hg⟩ := Run.bind_ok h
      obtain ⟨hgrows, hlater, -⟩ := hnext value middle hy
      obtain ⟨hafter, hfinal⟩ := hlater result final hg
      exact ⟨hgrows.trans hafter, hfinal⟩
    · rcases Run.bind_error h with hy | ⟨value, middle, hy, hg⟩
      · exact herror fault final hy
      · exact (hnext value middle hy).2.2 fault final hg

theorem failsFor_elaborate {document : String} {reason : Fault → Prop} {schema : Schema}
    (h : ∀ q ∈ schema.questions, FailsFor s document reason TypeExpr (q.answer resolve)) :
    FailsFor s document reason TypeExpr (schema.elaborate resolve) := by
  rw [Schema.elaborate_eq_typeBy]
  exact @Schema.Relates.typeBy _ _ _ _ _ (relates_failsFor document reason)
    (Schema.Question.answer resolve) _ schema h

/-- A question that a target asks fails because the target cannot be read, or because a reference in
it cannot be resolved. -/
theorem failsFor_answer (hnested : Nested resolve)
    (hcause : ∀ inner session fault final, session.surroundings = s → session.Kept →
      resolve inner session = .error fault final → s.Cause inner fault)
    {node : Json} (hnode : s.store.resolve r = .ok node) {q : Schema.Question}
    (hq : q ∈ (Schema.ofJson r node).questions) :
    FailsFor s r.document (s.Cause r) TypeExpr (q.answer resolve) := by
  have hunreadable : ¬ q.Answerable r.document → ¬ s.Readable r := by
    rintro hnot ⟨found, hfound, hall⟩
    obtain rfl : found = node := Except.ok.inj (hfound.symm.trans hnode)
    exact hnot (hall q hq)
  intro session hs hcurrent hkept
  cases q with
  | malformed location reason =>
    exact ⟨fun _ _ h => (by cases h), fun _ _ _ => .unreadable .refl (hunreadable id)⟩
  | text format =>
    refine ⟨fun type final h => ?_, fun fault final h => absurd h (textType_ne_error format _ _ _)⟩
    change Schema.textType format session = .ok type final at h
    have hgrows := textType_obeys format session
    rw [Run.after_of_ok h] at hgrows
    refine ⟨hgrows, ?_⟩
    rcases Schema.textType_ok h with ⟨-, rfl⟩ | ⟨display, backing, path, -, rfl⟩
    · exact hkept
    · exact hkept.recordHelper path backing
  | reference target =>
    refine ⟨fun answer final h => ?_, fun fault final h => ?_⟩
    · obtain ⟨inner, middle, hread, hresolve⟩ := Run.bind_ok h
      obtain ⟨-, rfl⟩ := Schema.readReference_ok hread
      have hgrows := hnested.grows inner middle
      rw [Run.after_of_ok hresolve] at hgrows
      exact ⟨hgrows, hnested.kept inner middle answer final hresolve hkept⟩
    · rcases Run.bind_error h with hread | ⟨inner, middle, hread, hresolve⟩
      · have hparse : Reference.parse target r.document = .error fault := by
          rw [← hcurrent]
          exact Schema.readReference_error hread
        refine .unreadable .refl (hunreadable fun ⟨inner, hinner⟩ => ?_)
        cases hparse.symm.trans hinner
      · obtain ⟨hparse, rfl⟩ := Schema.readReference_ok hread
        have hparse : Reference.parse target r.document = .ok inner := hcurrent ▸ hparse
        refine (hcause inner middle fault final hs hkept hresolve).outer ?_
        refine Surroundings.mem_links.mpr ⟨node, hnode, _, hq, ?_⟩
        simp only [Schema.Question.references, hparse, List.mem_singleton]

end FailsFor

/-! ## Resolutions -/

section Resolving

variable {s : Surroundings} {resolve : Reference → Run TypeExpr} {session final : Session}
  {r : Reference} {fault : Fault}

/-- A target that is not read has a cause to fail, if the references in it have. -/
theorem readTarget_cause (hnested : Nested resolve)
    (hcause : ∀ inner session fault final, session.surroundings = s → session.Kept →
      resolve inner session = .error fault final → s.Cause inner fault)
    (hs : session.surroundings = s) (hkept : session.Kept)
    (h : readTarget resolve r session = .error fault final) : s.Cause r fault := by
  subst hs
  unfold readTarget at h
  cases hnode : session.store.resolve r with
  | error missing =>
    refine .unreadable .refl ?_
    rintro ⟨node, hfound, -⟩
    cases hnode.symm.trans hfound
  | ok node =>
    have hfails := failsFor_elaborate fun q hq => failsFor_answer hnested hcause hnode hq
    simp only [hnode, Run.inDocument] at h
    split at h
    · cases h
    · rename_i helaborated
      cases h
      exact (hfails { session with current := r.document } rfl rfl (hkept.moved r.document)).2 _ _
        helaborated

/-- A new reference whose target has been read and is refused is endless. -/
theorem Kept.endless_of_refused (hkept : session.Kept) (hnested : Nested resolve)
    (hnew : session.registry.New r.canonical) {chosen given : NamingPolicy} {name : ModelName}
    {type : TypeExpr} {middle : Session}
    (hread : readTarget resolve r
      { session with registry := session.registry.begin r.canonical chosen } = .ok type middle)
    (hopen : middle.registry.pending.get? r.canonical = some ⟨given, some name⟩)
    (hrefused : isUnproductive name.identifier type = true) : session.surroundings.Endless r := by
  obtain ⟨node, read, hnode, helaborated, hgrows, rfl⟩ := readTarget_ok hnested.grows hread
  obtain ⟨hmodels, hinlined, -⟩ := open_of_grows hnew hgrows
  have hplain := Schema.ofJson_plain r node
  have hreadKept := ((carries_kept hnested hnested.kept).elaborate hplain helaborated
    (hkept.begin hnew r.document chosen)).1
  have hreads := hnested.rereads hnode helaborated
  have hleads := TypeExpr.leadsOnly_of_isUnproductive hrefused
  have hmeets := (elaborate_meets hnested.meets hplain helaborated).met r.canonical name
    ⟨⟨chosen, Registry.get?_pending_begin hnew chosen⟩, _, hopen, rfl⟩
  have hmention := hreadKept.mem_of_reaches hopen hmodels hleads hmeets
  exact hreadKept.endless hopen hmodels hinlined hreads.targetType hleads hmention

/-- A new reference that fails has a cause to, if the references in its target have. -/
theorem resolveTarget_cause (hnested : Nested resolve)
    (hcause : ∀ inner session fault final, session.surroundings = s → session.Kept →
      resolve inner session = .error fault final → s.Cause inner fault)
    (hs : session.surroundings = s) (hkept : session.Kept)
    (hnew : session.registry.New r.canonical) {policy : Option NamingPolicy}
    (h : resolveTarget resolve policy r session = .error fault final) : s.Cause r fault := by
  obtain ⟨after, rfl, hfails⟩ := resolveTarget_fails h
  generalize policy.getD (session.defaultPolicy r) = chosen at hfails
  rcases hfails with hread | ⟨type, middle, hread, hclose⟩
  · have hbegun := hkept.begin hnew session.current chosen
    exact readTarget_cause hnested hcause (by exact hs) hbegun hread
  rcases materialize_error hclose with ⟨reason, rfl⟩ | ⟨given, name, hopen, hrefused, rfl⟩
  · exact .naming reason
  · rw [← hs]
    exact .endless .refl (hkept.endless_of_refused hnested hnew hread hopen hrefused)

/-- Whenever resolving a reference fails, there is a cause. -/
theorem resolveWithin_cause {bound : Nat} {policy : Option NamingPolicy}
    (hs : session.surroundings = s) (hkept : session.Kept)
    (h : resolveWithin bound policy r session = .error fault final) : s.Cause r fault := by
  induction bound generalizing policy r session fault final with
  | zero =>
    rcases Run.bind_error h with hknown | ⟨known, middle, -, hthrow⟩
    · obtain ⟨reason, rfl⟩ := known_error hknown
      exact .naming reason
    · cases known with
      | some type => cases hthrow
      | none =>
        cases hthrow
        exact .exhausted
  | succ bound ih =>
    rcases Run.bind_error h with hknown | ⟨known, middle, hknown, hstep⟩
    · obtain ⟨reason, rfl⟩ := known_error hknown
      exact .naming reason
    · cases known with
      | some type => cases hstep
      | none =>
        have hnew := new_of_known hknown
        have hnested : Nested (resolveWithin bound none) :=
          ⟨resolveWithin_obeys bound none, fun h => ⟨bound, h⟩⟩
        rw [resolveWithin_of_new hnew] at h
        exact resolveTarget_cause hnested
          (fun inner session fault final hs hkept h => ih hs hkept h) hs hkept hnew h

end Resolving

end Session

end SchemaTypes
